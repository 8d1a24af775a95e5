/-
  The kinds of operation that complete later.

  A media server answers most requests at once.  Four kinds it only starts, and reports on their end
  later: the negotiation of the session, and three activities of the media group (playing, collecting
  digits, recording).  At most one activity runs at a time.
-/

namespace CallMedia

/-- What a media group can be doing. -/
inductive Activity where
  | playback
  | digitCollection
  | recording
deriving DecidableEq, Repr, Inhabited

/-- The kinds of operation that complete later. -/
inductive Category where
  | negotiation
  | group (activity : Activity)
deriving DecidableEq, Repr, Inhabited

/-- The negotiation is not an activity. -/
theorem Category.group_ne_negotiation (a : Activity) : Category.group a ≠ .negotiation := by
  intro h
  cases h

/-- The name of an activity in reports. -/
def Activity.name : Activity → String
  | playback => "playback"
  | digitCollection => "digit collection"
  | recording => "recording"

/-- The name of an activity in traces. -/
def Activity.label : Activity → String
  | playback => "Playback"
  | digitCollection => "DigitCollection"
  | recording => "Recording"

/-- The name of a category in reports. -/
def Category.name : Category → String
  | negotiation => "negotiation"
  | group activity => activity.name

/-- The name of a category in traces. -/
def Category.label : Category → String
  | negotiation => "Negotiation"
  | group activity => activity.label

/-- The group operation in flight: what the group does, and the generation its sink was armed with. -/
structure Active where
  activity : Activity
  generation : Nat
deriving DecidableEq, Repr

/-- The present participle that a trace uses for an activity. -/
def Activity.participle : Activity → String
  | playback => "Playing"
  | digitCollection => "Collecting"
  | recording => "Recording"

/-- An operation in flight, as a trace shows it. -/
def Active.describe (a : Active) : String :=
  s!"{a.activity.participle} \x7b generation: {a.generation} \x7d"

end CallMedia
