/-
  The life of a media session.

  A session is opened once, becomes active when its descriptions are agreed, may be renegotiated any
  number of times, and ends closed or failed.  `legalTransitions` is the whole table; nothing leaves
  `inactive` or `failed` (`not_mem_of_ended`).
-/

namespace CallMedia

/-- The stages of a media session. -/
inductive Phase where
  | uninitialized
  | opening
  | active
  | updating
  | inactive
  | failed
deriving DecidableEq, Repr, Inhabited

namespace Phase

/-- The name used in reports. -/
def name : Phase → String
  | uninitialized => "uninitialized"
  | opening => "opening media session"
  | active => "active"
  | updating => "updating media session"
  | inactive => "inactive"
  | failed => "failed"

/-- The name used in traces of state changes. -/
def label : Phase → String
  | uninitialized => "Uninitialized"
  | opening => "OpeningMediaSession"
  | active => "Active"
  | updating => "UpdatingMediaSession"
  | inactive => "Inactive"
  | failed => "Failed"

/-- Every phase, in the order of a session's life. -/
def all : List Phase := [uninitialized, opening, active, updating, inactive, failed]

/-- The phase that a report names. -/
def ofName? (name : String) : Option Phase := all.find? (fun p => p.name == name)

/-- The legal changes.  `uninitialized` to `active` covers a session whose negotiation completes
    before its opening is recorded. -/
def legalTransitions : List (Phase × Phase) :=
  [(uninitialized, opening),
   (uninitialized, active),
   (opening, failed),
   (opening, active),
   (opening, inactive),
   (active, updating),
   (active, inactive),
   (updating, active),
   (updating, inactive),
   (updating, failed)]

/-- Nothing leaves a closed or a failed session. -/
theorem not_mem_of_ended (p q : Phase) (h : p = inactive ∨ p = failed) :
    (p, q) ∉ legalTransitions := by
  rcases h with rfl | rfl <;> cases q <;> decide

end Phase

end CallMedia
