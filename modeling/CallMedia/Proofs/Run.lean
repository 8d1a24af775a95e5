/-
  Runs of a controller.

  A `Run` is any order in which the following may happen, from a new controller on:

    * the controller handles an item, which may be any message from anybody, or any completion that is
      queued; what was completed meanwhile is queued (`turn`);
    * the media server completes a sink that it holds (`complete`), or lets go of one (`drop`);
    * anything around the leg changes: the media server and the stores, the callers, the mailboxes, the
      files, the clock (`meanwhile`).

  A sink is used up by completing it, and a completion by handling it, so nothing is completed twice; but
  completions may be handled in any order, and after any number of messages.  The site is arbitrary, and
  so is what is outside, so that the media server may answer in any way it likes.

  Every item that was handled is a `Turn`, with the controller as it was before.  A run is a list of
  turns; what holds of phase and leg through all turns is shown by one step (`Run.invariant`).
-/
import CallMedia.Proofs.Handling

namespace CallMedia

/-- An item, and the controller that handles it. -/
structure Turn (σ : Type) where
  before : Controller σ
  item : Item

namespace Turn

variable {σ : Type} (site : Site σ) (t : Turn σ)

/-- The controller after the item. -/
def after : Controller σ := t.before.handle site t.item

/-- What was done meanwhile, in order. -/
def effects : List Effect := (t.after site).desk.trace.drop t.before.desk.trace.length

/-- What was done meanwhile, without the journal. -/
def shown : List Effect := (t.effects site).filter Effect.visible

variable {t site} in
/-- What was done is what the trace has more. -/
theorem effects_eq {es : List Effect} (h : (t.after site).desk.trace = t.before.desk.trace ++ es) :
    t.effects site = es := by
  unfold effects
  rw [h, List.drop_left]

/-- What is shown of a turn is what can be seen of it. -/
theorem mem_shown {e : Effect} : e ∈ t.shown site ↔ e ∈ t.effects site ∧ e.visible = true :=
  List.mem_filter

/-- What does not look at the journal is the same with and without it. -/
theorem filterMap_effects {α : Type} (f : Effect → Option α) (hf : ∀ line, f (.logged line) = none) :
    (t.effects site).filterMap f = (t.shown site).filterMap f :=
  (Effect.filterMap_visible hf _).symm

/-- Lines of the journal apart, a turn shows all that it does. -/
theorem filter_effects {f : Effect → Bool} (hf : ∀ line, f (.logged line) = false) :
    (t.effects site).filter f = (t.shown site).filter f := by
  have hvisible : f = fun e => f e && e.visible := by
    funext e
    cases e with
    | logged line => rw [hf]; rfl
    | _ => exact (Bool.and_true _).symm
  unfold shown
  rw [List.filter_filter, ← hvisible]

/-- All notices of a turn are shown. -/
theorem noticesOf_effects : noticesOf (t.effects site) = noticesOf (t.shown site) :=
  t.filterMap_effects site _ fun _ => rfl

variable {t}

/-- What was done in a turn, as the relation has it. -/
theorem turned (h : Sound t.before.phase t.before.desk.leg) :
    Turned site t.before.desk.surroundings t.before.phase t.before.desk.leg t.item
      (t.after site).phase (t.after site).desk.leg (t.shown site) ∧
    t.before.desk.Goes (t.shown site) (t.after site).desk ∧
    ∀ l, .logged l ∈ t.effects site → l.Ordinary := by
  obtain ⟨shown, hturned, hgo⟩ := Controller.handle_turns site h t.item
  obtain ⟨done, htrace, hshown, hline⟩ := hgo.trace
  have hdone : t.effects site = done := effects_eq htrace
  have hshown' : t.shown site = shown := by
    show (t.effects site).filter Effect.visible = shown
    rw [hdone, hshown]
  rw [hshown', hdone]
  exact ⟨hturned, hgo, hline⟩

end Turn

/-- The completions that still wait once an item is taken. -/
def Item.leaves : Item → List Completion → List Completion
  | .completion e, queued => queued.erase e
  | _, queued => queued

/-- A run of a controller: the turns so far, the controller, and the completions that wait. -/
inductive Run {σ : Type} (site : Site σ) :
    List (Turn σ) → Controller σ → List Completion → Prop
  | start (d : Desk σ) (hleg : d.leg = {}) (hsinks : d.sinks = []) (hposted : d.posted = []) :
      Run site [] ⟨.uninitialized, d⟩ []
  | turn (ts : List (Turn σ)) (c : Controller σ) (queued : List Completion) (item : Item)
      (h : Run site ts c queued) (hitem : ∀ e, item = .completion e → e ∈ queued) :
      Run site (ts ++ [⟨c, item⟩])
        ((c.handle site item).atDesk fun d => { d with posted := [] })
        (item.leaves queued ++ (c.handle site item).desk.posted)
  | complete (ts : List (Turn σ)) (c : Controller σ) (queued : List Completion) (sink : Sink)
      (outcome : Outcome) (e : Completion) (h : Run site ts c queued) (hsink : sink ∈ c.desk.sinks)
      (he : sink.complete? outcome = some e) :
      Run site ts (c.atDesk fun d => { d with sinks := d.sinks.erase sink }) (queued ++ [e])
  | drop (ts : List (Turn σ)) (c : Controller σ) (queued : List Completion) (sink : Sink)
      (h : Run site ts c queued) (hsink : sink ∈ c.desk.sinks) :
      Run site ts (c.atDesk fun d => { d with sinks := d.sinks.erase sink }) queued
  | meanwhile (ts : List (Turn σ)) (c : Controller σ) (queued : List Completion) (d : Desk σ)
      (h : Run site ts c queued) (hleg : d.leg = c.desk.leg) (hsinks : d.sinks = c.desk.sinks)
      (hposted : d.posted = c.desk.posted) : Run site ts ⟨c.phase, d⟩ queued

/-- A controller that some run leads to. -/
def Reachable {σ : Type} (site : Site σ) (c : Controller σ) : Prop :=
  ∃ ts queued, Run site ts c queued

namespace Run

variable {σ : Type} {site : Site σ} {ts : List (Turn σ)} {c : Controller σ}
  {queued : List Completion}

/-! ## What holds through all turns

The induction is made once (`Run.invariant`): what holds at the start and is kept by every turn holds
of every run. -/

/-- What is sound stays so. -/
theorem sound (h : Run site ts c queued) : Sound c.phase c.desk.leg := by
  induction h with
  | start d hleg hsinks hposted =>
    rw [hleg]
    exact
      { owned := ⟨fun _ => rfl, fun _ => rfl⟩
        connected := fun hk => absurd rfl hk
        grouped := fun hg => absurd rfl hg
        mixed := rfl
        joined := rfl
        conferring := nofun
        established := fun hp => by rcases hp with hp | hp <;> cases hp
        bare := fun _ => ⟨rfl, rfl, fun c => by rcases c with _ | _ | _ | _ <;> rfl⟩
        negotiating := nofun
        busy := nofun }
  | turn ts c queued item h hitem ih =>
    exact (Turn.turned (t := ⟨c, item⟩) site ih).1.sound ih
  | complete ts c queued sink outcome e h hsink he ih => exact ih
  | drop ts c queued sink h hsink ih => exact ih
  | meanwhile ts c queued d h hleg hsinks hposted ih =>
    rw [hleg]
    exact ih

/-- What holds at the start, and is kept by every turn, holds throughout. -/
theorem invariant {P : List (Turn σ) → Phase → Leg → Prop} (start : P [] .uninitialized {})
    (step : ∀ ts t queued, Run site ts t.before queued → P ts t.before.phase t.before.desk.leg →
      P (ts ++ [t]) (t.after site).phase (t.after site).desk.leg)
    (h : Run site ts c queued) : P ts c.phase c.desk.leg := by
  induction h with
  | start d hleg hsinks hposted =>
    rw [hleg]
    exact start
  | turn ts c queued item h hitem ih => exact step ts ⟨c, item⟩ queued h ih
  | complete ts c queued sink outcome e h hsink he ih => exact ih
  | drop ts c queued sink h hsink ih => exact ih
  | meanwhile ts c queued d h hleg hsinks hposted ih =>
    rw [hleg]
    exact ih

/-- Between turns nothing is left that was completed during one. -/
theorem posted (h : Run site ts c queued) : c.desk.posted = [] := by
  induction h with
  | start d hleg hsinks hposted => exact hposted
  | turn ts c queued item h hitem ih => rfl
  | complete ts c queued sink outcome e h hsink he ih => exact ih
  | drop ts c queued sink h hsink ih => exact ih
  | meanwhile ts c queued d h hleg hsinks hposted ih => exact hposted.trans ih

/-! ## Parts of a run

A run can be cut at any of its turns, and what comes before is a run again. -/

/-- A turn of a longer list is the last, or one of those before. -/
theorem concat_cases {α : Type} {xs pre post : List α} {x y : α}
    (h : xs ++ [x] = pre ++ y :: post) :
    (xs = pre ∧ x = y ∧ post = []) ∨ ∃ post', post = post' ++ [x] ∧ xs = pre ++ y :: post' := by
  rcases List.eq_nil_or_concat post with rfl | ⟨post', z, rfl⟩
  · obtain ⟨hxs, hx⟩ := List.append_inj' h rfl
    cases hx
    exact .inl ⟨hxs, rfl, rfl⟩
  · rw [List.concat_eq_append, ← List.cons_append, ← List.append_assoc] at h
    obtain ⟨hxs, hx⟩ := List.append_inj' h rfl
    cases hx
    exact .inr ⟨post', List.concat_eq_append, hxs⟩

/-- Before each of its turns a run is a run. -/
theorem before {pre post : List (Turn σ)} {t : Turn σ}
    (h : Run site (pre ++ t :: post) c queued) :
    ∃ queued', Run site pre t.before queued' ∧ ∀ e, t.item = .completion e → e ∈ queued' := by
  generalize hts : pre ++ t :: post = ts at h
  induction h generalizing post with
  | start d hleg hsinks hposted =>
    exact absurd hts (List.append_ne_nil_of_right_ne_nil pre (List.cons_ne_nil t post))
  | turn ts c queued item h hitem ih =>
    rcases concat_cases hts.symm with ⟨rfl, rfl, -⟩ | ⟨post', -, hts'⟩
    · exact ⟨queued, h, hitem⟩
    · exact ih hts'.symm
  | complete ts c queued sink outcome e h hsink he ih => exact ih hts
  | drop ts c queued sink h hsink ih => exact ih hts
  | meanwhile ts c queued d h hleg hsinks hposted ih => exact ih hts

/-- What holds after a turn, and is kept by every turn that follows, holds through all of these. -/
theorem onwards {P : List (Turn σ) → Phase → Leg → Prop} {pre post : List (Turn σ)} {t : Turn σ}
    (start : P [] (t.after site).phase (t.after site).desk.leg)
    (step : ∀ post u queued, Run site (pre ++ t :: post) u.before queued →
      P post u.before.phase u.before.desk.leg →
      P (post ++ [u]) (u.after site).phase (u.after site).desk.leg)
    (h : Run site (pre ++ t :: post) c queued) : P post c.phase c.desk.leg := by
  refine h.invariant (P := fun ts p l => ∀ post, ts = pre ++ t :: post → P post p l) ?_ ?_ post rfl
  · intro post heq
    exact absurd heq.symm (List.append_ne_nil_of_right_ne_nil pre (List.cons_ne_nil t post))
  · intro ts u queued hbefore ih post heq
    rcases concat_cases heq with ⟨-, rfl, rfl⟩ | ⟨post, rfl, rfl⟩
    · exact start
    · exact step post u queued hbefore (ih post rfl)

/-- Every turn of a run is sound before. -/
theorem sound_of_mem {t : Turn σ} (h : Run site ts c queued) (ht : t ∈ ts) :
    Sound t.before.phase t.before.desk.leg := by
  obtain ⟨pre, post, rfl⟩ := List.append_of_mem ht
  obtain ⟨queued', h', -⟩ := h.before
  exact h'.sound

end Run

/-! ## What has happened since

Several invariants are of one form: something has happened, and nothing since has undone it. -/

/-- Whether `a` has happened, and `b` has not since. -/
def Since {α : Type} (a b : α → Prop) (xs : List α) : Prop :=
  ∃ earlier x between, xs = earlier ++ x :: between ∧ a x ∧ ∀ y ∈ between, ¬ b y

section

variable {α : Type} {a b : α → Prop}

/-- Nothing has happened since nothing. -/
theorem not_since_nil : ¬ Since a b [] := by
  rintro ⟨earlier, x, between, hnil, -, -⟩
  exact absurd hnil.symm (List.append_ne_nil_of_right_ne_nil earlier (List.cons_ne_nil x between))

/-- What was last is either the new entry, or the old one, if the new entry does not end it. -/
theorem since_concat {xs : List α} {x : α} : Since a b (xs ++ [x]) ↔ a x ∨ (Since a b xs ∧ ¬ b x) := by
  constructor
  · rintro ⟨earlier, y, between, heq, ha, hb⟩
    rcases Run.concat_cases heq with ⟨-, rfl, -⟩ | ⟨between', rfl, heq'⟩
    · exact .inl ha
    · obtain ⟨hbetween, hx⟩ := List.forall_mem_append.1 hb
      exact .inr ⟨⟨earlier, y, between', heq', ha, hbetween⟩, hx x (List.mem_singleton_self x)⟩
  · rintro (ha | ⟨⟨earlier, y, between, rfl, ha, hb⟩, hx⟩)
    · exact ⟨xs, x, [], rfl, ha, List.forall_mem_nil _⟩
    · refine ⟨earlier, y, between ++ [x], ?_, ha, ?_⟩
      · rw [List.append_assoc, List.cons_append]
      · exact List.forall_mem_append.2 ⟨hb, List.forall_mem_singleton.2 hx⟩

end

/-- Whatever some run leads to is sound. -/
theorem Reachable.sound {σ : Type} {site : Site σ} {c : Controller σ} (h : Reachable site c) :
    Sound c.phase c.desk.leg := by
  obtain ⟨ts, queued, h⟩ := h
  exact h.sound

/-! ## A run in full

  One call with one play, which is stopped when it has already ended: the theorems on runs are tried
  on it. -/

namespace Sample

/-- A media server that does whatever it is asked, and keeps every sink. -/
def site : Site Unit where
  settings := {}
  server := ⟨"sample", .v4 127 0 0 1, 5060, 5⟩
  create s _ := (.ok "1", s)
  perform s _ := (.ok (), s)
  start s _ _ := (⟨.ok (), .held⟩, s)
  store s _ _ := (.ok (), s)

def call : Recipient := ⟨"call", "mailbox of the call"⟩

def player : Recipient := ⟨"player", "mailbox of the player"⟩

/-- The controller once it has handled an item. -/
def handled (c : Controller Unit) (item : Item) : Controller Unit :=
  (c.handle site item).atDesk fun d => { d with posted := [] }

/-- The controller once a sink is used up. -/
def used (c : Controller Unit) (sink : Sink) : Controller Unit :=
  c.atDesk fun d => { d with sinks := d.sinks.erase sink }

def create : Item := .message call (.createSession true .sendRecv "")

def offer : Completion := ⟨1, .negotiation (.offerGenerated "offer")⟩

def group : Item := .message call .createGroup

def play : Item := .message player (.play ⟨[], 1⟩)

def stop : Item := .message call (.stop false)

def close : Item := .message call .closeSession

def playEnd : Completion := ⟨1, .playback .completed⟩

def fresh : Controller Unit := ⟨.uninitialized, { outside := (), callers := 1 }⟩

def offered : Controller Unit := used (handled fresh create) ⟨.negotiation, 1⟩

def active : Controller Unit := handled offered (.completion offer)

def grouped : Controller Unit := handled active group

def played : Controller Unit := used (handled grouped play) ⟨.group .playback, 1⟩

def stopped : Controller Unit := handled played stop

/-- A call from its beginning, as far as several samples need it: the session is created, and the
    offer is reported at once. -/
theorem run_offered : Run site [⟨fresh, create⟩] offered [offer] :=
  .complete _ _ [] _ offer.outcome _ (.turn [] fresh [] create (.start _ rfl rfl rfl) nofun)
    List.mem_cons_self rfl

/-- The offer is handled, and the session is active. -/
theorem run_active : Run site [⟨fresh, create⟩, ⟨offered, .completion offer⟩] active [] :=
  .turn _ offered [offer] (.completion offer) run_offered (fun e he => by
    cases he
    exact List.mem_cons_self)

theorem run_grouped :
    Run site [⟨fresh, create⟩, ⟨offered, .completion offer⟩, ⟨active, group⟩] grouped [] :=
  .turn _ active [] group run_active nofun

/-- Something is played in it, and its end is reported at once. -/
theorem run_played :
    Run site [⟨fresh, create⟩, ⟨offered, .completion offer⟩, ⟨active, group⟩, ⟨grouped, play⟩]
      played [playEnd] :=
  .complete _ _ [] _ playEnd.outcome _ (.turn _ grouped [] play run_grouped nofun)
    List.mem_cons_self rfl

/-- The group is told to stop before the end is handled. -/
theorem run_stopped :
    Run site [⟨fresh, create⟩, ⟨offered, .completion offer⟩, ⟨active, group⟩, ⟨grouped, play⟩,
      ⟨played, stop⟩] stopped [playEnd] :=
  .turn _ played [playEnd] stop run_played nofun

end Sample

end CallMedia
