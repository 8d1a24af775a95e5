/-
  Finite state machines with a fixed set of transitions.

  A machine is data: the states that have something to say about themselves, and the pairs
  `(source, target)` that may be taken.  It holds no current state; `Machine.step` maps a position
  (a state and the owner's context) to the next one.

    * A step is accepted exactly when `(current, target)` is listed (`step_eq_ok_iff`).
    * An accepted step runs the entry action of the LAST listed state with the target's id, once,
      on the event that caused it; a target that is not listed, or has no action, runs nothing.
    * A refused step reports `(current, target)` and changes neither state nor context.

  Nothing runs when a machine is made, so the entry action of the initial state is skipped.
-/
import CallMedia.Fault

namespace CallMedia

/-- One listed state: its id, and what is done to the context `C` on entering it with an event `E`. -/
structure Machine.State (S C E : Type) where
  id : S
  entry : Option (E → C → C) := none

/-- A machine over state ids `S`, an owner's context `C` and events `E`. -/
structure Machine (S C E : Type) where
  states : List (Machine.State S C E)
  transitions : List (S × S)

/-- A step that is not among the transitions. -/
structure Machine.Illegal (S : Type) where
  source : S
  target : S
deriving DecidableEq, Repr

/-- Where a machine stands, together with its owner's context. -/
structure Machine.Position (S C : Type) where
  state : S
  context : C

namespace Machine

variable {S C E : Type} [DecidableEq S]

/-- Whether `(source, target)` may be taken. -/
def allows (m : Machine S C E) (source target : S) : Bool :=
  m.transitions.contains (source, target)

/-- The last listed state with the given id: a later listing replaces an earlier one. -/
def find? (m : Machine S C E) (id : S) : Option (State S C E) :=
  m.states.reverse.find? (fun s => s.id == id)

/-- What entering `target` does: the action of its last listing, or nothing. -/
def entry (m : Machine S C E) (target : S) (event : E) (context : C) : C :=
  match (m.find? target).bind State.entry with
  | some act => act event context
  | none => context

/-- Take the transition to `target`, caused by `event`, or refuse it. -/
def step (m : Machine S C E) (p : Position S C) (event : E) (target : S) :
    Except (Illegal S) (Position S C) :=
  if m.allows p.state target then .ok ⟨target, m.entry target event p.context⟩
  else .error ⟨p.state, target⟩

/-- How many different transitions a machine has. -/
def transitionCount (m : Machine S C E) : Nat := m.transitions.eraseDups.length

/-- A step succeeds along a listed transition, and then the entry action of the target is what
    happens. -/
theorem step_eq_ok_iff (m : Machine S C E) (p q : Position S C) (event : E) (target : S) :
    m.step p event target = .ok q ↔
      (p.state, target) ∈ m.transitions ∧ q = ⟨target, m.entry target event p.context⟩ := by
  unfold step allows
  by_cases h : (p.state, target) ∈ m.transitions
  · simp [h, eq_comm]
  · simp [h]

/-- A step fails if its transition is not listed, and says which one that was. -/
theorem step_eq_error_iff (m : Machine S C E) (p : Position S C) (event : E) (target : S)
    (i : Illegal S) :
    m.step p event target = .error i ↔
      (p.state, target) ∉ m.transitions ∧ i = ⟨p.state, target⟩ := by
  unfold step allows
  by_cases h : (p.state, target) ∈ m.transitions
  · simp [h]
  · simp [h, eq_comm]

/-- Whether entering a listed state does anything. -/
def State.hasEntry (s : State S C E) : Bool := s.entry.isSome

/-- A listed state in words, its id written by `label`. -/
def State.describe (label : S → String) (s : State S C E) : String :=
  s!"State \x7b id: {label s.id}, has_entry: {s.hasEntry} \x7d"

/-- A machine that stands at `current`, in words. -/
def describe (label : S → String) (m : Machine S C E) (current : S) : String :=
  s!"FiniteStateMachine \x7b current: {label current}, transitions: {m.transitionCount} \x7d"

end Machine

namespace Machine.Illegal

variable {S : Type}

/-- The sentence that reports a refused step, the states written by `label`. -/
def message (label : S → String) (i : Illegal S) : String :=
  s!"illegal transition from {label i.source} to {label i.target}"

/-- A refused step as a fault. -/
def fault (label : S → String) (i : Illegal S) : Fault :=
  .illegalTransition (label i.source) (label i.target)

end Machine.Illegal

end CallMedia
