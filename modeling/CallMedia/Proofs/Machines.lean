/-
  What a machine does with a sequence of requests, whatever the machine.

  A request names a target and the event that asks for it.  Some requests are accepted and some are
  refused, and which is which depends on those before them.  `Machine.run` makes them all; what it
  comes to (`Machine.run_account`) is said with the accepted ones alone (`Machine.accepted`):

    * leaving the refused ones out changes nothing, and then none is refused;
    * the accepted ones are a path through the listed transitions, from where the machine starts to
      where it stands in the end (`Machine.Path`);
    * the context is what the actions of their targets make of it, one for each, in order.

  Nothing is assumed of the listed states: an id may be listed twice (the last listing counts), a
  transition may lead to a state that is not listed, and a state may be entered from itself.
-/
import CallMedia.Machine

namespace CallMedia.Machine

variable {S C E : Type} [DecidableEq S]

/-! ## The entry action of a target

The machine searches its listings.  `Performs` says the same without a search: of the listings of an id
the last one counts, and there may be none. -/

/-- `s` is listed, and nothing listed after it has its id. -/
def LastListed (m : Machine S C E) (s : State S C E) : Prop :=
  ∃ before after, m.states = before ++ s :: after ∧ ∀ t ∈ after, t.id ≠ s.id

/-- What is done on entering `target`. -/
inductive Performs (m : Machine S C E) (target : S) : (E → C → C) → Prop where
  /-- The action of its last listing. -/
  | action {s : State S C E} {act : E → C → C} (last : m.LastListed s) (here : s.id = target)
      (acts : s.entry = some act) : Performs m target act
  /-- Nothing, if its listing has no action. -/
  | passive {s : State S C E} (last : m.LastListed s) (here : s.id = target)
      (silent : s.entry = none) : Performs m target fun _ context => context
  /-- Nothing, if it has no listing. -/
  | unlisted (nowhere : ∀ s ∈ m.states, s.id ≠ target) : Performs m target fun _ context => context

theorem find?_eq_none_iff (m : Machine S C E) (target : S) :
    m.find? target = none ↔ ∀ s ∈ m.states, s.id ≠ target := by
  unfold find?
  simp

/-- What is found is the last listing of its id. -/
theorem lastListed_of_find? {m : Machine S C E} {target : S} {s : State S C E}
    (h : m.find? target = some s) : m.LastListed s ∧ s.id = target := by
  unfold find? at h
  obtain ⟨hid, after, before, hstates, hafter⟩ := List.find?_eq_some_iff_append.1 h
  have hs : s.id = target := by simpa using hid
  -- the listings are searched from the last to the first
  refine ⟨⟨before.reverse, after.reverse, ?_, ?_⟩, hs⟩
  · rw [← List.reverse_reverse m.states, hstates]
    simp
  · intro t ht
    have hne := hafter t (List.mem_reverse.1 ht)
    rw [hs]
    simpa using hne

/-- The last listing of an id is found. -/
theorem find?_of_lastListed {m : Machine S C E} {s : State S C E} (h : m.LastListed s) :
    m.find? s.id = some s := by
  obtain ⟨before, after, hstates, hafter⟩ := h
  have hskip : after.reverse.find? (fun t => t.id == s.id) = none := by
    simpa using hafter
  unfold find?
  rw [hstates, List.reverse_append, List.reverse_cons, List.append_assoc, List.find?_append, hskip]
  simp

/-- Entering a state that has an action does the action. -/
theorem entry_of_some {m : Machine S C E} {target : S} {act : E → C → C}
    (h : (m.find? target).bind State.entry = some act) : m.entry target = act := by
  funext event context
  unfold entry
  rw [h]

/-- Entering any other state does nothing. -/
theorem entry_of_none {m : Machine S C E} {target : S} (h : (m.find? target).bind State.entry = none) :
    m.entry target = fun _ context => context := by
  funext event context
  unfold entry
  rw [h]

/-- Each target has one action, and it is the one that a step runs. -/
theorem performs_iff (m : Machine S C E) (target : S) (act : E → C → C) :
    m.Performs target act ↔ act = m.entry target := by
  constructor
  · intro h
    cases h with
    | action last here acts =>
      rw [entry_of_some]
      rw [← here, find?_of_lastListed last, Option.bind_some, acts]
    | passive last here silent =>
      rw [entry_of_none]
      rw [← here, find?_of_lastListed last, Option.bind_some, silent]
    | unlisted nowhere =>
      rw [entry_of_none]
      rw [(m.find?_eq_none_iff target).2 nowhere, Option.bind_none]
  · rintro rfl
    cases hfind : m.find? target with
    | none =>
      rw [entry_of_none (by rw [hfind, Option.bind_none])]
      exact .unlisted ((m.find?_eq_none_iff target).1 hfind)
    | some s =>
      -- the last listing of the target decides, whether or not it has an action
      obtain ⟨hlast, hid⟩ := lastListed_of_find? hfind
      cases hact : s.entry with
      | none =>
        rw [entry_of_none (by rw [hfind, Option.bind_some, hact])]
        exact .passive hlast hid hact
      | some act =>
        rw [entry_of_some (by rw [hfind, Option.bind_some, hact])]
        exact .action hlast hid hact

/-! ## Sequences of requests

Requests are made one after another, each where those before it have led. -/

/-- A request to enter `target`, caused by `event`. -/
structure Request (S E : Type) where
  event : E
  target : S

/-- Where a machine stands after a request: a refused one leaves it where it stood. -/
def ask (m : Machine S C E) (p : Position S C) (r : Request S E) : Position S C :=
  match m.step p r.event r.target with
  | .ok q => q
  | .error _ => p

/-- Where a machine stands after a sequence of requests. -/
def run (m : Machine S C E) (p : Position S C) (requests : List (Request S E)) : Position S C :=
  requests.foldl m.ask p

/-- The requests of a sequence that are accepted. -/
def accepted (m : Machine S C E) : Position S C → List (Request S E) → List (Request S E)
  | _, [] => []
  | p, r :: rest =>
    match m.step p r.event r.target with
    | .ok q => r :: m.accepted q rest
    | .error _ => m.accepted p rest

/-- The requests `taken`, one after another, lead from one position to another: each follows a listed
    transition, and the action of its target is done on its event.  Nothing is done before the first. -/
inductive Path (m : Machine S C E) : Position S C → List (Request S E) → Position S C → Prop where
  | here (p : Position S C) : Path m p [] p
  | enter {p q : Position S C} {r : Request S E} {rest : List (Request S E)} {act : E → C → C}
      (listed : (p.state, r.target) ∈ m.transitions) (performs : m.Performs r.target act)
      (onwards : Path m ⟨r.target, act r.event p.context⟩ rest q) : Path m p (r :: rest) q

section Request

variable {m : Machine S C E} {p q : Position S C} {r : Request S E}

theorem ask_of_step (h : m.step p r.event r.target = .ok q) : m.ask p r = q := by
  unfold ask
  rw [h]

theorem ask_of_refused {i : Illegal S} (h : m.step p r.event r.target = .error i) :
    m.ask p r = p := by
  unfold ask
  rw [h]

theorem accepted_cons_of_step (h : m.step p r.event r.target = .ok q)
    (rest : List (Request S E)) : m.accepted p (r :: rest) = r :: m.accepted q rest := by
  rw [accepted, h]

theorem accepted_cons_of_refused {i : Illegal S} (h : m.step p r.event r.target = .error i)
    (rest : List (Request S E)) : m.accepted p (r :: rest) = m.accepted p rest := by
  rw [accepted, h]

end Request

section Sequence

variable (m : Machine S C E)

theorem run_cons (p : Position S C) (r : Request S E) (rest : List (Request S E)) :
    m.run p (r :: rest) = m.run (m.ask p r) rest := rfl

/-- A sequence in two parts is made one part after the other. -/
theorem run_append (p : Position S C) (before after : List (Request S E)) :
    m.run p (before ++ after) = m.run (m.run p before) after :=
  List.foldl_append

/-- What is accepted of the second part depends on where the first has led. -/
theorem accepted_append (p : Position S C) (before after : List (Request S E)) :
    m.accepted p (before ++ after) = m.accepted p before ++ m.accepted (m.run p before) after := by
  -- by induction on the first part, the position moving along
  induction before generalizing p with
  | nil => rfl
  | cons r rest ih =>
    rw [List.cons_append, run_cons]
    cases hstep : m.step p r.event r.target with
    | ok q =>
      rw [accepted_cons_of_step hstep, accepted_cons_of_step hstep, ask_of_step hstep, ih,
        List.cons_append]
    | error i =>
      rw [accepted_cons_of_refused hstep, accepted_cons_of_refused hstep, ask_of_refused hstep, ih]

/-- The accepted requests are some of those that were made, in the same order. -/
theorem accepted_sublist (p : Position S C) (requests : List (Request S E)) :
    (m.accepted p requests).Sublist requests := by
  induction requests generalizing p with
  | nil => exact .slnil
  | cons r rest ih =>
    cases hstep : m.step p r.event r.target with
    | ok q =>
      rw [accepted_cons_of_step hstep]
      exact (ih q).cons_cons r
    | error i =>
      rw [accepted_cons_of_refused hstep]
      exact (ih p).cons r

/-- None of the accepted requests is refused when the others are left out. -/
theorem accepted_accepted (p : Position S C) (requests : List (Request S E)) :
    m.accepted p (m.accepted p requests) = m.accepted p requests := by
  induction requests generalizing p with
  | nil => rfl
  | cons r rest ih =>
    cases hstep : m.step p r.event r.target with
    | ok q => rw [accepted_cons_of_step hstep, accepted_cons_of_step hstep, ih]
    | error i => rw [accepted_cons_of_refused hstep, ih]

/-- The refused requests might as well not have been made. -/
theorem run_accepted (p : Position S C) (requests : List (Request S E)) :
    m.run p (m.accepted p requests) = m.run p requests := by
  induction requests generalizing p with
  | nil => rfl
  | cons r rest ih =>
    rw [run_cons]
    cases hstep : m.step p r.event r.target with
    | ok q => rw [accepted_cons_of_step hstep, run_cons, ask_of_step hstep, ih]
    | error i => rw [accepted_cons_of_refused hstep, ask_of_refused hstep, ih]

/-- The accepted requests lead to where the machine stands. -/
theorem accepted_path (p : Position S C) (requests : List (Request S E)) :
    m.Path p (m.accepted p requests) (m.run p requests) := by
  -- every accepted request is one link of the path
  induction requests generalizing p with
  | nil => exact .here p
  | cons r rest ih =>
    rw [run_cons]
    cases hstep : m.step p r.event r.target with
    | ok q =>
      obtain ⟨hlisted, rfl⟩ := (m.step_eq_ok_iff _ _ _ _).1 hstep
      rw [accepted_cons_of_step hstep, ask_of_step hstep]
      exact .enter hlisted ((m.performs_iff _ _).2 rfl) (ih _)
    | error i =>
      rw [accepted_cons_of_refused hstep, ask_of_refused hstep]
      exact ih p

end Sequence

/-! ## What a run comes to

All of it together, for any sequence. -/

/-- How a machine that stands at `p` answers the request `r`, and where it stands then. -/
inductive Answered (m : Machine S C E) (p : Position S C) (r : Request S E) : Position S C → Prop where
  /-- The transition is listed.  The target is entered, and its action done. -/
  | accepted {act : E → C → C} (listed : (p.state, r.target) ∈ m.transitions)
      (performs : m.Performs r.target act)
      (answer : m.step p r.event r.target = .ok ⟨r.target, act r.event p.context⟩) :
      Answered m p r ⟨r.target, act r.event p.context⟩
  /-- The transition is not listed.  The answer says which it would have been. -/
  | refused (unlisted : (p.state, r.target) ∉ m.transitions)
      (answer : m.step p r.event r.target = .error ⟨p.state, r.target⟩) : Answered m p r p

/-- Every request is answered in one of the two ways. -/
theorem answered (m : Machine S C E) (p : Position S C) (r : Request S E) :
    m.Answered p r (m.ask p r) := by
  by_cases hlisted : (p.state, r.target) ∈ m.transitions
  · have hstep := (m.step_eq_ok_iff p _ r.event r.target).2 ⟨hlisted, rfl⟩
    rw [ask_of_step hstep]
    exact .accepted hlisted ((m.performs_iff _ _).2 rfl) hstep
  · have hstep := (m.step_eq_error_iff p r.event r.target _).2 ⟨hlisted, rfl⟩
    rw [ask_of_refused hstep]
    exact .refused hlisted hstep

/-- A request is accepted where it stands exactly if its transition is listed. -/
theorem accepted_singleton (m : Machine S C E) (p : Position S C) (r : Request S E) :
    m.accepted p [r] = if (p.state, r.target) ∈ m.transitions then [r] else [] := by
  by_cases hlisted : (p.state, r.target) ∈ m.transitions
  · rw [if_pos hlisted,
      accepted_cons_of_step ((m.step_eq_ok_iff p _ r.event r.target).2 ⟨hlisted, rfl⟩), accepted]
  · rw [if_neg hlisted,
      accepted_cons_of_refused ((m.step_eq_error_iff p r.event r.target _).2 ⟨hlisted, rfl⟩), accepted]

/-- What making `requests` of a machine that starts at `p` comes to, the accepted ones being `taken`. -/
structure Account (m : Machine S C E) (p : Position S C) (requests taken : List (Request S E)) :
    Prop where
  /-- Those that are accepted are some of those that were made, in order. -/
  sublist : taken.Sublist requests
  /-- The others might as well not have been made. -/
  same : m.run p requests = m.run p taken
  /-- Without the others none is refused. -/
  kept : m.accepted p taken = taken
  /-- They lead to where the machine then stands. -/
  path : m.Path p taken (m.run p requests)
  /-- Each request is answered as the place that those before it lead to has it. -/
  each : ∀ before r after, requests = before ++ r :: after →
    m.Answered (m.run p before) r (m.run p (before ++ [r])) ∧
    taken = m.accepted p before ++
      (if ((m.run p before).state, r.target) ∈ m.transitions then [r] else []) ++
      m.accepted (m.run p (before ++ [r])) after

/-- A run is the run of its accepted requests. -/
theorem run_account (m : Machine S C E) (p : Position S C) (requests : List (Request S E)) :
    m.Account p requests (m.accepted p requests) where
  sublist := m.accepted_sublist p requests
  same := (m.run_accepted p requests).symm
  kept := m.accepted_accepted p requests
  path := m.accepted_path p requests
  each := by
    -- where a request is made, those before it have led
    rintro before r after rfl
    have hnext : m.run p (before ++ [r]) = m.ask (m.run p before) r := m.run_append p before [r]
    refine ⟨?_, ?_⟩
    · rw [hnext]
      exact m.answered _ r
    · rw [← m.accepted_singleton, ← m.accepted_append, ← m.accepted_append,
        List.append_assoc, List.singleton_append]

-- of two listings the later counts, and a state may be entered from itself
example :
    let m : Machine Nat Nat Unit :=
      ⟨[⟨0, some fun _ n => n + 1⟩, ⟨0, some fun _ n => n + 10⟩], [(0, 0)]⟩
    m.run ⟨0, 0⟩ [⟨(), 0⟩, ⟨(), 1⟩, ⟨(), 0⟩] = ⟨0, 20⟩ := rfl

end CallMedia.Machine
