/-
  What a slot makes of any sequence of acts.

  A slot keeps a counter and a flag, and nothing else of its past.  Here it is told from all that was
  done with it (`Slot.events`): whether a completion would be accepted is read off the events alone
  (`Awaited`), as what the latest arming began and nothing has ended since.

  The step lemma `Told.perform` keeps three facts together, and by `Told.through` every sequence does:

    * the flag and the counter name the awaited generation, and there is none if the flag is not set;
    * the generations that were begun are the numbers from 1 up to the counter, in order;
    * those that were accepted are some of them, in order, and the awaited one is not yet among them.

  So no generation begins twice or is accepted twice, and a later one is never accepted before an
  earlier one, however bindings, armings that fail, disarmings and stale completions come in between.
-/
import Mathlib.Algebra.Group.Nat.Defs
import CallMedia.Slot

namespace CallMedia.Slot

/-! ## Acts and events

Four things can be done with a slot, and six can come of them. -/

/-- What can be done with a slot.  When it is armed, the inbox may be gone. -/
inductive Act where
  /-- Say whom the next outcome is for. -/
  | bind (recipient : Recipient)
  /-- Begin a generation, for an operation that is about to be started. -/
  | arm (inboxOpen : Bool)
  /-- Give up what is awaited. -/
  | disarm
  /-- Take a completion of a generation, if it is the awaited one. -/
  | accept (generation : Nat)
deriving DecidableEq, Repr

/-- What came of an act. -/
inductive Event where
  /-- The slot has a recipient, which may be another than before. -/
  | bound (recipient : Recipient)
  /-- A generation was begun. -/
  | armed (generation : Nat)
  /-- The slot could not be armed. -/
  | barred
  /-- Nothing is awaited any more. -/
  | disarmed
  /-- A completion was accepted. -/
  | accepted (generation : Nat)
  /-- A completion was not accepted. -/
  | refused (generation : Nat)
deriving DecidableEq, Repr

/-- Do something with a slot. -/
def perform (s : Slot) : Act → Event × Slot
  | .bind recipient => (.bound recipient, s.bind recipient)
  | .arm inboxOpen =>
    match s.arm inboxOpen with
    | some (generation, s) => (.armed generation, s)
    | none => (.barred, s)
  | .disarm => (.disarmed, s.disarm)
  | .accept generation =>
    let (accepted, s) := s.accept generation
    (if accepted then .accepted generation else .refused generation, s)

/-- The slot after a sequence of acts. -/
def after (s : Slot) (acts : List Act) : Slot := acts.foldl (fun s a => (s.perform a).2) s

/-- What came of a sequence of acts, in order. -/
def events (s : Slot) : List Act → List Event
  | [] => []
  | a :: rest => (s.perform a).1 :: (s.perform a).2.events rest

/-- The generations that were begun. -/
def begun (es : List Event) : List Nat :=
  es.filterMap fun
    | .armed g => some g
    | _ => none

/-- The generations that were accepted. -/
def taken (es : List Event) : List Nat :=
  es.filterMap fun
    | .accepted g => some g
    | _ => none

/-- The event ends what was awaited before: something else is awaited then, or nothing. -/
def Event.Ends : Event → Prop
  | armed _ | disarmed | accepted _ => True
  | bound _ | barred | refused _ => False

/-- The event is a failure. -/
def Event.Fails : Event → Prop
  | barred | refused _ => True
  | _ => False

/-- The latest arming began the generation, and since then the slot was not disarmed, and nothing was
    accepted. -/
def Awaited (es : List Event) (generation : Nat) : Prop :=
  ∃ before since, es = before ++ .armed generation :: since ∧ ∀ e ∈ since, ¬ e.Ends

section

variable {es : List Event} {e : Event} {n : Nat}

/-- Nothing is awaited from before an event that ends it, except what the event itself begins. -/
theorem awaited_concat_of_ends (h : e.Ends) : Awaited (es ++ [e]) n ↔ e = .armed n := by
  constructor
  · -- whatever was begun before has ended by now
    rintro ⟨before, since, heq, hsince⟩
    rcases List.eq_nil_or_concat since with rfl | ⟨since, last, rfl⟩
    · exact (List.append_inj' heq rfl).2 |> List.singleton_inj.1
    · rw [List.concat_eq_append] at heq hsince
      rw [← List.cons_append, ← List.append_assoc] at heq
      have hlast : e = last := List.singleton_inj.1 (List.append_inj' heq rfl).2
      have hquiet := hsince last (List.mem_append_right _ List.mem_cons_self)
      rw [← hlast] at hquiet
      exact absurd h hquiet
  · rintro rfl
    exact ⟨es, [], rfl, List.forall_mem_nil _⟩

/-- Any other event leaves what is awaited. -/
theorem awaited_concat (h : ¬ e.Ends) : Awaited (es ++ [e]) n ↔ Awaited es n := by
  constructor
  · rintro ⟨before, since, heq, hsince⟩
    rcases List.eq_nil_or_concat since with rfl | ⟨since, last, rfl⟩
    · have hlast : e = .armed n := List.singleton_inj.1 (List.append_inj' heq rfl).2
      rw [hlast] at h
      exact absurd trivial h
    · rw [List.concat_eq_append] at heq hsince
      rw [← List.cons_append, ← List.append_assoc] at heq
      exact ⟨before, since, (List.append_inj' heq rfl).1,
        fun x hx => hsince x (List.mem_append_left _ hx)⟩
  · rintro ⟨before, since, rfl, hsince⟩
    refine ⟨before, since ++ [e], ?_, ?_⟩
    · rw [List.append_assoc, List.cons_append]
    · exact List.forall_mem_append.2 ⟨hsince, List.forall_mem_singleton.2 h⟩

theorem begun_concat_armed (es : List Event) (g : Nat) : begun (es ++ [.armed g]) = begun es ++ [g] :=
  List.filterMap_append

theorem taken_concat_accepted (es : List Event) (g : Nat) :
    taken (es ++ [.accepted g]) = taken es ++ [g] :=
  List.filterMap_append

theorem begun_concat (h : ∀ g, e ≠ .armed g) : begun (es ++ [e]) = begun es := by
  unfold begun
  rw [List.filterMap_append]
  cases e with
  | armed g => exact absurd rfl (h g)
  | _ => exact List.append_nil _

theorem taken_concat (h : ∀ g, e ≠ .accepted g) : taken (es ++ [e]) = taken es := by
  unfold taken
  rw [List.filterMap_append]
  cases e with
  | accepted g => exact absurd rfl (h g)
  | _ => exact List.append_nil _

end

/-! ## A slot, told from its events

The invariant, and one lemma for each kind of event that keeps it. -/

/-- How many generations are settled: all that were begun, but for the awaited one. -/
def settled (s : Slot) : Nat := if s.pending then s.generation - 1 else s.generation

theorem settled_le (s : Slot) : s.settled ≤ s.generation := by
  unfold settled
  split <;> omega

/-- The slot is what the events have made of a new one. -/
structure Told (es : List Event) (s : Slot) : Prop where
  /-- The flag and the counter tell what is awaited. -/
  awaited : ∀ n, Awaited es n ↔ s.pending = true ∧ n = s.generation
  /-- The counter tells what was begun. -/
  begun : begun es = List.range' 1 s.generation
  /-- What was accepted is some of what is settled. -/
  taken : (taken es).Sublist (List.range' 1 s.settled)

namespace Told

variable {es : List Event} {s : Slot}

/-- Of a new slot there is nothing to tell. -/
theorem new : Told [] {} where
  awaited n := by
    constructor
    · rintro ⟨before, since, heq, -⟩
      cases before <;> cases heq
    · rintro ⟨⟨⟩, -⟩
  begun := rfl
  taken := List.Sublist.slnil

/-- What is awaited was begun. -/
theorem pos (h : Told es s) (hs : s.pending = true) : 0 < s.generation := by
  obtain ⟨before, since, rfl, -⟩ := (h.awaited _).2 ⟨hs, rfl⟩
  have hmem : s.generation ∈ Slot.begun (before ++ .armed s.generation :: since) :=
    List.mem_filterMap.2 ⟨_, List.mem_append_right _ List.mem_cons_self, rfl⟩
  rw [h.begun, List.mem_range'_1] at hmem
  exact hmem.1

/-- An event that neither ends nor begins anything changes nothing that is told. -/
theorem quiet (h : Told es s) {e : Event} (he : ¬ e.Ends) {s' : Slot}
    (hgeneration : s'.generation = s.generation) (hpending : s'.pending = s.pending) :
    Told (es ++ [e]) s' where
  awaited n := by rw [awaited_concat he, hgeneration, hpending, h.awaited]
  begun := by
    rw [begun_concat (by rintro g rfl; exact he trivial), hgeneration, h.begun]
  taken := by
    rw [taken_concat (by rintro g rfl; exact he trivial)]
    unfold settled
    rw [hgeneration, hpending]
    exact h.taken

theorem bind (h : Told es s) (r : Recipient) : Told (es ++ [.bound r]) (s.bind r) :=
  h.quiet id rfl rfl

/-- Arming settles what was awaited, and the next generation is awaited instead. -/
theorem arm (h : Told es s) :
    Told (es ++ [.armed (s.generation + 1)])
      { s with generation := s.generation + 1, pending := true } where
  awaited n := by
    rw [awaited_concat_of_ends (e := .armed _) trivial]
    constructor
    · rintro ⟨⟩
      exact ⟨rfl, rfl⟩
    · rintro ⟨-, rfl⟩
      rfl
  begun := by
    rw [begun_concat_armed, h.begun]
    show _ = List.range' 1 (s.generation + 1)
    rw [List.range'_concat, Nat.one_mul, Nat.add_comm 1]
  taken := by
    rw [taken_concat (e := .armed _) nofun]
    -- whatever was awaited is settled now
    exact h.taken.trans (List.range'_sublist_right.2 (settled_le s))

/-- Nothing is awaited behind an event that ends what was awaited and begins nothing. -/
theorem awaited_disarm {e : Event} (hends : e.Ends) (hnew : ∀ g, e ≠ .armed g) (n : Nat) :
    Awaited (es ++ [e]) n ↔ s.disarm.pending = true ∧ n = s.disarm.generation := by
  rw [awaited_concat_of_ends hends]
  constructor
  · intro he
    exact absurd he (hnew n)
  · rintro ⟨⟨⟩, -⟩

/-- Disarming settles what was awaited, and nothing is awaited instead. -/
theorem disarm (h : Told es s) : Told (es ++ [.disarmed]) s.disarm where
  awaited := awaited_disarm trivial nofun
  begun := by
    rw [begun_concat (e := .disarmed) nofun]
    exact h.begun
  taken := by
    rw [taken_concat (e := .disarmed) nofun]
    exact h.taken.trans (List.range'_sublist_right.2 (settled_le s))

/-- Accepting what was awaited settles it too, and counts it among the accepted. -/
theorem accepted (h : Told es s) (hs : s.pending = true) :
    Told (es ++ [.accepted s.generation]) s.disarm where
  awaited := awaited_disarm trivial nofun
  begun := by
    rw [begun_concat (e := .accepted _) nofun]
    exact h.begun
  taken := by
    have hpos := h.pos hs
    have hsettled : s.settled = s.generation - 1 := if_pos hs
    have hlast : List.range' 1 s.generation = List.range' 1 (s.generation - 1) ++ [s.generation] := by
      obtain ⟨k, hk⟩ : ∃ k, s.generation = k + 1 := ⟨s.generation - 1, by omega⟩
      rw [hk, List.range'_concat, Nat.one_mul, Nat.add_comm 1, Nat.add_sub_cancel]
    have hkept := h.taken
    rw [hsettled] at hkept
    rw [taken_concat_accepted]
    show (Slot.taken es ++ [s.generation]).Sublist (List.range' 1 s.generation)
    rw [hlast]
    exact hkept.append (List.Sublist.refl _)

/-- One act keeps the slot told by its events. -/
theorem perform (h : Told es s) (a : Act) : Told (es ++ [(s.perform a).1]) (s.perform a).2 := by
  -- of the four acts two can fail, and both leave the slot as it is then
  cases a with
  | bind r => exact h.bind r
  | arm inboxOpen =>
    cases inboxOpen with
    | true => exact h.arm
    | false => exact h.quiet id rfl rfl
  | disarm => exact h.disarm
  | accept g =>
    by_cases hg : s.pending = true ∧ g = s.generation
    · obtain ⟨hs, rfl⟩ := hg
      have hyes : s.accept s.generation = (true, s.disarm) := by
        unfold Slot.accept
        rw [hs, beq_self_eq_true]
        rfl
      have hdone : s.perform (.accept s.generation) = (.accepted s.generation, s.disarm) := by
        show (if (s.accept s.generation).1 then Event.accepted s.generation
          else .refused s.generation, (s.accept s.generation).2) = _
        rw [hyes]
        rfl
      rw [hdone]
      exact h.accepted hs
    · have hno : (s.accept g).1 = false := by
        rw [← Bool.not_eq_true, accept_iff]
        exact hg
      have hdone : s.perform (.accept g) = (.refused g, s) := by
        show (if (s.accept g).1 then Event.accepted g else .refused g, (s.accept g).2) = _
        rw [accept_snd, hno]
        rfl
      rw [hdone]
      exact h.quiet id rfl rfl

/-- Every sequence of acts keeps the slot told by its events. -/
theorem through (h : Told es s) (acts : List Act) : Told (es ++ s.events acts) (s.after acts) := by
  -- by induction on the acts, the events so far growing with them
  induction acts generalizing es s with
  | nil =>
    rw [events, List.append_nil]
    exact h
  | cons a rest ih =>
    rw [events, List.append_cons]
    exact ih (h.perform a)

end Told

/-! ## What any sequence comes to

The account is what others rely on: nothing in it mentions the flag or the counter. -/

/-- What is known of a slot when `es` is all that came of what was done with it. -/
structure Account (es : List Event) (s : Slot) : Prop where
  /-- A completion is accepted if its generation is awaited, and only then. -/
  accepts : ∀ n, (s.accept n).1 = true ↔ Awaited es n
  /-- The slot can be armed while the inbox is there; that begins the next generation. -/
  arms : ∀ inboxOpen, (s.perform (.arm inboxOpen)).1 =
    if inboxOpen then .armed ((begun es).length + 1) else .barred
  /-- The generations that were begun are numbered from 1, one after the other. -/
  numbered : begun es = List.range' 1 (begun es).length
  /-- Each is larger than all before it. -/
  increase : (begun es).Pairwise (· < ·)
  /-- 64 bits have room for them, if there are not more than these can count. -/
  room : (begun es).length < 2 ^ 64 → ∀ g ∈ begun es, g < 2 ^ 64
  /-- Those that were accepted are some of them, in the same order. -/
  among : (taken es).Sublist (begun es)
  /-- A later one is never accepted before an earlier one. -/
  follow : (taken es).Pairwise (· < ·)
  /-- None is accepted twice. -/
  once : (taken es).Nodup
  /-- What fails changes nothing. -/
  fails : ∀ a, (s.perform a).1.Fails → (s.perform a).2 = s

theorem perform_of_fails {s : Slot} {a : Act} (h : (s.perform a).1.Fails) : (s.perform a).2 = s := by
  cases a with
  | bind r => exact h.elim
  | arm inboxOpen =>
    cases inboxOpen with
    | true => exact h.elim
    | false => rfl
  | disarm => exact h.elim
  | accept g =>
    have hno : (s.accept g).1 = false := by
      cases hyes : (s.accept g).1 with
      | false => rfl
      | true =>
        change (if (s.accept g).1 then Event.accepted g else .refused g).Fails at h
        rw [hyes] at h
        exact h.elim
    show (s.accept g).2 = s
    rw [accept_snd, hno]
    rfl

/-- The generations of a slot, whatever is done with it and in whatever order. -/
theorem generations_in_order (acts : List Act) :
    Account (({} : Slot).events acts) (({} : Slot).after acts) := by
  -- the invariant of the run; what follows is read off it
  have htold := Told.new.through acts
  rw [List.nil_append] at htold
  generalize ({} : Slot).events acts = es at htold ⊢
  generalize ({} : Slot).after acts = s at htold ⊢
  have hcount : (begun es).length = s.generation := by
    rw [htold.begun, List.length_range']
  have hincrease : (begun es).Pairwise (· < ·) := by
    rw [htold.begun]
    exact List.pairwise_lt_range'
  have htaken : (taken es).Sublist (begun es) := by
    rw [htold.begun]
    exact htold.taken.trans (List.range'_sublist_right.2 (settled_le s))
  have hfollow : (taken es).Pairwise (· < ·) := hincrease.sublist htaken
  refine ⟨?_, ?_, ?_, hincrease, ?_, htaken, hfollow,
    hfollow.imp Nat.ne_of_lt, fun a => perform_of_fails⟩
  · intro n
    rw [accept_iff, htold.awaited]
  · intro inboxOpen
    rw [hcount]
    cases inboxOpen <;> rfl
  · rw [hcount]
    exact htold.begun
  · intro hroom g hg
    rw [htold.begun, List.mem_range'_1] at hg
    omega

-- a completion that comes late is refused, and so is one that comes twice
example :
    ({} : Slot).events [.arm true, .arm true, .accept 1, .accept 2, .accept 2, .arm false] =
      [.armed 1, .armed 2, .refused 1, .accepted 2, .refused 2, .barred] := by decide

end CallMedia.Slot
