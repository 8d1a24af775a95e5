/-
  Outcomes of different categories commute.

  The media server reports outcomes from wherever it likes, so outcomes of different categories may be
  queued in any order.  Within a category the order counts, since of two outcomes of one generation only
  the first is accepted; between categories it does not.

  What an outcome does is a function of the phase and the leg (`Standing.after`), and so is what is told
  of it (`Standing.told`).  Two facts carry the theorem, for outcomes of different categories:

    * the state after both does not depend on which came first (`Standing.after_comm`);
    * what is told of the one does not depend on whether the other came before (`Standing.told_after`).

  From there the argument is about lists alone: orders that agree within each category are brought
  together by moving one element to the front at a time (`foldl_sameWithin`).
-/
import CallMedia.Proofs.Descriptions
import CallMedia.Proofs.PhaseChanges
import CallMedia.Proofs.Silence

namespace CallMedia

/-! ## Orders that agree within each kind

This is about any steps that commute when they are of different kinds.  The first element of one order
is brought to the front of the other by exchanging neighbours, so that two steps at a time are all that
has to be looked at. -/

section

variable {α κ S β : Type} {key : α → κ} {step : S → α → S} {out : S → α → List β}

/-- All that is put out on the way, where each step puts something out. -/
def outputs (step : S → α → S) (out : S → α → List β) (s : S) : List α → List β
  | [] => []
  | x :: xs => out s x ++ outputs step out (step s x) xs

/-- What comes first of its kind may as well come first of all. -/
theorem outputs_front (comm : ∀ s x y, key x ≠ key y → step (step s x) y = step (step s y) x)
    (stable : ∀ s x y, key x ≠ key y → out (step s x) y = out s y) {x : α} {pre post : List α}
    (h : ∀ y ∈ pre, key y ≠ key x) (s : S) :
    (pre ++ x :: post).foldl step s = (pre ++ post).foldl step (step s x) ∧
    (outputs step out s (pre ++ x :: post)).Perm
      (out s x ++ outputs step out (step s x) (pre ++ post)) := by
  -- by induction on what comes before it: one exchange at a time, with what the step puts out
  induction pre generalizing s with
  | nil => exact ⟨rfl, .refl _⟩
  | cons y pre ih =>
    obtain ⟨hy, hpre⟩ := List.forall_mem_cons.1 h
    obtain ⟨hfold, hperm⟩ := ih hpre (step s y)
    have hswap := comm s y x hy
    constructor
    · show (pre ++ x :: post).foldl step (step s y) = (pre ++ post).foldl step (step (step s x) y)
      rw [hfold, hswap]
    · show (out s y ++ outputs step out (step s y) (pre ++ x :: post)).Perm
        (out s x ++ (out (step s x) y ++ outputs step out (step (step s x) y) (pre ++ post)))
      -- what is put out stays what it was, and only its place changes
      rw [stable s x y (Ne.symm hy), ← hswap]
      rw [stable s y x hy] at hperm
      refine (hperm.append_left (out s y)).trans ?_
      rw [← List.append_assoc, ← List.append_assoc]
      exact List.perm_append_comm.append_right _

variable [DecidableEq κ]

variable (key) in
/-- Two lists agree within each kind: of every kind they hold the same elements in the same order. -/
def SameWithin (xs ys : List α) : Prop :=
  ∀ k, xs.filter (fun x => key x = k) = ys.filter (fun x => key x = k)

/-- The first element of one list is, in the other, the first of its kind. -/
theorem SameWithin.split {x : α} {xs ys : List α} (h : SameWithin key (x :: xs) ys) :
    ∃ pre post, ys = pre ++ x :: post ∧ (∀ y ∈ pre, key y ≠ key x) ∧
      SameWithin key xs (pre ++ post) := by
  have hkind := (h (key x)).symm
  rw [List.filter_cons_of_pos (by simp), List.filter_eq_cons_iff] at hkind
  obtain ⟨pre, post, rfl, hpre, -, hpost⟩ := hkind
  have hother : ∀ y ∈ pre, key y ≠ key x := fun y hy heq => hpre y hy (decide_eq_true heq)
  refine ⟨pre, post, rfl, hother, fun k => ?_⟩
  by_cases hk : key x = k
  · -- of the kind of `x` there is nothing before it
    subst hk
    have hnone : pre.filter (fun y => key y = key x) = [] :=
      List.filter_eq_nil_iff.2 fun y hy => hpre y hy
    rw [List.filter_append, hnone, List.nil_append, hpost]
  · have hrest := h k
    rw [List.filter_cons_of_neg (by simpa using hk), List.filter_append,
      List.filter_cons_of_neg (by simpa using hk), ← List.filter_append] at hrest
    exact hrest

variable (step out) in
/-- Orders that agree within each kind lead to the same state, and put out the same things. -/
theorem foldl_sameWithin (comm : ∀ s x y, key x ≠ key y → step (step s x) y = step (step s y) x)
    (stable : ∀ s x y, key x ≠ key y → out (step s x) y = out s y) {xs ys : List α}
    (h : SameWithin key xs ys) (s : S) :
    xs.foldl step s = ys.foldl step s ∧ (outputs step out s xs).Perm (outputs step out s ys) := by
  -- by induction on the one list; the first of it is brought to the front of the other
  induction xs generalizing ys s with
  | nil =>
    have hnil : ys = [] := by
      cases ys with
      | nil => rfl
      | cons y ys =>
        have hy := h (key y)
        rw [List.filter_cons_of_pos (by simp)] at hy
        cases hy
    subst hnil
    exact ⟨rfl, .refl _⟩
  | cons x xs ih =>
    obtain ⟨pre, post, rfl, hpre, hrest⟩ := h.split
    obtain ⟨hfold, hperm⟩ := outputs_front comm stable hpre s
    obtain ⟨hfold', hperm'⟩ := ih hrest (step s x)
    exact ⟨hfold'.trans hfold.symm, (hperm'.append_left _).trans hperm.symm⟩

end

/-! ## What an outcome does to a leg

An outcome that is accepted may end what is in flight, and the call recording that it wrote, and may
bring a description.  This is written as one function of the leg (`Leg.absorbed`), for a negotiation
and for an activity alike, so that two of them can be compared without cases on what they are. -/

/-- Slots of different categories may be set in either order. -/
theorem Slots.set_comm {c c' : Category} (h : c ≠ c') (s : Slots) (v v' : Slot) :
    (s.set c v).set c' v' = (s.set c' v').set c v := by
  refine Slots.ext_get fun k => ?_
  rw [get_set, get_set, get_set, get_set]
  by_cases hk : k = c
  · rw [if_pos hk, if_neg (fun hk' => h (hk.symm.trans hk')), if_pos hk]
  · rw [if_neg hk, if_neg hk]

/-- The description that an outcome brings. -/
def Outcome.description? : Outcome → Option String
  | negotiation o => o.description?
  | _ => none

/-- Only a negotiation brings a description. -/
theorem Outcome.description?_eq_none {o : Outcome} (h : o.category ≠ .negotiation) :
    o.description? = none := by
  cases o with
  | negotiation o => exact absurd rfl h
  | _ => rfl

/-- Whether an outcome is that of an operation in flight. -/
def Completion.ends (e : Completion) (a : Active) : Bool :=
  e.category = .group a.activity ∧ e.generation = a.generation

namespace Leg

variable (l : Leg) (e e' : Completion)

/-- Whether an outcome that arrives is accepted. -/
def accepts : Bool := ((l.slot e.category).accept e.generation).1

/-- The leg once an outcome was accepted. -/
def absorbed : Leg :=
  { l.disarmed e.category with
    active := l.active.filter fun a => !e.ends a
    recording := l.recording.filter fun r => !e.ends ⟨.recording, r.generation⟩
    localSdp := e.outcome.description?.or l.localSdp }

/-- The leg once an outcome has arrived. -/
def taken : Leg := if l.accepts e then l.absorbed e else l

/-- Whoever hears of the outcomes of a category. -/
def hearer : Category → Option Recipient
  | .negotiation => l.call
  | .group a => (l.slot (.group a)).replyTo

/-- What there is to tell of an outcome. -/
def notice? (address : Address) : Outcome → Option Notice
  | .negotiation o =>
    match o.verdict with
    | .ok localSdp => some (.sessionReady ((l.described localSdp).info address))
    | .error fault => some (.failure fault)
  | .playback o => ((Outcome.playback o).result? l.endKey).map (.operationResult .playback)
  | .digitCollection o =>
    ((Outcome.digitCollection o).result? l.endKey).map (.operationResult .digitCollection)
  | .recording o => ((Outcome.recording o).result? l.endKey).map (.operationResult .recording)

/-- What is told of an outcome that arrives, and whom. -/
def told (address : Address) : List (Recipient × Notice) :=
  if l.accepts e then
    (l.hearer e.category).toList.flatMap fun r =>
      (l.notice? address e.outcome).toList.map fun n => (r, n)
  else []

/-- Of an activity there is its result to tell. -/
theorem notice?_group {a : Activity} {o : Outcome} (h : o.category = .group a) (address : Address) :
    l.notice? address o = (o.result? l.endKey).map (.operationResult a) := by
  cases o <;> cases h <;> rfl

/-- What is told of an outcome that is accepted goes to whoever hears of its category. -/
theorem told_of_notice {n : Notice} {address : Address} (ha : l.accepts e = true)
    (hn : l.notice? address e.outcome = some n) :
    l.told e address = (l.hearer e.category).toList.map fun r => (r, n) := by
  unfold told
  rw [if_pos ha, hn]
  cases l.hearer e.category <;> rfl

/-! ### The two ways in which an outcome is accepted -/

/-- What is left once an operation in flight has ended. -/
theorem filter_not_ends {α : Type} (x : Option α) (f : α → Bool) :
    (x.filter fun y => !f y) = if x.any f = true then none else x := by
  cases x with
  | none => rfl
  | some y => cases hf : f y <;> simp [Option.filter, hf]

/-- The end of the negotiation ends no activity, and brings its description. -/
theorem absorbed_negotiation (g : Nat) (o : NegotiationOutcome) :
    l.absorbed ⟨g, .negotiation o⟩ = (l.disarmed .negotiation).described o.description? := by
  -- an activity is of another category
  have hends : ∀ a, Completion.ends ⟨g, .negotiation o⟩ a = false := fun a =>
    decide_eq_false fun h => by cases h.1
  have hactive : l.active.any (Completion.ends ⟨g, .negotiation o⟩) = false := by
    cases l.active with
    | none => rfl
    | some a => exact hends a
  have hrecording : (l.recording.any fun r =>
      Completion.ends ⟨g, .negotiation o⟩ ⟨.recording, r.generation⟩) = false := by
    cases l.recording with
    | none => rfl
    | some r => exact hends _
  unfold absorbed
  rw [filter_not_ends, filter_not_ends, hactive, hrecording]
  rfl

variable {e} in
/-- The end of an activity is what `finished` says, and brings no description. -/
theorem absorbed_group {a : Activity} (h : e.category = .group a) :
    l.absorbed e = l.finished a e.generation := by
  have hends : ∀ b g, e.ends ⟨b, g⟩ = true ↔ b = a ∧ g = e.generation := by
    intro b g
    unfold Completion.ends
    rw [decide_eq_true_iff, h, Category.group.injEq, eq_comm (a := a), eq_comm (a := g)]
  have hactive : l.active.any e.ends = true ↔ l.active = some ⟨a, e.generation⟩ := by
    cases l.active with
    | none => exact ⟨nofun, nofun⟩
    | some x =>
      obtain ⟨b, g⟩ := x
      rw [Option.any_some, hends, Option.some.injEq, Active.mk.injEq]
  have hrecording : (l.recording.any fun r => e.ends ⟨.recording, r.generation⟩) = true ↔
      a = .recording ∧ l.recording.map CallRecording.generation = some e.generation := by
    cases l.recording with
    | none => exact ⟨nofun, fun hr => by cases hr.2⟩
    | some r => rw [Option.any_some, hends, Option.map_some, Option.some.injEq, eq_comm (a := a)]
  have hnone : e.outcome.description? = none :=
    Outcome.description?_eq_none fun hn => Category.group_ne_negotiation a (h.symm.trans hn)
  unfold absorbed finished
  rw [filter_not_ends, filter_not_ends, hnone, Option.none_or, h]
  simp only [hactive, hrecording]
  rfl

/-! ### Outcomes of different categories -/

/-- Only the slot of the category is disarmed. -/
theorem slot_absorbed (c : Category) :
    (l.absorbed e).slot c = if c = e.category then (l.slot e.category).disarm else l.slot c :=
  l.slot_disarmed e.category c

variable {e e'}

/-- Outcomes of different categories change different parts of the leg. -/
theorem absorbed_comm (h : e.category ≠ e'.category) :
    (l.absorbed e).absorbed e' = (l.absorbed e').absorbed e := by
  have hslots : (((l.absorbed e).absorbed e')).slots = ((l.absorbed e').absorbed e).slots := by
    have hother : (l.absorbed e).slot e'.category = l.slot e'.category := by
      rw [slot_absorbed, if_neg h.symm]
    have hother' : (l.absorbed e').slot e.category = l.slot e.category := by
      rw [slot_absorbed, if_neg h]
    show (l.slots.set _ _).set _ ((l.absorbed e).slot _).disarm =
      (l.slots.set _ _).set _ ((l.absorbed e').slot _).disarm
    rw [hother, hother', Slots.set_comm h]
  -- at most one of the two brings a description
  have hsdp : e'.outcome.description?.or (e.outcome.description?.or l.localSdp) =
      e.outcome.description?.or (e'.outcome.description?.or l.localSdp) := by
    by_cases hn : e.category = .negotiation
    · rw [Outcome.description?_eq_none (fun hn' => h (hn.trans hn'.symm)), Option.none_or,
        Option.none_or]
    · rw [Outcome.description?_eq_none hn, Option.none_or, Option.none_or]
  -- an activity and a call recording are ended by filtering, and filters commute
  have hfilter : ∀ {α : Type} (x : Option α) (f f' : α → Bool),
      (x.filter f).filter f' = (x.filter f').filter f := by
    intro α x f f'
    rw [Option.filter_filter, Option.filter_filter]
    simp only [Bool.and_comm]
  have hactive : ((l.absorbed e).absorbed e').active = ((l.absorbed e').absorbed e).active :=
    hfilter l.active _ _
  have hrecording : ((l.absorbed e).absorbed e').recording = ((l.absorbed e').absorbed e).recording :=
    hfilter l.recording _ _
  have hlocal : ((l.absorbed e).absorbed e').localSdp = ((l.absorbed e').absorbed e).localSdp := hsdp
  -- the four parts that an outcome changes; the rest of the leg is as it was
  calc (l.absorbed e).absorbed e'
      = { l with
          slots := ((l.absorbed e).absorbed e').slots
          active := ((l.absorbed e).absorbed e').active
          recording := ((l.absorbed e).absorbed e').recording
          localSdp := ((l.absorbed e).absorbed e').localSdp } := rfl
    _ = (l.absorbed e').absorbed e := by
        rw [hslots, hactive, hrecording, hlocal]
        rfl

/-- Whether an outcome is accepted is not decided by those of other categories. -/
theorem accepts_absorbed (h : e.category ≠ e'.category) : (l.absorbed e).accepts e' = l.accepts e' := by
  unfold accepts
  rw [slot_absorbed, if_neg h.symm]

/-- Who hears of an outcome is not changed by those of other categories. -/
theorem hearer_absorbed (h : e.category ≠ e'.category) :
    (l.absorbed e).hearer e'.category = l.hearer e'.category := by
  cases hc : e'.category with
  | negotiation => rfl
  | group a =>
    show ((l.absorbed e).slot (.group a)).replyTo = (l.slot (.group a)).replyTo
    rw [← hc, slot_absorbed, if_neg h.symm]

/-- Only the end of the negotiation tells of a description. -/
theorem notice?_absorbed (h : e.category ≠ e'.category) (address : Address) :
    (l.absorbed e).notice? address e'.outcome = l.notice? address e'.outcome := by
  obtain ⟨g, o⟩ := e'
  cases o with
  | negotiation o =>
    have hlocal : (l.absorbed e).localSdp = l.localSdp := by
      show e.outcome.description?.or l.localSdp = l.localSdp
      rw [Outcome.description?_eq_none h, Option.none_or]
    have hinfo : ∀ localSdp, ((l.absorbed e).described localSdp).info address =
        (l.described localSdp).info address := by
      intro localSdp
      unfold info described
      rw [hlocal]
      rfl
    unfold notice?
    simp only [hinfo]
  | _ => rfl

/-- What is told of an outcome is not changed by those of other categories. -/
theorem told_absorbed (h : e.category ≠ e'.category) (address : Address) :
    (l.absorbed e).told e' address = l.told e' address := by
  unfold told
  rw [l.accepts_absorbed h, l.hearer_absorbed h, l.notice?_absorbed h]

end Leg

/-! ## What an outcome does to a controller -/

/-- The phase and the leg of a controller. -/
@[ext] structure Standing where
  phase : Phase
  leg : Leg

namespace Standing

variable (q : Standing) (address : Address) {e e' : Completion}

/-- The phase and the leg once an outcome has arrived. -/
def after (e : Completion) : Standing := ⟨q.phase.next q.leg (.completion e), q.leg.taken e⟩

/-- What is told of an outcome that arrives, and whom. -/
def told (e : Completion) : List (Recipient × Notice) := q.leg.told e address

/-- Where an outcome leads is not decided by those of other categories. -/
theorem next_absorbed (p : Phase) (l : Leg) (h : e.category ≠ e'.category) :
    p.next (l.absorbed e) (.completion e') = p.next l (.completion e') := by
  obtain ⟨g, o⟩ := e'
  cases o with
  | negotiation o =>
    have hother : Category.negotiation ≠ e.category := h.symm
    have haccepts : ((l.absorbed e).slot .negotiation).accept g = (l.slot .negotiation).accept g := by
      rw [Leg.slot_absorbed, if_neg hother]
    rw [Phase.next_negotiation, Phase.next_negotiation, haccepts]
  | _ => rfl

/-- What is not of the negotiation leaves the phase as it is. -/
theorem next_group (p : Phase) (l : Leg) (h : e.category ≠ .negotiation) :
    p.next l (.completion e) = p := by
  obtain ⟨g, o⟩ := e
  cases o with
  | negotiation o => exact absurd rfl h
  | _ => rfl

/-- Outcomes of different categories may arrive in either order. -/
theorem after_comm (h : e.category ≠ e'.category) : (q.after e).after e' = (q.after e').after e := by
  have htaken : ∀ {e e' : Completion}, e.category ≠ e'.category → ∀ p : Phase,
      p.next (q.leg.taken e) (.completion e') = p.next q.leg (.completion e') := by
    intro e e' h p
    unfold Leg.taken
    split
    · exact next_absorbed p q.leg h
    · rfl
  have hphase : ((q.after e).after e').phase = ((q.after e').after e).phase := by
    show (q.phase.next q.leg (.completion e)).next (q.leg.taken e) (.completion e') =
      (q.phase.next q.leg (.completion e')).next (q.leg.taken e') (.completion e)
    rw [htaken h, htaken h.symm]
    -- one of the two is not of the negotiation
    by_cases hn : e.category = .negotiation
    · have hn' : e'.category ≠ .negotiation := fun hn' => h (hn.trans hn'.symm)
      rw [next_group _ _ hn', next_group _ _ hn']
    · rw [next_group _ _ hn, next_group _ _ hn]
  -- four cases, since each of the two may be accepted or not
  have hleg : (q.leg.taken e).taken e' = (q.leg.taken e').taken e := by
    have hlater := q.leg.accepts_absorbed h
    have hlater' := q.leg.accepts_absorbed h.symm
    unfold Leg.taken
    by_cases ha : q.leg.accepts e = true
    · rw [if_pos ha, hlater]
      by_cases ha' : q.leg.accepts e' = true
      · rw [if_pos ha', if_pos ha', hlater', if_pos ha, q.leg.absorbed_comm h]
      · rw [if_neg ha', if_neg ha', if_pos ha]
    · rw [if_neg ha]
      by_cases ha' : q.leg.accepts e' = true
      · rw [if_pos ha', hlater', if_neg ha]
      · rw [if_neg ha', if_neg ha]
  exact Standing.ext hphase hleg

/-- What is told of an outcome does not depend on those of other categories before it. -/
theorem told_after (h : e.category ≠ e'.category) : (q.after e).told address e' = q.told address e' := by
  show (q.leg.taken e).told e' address = q.leg.told e' address
  unfold Leg.taken
  split
  · exact q.leg.told_absorbed h address
  · rfl

end Standing

/-! ## One outcome

Here the functions above meet the controller: a turn that handles an outcome is one step of
`Standing`. -/

section

variable {σ : Type} {site : Site σ} {w : Surroundings} {p p' : Phase} {l l' : Leg} {e : Completion}
  {es : List Effect}

/-- The arrival of an outcome, as a function of the phase and the leg. -/
theorem Turned.arrives (h : Turned site w p l (.completion e) p' l' es) :
    Standing.mk p' l' = (Standing.mk p l).after e ∧
      es = ((Standing.mk p l).told site.server.address e).map fun n => w.telling n.1 n.2 := by
  have hphase := h.next
  have haccepts : ∀ {c g}, l.Awaits c g → ((l.slot c).accept g).1 = true :=
    fun ha => (Slot.accept_iff _ _).2 ha
  -- the phase is what `Phase.next` says in every case, and the leg is followed by cases
  suffices hrest : l' = l.taken e ∧
      es = (l.told e site.server.address).map fun n => w.telling n.1 n.2 from
    ⟨congr (congrArg Standing.mk hphase) hrest.1, hrest.2⟩
  have htold : ∀ {n}, l.accepts e = true → l.notice? site.server.address e.outcome = some n →
      (l.told e site.server.address).map (fun n => w.telling n.1 n.2) =
        (l.hearer e.category).toList.map fun r => w.telling r n := by
    intro n ha hn
    rw [l.told_of_notice e ha hn, List.map_map]
    rfl
  unfold Leg.taken
  cases h with
  | ignored item hout =>
    have hno : ¬ l.accepts e = true := fun ha => hout ((Slot.accept_iff _ _).1 ha)
    unfold Leg.told
    rw [if_neg hno, if_neg hno]
    exact ⟨rfl, rfl⟩
  | agreed g o localSdp hp awaited ho =>
    have hyes : l.accepts ⟨g, .negotiation o⟩ = true := haccepts awaited
    rw [if_pos hyes, l.absorbed_negotiation, NegotiationOutcome.description_of_verdict ho]
    refine ⟨rfl, (htold hyes ?_).symm⟩
    show (match o.verdict with | .ok localSdp => _ | .error fault => _) = _
    rw [ho]
    rfl
  | broke g o fault hp awaited ho =>
    have hyes : l.accepts ⟨g, .negotiation o⟩ = true := haccepts awaited
    rw [if_pos hyes, l.absorbed_negotiation, NegotiationOutcome.description_of_fault ho]
    refine ⟨rfl, (htold hyes ?_).symm⟩
    show (match o.verdict with | .ok localSdp => _ | .error fault => _) = _
    rw [ho]
  | finished e a result hcat awaited hr =>
    have hyes : l.accepts e = true := haccepts (hcat ▸ awaited)
    rw [if_pos hyes, l.absorbed_group hcat]
    refine ⟨rfl, ?_⟩
    rw [htold hyes (n := .operationResult a result), hcat]
    · rfl
    · rw [l.notice?_group hcat, hr]
      rfl

end

/-! ## Nobody outside is asked

The media server and the stores are asked in other turns.  This is read off the handlers, for it is a
statement about the desk, and a turn does not say what the desk of the server looks like. -/

namespace Desk

variable {σ : Type} (d : Desk σ)

theorem outside_tell (r : Recipient) (n : Notice) : (d.tell r n).outside = d.outside := by
  unfold tell
  split <;> rfl

theorem outside_tellCall (n : Notice) : (d.tellCall n).outside = d.outside := by
  unfold tellCall
  split
  · exact d.outside_tell _ n
  · rfl

theorem outside_report (a : Activity) (g : Nat) (result : Except Fault String) :
    (d.report a g result).outside = d.outside := by
  unfold report
  dsimp only
  split
  · exact outside_tell _ _ _
  · rfl

theorem outside_recordingOver (g : Nat) : (d.recordingOver g).outside = d.outside := by
  unfold recordingOver
  split <;> rfl

end Desk

namespace Controller

variable {σ : Type} (site : Site σ) (c : Controller σ)

theorem outside_enter (t : Trigger) {target : Phase} (h : target = .active ∨ target = .failed) :
    (c.enter site t target).desk.outside = c.desk.outside := by
  have hactive : ∀ d : Desk σ, (d.enterActive site t).outside = d.outside := by
    intro d
    unfold Desk.enterActive
    rw [Desk.outside_tellCall]
    split <;> rfl
  have hfailed : ∀ d : Desk σ, (d.enterFailed t).outside = d.outside :=
    fun d => Desk.outside_tellCall _ _
  unfold enter
  dsimp only
  split
  · next position hstep =>
    obtain ⟨-, rfl⟩ := ((lifecycle site).step_eq_ok_iff _ _ _ _).1 hstep
    rcases h with rfl | rfl
    · exact hactive _
    · exact hfailed _
  · rfl

theorem outside_negotiationEnded (o : NegotiationOutcome) :
    (c.negotiationEnded site o).desk.outside = c.desk.outside := by
  have hfailed : ∀ fault, (c.negotiationFailed site fault).desk.outside = c.desk.outside := by
    intro fault
    unfold negotiationFailed
    split
    · exact c.outside_enter site _ (.inr rfl)
    · exact Desk.outside_tellCall _ _
  cases o with
  | networkStreamFailure => exact hfailed _
  | failed reason => exact hfailed _
  | _ => exact c.outside_enter site _ (.inl rfl)

theorem outside_outcomeAccepted (g : Nat) (o : Outcome) :
    (c.outcomeAccepted site g o).desk.outside = c.desk.outside := by
  cases o with
  | negotiation o => exact c.outside_negotiationEnded site o
  | playback o => cases o <;> exact Desk.outside_report _ _ _ _
  | digitCollection o => cases o <;> exact Desk.outside_report _ _ _ _
  | recording o =>
    cases o with
    | completed qualifier =>
      exact (Desk.outside_report _ _ _ _).trans (Desk.outside_recordingOver _ g)
    | failed reason =>
      exact (Desk.outside_report _ _ _ _).trans (Desk.outside_recordingOver _ g)

/-- Handling an outcome asks nobody outside. -/
theorem outside_completion (e : Completion) :
    (c.handle site (.completion e)).desk.outside = c.desk.outside := by
  show ((c.noteHandling _).arrive site e).desk.outside = c.desk.outside
  unfold arrive
  dsimp only
  split
  · exact outside_outcomeAccepted site _ _ _
  · rfl

/-! ## Any number of outcomes

Handling outcomes is a fold of `Standing.after`, with the notices put out on the way; so the lemma about
lists applies. -/

/-- The controller once it has handled outcomes, one after the other. -/
def handleAll (es : List Completion) : Controller σ :=
  es.foldl (fun c e => c.handle site (.completion e)) c

/-- What was done meanwhile, in order. -/
def effectsOf (es : List Completion) : List Effect :=
  (c.handleAll site es).desk.trace.drop c.desk.trace.length

variable {c}

/-- What the handling of outcomes comes to, as a function of the phase and the leg. -/
theorem handleAll_goes (h : Sound c.phase c.desk.leg) (es : List Completion) :
    Standing.mk (c.handleAll site es).phase (c.handleAll site es).desk.leg =
      es.foldl Standing.after ⟨c.phase, c.desk.leg⟩ ∧
    c.desk.Goes ((outputs Standing.after (fun q => q.told site.server.address) ⟨c.phase, c.desk.leg⟩
      es).map fun n => c.desk.surroundings.telling n.1 n.2) (c.handleAll site es).desk ∧
    (c.handleAll site es).desk.outside = c.desk.outside := by
  -- by induction on the outcomes, from a controller that stays sound
  induction es generalizing c with
  | nil => exact ⟨rfl, .refl _, rfl⟩
  | cons e es ih =>
    obtain ⟨shown, hturned, hgo⟩ := handle_turns site h (.completion e)
    obtain ⟨hafter, hshown⟩ := hturned.arrives
    obtain ⟨hfold, hrest, houtside⟩ := ih (hturned.sound h)
    have htelling := hgo.telling
    subst hshown
    rw [hafter] at hfold
    rw [hafter, htelling] at hrest
    refine ⟨hfold, ?_, houtside.trans (c.outside_completion site e)⟩
    have hall := hgo.trans hrest
    rw [← List.map_append] at hall
    exact hall

end Controller

/-- What a mailbox receives, in order. -/
def deliveries (mailbox : String) (es : List Effect) : List Notice :=
  es.filterMap fun
    | .told r n true => if r.mailbox = mailbox then some n else none
    | _ => none

namespace Controller

variable {σ : Type} {site : Site σ} {c : Controller σ}

/-- While outcomes are handled nothing is done but to tell of them. -/
theorem effectsOf_told (h : Sound c.phase c.desk.leg) (es : List Completion) :
    (c.effectsOf site es).filter Effect.visible =
      (outputs Standing.after (fun q => q.told site.server.address) ⟨c.phase, c.desk.leg⟩ es).map
        fun n => c.desk.surroundings.telling n.1 n.2 := by
  obtain ⟨-, hgo, -⟩ := handleAll_goes site h es
  obtain ⟨done, htrace, hshown, -⟩ := hgo.trace
  unfold effectsOf
  rw [htrace, List.drop_left, hshown]

variable (site) in
/-- Outcomes change the phase, the leg and what is written down, and nothing else. -/
theorem handleAll_eq (h : Sound c.phase c.desk.leg) (es : List Completion) :
    ∃ trace, c.handleAll site es =
      ⟨(es.foldl Standing.after ⟨c.phase, c.desk.leg⟩).phase, { c.desk with
        leg := (es.foldl Standing.after ⟨c.phase, c.desk.leg⟩).leg, trace }⟩ := by
  obtain ⟨hstanding, hgo, houtside⟩ := handleAll_goes site h es
  -- notices hand over no sink, and report none
  have hnone : ∀ {α : Type} (f : Effect → Option α), (∀ r n heard, f (.told r n heard) = none) →
      ∀ ns : List (Recipient × Notice),
        (ns.map fun n => c.desk.surroundings.telling n.1 n.2).filterMap f = [] := by
    intro α f hf ns
    rw [List.filterMap_map, List.filterMap_eq_nil_iff]
    exact fun n _ => hf _ _ _
  have hsinks := hgo.sinks
  have hposted := hgo.posted
  rw [hnone _ fun _ _ _ => rfl, List.append_nil] at hsinks hposted
  refine ⟨(c.handleAll site es).desk.trace, ?_⟩
  dsimp only
  rw [← hstanding, ← houtside, ← hsinks, ← hposted, ← hgo.callers, ← hgo.deaf, ← hgo.files,
    ← hgo.clock]

end Controller

/-- Outcomes of different categories commute.  In every reachable state, any outcomes, awaited or stale,
    that are handled in two orders which agree within each category leave the same controller, but for
    what is written down; nobody outside is asked for anything, and every mailbox receives the same
    notices. -/
theorem completions_commute {σ : Type} {site : Site σ} {c : Controller σ} (h : Reachable site c)
    {es es' : List Completion} (hsame : SameWithin Completion.category es es') :
    (∃ trace, c.handleAll site es' = (c.handleAll site es).atDesk fun d => { d with trace }) ∧
    (∀ e ∈ c.effectsOf site es, e.asks = false) ∧
    ∀ mailbox, (deliveries mailbox (c.effectsOf site es)).Perm
      (deliveries mailbox (c.effectsOf site es')) := by
  -- the two facts about standings, put into the lemma about lists
  obtain ⟨hfold, hperm⟩ := foldl_sameWithin Standing.after (fun q => q.told site.server.address)
    (fun q e e' hne => q.after_comm hne) (fun q e e' hne => q.told_after _ hne) hsame
    ⟨c.phase, c.desk.leg⟩
  refine ⟨?_, ?_, fun mailbox => ?_⟩
  · obtain ⟨trace, heq⟩ := Controller.handleAll_eq site h.sound es
    obtain ⟨trace', heq'⟩ := Controller.handleAll_eq site h.sound es'
    rw [heq, heq', hfold]
    exact ⟨trace', rfl⟩
  · intro e he
    by_cases hv : e.visible = true
    · have hshown : e ∈ (c.effectsOf site es).filter Effect.visible := List.mem_filter.2 ⟨he, hv⟩
      rw [Controller.effectsOf_told h.sound] at hshown
      obtain ⟨n, -, rfl⟩ := List.mem_map.1 hshown
      rfl
    · cases e with
      | logged line => rfl
      | _ => exact absurd rfl hv
  · have hshown : ∀ es, deliveries mailbox (c.effectsOf site es) =
        deliveries mailbox ((c.effectsOf site es).filter Effect.visible) := fun es =>
      (Effect.filterMap_visible (fun _ => rfl) _).symm
    rw [hshown, hshown, Controller.effectsOf_told h.sound, Controller.effectsOf_told h.sound]
    exact (hperm.map _).filterMap _

namespace Sample

def renegotiating : Controller Unit := handled played answer

def processed : Completion := ⟨2, .negotiation .answerProcessed⟩

/-- The other side answers while a play is in flight, whose end is queued. -/
theorem run_renegotiating :
    Run site [⟨fresh, create⟩, ⟨offered, .completion offer⟩, ⟨active, group⟩, ⟨grouped, play⟩,
      ⟨played, answer⟩] renegotiating [playEnd] :=
  .turn _ played [playEnd] answer run_played nofun

end Sample

/-- The end of the play and the end of the negotiation may come in either order. -/
theorem completions_commute_renegotiating :
    Reachable Sample.site Sample.renegotiating ∧
    (Sample.renegotiating.handleAll Sample.site [Sample.processed, Sample.playEnd]).phase = .active ∧
    deliveries Sample.player.mailbox
        (Sample.renegotiating.effectsOf Sample.site [Sample.processed, Sample.playEnd]) =
      [.operationResult .playback (.ok playCompleted)] ∧
    ∃ trace, Sample.renegotiating.handleAll Sample.site [Sample.processed, Sample.playEnd] =
      (Sample.renegotiating.handleAll Sample.site [Sample.playEnd, Sample.processed]).atDesk
        fun d => { d with trace } := by
  have hreach : Reachable Sample.site Sample.renegotiating := ⟨_, _, Sample.run_renegotiating⟩
  have hsame : SameWithin Completion.category [Sample.playEnd, Sample.processed]
      [Sample.processed, Sample.playEnd] := by
    intro k
    rcases k with _ | _ | _ | _ <;> rfl
  obtain ⟨hstate, -, hmail⟩ := completions_commute hreach hsame
  have hplayer := hmail Sample.player.mailbox
  refine ⟨hreach, rfl, ?_, hstate⟩
  exact hplayer.symm.eq_singleton

end CallMedia
