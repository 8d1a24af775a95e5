/-
  Callers are admitted in the order in which they came.

  A caller that makes a request gets a permit at once or gets in line; who is in line gets the permits
  that are given back, the first first.  What one move does to the line is `Inbox.Shift`: some arrive at
  its end, some leave it, and of those who then wait a first part is admitted.

  Over a whole history the admissions are read off the stages (`Happening.admitted`), and so are those
  who leave the line without a permit (`Happening.departed`).  Everybody who was admitted, followed by
  everybody who still waits, is everybody who lined up, in that very order, less those who left
  (`Served.queue`); and who leaves gave up, or was refused because the controller is gone.
-/
import CallMedia.Proofs.Moves

namespace CallMedia

/-! ## The line before an inbox

A `Shift` compares the line before a step with the line after it.  Each operation of an inbox is one,
with the callers that arrive and those that leave as its two arguments. -/

namespace Inbox

/-- The callers that have not sent yet: those with a permit in hand, then those that wait. -/
def line (i : Inbox) : List Nat := i.granted ++ i.waiting

/-- Nobody waits while a permit is free. -/
def Fair (i : Inbox) : Prop := 0 < i.free → i.waiting = []

/-- What becomes of the line: some arrive at its end, some leave it, and some are admitted. -/
structure Shift (i j : Inbox) (arrives leaves : List Nat) : Prop where
  fair : j.Fair
  moves : ∃ passed, j.granted = i.granted.filter (· ∉ leaves) ++ passed ∧
    (i.waiting ++ arrives).filter (· ∉ leaves) = passed ++ j.waiting

variable {i j : Inbox} {n : Nat}

/-- Where nobody leaves everybody stays. -/
theorem stay (xs : List Nat) : xs.filter (· ∉ ([] : List Nat)) = xs :=
  List.filter_eq_self.2 fun _ _ => decide_eq_true List.not_mem_nil

/-- Who is not in a line cannot leave it. -/
theorem stay_of_not_mem {xs : List Nat} (h : n ∉ xs) : xs.filter (· ∉ [n]) = xs := by
  refine List.filter_eq_self.2 fun m hm => decide_eq_true fun hmem => ?_
  rw [List.mem_singleton] at hmem
  exact h (hmem ▸ hm)

/-- To take one out of a line in which nobody stands twice is to let it leave. -/
theorem erase_eq_leave {xs : List Nat} (h : xs.Nodup) : xs.erase n = xs.filter (· ∉ [n]) := by
  rw [h.erase_eq_filter]
  refine List.filter_congr fun m _ => ?_
  by_cases hm : m = n
  · simp [hm]
  · simp [hm, bne_iff_ne.2 hm]

/-- An inbox whose line is the same afterwards is shifted by nothing. -/
theorem Shift.of_same (hgranted : j.granted = i.granted) (hwaiting : j.waiting = i.waiting)
    (hfair : j.Fair) : Shift i j [] [] := by
  refine ⟨hfair, [], ?_, ?_⟩
  · rw [stay, List.append_nil, hgranted]
  · rw [stay, List.append_nil, List.nil_append, hwaiting]

/-- A permit that is given back goes to the first in line. -/
theorem shift_giveBack (h : i.Fair) : Shift i i.giveBack [] [] := by
  unfold giveBack
  cases hw : i.waiting with
  -- nobody waits, so the permit becomes free
  | nil => exact .of_same rfl hw.symm fun _ => rfl
  | cons first rest =>
    -- somebody waits, so that no permit was free, and none is afterwards
    have hnone : ¬ 0 < i.free := fun hfree => by rw [h hfree] at hw; cases hw
    refine ⟨fun hfree => absurd hfree hnone, [first], ?_, ?_⟩
    · rw [stay]
    · rw [stay, List.append_nil, hw]
      rfl

/-- Two shifts in which nobody arrives or leaves are one: who is admitted by the second follows who is
    admitted by the first. -/
theorem Shift.trans {k : Inbox} (h : Shift i j [] []) (h' : Shift j k [] []) : Shift i k [] [] := by
  obtain ⟨-, passed, hg, hw⟩ := h
  obtain ⟨hfair, passed', hg', hw'⟩ := h'
  rw [stay] at hg hg'
  rw [stay, List.append_nil] at hw hw'
  refine ⟨hfair, passed ++ passed', ?_, ?_⟩
  · rw [stay, hg', hg, List.append_assoc]
  · rw [stay, List.append_nil, hw, hw', List.append_assoc]

/-- Who makes a request arrives at the end of the line.  If a permit is free nobody waits, and it is
    admitted at once. -/
theorem shift_ask (h : i.Fair) (n : Nat) : Shift i (i.ask n) [n] [] := by
  unfold ask
  split
  · next hfree =>
    refine ⟨fun _ => h hfree, [n], ?_, ?_⟩
    · rw [stay]
    · rw [stay, h hfree]
      rfl
  · next hfree =>
    refine ⟨fun hfree' => absurd hfree' hfree, [], ?_, ?_⟩
    · rw [stay, List.append_nil]
    · rw [stay, List.nil_append]

/-- Whoever is admitted does not wait any more. -/
theorem not_waiting_of_granted (h : i.line.Nodup) (hn : n ∈ i.granted) : n ∉ i.waiting :=
  fun hw => (List.nodup_append.1 h).2.2 n hn n hw rfl

/-- Who sends leaves the line, and takes its permit into the inbox. -/
theorem shift_send (hfair : i.Fair) (h : i.line.Nodup) (hn : n ∈ i.granted) (item : Item) :
    Shift i (i.send n item) [] [n] := by
  unfold send
  rw [if_pos hn]
  refine ⟨hfair, [], ?_, ?_⟩
  · rw [List.append_nil, erase_eq_leave (List.nodup_append.1 h).1]
  · rw [List.append_nil, List.nil_append, stay_of_not_mem (not_waiting_of_granted h hn)]

/-- Who withdraws leaves the line; if it had a permit in hand, the first who waits is admitted. -/
theorem shift_withdraw (hfair : i.Fair) (h : i.line.Nodup) (n : Nat) :
    Shift i (i.withdraw n) [] [n] := by
  unfold withdraw
  split
  · next hn =>
    -- the permit in its hand goes to the first in line
    have hrest : Fair { i with granted := i.granted.erase n } := hfair
    obtain ⟨hfair', passed, hg, hw⟩ := shift_giveBack hrest
    rw [stay] at hg hw
    refine ⟨hfair', passed, ?_, ?_⟩
    · rw [hg, erase_eq_leave (List.nodup_append.1 h).1]
    · rw [List.append_nil, stay_of_not_mem (not_waiting_of_granted h hn)]
      exact (List.append_nil _).symm.trans hw
  · next hn =>
    refine ⟨fun hfree => ?_, [], ?_, ?_⟩
    · show i.waiting.erase n = []
      rw [hfair hfree]
      rfl
    · rw [List.append_nil, stay_of_not_mem hn]
    · rw [List.append_nil, List.nil_append, erase_eq_leave (List.nodup_append.1 h).2.1]

/-- Taking an item gives back the permit that the item held, if it held one. -/
theorem shift_take {item : Item} (hfair : i.Fair) (h : i.take = some (item, j)) :
    Shift i j [] [] := by
  unfold take at h
  split at h
  · cases h
  · next rest hitems =>
    cases h
    split
    · have hrest : Fair { i with items := rest } := hfair
      exact ⟨(shift_giveBack hrest).fair, (shift_giveBack hrest).moves⟩
    · exact .of_same rfl rfl hfair

/-- The permits of items that are lost are given back one by one. -/
theorem shift_discard (hfair : i.Fair) (lost : List Item) : Shift i (i.discard lost) [] [] := by
  induction lost generalizing i with
  | nil => exact .of_same rfl rfl hfair
  | cons item rest ih =>
    -- each permit that comes back may admit one more, hence `Shift.trans`
    unfold discard
    split
    · exact (shift_giveBack hfair).trans (ih (shift_giveBack hfair).fair)
    · exact ih hfair

/-- An inbox that is thrown away gives back the permits of all it held. -/
theorem shift_abandon (hfair : i.Fair) : Shift i i.abandon [] [] := by
  have hempty : Fair { i with items := [] } := hfair
  have hshift := shift_discard hempty i.items
  exact ⟨hshift.fair, hshift.moves⟩

/-- Completions hold no permit, and so leave the line alone. -/
theorem shift_posted (hfair : i.Fair) (es : List Completion) : Shift i (es.foldl post i) [] [] := by
  rw [foldl_post]
  exact .of_same rfl rfl hfair

/-- Who is in line afterwards: who was before or arrived, and did not leave. -/
theorem Shift.mem_line {arrives leaves : List Nat} (h : Shift i j arrives leaves)
    (hapart : ∀ m ∈ arrives, m ∉ leaves) :
    n ∈ j.line ↔ n ∈ arrives ∨ (n ∈ i.line ∧ n ∉ leaves) := by
  obtain ⟨-, passed, hg, hw⟩ := h
  -- the line as a whole: those who were in it and those who arrive, less those who leave
  have hline : j.line = (i.line ++ arrives).filter (· ∉ leaves) := by
    unfold line
    rw [hg, List.append_assoc, ← hw, ← List.filter_append, List.append_assoc]
  rw [hline, List.mem_filter, List.mem_append, decide_eq_true_iff]
  constructor
  · rintro ⟨hmem | hmem, hstays⟩
    · exact .inr ⟨hmem, hstays⟩
    · exact .inl hmem
  · rintro (hmem | ⟨hmem, hstays⟩)
    · exact ⟨.inr hmem, hapart n hmem⟩
    · exact ⟨.inl hmem, hstays⟩

/-! ## Those who lined up, were admitted, and left

A shift does not show in two inboxes who left because it sent, and who left without a permit.  Two
definitions read the second off: `admittedTo` and `departedFrom`.  `Queue` is the invariant that ties
the line to its history, and `Queue.shift` the step lemma. -/

/-- The callers that get a permit between two inboxes. -/
def admittedTo (i j : Inbox) : List Nat := j.granted.filter (· ∉ i.granted)

/-- The callers that leave the line between two inboxes without a permit. -/
def departedFrom (i j : Inbox) : List Nat :=
  i.waiting.filter fun n => n ∉ j.waiting ∧ n ∉ j.granted

/-- How the line came about: those admitted so far, followed by those who wait, are those who lined up,
    in that order, less those who departed. -/
structure Queue (lined admitted departed : List Nat) (i : Inbox) : Prop where
  fair : i.Fair
  distinct : lined.Nodup
  order : admitted ++ i.waiting = lined.filter (· ∉ departed)
  /-- The permits in hand were given out in this order. -/
  hands : i.granted.Sublist admitted
  known : ∀ n ∈ departed, n ∈ lined

namespace Queue

variable {lined admitted departed arrives leaves : List Nat}

/-- Nobody is admitted twice, nor waits after having been admitted. -/
theorem nodup (h : Queue lined admitted departed i) : (admitted ++ i.waiting).Nodup := by
  rw [h.order]
  exact h.distinct.filter _

/-- Nobody stands in line twice. -/
theorem line_nodup (h : Queue lined admitted departed i) : i.line.Nodup :=
  h.nodup.sublist (h.hands.append_right _)

/-- Whoever is in line has lined up. -/
theorem lined_of_mem (h : Queue lined admitted departed i) (hn : n ∈ i.line) : n ∈ lined := by
  have hmem : n ∈ admitted ++ i.waiting := (h.hands.append_right _).subset hn
  rw [h.order] at hmem
  exact (List.mem_filter.1 hmem).1

/-- What the two inboxes show of a shift. -/
theorem shown (h : Queue lined admitted departed i) (hfresh : ∀ m ∈ arrives, m ∉ lined)
    {passed : List Nat} (hgranted : j.granted = i.granted.filter (· ∉ leaves) ++ passed)
    (hwaiting : (i.waiting ++ arrives).filter (· ∉ leaves) = passed ++ j.waiting) :
    admittedTo i j = passed ∧ departedFrom i j = i.waiting.filter (· ∈ leaves) := by
  -- who is admitted waited or arrived, and so had no permit before
  have hfrom : ∀ m ∈ passed ++ j.waiting, m ∈ i.waiting ++ arrives ∧ m ∉ leaves := by
    intro m hm
    rw [← hwaiting] at hm
    exact ⟨(List.mem_filter.1 hm).1, of_decide_eq_true (List.mem_filter.1 hm).2⟩
  have hnew : ∀ m ∈ passed, m ∉ i.granted := by
    intro m hm hg
    rcases List.mem_append.1 (hfrom m (List.mem_append_left _ hm)).1 with hw | ha
    · exact not_waiting_of_granted h.line_nodup hg hw
    · exact hfresh m ha (h.lined_of_mem (List.mem_append_left _ hg))
  constructor
  · unfold admittedTo
    rw [hgranted, List.filter_append]
    have hold : (i.granted.filter (· ∉ leaves)).filter (· ∉ i.granted) = [] :=
      List.filter_eq_nil_iff.2 fun m hm hout => of_decide_eq_true hout (List.mem_filter.1 hm).1
    have hpassed : passed.filter (· ∉ i.granted) = passed :=
      List.filter_eq_self.2 fun m hm => decide_eq_true (hnew m hm)
    rw [hold, hpassed, List.nil_append]
  · refine List.filter_congr fun m hm => decide_eq_decide.2 ?_
    constructor
    · rintro ⟨hw, hg⟩
      refine Decidable.byContradiction fun hstays => ?_
      have hmem : m ∈ passed ++ j.waiting := by
        rw [← hwaiting]
        exact List.mem_filter.2 ⟨List.mem_append_left _ hm, decide_eq_true hstays⟩
      rcases List.mem_append.1 hmem with hp | hw'
      · exact hg (hgranted ▸ List.mem_append_right _ hp)
      · exact hw hw'
    · intro hleaves
      refine ⟨fun hw => (hfrom m (List.mem_append_right _ hw)).2 hleaves, fun hg => ?_⟩
      rw [hgranted] at hg
      rcases List.mem_append.1 hg with hold | hp
      · exact of_decide_eq_true (List.mem_filter.1 hold).2 hleaves
      · exact (hfrom m (List.mem_append_left _ hp)).2 hleaves

/-- One step further. -/
theorem shift (h : Queue lined admitted departed i) (hshift : Shift i j arrives leaves)
    (hfresh : ∀ m ∈ arrives, m ∉ lined) (hone : arrives.Nodup)
    (hapart : ∀ m ∈ arrives, m ∉ leaves) :
    Queue (lined ++ arrives) (admitted ++ admittedTo i j) (departed ++ departedFrom i j) j := by
  obtain ⟨hfair, passed, hgranted, hwaiting⟩ := hshift
  obtain ⟨hadmitted, hdeparted⟩ := h.shown hfresh hgranted hwaiting
  rw [hadmitted, hdeparted]
  have hknown : ∀ m ∈ departed ++ i.waiting.filter (· ∈ leaves), m ∈ lined := by
    intro m hm
    rcases List.mem_append.1 hm with hm | hm
    · exact h.known m hm
    · exact h.lined_of_mem (List.mem_append_right _ (List.mem_filter.1 hm).1)
  refine
    { fair := hfair
      distinct := List.nodup_append.2 ⟨h.distinct, hone, fun m hm m' hm' heq => ?_⟩
      order := ?_
      hands := ?_
      known := fun m hm => List.mem_append_left _ (hknown m hm) }
  · -- who arrives was not there before
    exact hfresh m' hm' (heq ▸ hm)
  · -- those who leave now were neither admitted before, nor do they arrive now
    have hbefore : lined.filter (· ∉ departed ++ i.waiting.filter (· ∈ leaves)) =
        admitted ++ i.waiting.filter (· ∉ leaves) := by
      have hsplit : lined.filter (· ∉ departed ++ i.waiting.filter (· ∈ leaves)) =
          (admitted ++ i.waiting).filter (· ∉ i.waiting.filter (· ∈ leaves)) := by
        rw [h.order, List.filter_filter]
        refine List.filter_congr fun m _ => ?_
        simp [List.mem_append, not_or, Bool.and_comm]
      have hstay : admitted.filter (· ∉ i.waiting.filter (· ∈ leaves)) = admitted :=
        List.filter_eq_self.2 fun m hm => decide_eq_true fun hw =>
          (List.nodup_append.1 h.nodup).2.2 m hm m (List.mem_filter.1 hw).1 rfl
      rw [hsplit, List.filter_append, hstay]
      congr 1
      refine List.filter_congr fun m hm => ?_
      simp [List.mem_filter, hm]
    have harrives : arrives.filter (· ∉ departed ++ i.waiting.filter (· ∈ leaves)) =
        arrives.filter (· ∉ leaves) := by
      refine List.filter_congr fun m hm => decide_eq_decide.2 ?_
      exact ⟨fun _ => hapart m hm, fun _ hgone => hfresh m hm (hknown m hgone)⟩
    rw [List.filter_append, hbefore, harrives, List.append_assoc, List.append_assoc, ← hwaiting,
      List.filter_append]
  · -- the permits still in hand, then those that were just given out
    rw [hgranted]
    exact (List.filter_sublist.trans h.hands).append (List.Sublist.refl passed)

end Queue

end Inbox

/-! ## The line of a service

What was said of a single inbox is now said of the inboxes of a history, move by move. -/

namespace Happening

variable {σ : Type} (site : Site σ) (h : Happening σ)

/-- The caller that lines up. -/
def linesUp? : Option Nat :=
  match h.move with
  | .ask number _ => if h.before.service.isOpen then some number else none
  | _ => none

/-- The callers that get a permit. -/
def admitted : List Nat := h.before.service.inbox.admittedTo (h.after site).service.inbox

/-- The callers that leave the line without a permit. -/
def departed : List Nat := h.before.service.inbox.departedFrom (h.after site).service.inbox

end Happening

section

variable {σ : Type}

/-- Those who lined up, in order. -/
def linedOf (hs : List (Happening σ)) : List Nat := hs.filterMap Happening.linesUp?

/-- Those who were admitted, in order. -/
def admittedOf (site : Site σ) (hs : List (Happening σ)) : List Nat :=
  hs.flatMap (Happening.admitted site)

/-- Those who left the line without a permit. -/
def departedOf (site : Site σ) (hs : List (Happening σ)) : List Nat :=
  hs.flatMap (Happening.departed site)

variable {site : Site σ} {st : Stage σ} {move : Move σ} {ending : Option Ending} {inbox : Inbox}
  {callers : List Caller} {hand : Option Item} {items : List Item}

/-- What a move does to the line.  Who leaves it has sent, or gives up, or is refused. -/
theorem Stage.Moved.shift (h : st.Moved move ending inbox callers hand items)
    (hfair : st.service.inbox.Fair) (hline : st.service.inbox.line.Nodup) :
    ∃ leaves, st.service.inbox.Shift inbox (Happening.linesUp? ⟨st, move⟩).toList leaves ∧
      (∀ n ∈ (Happening.linesUp? ⟨st, move⟩).toList, n ∉ leaves) ∧
      ∀ n ∈ leaves, move.by? = some n ∧
        (n ∈ st.service.inbox.granted ∨ ending = some .refused ∨ ending = some .gaveUp) := by
  have hstay : st.service.inbox.Shift st.service.inbox [] [] := .of_same rfl rfl hfair
  -- only the three ends of a caller let anybody leave
  cases h with
  | aside move hby htake hkill hhandle =>
    have hnone : Happening.linesUp? ⟨st, move⟩ = none := by
      cases move <;> first | rfl | cases hby
    rw [hnone]
    exact ⟨[], hstay, nofun, nofun⟩
  | took item inbox hhand htake => exact ⟨[], Inbox.shift_take hfair htake, nofun, nofun⟩
  | handled item es hhand hitem => exact ⟨[], Inbox.shift_posted hfair es, nofun, nofun⟩
  | answered number hhand => exact ⟨[], hstay, nofun, nofun⟩
  | completed sink outcome es => exact ⟨[], Inbox.shift_posted hfair es, nofun, nofun⟩
  | asked number request hopen =>
    have hlines : Happening.linesUp? ⟨st, .ask number request⟩ = some number := if_pos hopen
    rw [hlines]
    exact ⟨[], Inbox.shift_ask hfair number, nofun, nofun⟩
  | rebuffed number request hopen =>
    have hnone : Happening.linesUp? ⟨st, .ask number request⟩ = none := by
      show (if st.service.isOpen then _ else _) = _
      rw [hopen]
      rfl
    rw [hnone]
    exact ⟨[], hstay, nofun, nofun⟩
  | waited c hc hanswer => exact ⟨[], hstay, nofun, nofun⟩
  | collected c snapshot hc hanswer => exact ⟨[], hstay, nofun, nofun⟩
  | refused c hc hanswer hopen =>
    exact ⟨[c.number], Inbox.shift_withdraw hfair hline _, nofun,
      List.forall_mem_singleton.2 ⟨rfl, .inr (.inl rfl)⟩⟩
  | sent c sender message hc hanswer hrequest hgranted =>
    exact ⟨[c.number], Inbox.shift_send hfair hline hgranted _, nofun,
      List.forall_mem_singleton.2 ⟨rfl, .inl hgranted⟩⟩
  | queued c hc hanswer hrequest hgranted =>
    exact ⟨[c.number], Inbox.shift_send hfair hline hgranted _, nofun,
      List.forall_mem_singleton.2 ⟨rfl, .inl hgranted⟩⟩
  | gaveUp number hc =>
    exact ⟨[number], Inbox.shift_withdraw hfair hline _, nofun,
      List.forall_mem_singleton.2 ⟨rfl, .inr (.inr rfl)⟩⟩
  | killed => exact ⟨[], Inbox.shift_abandon hfair, nofun, nofun⟩

variable {hs : List (Happening σ)}

/-- Who lines up makes a request. -/
theorem mem_requestsOf_of_lined {n : Nat} (h : n ∈ linedOf hs) : ∃ r, (n, r) ∈ requestsOf hs := by
  obtain ⟨happening, hmem, hlines⟩ := List.mem_filterMap.1 h
  obtain ⟨st, move⟩ := happening
  cases move with
  | ask number request =>
    refine ⟨request, List.mem_filterMap.2 ⟨_, hmem, ?_⟩⟩
    unfold Happening.linesUp? at hlines
    dsimp only at hlines
    split at hlines
    · cases hlines
      rfl
    · cases hlines
  | _ => cases hlines

/-- The number of a new request is new to the line. -/
theorem fresh_lined {h : Happening σ}
    (hfresh : ∀ number request, h.move = .ask number request → ∀ r, (number, r) ∉ requestsOf hs) :
    ∀ n ∈ h.linesUp?.toList, n ∉ linedOf hs := by
  intro n hn hlined
  obtain ⟨r, hr⟩ := mem_requestsOf_of_lined hlined
  obtain ⟨st, move⟩ := h
  cases move with
  | ask number request =>
    have hnumber : number = n := by
      have hsome : (if st.service.isOpen then some number else none) = some n :=
        Option.mem_toList.1 hn
      split at hsome
      · exact Option.some.inj hsome
      · cases hsome
    exact hfresh number request rfl r (hnumber ▸ hr)
  | _ => cases hn

/-- How the line of a service came about. -/
theorem Served.queue (h : Served site hs st) :
    st.service.inbox.Queue (linedOf hs) (admittedOf site hs) (departedOf site hs) := by
  -- the line is what `Queue` says at the start, and each move shifts it
  induction h with
  | start outside files s h =>
    rw [Service.eq_of_new? h]
    exact
      { fair := fun _ => rfl
        distinct := List.nodup_nil
        order := rfl
        hands := List.Sublist.refl []
        known := fun _ hn => hn }
  | next hs st move h hallowed hfresh ih =>
    obtain ⟨leaves, hshift, hapart, -⟩ := (Stage.moved site hallowed).shift ih.fair ih.line_nodup
    have hnext := ih.shift hshift ?_ ?_ hapart
    · unfold linedOf admittedOf departedOf
      rw [filterMap_concat, List.flatMap_append, List.flatMap_append, List.flatMap_singleton,
        List.flatMap_singleton]
      exact hnext
    · exact fresh_lined hfresh
    · cases Happening.linesUp? ⟨st, move⟩ with
      | none => exact List.nodup_nil
      | some n => exact List.nodup_cons.2 ⟨List.not_mem_nil, List.nodup_nil⟩

/-- Who leaves the line without a permit gives up, or is refused because the controller is gone. -/
theorem Served.departed (h : Served site hs st) {happening : Happening σ} (hmem : happening ∈ hs)
    {n : Nat} (hn : n ∈ happening.departed site) :
    happening.move.by? = some n ∧
      (happening.ending? site = some .refused ∨ happening.ending? site = some .gaveUp) := by
  obtain ⟨pre, post, rfl⟩ := List.append_of_mem hmem
  obtain ⟨hbefore, hallowed, hfresh⟩ := h.before
  have hqueue := hbefore.queue
  obtain ⟨leaves, ⟨-, passed, hgranted, hwaiting⟩, -, hwho⟩ :=
    (Stage.moved site hallowed).shift hqueue.fair hqueue.line_nodup
  obtain ⟨-, hdeparted⟩ := hqueue.shown (fresh_lined hfresh) hgranted hwaiting
  have hleaves : n ∈ happening.before.service.inbox.waiting ∧ n ∈ leaves := by
    have hn' : n ∈ happening.before.service.inbox.waiting.filter (· ∈ leaves) := hdeparted ▸ hn
    exact ⟨(List.mem_filter.1 hn').1, of_decide_eq_true (List.mem_filter.1 hn').2⟩
  obtain ⟨hby, hgranted' | hending⟩ := hwho n hleaves.2
  · exact absurd hleaves.1 (Inbox.not_waiting_of_granted hqueue.line_nodup hgranted')
  · exact ⟨hby, hending⟩

end

end CallMedia
