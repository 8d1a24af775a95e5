/-
  Who is registered, and what a broadcast sends.

  The register of observers is a list of recipients that is changed in place.  Here it is told from the
  items that were handled: whether an id is registered, and with which mailbox, is the last word on it
  (`observer?`), be it an observer that comes, one that goes, or all that go; and the ids stand in the
  order in which they came, where an id that goes and comes again comes anew (`Entered`).

  A step lemma for each of the three (`Attends.insert`, `Attends.without`) and one for everything else
  (`Attends.other`) show that a turn keeps the register so, and by `Run.invariant` every run does.

  What is then sent is read off the register: an item has at most one thing to say to the observers
  (`Item.announcement?`), and it says it to each entry once, in order, whether the mailboxes of the
  others are closed or not (`Turned.announced`).
-/
import CallMedia.Proofs.Observing
import CallMedia.Proofs.Rejection

namespace CallMedia

/-! ## The last word on an id -/

/-- What an item decides about an id: it is to be observed by this recipient, or by nobody. -/
def Item.verdict? (id : String) : Item → Option (Option Recipient)
  | .message _ (.observe r) => if r.id = id then some (some r) else none
  | .message _ (.stopObserving (some r)) => if r.id = id then some none else none
  | .message _ (.stopObserving none) => some none
  | _ => none

/-- The observer with an id, as the last item that decides about it has it. -/
def observer? (id : String) (items : List Item) : Option Recipient :=
  (items.reverse.findSome? (Item.verdict? id)).join

/-- The last item has the word, if it decides about the id at all. -/
theorem observer?_concat (id : String) (items : List Item) (x : Item) :
    observer? id (items ++ [x]) = (x.verdict? id).getD (observer? id items) := by
  unfold observer?
  rw [List.reverse_append, List.reverse_singleton, List.singleton_append, List.findSome?_cons]
  cases x.verdict? id with
  | none => rfl
  | some v => rfl

/-- The id came with the item at place `i`, and has not gone since. -/
def Entered (id : String) (items : List Item) (i : Nat) : Prop :=
  ∃ before x after, items = before ++ x :: after ∧ before.length = i ∧
    (∃ r, x.verdict? id = some (some r)) ∧ observer? id before = none ∧
    ∀ y ∈ after, y.verdict? id ≠ some none

/-- One id came before another. -/
def Earlier (items : List Item) (a b : String) : Prop :=
  ∃ i j, i < j ∧ Entered a items i ∧ Entered b items j

section

variable {id : String} {items : List Item} {x : Item} {i : Nat}

/-- An id came with one of the items. -/
theorem Entered.lt (h : Entered id items i) : i < items.length := by
  obtain ⟨before, y, after, rfl, rfl, -⟩ := h
  rw [List.length_append, List.length_cons]
  omega

/-- An entry survives an item that does not remove it. -/
theorem Entered.concat (h : Entered id items i) (hx : x.verdict? id ≠ some none) :
    Entered id (items ++ [x]) i := by
  obtain ⟨before, y, after, rfl, hlen, hy, hbefore, hafter⟩ := h
  refine ⟨before, y, after ++ [x], ?_, hlen, hy, hbefore, ?_⟩
  · rw [List.append_assoc, List.cons_append]
  · exact List.forall_mem_append.2 ⟨hafter, List.forall_mem_singleton.2 hx⟩

/-- An id that was not observed comes with the item that observes it. -/
theorem Entered.last {r : Recipient} (hx : x.verdict? id = some (some r))
    (hnew : observer? id items = none) : Entered id (items ++ [x]) items.length :=
  ⟨items, x, [], rfl, rfl, ⟨r, hx⟩, hnew, List.forall_mem_nil _⟩

/-- Whoever is observed has come at some time. -/
theorem exists_entered (h : (observer? id items).isSome = true) : ∃ i, Entered id items i := by
  -- the items are taken from the last one back
  rw [← List.reverse_reverse items] at h ⊢
  generalize items.reverse = rest at h
  induction rest with
  | nil => cases h
  | cons x rest ih =>
    rw [List.reverse_cons] at h ⊢
    rw [observer?_concat] at h
    cases hx : x.verdict? id with
    | none =>
      rw [hx, Option.getD_none] at h
      obtain ⟨i, hi⟩ := ih h
      exact ⟨i, hi.concat (by rw [hx]; simp)⟩
    | some verdict =>
      rw [hx, Option.getD_some] at h
      obtain ⟨r, rfl⟩ := Option.isSome_iff_exists.1 h
      -- either the id comes with this item, or it had come before and only its mailbox is new
      cases hbefore : observer? id rest.reverse with
      | none => exact ⟨_, .last hx hbefore⟩
      | some r' =>
        obtain ⟨i, hi⟩ := ih (by rw [hbefore]; rfl)
        exact ⟨i, hi.concat (by rw [hx]; simp)⟩

end

/-! ## The register, told from the items

`Attends` is the invariant of the run.  Its first clause says which entries there are, id by id, so
that a change to one id is a change to one clause; its second clause says where they stand. -/

/-- Recipients that are registered after some items. -/
structure Attends (items : List Item) (rs : List Recipient) : Prop where
  /-- One entry for an id that is observed, with the mailbox named last; none for any other. -/
  entries : ∀ id, rs.filter (fun r => r.id = id) = (observer? id items).toList
  /-- They stand in the order in which their ids came. -/
  order : (rs.map Recipient.id).Pairwise (Earlier items)

namespace Observers

/-- An id that is not placed keeps its entries. -/
theorem filter_place_of_ne {r : Recipient} {id : String} (h : r.id ≠ id) (rs : List Recipient) :
    (place r rs).filter (fun o => o.id = id) = rs.filter (fun o => o.id = id) := by
  -- by induction on the register, as `place` goes through it
  induction rs with
  | nil => simp [place, h]
  | cons o rest ih =>
    unfold place
    split
    · next ho => simp [h, ho]
    · rw [List.filter_cons, List.filter_cons, ih]

/-- An id that is placed has one entry, if it had no more than one. -/
theorem filter_place_self {r : Recipient} {rs : List Recipient}
    (h : (rs.filter (fun o => o.id = r.id)).length ≤ 1) :
    (place r rs).filter (fun o => o.id = r.id) = [r] := by
  induction rs with
  | nil => simp [place]
  | cons o rest ih =>
    unfold place
    split
    · next ho =>
      rw [List.filter_cons_of_pos (by simpa using ho), List.length_cons] at h
      have hrest : rest.filter (fun o => o.id = r.id) = [] := List.eq_nil_of_length_eq_zero (by omega)
      rw [List.filter_cons_of_pos (by simp), hrest]
    · next ho =>
      rw [List.filter_cons_of_neg (by simpa using ho)] at h ⊢
      exact ih h

end Observers

namespace Attends

variable {items : List Item} {rs : List Recipient} {x : Item}

theorem start : Attends [] [] := ⟨fun _ => rfl, .nil⟩

/-- An id has one entry at most. -/
theorem length_le (h : Attends items rs) (id : String) :
    (rs.filter (fun r => r.id = id)).length ≤ 1 := by
  rw [h.entries id]
  cases observer? id items with
  | none => exact Nat.zero_le 1
  | some r => exact Nat.le_refl 1

/-- An id is registered if it is observed. -/
theorem mem_ids_iff (h : Attends items rs) (id : String) :
    id ∈ rs.map Recipient.id ↔ (observer? id items).isSome = true := by
  have hentries := h.entries id
  constructor
  · intro hid
    obtain ⟨r, hr, rfl⟩ := List.mem_map.1 hid
    have hmem : r ∈ (observer? r.id items).toList :=
      hentries ▸ List.mem_filter.2 ⟨hr, decide_eq_true rfl⟩
    rw [Option.mem_toList.1 hmem]
    rfl
  · intro hsome
    obtain ⟨r, hr⟩ := Option.isSome_iff_exists.1 hsome
    rw [hr, Option.toList_some] at hentries
    obtain ⟨hmem, hid⟩ := List.mem_filter.1 (hentries.symm ▸ List.mem_singleton_self r)
    exact List.mem_map.2 ⟨r, hmem, by simpa using hid⟩

/-- Those whom an item does not remove stay in order. -/
theorem order_concat (h : Attends items rs) {left : List Recipient} (hleft : left.Sublist rs)
    (hx : ∀ r ∈ left, x.verdict? r.id ≠ some none) :
    (left.map Recipient.id).Pairwise (Earlier (items ++ [x])) := by
  refine (h.order.sublist (hleft.map _)).imp_of_mem ?_
  rintro a b ha hb ⟨i, j, hij, hi, hj⟩
  obtain ⟨r, hr, rfl⟩ := List.mem_map.1 ha
  obtain ⟨r', hr', rfl⟩ := List.mem_map.1 hb
  exact ⟨i, j, hij, hi.concat (hx r hr), hj.concat (hx r' hr')⟩

/-- Somebody comes: a known id gets its new mailbox in the old place, a new one the last place. -/
theorem insert (h : Attends items rs) (sender r : Recipient) :
    Attends (items ++ [.message sender (.observe r)]) (Observers.place r rs) := by
  have hkeeps : ∀ id, (Item.message sender (.observe r)).verdict? id ≠ some none := by
    intro id
    show (if r.id = id then some (some r) else none) ≠ some none
    split <;> simp
  have hword : (Item.message sender (.observe r)).verdict? r.id = some (some r) := if_pos rfl
  refine ⟨fun id => ?_, ?_⟩
  · rw [observer?_concat]
    -- the id that comes, and the others, which keep their entries
    by_cases hid : r.id = id
    · subst hid
      rw [hword, Observers.filter_place_self (h.length_le r.id)]
      rfl
    · have hnone : (Item.message sender (.observe r)).verdict? id = none := if_neg hid
      rw [hnone, Observers.filter_place_of_ne hid, h.entries id]
      rfl
  · have hold := h.order_concat (x := .message sender (.observe r)) (.refl rs) fun _ _ => hkeeps _
    rw [Observers.ids_place]
    split
    · exact hold
    · next hnew =>
      -- the new id comes with the last item, and all the others have come before
      have hfree : observer? r.id items = none :=
        Option.not_isSome_iff_eq_none.1 fun hsome => hnew ((h.mem_ids_iff _).2 hsome)
      refine List.pairwise_append.2 ⟨hold, List.pairwise_singleton _ _, fun a ha b hb => ?_⟩
      rw [List.mem_singleton.1 hb]
      obtain ⟨i, hi⟩ := exists_entered ((h.mem_ids_iff a).1 ha)
      exact ⟨i, items.length, hi.lt, hi.concat (hkeeps a), .last hword hfree⟩

/-- Somebody goes, or everybody does: the rest stay in order. -/
theorem without (h : Attends items rs) (sender : Recipient) (observer : Option Recipient) :
    Attends (items ++ [.message sender (.stopObserving observer)])
      ((Observers.mk rs).without observer).toList := by
  cases observer with
  | none =>
    refine ⟨fun id => ?_, .nil⟩
    rw [observer?_concat]
    rfl
  | some gone =>
    have hstays : ∀ id, gone.id ≠ id →
        (Item.message sender (.stopObserving (some gone))).verdict? id = none :=
      fun _ hid => if_neg hid
    refine ⟨fun id => ?_, h.order_concat List.filter_sublist fun r hr => ?_⟩
    · rw [observer?_concat]
      show (rs.filter (fun o => o.id ≠ gone.id)).filter (fun r => r.id = id) = _
      rw [List.filter_filter]
      -- the id that goes has no entry left, and the others keep theirs
      by_cases hid : gone.id = id
      · have hword : (Item.message sender (.stopObserving (some gone))).verdict? id = some none :=
          if_pos hid
        rw [hword, List.filter_eq_nil_iff.2 (by subst hid; simp)]
        rfl
      · rw [hstays id hid, Option.getD_none, ← h.entries id]
        refine List.filter_congr fun r _ => ?_
        by_cases hr : r.id = id
        · simp [hr, Ne.symm hid]
        · simp [hr]
    · have hne : r.id ≠ gone.id := by simpa using (List.mem_filter.1 hr).2
      rw [hstays r.id hne.symm]
      simp

/-- Nothing else has a say. -/
theorem other (h : Attends items rs) (hx : ∀ id, x.verdict? id = none) :
    Attends (items ++ [x]) rs := by
  refine ⟨fun id => ?_, h.order_concat (.refl rs) fun r _ => ?_⟩
  · rw [observer?_concat, hx id, h.entries id]
    rfl
  · rw [hx r.id]
    simp

/-- What handling an item does to the register is what the item says about it. -/
theorem register {os : Observers} (h : Attends items os.toList) (x : Item) :
    Attends (items ++ [x]) (x.register os).toList := by
  cases x with
  | message sender m =>
    cases m with
    | observe r => exact h.insert sender r
    | stopObserving observer => exact h.without sender observer
    | _ => exact h.other (x := .message sender _) fun _ => rfl
  | completion e => exact h.other (x := .completion e) fun _ => rfl
  | query caller => exact h.other (x := .query caller) fun _ => rfl

end Attends

/-! ## What a broadcast sends

An item has one thing to say to the observers at most, and what it says depends on the item, on the leg
before it, and on what the media server rejected meanwhile.  So the notices that are meant for the
observers are filtered out of what a turn shows, and compared with that. -/

/-- Whether an effect gives a notice of the marked ones. -/
def Effect.meant (b : Notice → Bool) : Effect → Bool
  | told _ n _ => b n
  | _ => false

/-- Whether an effect gives somebody with an id a notice. -/
def Effect.addresses (id : String) : Effect → Bool
  | told r _ _ => r.id = id
  | _ => false

/-- What an item has to say to the observers; `fault` is what the media server rejected meanwhile.
    Stopping the group always has something to say, a join if it failed, and an activity on an idle
    group if it was not started. -/
def Item.announcement? (settings : Settings) (w : Surroundings) (p : Phase) (l : Leg)
    (fault : Option Fault) : Item → Option Notice
  | .message _ .stopGroup => some (fault.elim (.groupStateChanged .inactive) .failure)
  | .message _ (.joinBridge _) | .message _ (.joinConference _) => fault.map .failure
  | .message _ m =>
    (m.ask? settings).bind fun k =>
      if p = .active ∧ l.group.isSome = true ∧ l.active.isNone = true then
        (fault.or (if w.inboxOpen then none else some .channelClosed)).map
          fun e => .operationResult k.activity (.error e)
      else none
  | _ => none

/-- The fault with which the media server rejected something, if it did. -/
def faultOf (es : List Effect) : Option Fault := (es.filterMap Effect.rejection?).head?

section

variable {w : Surroundings} {l l₀ l' : Leg} {es : List Effect} {b : Notice → Bool}

/-- Where no notice is marked, none is meant for the observers. -/
theorem filter_meant_eq_nil (h : ∀ n, b n = false) (es : List Effect) :
    es.filter (Effect.meant b) = [] := by
  refine List.filter_eq_nil_iff.2 fun e _ => ?_
  cases e with
  | told r n heard => exact Bool.eq_false_iff.1 (h n)
  | _ => exact Bool.false_ne_true

/-- Where a notice is marked, all who are told it are observers. -/
theorem Surroundings.filter_meant_telling (w : Surroundings) {n : Notice} (h : b n = true)
    (rs : List Recipient) :
    (rs.map fun r => w.telling r n).filter (Effect.meant b) = rs.map fun r => w.telling r n := by
  refine List.filter_eq_self.2 fun e he => ?_
  obtain ⟨r, -, rfl⟩ := List.mem_map.1 he
  exact h

/-- Notices reject nothing. -/
theorem Surroundings.faultOf_append_telling (w : Surroundings) (es : List Effect)
    (rs : List Recipient) (n : Notice) :
    faultOf (es ++ rs.map fun r => w.telling r n) = faultOf es := by
  unfold faultOf
  rw [List.filterMap_append, w.filterMap_telling (fun _ _ _ => rfl), List.append_nil]

/-- Making a group ready tells nobody anything and is not rejected. -/
theorem prepared_quiet (a : Activity) (group : GroupHandle) (es : List Effect) :
    (prepared a group ++ es).filter (Effect.meant b) = es.filter (Effect.meant b) ∧
      faultOf (prepared a group ++ es) = faultOf es := by
  unfold prepared
  split <;> exact ⟨rfl, rfl⟩

/-- Stopping what is in flight tells nobody anything either, but may be rejected. -/
theorem ActiveStopped.quiet {result : Except Fault (Option Active)} (h : ActiveStopped l result es)
    (w : Surroundings) (rs : List Recipient) (n : Notice) :
    (es ++ rs.map fun r => w.telling r n).filter (Effect.meant fun _ => true) =
        rs.map (fun r => w.telling r n) ∧
      faultOf (es ++ rs.map fun r => w.telling r n) =
        match result with
        | .ok _ => none
        | .error e => some e := by
  rw [w.faultOf_append_telling, List.filter_append, w.filter_meant_telling rfl]
  cases h <;> exact ⟨rfl, rfl⟩

/-- Stopping the group tells every observer how it went. -/
theorem GroupStopped.announced (h : GroupStopped w l es) :
    es.filter (Effect.meant fun _ => true) =
      w.tellingAll l ((faultOf es).elim (.groupStateChanged .inactive) .failure) := by
  cases h with
  | quiet was es hs =>
    obtain ⟨htold, hfault⟩ := hs.quiet w l.observers.toList (.groupStateChanged .inactive)
    rw [Surroundings.tellingAll, htold, hfault]
    rfl
  | failed e es hs =>
    obtain ⟨htold, hfault⟩ := hs.quiet w l.observers.toList (.failure e)
    rw [Surroundings.tellingAll, htold, hfault]
    rfl

/-- An activity on an idle group that is not started has one thing to say to every observer. -/
theorem Attempted.announced {a : Activity} {what : GroupHandle → Operation} {sender : Recipient}
    {r : Option Nat} (h : Attempted w a what sender l l₀ r l' es)
    (hidle : (l.group.isSome && l.active.isNone) = true) :
    es.filter (Effect.meant fun _ => true) =
      (((faultOf es).or (if w.inboxOpen then none else some .channelClosed)).map
        fun e => .operationResult a (.error e)).toList.flatMap (w.tellingAll l₀) := by
  have htold : ∀ n, (w.tellingAll l₀ n).filter (Effect.meant fun _ => true) =
      w.tellingAll l₀ n ++ [] := by
    intro n
    rw [List.append_nil]
    exact w.filter_meant_telling rfl _
  cases h with
  | unfit e idle =>
    rw [Leg.not_idle_of_error idle] at hidle
    cases hidle
  | unprepared group e idle digits => exact htold _
  | closed group idle hopen =>
    obtain ⟨hquiet, hfault⟩ := prepared_quiet (b := fun _ => true) a group
      (w.tellingAll l₀ (.operationResult a (.error .channelClosed)))
    have hnone : faultOf (w.tellingAll l₀ (.operationResult a (.error .channelClosed))) = none :=
      w.faultOf_append_telling [] _ _
    rw [hquiet, hfault, hnone, hopen]
    exact htold _
  | refused group e fate idle hopen =>
    obtain ⟨hquiet, hfault⟩ := prepared_quiet (b := fun _ => true) a group
      (.started (what group) (l₀.nextSink (.group a)) ⟨.error e, fate⟩ ::
        w.tellingAll l₀ (.operationResult a (.error e)))
    rw [hquiet, hfault]
    exact htold _
  | accepted group fate idle hopen =>
    obtain ⟨hquiet, hfault⟩ := prepared_quiet (b := fun _ => true) a group
      [.started (what group) (l₀.nextSink (.group a)) ⟨.ok (), fate⟩]
    rw [hquiet, hfault, hopen]
    rfl

end

section

variable {σ : Type} {site : Site σ} {w : Surroundings} {p p' : Phase} {l l' : Leg} {item : Item}
  {es : List Effect}

/-- What a turn has to say to the observers it says to each of them, and nothing else. -/
theorem Turned.announced (h : Turned site w p l item p' l' es)
    (hitem : ∀ sender r, item ≠ .message sender (.observe r)) :
    es.filter (Effect.meant (item.broadcasts l)) =
      (item.announcement? site.settings w p l (faultOf es)).toList.flatMap (w.tellingAll l) := by
  cases h with
  | ignored item hout =>
    -- what is out of place has nothing to say
    cases item with
    | message sender m =>
      cases m with
      | stopGroup => exact hout.elim
      | play order => simp [Item.announcement?, Message.ask?, show p ≠ .active from hout]
      | collect order => simp [Item.announcement?, Message.ask?, show p ≠ .active from hout]
      | record order => simp [Item.announcement?, Message.ask?, show p ≠ .active from hout]
      | startRecording order => simp [Item.announcement?, Message.ask?, show p ≠ .active from hout]
      | _ => rfl
    | completion e => rfl
    | query caller => rfl
  | groupStopped sender es hs =>
    show es.filter (Effect.meant fun _ => true) = w.tellingAll l _ ++ []
    rw [List.append_nil]
    exact hs.announced
  | attempted sender m k r l' es hp hm ht =>
    -- an activity has something to say only where the group was idle and it was not started
    have hmarks := Message.broadcasts_of_ask? (l := l) hm sender
    have hsaid : ∀ fault, (Item.message sender m).announcement? site.settings w p l fault =
        if p = .active ∧ l.group.isSome = true ∧ l.active.isNone = true then
          (fault.or (if w.inboxOpen then none else some .channelClosed)).map
            fun e => .operationResult k.activity (.error e)
        else none := by
      intro fault
      cases m <;> cases hm <;> rfl
    rw [hsaid]
    cases hidle : l.group.isSome && l.active.isNone with
    | false =>
      rw [filter_meant_eq_nil fun n => (hmarks n).trans hidle, if_neg]
      · rfl
      · rintro ⟨-, hgroup, hactive⟩
        rw [hgroup, hactive] at hidle
        cases hidle
    | true =>
      have hall : (Item.message sender m).broadcasts l = fun _ => true :=
        funext fun n => (hmarks n).trans hidle
      rw [hall, if_pos ⟨hp, (Bool.and_eq_true _ _ ▸ hidle)⟩]
      exact ht.announced hidle
  | joined sender m mixer l' es hp hm hj =>
    have hfailed : ∀ e, (Item.message sender m).broadcasts l (.failure e) = true := by
      intro e
      rcases hm with rfl | rfl <;> rfl
    have hdone : (Item.message sender m).broadcasts l .joinComplete = false := by
      rcases hm with rfl | rfl <;> rfl
    have hsaid : ∀ fault, (Item.message sender m).announcement? site.settings w p l fault =
        fault.map .failure := by
      intro fault
      rcases hm with rfl | rfl <;> rfl
    rw [hsaid]
    cases hj with
    | joined k hc =>
      -- the owning call hears of a join that went well, the observers of one that failed
      have hfault : faultOf (.performed (.join k .duplex (.mixer mixer)) (.ok ()) ::
          w.tellingCall l .joinComplete) = none :=
        w.faultOf_append_telling [.performed (.join k .duplex (.mixer mixer)) (.ok ())] _ _
      rw [hfault]
      show (w.tellingCall l .joinComplete).filter _ = []
      refine List.filter_eq_nil_iff.2 fun e he => ?_
      obtain ⟨call, -, rfl⟩ := List.mem_map.1 he
      exact Bool.eq_false_iff.1 hdone
    | refused k e hc =>
      have hfault : faultOf (.performed (.join k .duplex (.mixer mixer)) (.error e) ::
          w.tellingAll l (.failure e)) = some e := rfl
      rw [hfault]
      show (w.tellingAll l (.failure e)).filter _ = w.tellingAll l (.failure e) ++ []
      rw [List.append_nil]
      exact w.filter_meant_telling (hfailed e) _
  | observed sender observer => exact absurd rfl (hitem sender observer)
  | rejoined sender m direction k mixer answer hp hd hk hm =>
    rcases hd with ⟨rfl, -⟩ | ⟨rfl, -⟩ <;> rfl
  | _ => exact filter_meant_eq_nil (fun _ => rfl) _

end

/-! ## Runs -/

/-- The notices of a turn that are meant for the observers, and whether each was heard. -/
def Turn.announcements {σ : Type} (site : Site σ) (t : Turn σ) : List Effect :=
  (t.effects site).filter (Effect.meant (t.item.broadcasts t.before.desk.leg))

/-- What an item has to say to the observers, once it is handled. -/
def Turn.announcement? {σ : Type} (site : Site σ) (t : Turn σ) : Option Notice :=
  t.item.announcement? site.settings t.before.desk.surroundings t.before.phase t.before.desk.leg
    (faultOf (t.effects site))

/-- Through every run the register is what the items have made it. -/
theorem Run.attends {σ : Type} {site : Site σ} {ts : List (Turn σ)} {c : Controller σ}
    {queued : List Completion} (h : Run site ts c queued) :
    Attends (ts.map Turn.item) c.desk.leg.observers.toList := by
  -- by induction on the run, with one step lemma for each kind of item
  refine h.invariant (P := fun ts _ l => Attends (ts.map Turn.item) l.observers.toList) .start ?_
  intro ts t queued hbefore ih
  obtain ⟨hturned, -, -⟩ := t.turned site hbefore.sound
  rw [List.map_append, hturned.registers]
  exact ih.register t.item

/-- The register of observers.  Take any run.

    Somebody is registered if the last item that observes the id, or removes it, or removes everybody,
    observes it, and then with the mailbox of that item; the ids stand in the order in which they came;
    and a query counts them.  Whatever item comes next, if it has something to say to the observers it
    says it to each of them once, in this order, and a mailbox that is closed keeps it from nobody else.
    Unless the item observes or removes somebody, the register stays. -/
theorem observers_attend {σ : Type} {site : Site σ} {ts : List (Turn σ)} {c : Controller σ}
    {queued : List Completion} (h : Run site ts c queued) :
    Attends (ts.map Turn.item) c.desk.leg.observers.toList ∧
    (∃ ids : List String, ids.Nodup ∧
      (∀ id, id ∈ ids ↔ (observer? id (ts.map Turn.item)).isSome = true) ∧
      c.snapshot.observers = ids.length) ∧
    (∀ item, (∀ sender r, item ≠ .message sender (.observe r)) →
      Turn.announcements site ⟨c, item⟩ =
        (Turn.announcement? site ⟨c, item⟩).toList.flatMap (c.desk.surroundings.tellingAll c.desk.leg) ∧
      ∀ id, (Turn.announcements site ⟨c, item⟩).filter (Effect.addresses id) =
        (Turn.announcement? site ⟨c, item⟩).toList.flatMap fun n =>
          (observer? id (ts.map Turn.item)).toList.map fun r =>
            .told r n (decide (r.mailbox ∉ c.desk.deaf))) ∧
    ∀ item, (∀ id, item.verdict? id = none) →
      (Turn.after site ⟨c, item⟩).desk.leg.observers = c.desk.leg.observers := by
  have hattends := h.attends
  refine ⟨hattends, ⟨_, h.registered, hattends.mem_ids_iff, ?_⟩, ?_, ?_⟩
  · exact (List.length_map Recipient.id).symm
  · intro item hitem
    obtain ⟨hturned, -, -⟩ := Turn.turned (t := ⟨c, item⟩) site h.sound
    -- what is meant for the observers is not in the journal, so it is among what the turn shows
    have hannounced : Turn.announcements site ⟨c, item⟩ =
        (Turn.announcement? site ⟨c, item⟩).toList.flatMap
          (c.desk.surroundings.tellingAll c.desk.leg) := by
      have hfault : faultOf (Turn.effects site ⟨c, item⟩) = faultOf (Turn.shown site ⟨c, item⟩) :=
        congrArg List.head? (Turn.filterMap_effects site _ _ fun _ => rfl)
      unfold Turn.announcements Turn.announcement?
      rw [Turn.filter_effects site _ fun _ => rfl, hfault]
      exact hturned.announced hitem
    refine ⟨hannounced, fun id => ?_⟩
    rw [hannounced, List.filter_flatMap]
    refine congrArg (List.flatMap · _) (funext fun n => ?_)
    rw [Surroundings.tellingAll, List.filter_map, ← hattends.entries id]
    rfl
  · intro item hitem
    obtain ⟨hturned, -, -⟩ := Turn.turned (t := ⟨c, item⟩) site h.sound
    rw [hturned.registers]
    cases item with
    | message sender m =>
      cases m with
      | observe r =>
        have hword : (Item.message sender (.observe r)).verdict? r.id = some (some r) := if_pos rfl
        cases hword.symm.trans (hitem r.id)
      | stopObserving observer =>
        cases observer with
        | none => cases hitem ""
        | some r =>
          have hword : (Item.message sender (.stopObserving (some r))).verdict? r.id = some none :=
            if_pos rfl
          cases hword.symm.trans (hitem r.id)
      | _ => rfl
    | completion e => rfl
    | query caller => rfl

namespace Sample

def guest : Recipient := ⟨"guest", "mailbox of the guest"⟩

/-- The player under another address. -/
def playerMoved : Recipient := ⟨"player", "other mailbox"⟩

def watchAs (r : Recipient) : Item := .message r (.observe r)

def unwatch (r : Recipient) : Item := .message r (.stopObserving (some r))

def watched₁ : Controller Unit := handled fresh watch

def watched₂ : Controller Unit := handled watched₁ (watchAs call)

def watched₃ : Controller Unit := handled watched₂ (watchAs guest)

def watched₄ : Controller Unit := handled watched₃ (unwatch call)

def watched₅ : Controller Unit := handled watched₄ (watchAs playerMoved)

/-- The player comes, the call, and a guest; the call goes, and the player moves.  Then the new mailbox
    of the player is closed. -/
def attending : Controller Unit :=
  ⟨watched₅.phase, { watched₅.desk with deaf := ["other mailbox"] }⟩

/-- Five items are handled, and then a mailbox is closed between turns. -/
theorem run_attending :
    Run site [⟨fresh, watch⟩, ⟨watched₁, watchAs call⟩, ⟨watched₂, watchAs guest⟩,
      ⟨watched₃, unwatch call⟩, ⟨watched₄, watchAs playerMoved⟩] attending [] :=
  .meanwhile _ watched₅ [] { watched₅.desk with deaf := ["other mailbox"] }
    (.turn _ watched₄ [] (watchAs playerMoved)
      (.turn _ watched₃ [] (unwatch call)
        (.turn _ watched₂ [] (watchAs guest)
          (.turn _ watched₁ [] (watchAs call)
            (.turn [] fresh [] watch (.start _ rfl rfl rfl) nofun) nofun) nofun) nofun) nofun)
    rfl rfl rfl

end Sample

/-- That the group is quiet is sent to the player at the new address and then to the guest, who hears it
    although the player does not. -/
theorem observers_attend_moved :
    Turn.announcements Sample.site ⟨Sample.attending, Sample.stopGroup⟩ =
      [.told Sample.playerMoved (.groupStateChanged .inactive) false,
        .told Sample.guest (.groupStateChanged .inactive) true] ∧
    Sample.attending.snapshot.observers = 2 ∧
    (Turn.announcements Sample.site ⟨Sample.attending, Sample.stopGroup⟩).filter
      (Effect.addresses "call") = [] := by
  obtain ⟨-, -, hsent, -⟩ := observers_attend Sample.run_attending
  obtain ⟨hall, heach⟩ := hsent Sample.stopGroup (by rintro sender r ⟨⟩)
  exact ⟨hall.trans rfl, rfl, (heach "call").trans rfl⟩

end CallMedia
