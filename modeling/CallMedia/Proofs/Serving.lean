/-
  A controller in service.

  The theorems on runs speak of every order in which items are handled and sinks are completed.  What a
  service does with its controller is such an order, with less freedom: completions enter the inbox as
  they come, and leave it with everything else, one by one.  Handling an item that was taken out of the
  inbox is a turn, as long as the completions in the inbox wait in the run (`Service.handleItem_run`).
-/
import CallMedia.Proofs.Run
import CallMedia.Service

namespace CallMedia

/-! ## The completions in an inbox

Of the items in an inbox only the completions matter to a run, and only one operation brings them in.
So each operation on an inbox has a lemma that says what it does to the completions: in all cases but
two nothing. -/

/-- The completion that an item brings. -/
def Item.completion? : Item → Option Completion
  | .completion e => some e
  | _ => none

namespace Inbox

/-- The completions that have entered, the oldest first. -/
def completions (i : Inbox) : List Completion := i.items.filterMap Item.completion?

theorem items_giveBack (i : Inbox) : i.giveBack.items = i.items := by
  unfold giveBack
  split <;> rfl

theorem items_discard (i : Inbox) (lost : List Item) : (i.discard lost).items = i.items := by
  induction lost generalizing i with
  | nil => rfl
  | cons item rest ih =>
    rw [discard, ih]
    split
    · rw [items_giveBack]
    · rfl

theorem completions_ask (i : Inbox) (caller : Nat) :
    (i.ask caller).completions = i.completions := by
  unfold ask
  split <;> rfl

theorem completions_withdraw (i : Inbox) (caller : Nat) :
    (i.withdraw caller).completions = i.completions := by
  unfold withdraw
  split
  · unfold completions
    rw [items_giveBack]
  · rfl

theorem completions_send (i : Inbox) (caller : Nat) {item : Item} (h : item.completion? = none) :
    (i.send caller item).completions = i.completions := by
  unfold send
  split
  · show (i.items ++ [item]).filterMap Item.completion? = _
    rw [List.filterMap_append, List.filterMap_cons_none h, List.filterMap_nil, List.append_nil]
    rfl
  · rfl

/-- What is posted comes last, in order. -/
theorem completions_posted (i : Inbox) (es : List Completion) :
    (es.foldl post i).completions = i.completions ++ es := by
  -- by induction on what is posted
  induction es generalizing i with
  | nil => exact (List.append_nil _).symm
  | cons e es ih =>
    have hpost : (i.post e).completions = i.completions ++ [e] := by
      show (i.items ++ [Item.completion e]).filterMap Item.completion? = _
      rw [List.filterMap_append]
      rfl
    rw [List.foldl_cons, ih, hpost, List.append_assoc, List.singleton_append]

/-- The item that is taken comes first. -/
theorem completions_take {i j : Inbox} {item : Item} (h : i.take = some (item, j)) :
    i.completions = item.completion?.toList ++ j.completions := by
  unfold take at h
  split at h
  · cases h
  · next rest hitems =>
    cases h
    have hrest : (if holdsPermit item then { i with items := rest }.giveBack
        else { i with items := rest }).items = rest := by
      split
      · rw [items_giveBack]
      · rfl
    unfold completions
    rw [hrest, hitems]
    cases item <;> rfl

theorem completions_abandon (i : Inbox) : i.abandon.completions = [] := by
  unfold abandon completions
  rw [items_discard]
  rfl

end Inbox

/-! ## Services

A service adds an inbox, callers and a life to the controller.  Only handling an item concerns the
controller as a run has it; the rest happens around it. -/

namespace Service

variable {σ : Type} {site : Site σ} {s s' : Service σ}

/-- A new service has nothing in its inbox, and all permits are free. -/
theorem eq_of_new? {outside : σ} {files : Files} (h : new? site outside files = some s) :
    s = { controller := { desk := { outside, files } }
          inbox := { free := max 1 site.settings.inboxCapacity } } := by
  obtain ⟨inbox, hinbox, rfl⟩ := Option.map_eq_some_iff.1 h
  unfold Inbox.ofCapacity? at hinbox
  split at hinbox
  · cases hinbox
    rfl
  · cases hinbox

/-- How a caller gets on: it collects its answer, is refused since the controller is gone, sends its
    message, sends its query, or stays where it is. -/
theorem look_cases (s : Service σ) (c : Caller) :
    (∃ snapshot, c.answer = some snapshot ∧
      s.look c = (some (.answered snapshot), s.dismiss c.number)) ∨
    (c.answer = none ∧ s.isOpen = false ∧
      s.look c = (some (.refused .channelClosed),
        { s.dismiss c.number with inbox := s.inbox.withdraw c.number })) ∨
    (∃ sender message, c.answer = none ∧ c.number ∈ s.inbox.granted ∧
      c.request = .tell sender message ∧
      s.look c = (some .sent, { s.dismiss c.number with
        inbox := s.inbox.send c.number (.message sender message) })) ∨
    (c.answer = none ∧ c.number ∈ s.inbox.granted ∧ c.request = .query ∧
      s.look c = (none, { s with inbox := s.inbox.send c.number (.query c.number) })) ∨
    (c.answer = none ∧ s.look c = (none, s)) := by
  unfold Service.look
  cases hanswer : c.answer with
  | some snapshot => exact .inl ⟨snapshot, rfl, rfl⟩
  | none =>
    cases hopen : s.isOpen with
    | false => exact .inr (.inl ⟨rfl, rfl, rfl⟩)
    | true =>
      by_cases hgranted : c.number ∈ s.inbox.granted
      · -- with a permit the caller sends, and then is done, unless it waits for an answer
        cases hrequest : c.request with
        | tell sender message =>
          refine .inr (.inr (.inl ⟨sender, message, rfl, hgranted, rfl, ?_⟩))
          simp only [Bool.not_true, Bool.false_eq_true, if_false, if_pos hgranted]
          rfl
        | query =>
          refine .inr (.inr (.inr (.inl ⟨rfl, hgranted, rfl, ?_⟩)))
          simp only [Bool.not_true, Bool.false_eq_true, if_false, if_pos hgranted]
          rfl
      · refine .inr (.inr (.inr (.inr ⟨rfl, ?_⟩)))
        simp only [Bool.not_true, Bool.false_eq_true, if_false, if_neg hgranted]

/-- A caller that gets on leaves the controller alone, and sends no completions. -/
theorem look_around (s : Service σ) (c : Caller) :
    (s.look c).2.controller = s.controller ∧
      (s.look c).2.inbox.completions = s.inbox.completions := by
  rcases s.look_cases c with ⟨snapshot, -, heq⟩ | ⟨-, -, heq⟩ | ⟨sender, message, -, -, -, heq⟩ |
    ⟨-, -, -, heq⟩ | ⟨-, heq⟩ <;> rw [heq]
  · exact ⟨rfl, rfl⟩
  · exact ⟨rfl, Inbox.completions_withdraw _ _⟩
  · exact ⟨rfl, Inbox.completions_send _ _ rfl⟩
  · exact ⟨rfl, Inbox.completions_send _ _ rfl⟩
  · exact ⟨rfl, rfl⟩

/-- The turn in which the controller handles an item. -/
def turnOf (s : Service σ) (item : Item) : Turn σ :=
  ⟨s.controller.atDesk fun d => { d with callers := s.callerCount }, item⟩

/-- Handling an item that was taken out of the inbox is a turn, and what is completed meanwhile waits
    in the inbox. -/
theorem handleItem_run (s : Service σ) (item : Item) {ts : List (Turn σ)} {queued : List Completion}
    (h : Run site ts s.controller queued)
    (hwaits : ∀ e, (item.completion?.toList ++ s.inbox.completions).count e ≤ queued.count e) :
    ∃ queued', Run site (ts ++ [s.turnOf item]) (s.handleItem site item).controller queued' ∧
      ∀ e, (s.handleItem site item).inbox.completions.count e ≤ queued'.count e := by
  have hcallers : Run site ts (s.turnOf item).before queued :=
    .meanwhile ts s.controller queued _ h rfl rfl rfl
  simp only [List.count_append] at hwaits
  -- a completion in hand is one of those that wait in the run
  have hitem : ∀ e, item = .completion e → e ∈ queued := by
    intro e he
    subst he
    have hone : [e].count e = 1 := List.count_singleton_self
    have hle : [e].count e + s.inbox.completions.count e ≤ queued.count e := hwaits e
    exact List.count_pos_iff.1 (by omega)
  have hturn := Run.turn ts _ queued item hcallers hitem
  -- what is left in the inbox is still among what waits, with the one in hand taken out
  have hleft : ∀ e, s.inbox.completions.count e ≤ (item.leaves queued).count e := by
    intro e
    cases item with
    | message sender m => exact Nat.le_trans (Nat.le_add_left _ _) (hwaits e)
    | query caller => exact Nat.le_trans (Nat.le_add_left _ _) (hwaits e)
    | completion e' =>
      have hle : [e'].count e + s.inbox.completions.count e ≤ queued.count e := hwaits e
      rw [List.count_singleton] at hle
      show _ ≤ (queued.erase e').count e
      rw [List.count_erase]
      exact Nat.le_sub_of_add_le' hle
  -- what was completed meanwhile is queued, in the run and in the inbox
  have hposted : ∀ e, (((((s.turnOf item).before.handle site item).desk.posted).foldl Inbox.post
      s.inbox).completions).count e ≤
        (item.leaves queued ++ ((s.turnOf item).before.handle site item).desk.posted).count e := by
    intro e
    rw [Inbox.completions_posted, List.count_append, List.count_append]
    exact Nat.add_le_add_right (hleft e) _
  cases item with
  | message sender m => exact ⟨_, hturn, hposted⟩
  | completion e => exact ⟨_, hturn, hposted⟩
  | query caller =>
    -- a query leaves the controller as it is, and nothing was completed before
    have hsame : ((s.turnOf (.query caller)).before.atDesk fun d => { d with posted := [] }) =
        (s.turnOf (.query caller)).before := by
      unfold turnOf Controller.atDesk
      dsimp only
      rw [← h.posted]
    refine ⟨queued, ?_, hleft⟩
    have hnone : (s.turnOf (.query caller)).before.desk.posted = [] := h.posted
    have hturn' : Run site _ ((s.turnOf (.query caller)).before.atDesk fun d => { d with posted := [] })
      (queued ++ (s.turnOf (.query caller)).before.desk.posted) := hturn
    rw [hsame, hnone, List.append_nil] at hturn'
    exact hturn'

end Service

end CallMedia
