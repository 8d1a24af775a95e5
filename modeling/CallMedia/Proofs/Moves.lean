/-
  A service at work.

  What happens to a service is one move after another, in any order (`Move`): the controller begins,
  takes an item out of its inbox, handles it, and ends; callers ask, look whether they can get on, and
  give up; the media server completes sinks or lets go of them; the handle is shared or dropped, and the
  controller may be thrown away.  Between taking an item and handling it anything else may happen, so a
  `Stage` is a service together with the item in hand.  Handling an item is one move, for it touches the
  inbox at one point only: an item starts one operation at most (`Turned.begins`), so that whatever
  happens meanwhile might as well happen just before or just after.

  A list of happenings is `Served` if a new service goes through it.  The turns among them are a run of
  the controller (`Served.follows`), and whatever holds of runs holds of it.  The functions that work a
  service off fix one of these orders; that they do is the subject of `Proofs.Rehearsing`.

  What a move does to the inbox, the callers and the item in hand is stated once (`Stage.Moved`), with
  what enters the inbox and how a request ends.  Whatever holds of them is shown by cases on it.
-/
import CallMedia.Proofs.Serving

namespace CallMedia

/-! ## Moves

What anybody can do with a service at a moment, and what it takes to do it. -/

/-- A service, and the item that its controller has taken out of the inbox and not handled yet. -/
structure Stage (σ : Type) where
  service : Service σ
  inHand : Option Item := none

/-- What can happen to a service. -/
inductive Move (σ : Type) where
  /-- The controller begins. -/
  | begin
  /-- The controller takes the oldest item out of the inbox. -/
  | take
  /-- The controller handles the item in hand. -/
  | handle
  /-- The controller finds its inbox empty, and ends if nobody could send any more. -/
  | finish
  /-- A new caller makes a request. -/
  | ask (number : Nat) (request : Request)
  /-- A caller gets on as far as it can. -/
  | look (number : Nat)
  /-- A caller gives up. -/
  | cancel (number : Nat)
  /-- The media server completes a sink. -/
  | complete (sink : Sink) (outcome : Outcome)
  /-- The media server lets go of a sink. -/
  | dropSink (sink : Sink)
  /-- Whoever can send gives the handle out. -/
  | share
  | dropHandle
  /-- The controller is thrown away. -/
  | kill
  /-- The media server, the stores, the mailboxes, the files or the clock change. -/
  | around (desk : Desk σ)

/-- The request that a move belongs to. -/
def Move.by? {σ : Type} : Move σ → Option Nat
  | .ask number _ | .look number | .cancel number => some number
  | _ => none

/-- The request that a move makes, with its number. -/
def Move.asks? {σ : Type} : Move σ → Option (Nat × Request)
  | .ask number request => some (number, request)
  | _ => none

/-- How a request ends. -/
inductive Ending where
  | reply (reply : Reply)
  | gaveUp
deriving DecidableEq, Repr

/-- A request fails because the controller is gone. -/
def Ending.refused : Ending := .reply (.refused .channelClosed)

namespace Service

variable {σ : Type} (s : Service σ)

/-- The caller with a number. -/
def caller? (number : Nat) : Option Caller := s.callers.find? fun c => c.number = number

variable {s} in
/-- A caller is found by its number. -/
theorem number_of_caller? {number : Nat} {c : Caller} (h : s.caller? number = some c) :
    c.number = number :=
  of_decide_eq_true (List.find?_some (p := fun c : Caller => decide (c.number = number)) h)

/-- A new caller is counted, and asks for a permit. -/
def lineUp (number : Nat) (r : Request) : Service σ :=
  { s with callers := s.callers ++ [⟨number, r, none⟩], inbox := s.inbox.ask number }

variable {s} in
/-- A service that is ready is running once it begins. -/
theorem life_begin_of_ready (h : s.life = .ready) : s.begin.life = .running := by
  unfold Service.begin
  rw [if_pos h]

variable {s} in
/-- One that nobody could send to any more ends when its inbox is empty. -/
theorem life_endIfOver (h : s.life = .running ∧ s.inbox.items = [] ∧ s.reachable = false) :
    s.endIfOver.life = .ended := by
  unfold Service.endIfOver
  rw [if_pos h]

variable {s} in
/-- To kill an open service is to abandon its inbox. -/
theorem kill_of_open (h : s.isOpen = true) :
    s.kill = { s with life := .killed, inbox := s.inbox.abandon } := if_pos h

/-- Making a request is lining up, then looking. -/
theorem request_eq (number : Nat) (r : Request) :
    s.request number r =
      if !s.isOpen then (some (.refused .channelClosed), s)
      else (s.lineUp number r).look ⟨number, r, none⟩ := rfl

end Service

namespace Stage

variable {σ : Type} (site : Site σ) (st : Stage σ)

/-- Whether a move is possible.  Only who can send can make a request, or give the handle out. -/
def Allows : Move σ → Prop
  | .begin => st.service.life = .ready
  | .take => st.service.life = .running ∧ st.inHand = none ∧ st.service.inbox.items ≠ []
  | .handle => st.service.life = .running ∧ st.inHand ≠ none
  | .finish => st.service.life = .running ∧ st.inHand = none ∧ st.service.inbox.items = []
  | .ask .. | .share => 0 < st.service.callerCount
  | .look number | .cancel number => (st.service.caller? number).isSome
  | .complete sink _ | .dropSink sink => sink ∈ st.service.controller.desk.sinks
  | .dropHandle => st.service.handle = true
  | .kill => st.service.isOpen = true
  | .around desk =>
    desk.leg = st.service.controller.desk.leg ∧ desk.sinks = st.service.controller.desk.sinks ∧
      desk.posted = st.service.controller.desk.posted

/-- How a request ends in a move, and the stage after it. -/
def act : Move σ → Option Ending × Stage σ
  | .begin => (none, { st with service := st.service.begin })
  | .take =>
    match st.service.inbox.take with
    | none => (none, st)
    | some (item, inbox) => (none, ⟨{ st.service with inbox }, some item⟩)
  | .handle =>
    match st.inHand with
    | none => (none, st)
    | some item => (none, ⟨st.service.handleItem site item, none⟩)
  | .finish => (none, { st with service := st.service.endIfOver })
  | .ask number request =>
    if st.service.isOpen then (none, { st with service := st.service.lineUp number request })
    else (some .refused, st)
  | .look number =>
    match st.service.caller? number with
    | none => (none, st)
    | some c =>
      let (reply, service) := st.service.look c
      (reply.map .reply, { st with service })
  | .cancel number => (some .gaveUp, { st with service := st.service.cancel number })
  | .complete sink outcome =>
    (none, { st with service := (st.service.complete sink outcome).2 })
  | .dropSink sink => (none, { st with service := st.service.dropSink sink })
  | .share => (none, { st with service := { st.service with handle := true } })
  | .dropHandle => (none, { st with service := st.service.dropHandle })
  | .kill => (none, ⟨st.service.kill, none⟩)
  | .around desk => (none, { st with service := st.service.atDesk fun _ => desk })

end Stage

/-! ## Happenings

Each happening remembers the stage before it, so that what entered, what was handled and how a request
ended can be read off a list of happenings without going through them again. -/

/-- A move, and the stage before it. -/
structure Happening (σ : Type) where
  before : Stage σ
  move : Move σ

namespace Happening

variable {σ : Type} (site : Site σ) (h : Happening σ)

/-- The stage after the move. -/
def after : Stage σ := (h.before.act site h.move).2

/-- How a request ends. -/
def ending? : Option Ending := (h.before.act site h.move).1

/-- The items that stay in the inbox. -/
def kept : List Item :=
  match h.move with
  | .take => h.before.service.inbox.items.tail
  | .kill => []
  | _ => h.before.service.inbox.items

/-- The items that enter the inbox. -/
def entered : List Item := (h.after site).service.inbox.items.drop h.kept.length

/-- The turn in which the item in hand is handled. -/
def turn? : Option (Turn σ) :=
  match h.move with
  | .handle => h.before.inHand.map h.before.service.turnOf
  | _ => none

variable {st : Stage σ} {item : Item} in
/-- Handling the item in hand is its turn. -/
theorem turn?_handle (hhand : st.inHand = some item) :
    turn? ⟨st, .handle⟩ = some (st.service.turnOf item) := by
  unfold turn?
  dsimp only
  rw [hhand, Option.map_some]

/-- The request that is made, with its number. -/
def request? : Option (Nat × Request) := h.move.asks?

end Happening

/-- What is read off a list with one element more. -/
theorem filterMap_concat {α β : Type} (f : α → Option β) (xs : List α) (x : α) :
    (xs ++ [x]).filterMap f = xs.filterMap f ++ (f x).toList := by
  rw [List.filterMap_append]
  cases hx : f x with
  | none => rw [List.filterMap_cons_none hx]; rfl
  | some y => rw [List.filterMap_cons_some hx]; rfl

/-- The turns among happenings. -/
def turnsOf {σ : Type} (hs : List (Happening σ)) : List (Turn σ) := hs.filterMap Happening.turn?

/-- The requests that were made, with their numbers. -/
def requestsOf {σ : Type} (hs : List (Happening σ)) : List (Nat × Request) :=
  hs.filterMap Happening.request?

/-- What a new service goes through: the happenings so far, and the stage.  Every request has a number
    of its own. -/
inductive Served {σ : Type} (site : Site σ) : List (Happening σ) → Stage σ → Prop
  | start (outside : σ) (files : Files) (s : Service σ)
      (h : Service.new? site outside files = some s) : Served site [] ⟨s, none⟩
  | next (hs : List (Happening σ)) (st : Stage σ) (move : Move σ) (h : Served site hs st)
      (hallowed : st.Allows move)
      (hfresh : ∀ number request, move = .ask number request → ∀ r, (number, r) ∉ requestsOf hs) :
      Served site (hs ++ [⟨st, move⟩]) (Happening.after site ⟨st, move⟩)

/-! ## One move after another

Some lists of moves are fixed beforehand.  They are happenings too, if every move in them is
possible. -/

namespace Stage

variable {σ : Type} (site : Site σ)

/-- What happens in a list of moves, and the stage in the end. -/
def through : Stage σ → List (Move σ) → List (Happening σ) × Stage σ
  | st, [] => ([], st)
  | st, move :: moves =>
    let (hs, last) := through (Happening.after site ⟨st, move⟩) moves
    (⟨st, move⟩ :: hs, last)

/-- Whether all moves of a list are possible, one after another. -/
def AllowsAll : Stage σ → List (Move σ) → Prop
  | _, [] => True
  | st, move :: moves => st.Allows move ∧ AllowsAll (Happening.after site ⟨st, move⟩) moves

end Stage

/-! ## The turns of a service are a run

The service is compared with a run in which completions wait in a list of their own.  There may be more
in that list than in the inbox, since a service whose controller was thrown away loses what it had. -/

namespace Stage

variable {σ : Type} {site : Site σ} {ts : List (Turn σ)} {st st' : Stage σ}

/-- The completions that are in hand or have entered, the oldest first. -/
def completions (st : Stage σ) : List Completion :=
  (st.inHand.bind Item.completion?).toList ++ st.service.inbox.completions

/-- The controller is one that the turns lead to, and the completions that it will handle wait. -/
def Follows (site : Site σ) (ts : List (Turn σ)) (st : Stage σ) : Prop :=
  ∃ queued, Run site ts st.service.controller queued ∧
    ∀ e, st.completions.count e ≤ queued.count e

/-- Around the controller anything may change, and completions may be lost. -/
theorem Follows.around (h : st.Follows site ts)
    (hc : st'.service.controller = st.service.controller)
    (hi : st'.completions = st.completions ∨ st'.completions = []) : st'.Follows site ts := by
  obtain ⟨queued, hrun, hwaits⟩ := h
  refine ⟨queued, hc ▸ hrun, fun e => ?_⟩
  rcases hi with hi | hi
  · rw [hi]
    exact hwaits e
  · rw [hi]
    exact Nat.zero_le _

/-- Completions are in hand or in the inbox, and nowhere else. -/
theorem completions_congr (hhand : st'.inHand = st.inHand)
    (hinbox : st'.service.inbox.completions = st.service.inbox.completions) :
    st'.completions = st.completions := by
  unfold completions
  rw [hhand, hinbox]

/-- At the desk anything may change but the leg and the sinks. -/
theorem Follows.atDesk (h : st.Follows site ts) (work : Desk σ → Desk σ)
    (hleg : (work st.service.controller.desk).leg = st.service.controller.desk.leg)
    (hsinks : (work st.service.controller.desk).sinks = st.service.controller.desk.sinks)
    (hposted : (work st.service.controller.desk).posted = st.service.controller.desk.posted) :
    Stage.Follows site ts { st with service := st.service.atDesk work } := by
  obtain ⟨queued, hrun, hwaits⟩ := h
  exact ⟨queued, .meanwhile ts st.service.controller queued _ hrun hleg hsinks hposted, hwaits⟩

/-- Only handling an item is a turn. -/
theorem Follows.act (h : st.Follows site ts) {move : Move σ} (hallowed : st.Allows move) :
    (st.act site move).2.Follows site (ts ++ (Happening.turn? ⟨st, move⟩).toList) := by
  -- all moves but one are no turn, and then the turns so far are those of the service as it is
  have hquiet : Happening.turn? ⟨st, move⟩ = none → (st.act site move).2.Follows site ts →
      (st.act site move).2.Follows site (ts ++ (Happening.turn? ⟨st, move⟩).toList) := by
    intro hnone h
    rw [hnone]
    exact (List.append_nil ts).symm ▸ h
  -- one case for each move
  cases move with
  | begin =>
    refine hquiet rfl ?_
    show Follows site ts { st with service := st.service.begin }
    unfold Service.begin
    split
    · have hlog := h.atDesk (·.log .info "Media session controller started" []) rfl rfl rfl
      exact hlog.around rfl (.inl rfl)
    · exact h
  | take =>
    refine hquiet rfl ?_
    unfold Stage.act
    dsimp only
    cases htake : st.service.inbox.take with
    | none => exact h
    | some taken =>
      refine h.around rfl (.inl ?_)
      unfold completions
      rw [Inbox.completions_take htake, hallowed.2.1]
      rfl
  | handle =>
    obtain ⟨item, hhand⟩ := Option.ne_none_iff_exists'.1 hallowed.2
    obtain ⟨queued, hrun, hwaits⟩ := h
    unfold completions at hwaits
    rw [hhand] at hwaits
    unfold Stage.act Happening.turn?
    dsimp only
    rw [hhand]
    exact st.service.handleItem_run item hrun hwaits
  | finish =>
    refine hquiet rfl ?_
    show Follows site ts { st with service := st.service.endIfOver }
    unfold Service.endIfOver
    split
    · have hlog := h.atDesk (·.log .info "Media session controller stopped"
        [("state", st.service.controller.phase.name)]) rfl rfl rfl
      exact hlog.around rfl (.inl rfl)
    · exact h
  | ask number request =>
    refine hquiet rfl ?_
    unfold Stage.act
    dsimp only
    split
    · exact h.around rfl (.inl (completions_congr rfl (Inbox.completions_ask _ _)))
    · exact h
  | look number =>
    refine hquiet rfl ?_
    unfold Stage.act
    dsimp only
    split
    · exact h
    · next c hc =>
      obtain ⟨hcontroller, hcompletions⟩ := st.service.look_around c
      exact h.around hcontroller (.inl (completions_congr rfl hcompletions))
  | cancel number =>
    exact hquiet rfl (h.around rfl (.inl (completions_congr rfl (Inbox.completions_withdraw _ _))))
  | complete sink outcome =>
    -- the sink is gone in either case; what it completes waits only while the inbox is open
    refine hquiet rfl ?_
    obtain ⟨queued, hrun, hwaits⟩ := h
    have hdrop : Run site ts (st.service.dropSink sink).controller queued :=
      .drop ts _ queued sink hrun hallowed
    show Follows site ts { st with service := (st.service.complete sink outcome).2 }
    unfold Service.complete
    dsimp only
    split
    · cases he : sink.complete? outcome with
      | none => exact ⟨queued, hdrop, hwaits⟩
      | some e =>
        refine ⟨queued ++ [e], .complete ts _ queued sink outcome e hrun hallowed he, fun e' => ?_⟩
        have hcompletions : ([e].foldl Inbox.post st.service.inbox).completions =
            st.service.inbox.completions ++ [e] := Inbox.completions_posted _ [e]
        show (_ ++ ([e].foldl Inbox.post st.service.inbox).completions).count e' ≤ _
        rw [hcompletions, ← List.append_assoc]
        show (st.completions ++ [e]).count e' ≤ (queued ++ [e]).count e'
        rw [List.count_append, List.count_append]
        exact Nat.add_le_add_right (hwaits e') _
    · exact ⟨queued, hdrop, hwaits⟩
  | dropSink sink =>
    obtain ⟨queued, hrun, hwaits⟩ := h
    exact hquiet rfl ⟨queued, .drop ts _ queued sink hrun hallowed, hwaits⟩
  | share => exact hquiet rfl (h.around rfl (.inl rfl))
  | dropHandle => exact hquiet rfl (h.around rfl (.inl rfl))
  | kill =>
    refine hquiet rfl ?_
    show Follows site ts ⟨st.service.kill, none⟩
    rw [Service.kill_of_open hallowed]
    exact h.around rfl (.inr (Inbox.completions_abandon _))
  | around desk =>
    obtain ⟨hleg, hsinks, hposted⟩ := hallowed
    exact hquiet rfl (h.atDesk _ hleg hsinks hposted)

end Stage

section

variable {σ : Type} {site : Site σ} {hs : List (Happening σ)} {st : Stage σ}

/-- One happening more is one turn more, or none. -/
theorem turnsOf_concat (hs : List (Happening σ)) (h : Happening σ) :
    turnsOf (hs ++ [h]) = turnsOf hs ++ h.turn?.toList := filterMap_concat _ _ _

/-- Before each of its happenings a service was served. -/
theorem Served.before {pre post : List (Happening σ)} {h : Happening σ}
    (hserved : Served site (pre ++ h :: post) st) :
    Served site pre h.before ∧ h.before.Allows h.move ∧
      ∀ number request, h.move = .ask number request → ∀ r, (number, r) ∉ requestsOf pre := by
  generalize hhs : pre ++ h :: post = hs at hserved
  -- by induction on the happenings, from the last one back
  induction hserved generalizing post with
  | start outside files s hnew =>
    exact absurd hhs (List.append_ne_nil_of_right_ne_nil pre (List.cons_ne_nil h post))
  | next hs st move hserved hallowed hfresh ih =>
    rcases Run.concat_cases hhs.symm with ⟨rfl, rfl, -⟩ | ⟨post', -, hhs'⟩
    · exact ⟨hserved, hallowed, hfresh⟩
    · exact ih hhs'.symm

/-- One more happening adds one request at most. -/
theorem requestsOf_concat (hs : List (Happening σ)) (h : Happening σ) :
    requestsOf (hs ++ [h]) = requestsOf hs ++ h.request?.toList := filterMap_concat _ _ _

/-- No two requests have the same number. -/
theorem Served.distinct (h : Served site hs st) : ((requestsOf hs).map Prod.fst).Nodup := by
  induction h with
  | start outside files s h => exact List.nodup_nil
  | next hs st move h hallowed hfresh ih =>
    rw [requestsOf_concat, List.map_append]
    cases move with
    | ask number request =>
      refine List.nodup_append.2 ⟨ih, List.pairwise_singleton _ number, fun n hn m hm heq => ?_⟩
      obtain ⟨⟨n', r⟩, hmem, rfl⟩ := List.mem_map.1 hn
      have hnumber : n' = number := heq.trans (List.mem_singleton.1 hm)
      exact hfresh number request rfl r (hnumber ▸ hmem)
    | _ => exact (List.append_nil _).symm ▸ ih

/-- A service goes through moves that are possible, if their requests have new numbers. -/
theorem Served.through (h : Served site hs st) (moves : List (Move σ))
    (hallowed : st.AllowsAll site moves)
    (hfresh : ((requestsOf hs ++ moves.filterMap Move.asks?).map Prod.fst).Nodup) :
    Served site (hs ++ (st.through site moves).1) (st.through site moves).2 := by
  -- by induction on the moves
  induction moves generalizing hs st with
  | nil => exact (List.append_nil hs).symm ▸ h
  | cons move moves ih =>
    -- a request goes over from the moves to the happenings
    have hrequests : requestsOf (hs ++ [⟨st, move⟩]) ++ moves.filterMap Move.asks? =
        requestsOf hs ++ (move :: moves).filterMap Move.asks? := by
      rw [requestsOf_concat, List.append_assoc]
      cases move <;> rfl
    have hnew : ∀ number request, move = .ask number request →
        ∀ r, (number, r) ∉ requestsOf hs := by
      rintro number request rfl r hmem
      rw [List.map_append] at hfresh
      exact (List.nodup_append.1 hfresh).2.2 number (List.mem_map_of_mem hmem) number
        List.mem_cons_self rfl
    have hnext := ih (.next hs st move h hallowed.1 hnew) hallowed.2 (hrequests ▸ hfresh)
    rw [List.append_assoc] at hnext
    exact hnext

/-- The turns of a service are a run of its controller. -/
theorem Served.follows (h : Served site hs st) : st.Follows site (turnsOf hs) := by
  -- by induction on the happenings
  induction h with
  | start outside files s h =>
    rw [Service.eq_of_new? h]
    exact ⟨[], .start _ rfl rfl rfl, fun e => Nat.le_refl _⟩
  | next hs st move h hallowed hfresh ih =>
    rw [turnsOf_concat]
    exact ih.act hallowed

end

/-! ## What moves do

What a move does to the inbox is said by the operations on inboxes; here is what each does to its
items. -/

namespace Inbox

/-- Completions enter as they are, and nothing else changes. -/
theorem foldl_post (i : Inbox) (es : List Completion) :
    es.foldl post i = { i with items := i.items ++ es.map Item.completion } := by
  induction es generalizing i with
  | nil =>
    show i = { i with items := i.items ++ [] }
    rw [List.append_nil]
  | cons e es ih =>
    rw [List.foldl_cons, ih]
    show ({ i with items := (i.items ++ [.completion e]) ++ es.map Item.completion } : Inbox) = _
    rw [List.append_assoc]
    rfl

theorem items_posted (i : Inbox) (es : List Completion) :
    (es.foldl post i).items = i.items ++ es.map .completion := by
  rw [foldl_post]

theorem items_ask (i : Inbox) (n : Nat) : (i.ask n).items = i.items := by
  unfold ask
  split <;> rfl

theorem items_withdraw (i : Inbox) (n : Nat) : (i.withdraw n).items = i.items := by
  unfold withdraw
  split
  · rw [items_giveBack]
  · rfl

theorem items_take {i j : Inbox} {item : Item} (h : i.take = some (item, j)) :
    i.items = item :: j.items := by
  unfold take at h
  split at h
  · cases h
  · next rest hitems =>
    cases h
    rw [hitems]
    split
    · rw [items_giveBack]
    · rfl

/-- Where nothing can be taken there is nothing. -/
theorem items_of_take_none {i : Inbox} (h : i.take = none) : i.items = [] := by
  unfold take at h
  split at h
  · next hnil => exact hnil
  · cases h

theorem items_abandon (i : Inbox) : i.abandon.items = [] := items_discard _ _

/-- Whoever has a permit sends, and the item comes last. -/
theorem items_send {i : Inbox} {n : Nat} (h : n ∈ i.granted) (item : Item) :
    (i.send n item).items = i.items ++ [item] := by
  unfold send
  rw [if_pos h]

end Inbox

/-- What is completed in a turn enters when the item is handled. -/
theorem Service.items_handleItem {σ : Type} (site : Site σ) {s : Service σ}
    (hsound : Sound s.controller.phase s.controller.desk.leg)
    (hposted : s.controller.desk.posted = []) (item : Item) :
    (s.handleItem site item).inbox.items = s.inbox.items ++
      (((s.turnOf item).effects site).filterMap Effect.reported?).map .completion := by
  have hreported : ((s.turnOf item).after site).desk.posted =
      ((s.turnOf item).effects site).filterMap Effect.reported? := by
    obtain ⟨-, hgo, -⟩ := Turn.turned (t := s.turnOf item) site hsound
    have hbefore : (s.turnOf item).before.desk.posted = [] := hposted
    rw [hgo.posted, hbefore, List.nil_append]
    exact ((s.turnOf item).filterMap_effects site _ fun _ => rfl).symm
  have hqueued : ((((s.turnOf item).after site).desk.posted).foldl Inbox.post s.inbox).items =
      s.inbox.items ++ (((s.turnOf item).after site).desk.posted).map .completion :=
    Inbox.items_posted _ _
  rw [← hreported]
  cases item with
  | message sender m => exact hqueued
  | completion e => exact hqueued
  | query number =>
    -- a query leaves the desk as it is
    show s.inbox.items = s.inbox.items ++ (s.controller.desk.posted).map .completion
    rw [hposted]
    exact (List.append_nil _).symm

/-- The callers once one of them is finished. -/
def dismissed (number : Nat) (callers : List Caller) : List Caller :=
  callers.filter fun c => c.number ≠ number

/-- The callers once a query is answered. -/
def answered (number : Nat) (snapshot : Snapshot) (callers : List Caller) : List Caller :=
  callers.map fun c => if c.number = number then { c with answer := some snapshot } else c

namespace Stage

variable {σ : Type} {site : Site σ} {st : Stage σ}

/-- What a move does: how a request ends, the inbox, the callers and the item in hand after it, and the
    items that entered. -/
inductive Moved (st : Stage σ) :
    Move σ → Option Ending → Inbox → List Caller → Option Item → List Item → Prop
  /-- What concerns neither inbox nor callers. -/
  | aside (move : Move σ) (hby : move.by? = none) (htake : move ≠ .take) (hkill : move ≠ .kill)
      (hhandle : move ≠ .handle) :
      Moved st move none st.service.inbox st.service.callers st.inHand []
  /-- The oldest item is taken in hand. -/
  | took (item : Item) (inbox : Inbox) (hhand : st.inHand = none)
      (htake : st.service.inbox.take = some (item, inbox)) :
      Moved st .take none inbox st.service.callers (some item) []
  /-- The item in hand is handled, and what was completed meanwhile enters. -/
  | handled (item : Item) (es : List Completion) (hhand : st.inHand = some item)
      (hitem : ∀ n, item ≠ .query n) :
      Moved st .handle none (es.foldl Inbox.post st.service.inbox) st.service.callers none
        (es.map .completion)
  /-- The item in hand was a query, and its caller is answered. -/
  | answered (number : Nat) (hhand : st.inHand = some (.query number)) :
      Moved st .handle none st.service.inbox
        (answered number (st.service.turnOf (.query number)).before.snapshot st.service.callers) none []
  /-- What the media server completes enters, as long as the controller is there. -/
  | completed (sink : Sink) (outcome : Outcome) (es : List Completion) :
      Moved st (.complete sink outcome) none (es.foldl Inbox.post st.service.inbox)
        st.service.callers st.inHand (es.map .completion)
  /-- A caller lines up. -/
  | asked (number : Nat) (request : Request) (hopen : st.service.isOpen = true) :
      Moved st (.ask number request) none (st.service.inbox.ask number)
        (st.service.callers ++ [⟨number, request, none⟩]) st.inHand []
  /-- A caller comes too late. -/
  | rebuffed (number : Nat) (request : Request) (hopen : st.service.isOpen = false) :
      Moved st (.ask number request) (some .refused) st.service.inbox st.service.callers st.inHand []
  /-- A caller cannot get on. -/
  | waited (c : Caller) (hc : st.service.caller? c.number = some c) (hanswer : c.answer = none) :
      Moved st (.look c.number) none st.service.inbox st.service.callers st.inHand []
  /-- A caller takes the answer that it was waiting for. -/
  | collected (c : Caller) (snapshot : Snapshot) (hc : st.service.caller? c.number = some c)
      (hanswer : c.answer = some snapshot) :
      Moved st (.look c.number) (some (.reply (.answered snapshot))) st.service.inbox
        (dismissed c.number st.service.callers) st.inHand []
  /-- A caller finds the controller gone. -/
  | refused (c : Caller) (hc : st.service.caller? c.number = some c) (hanswer : c.answer = none)
      (hopen : st.service.isOpen = false) :
      Moved st (.look c.number) (some .refused) (st.service.inbox.withdraw c.number)
        (dismissed c.number st.service.callers) st.inHand []
  /-- A caller sends its message with the permit that it was granted, and is done. -/
  | sent (c : Caller) (sender : Recipient) (message : Message)
      (hc : st.service.caller? c.number = some c) (hanswer : c.answer = none)
      (hrequest : c.request = .tell sender message) (hgranted : c.number ∈ st.service.inbox.granted) :
      Moved st (.look c.number) (some (.reply .sent))
        (st.service.inbox.send c.number (.message sender message))
        (dismissed c.number st.service.callers) st.inHand [.message sender message]
  /-- A caller sends its query, and waits for the answer. -/
  | queued (c : Caller) (hc : st.service.caller? c.number = some c) (hanswer : c.answer = none)
      (hrequest : c.request = .query) (hgranted : c.number ∈ st.service.inbox.granted) :
      Moved st (.look c.number) none (st.service.inbox.send c.number (.query c.number))
        st.service.callers st.inHand [.query c.number]
  /-- A caller gives up. -/
  | gaveUp (number : Nat) (hc : (st.service.caller? number).isSome) :
      Moved st (.cancel number) (some .gaveUp) (st.service.inbox.withdraw number)
        (dismissed number st.service.callers) st.inHand []
  /-- The controller is thrown away, and the inbox with it. -/
  | killed : Moved st .kill none st.service.inbox.abandon st.service.callers none []

variable (site) in
/-- Every move that is possible does one of the things in `Moved`, and the items in the inbox are those
    that stayed and those that entered. -/
theorem act_moved {move : Move σ} (hallowed : st.Allows move) :
    ∃ items, (st.act site move).2.service.inbox.items =
        (Happening.mk st move).kept ++ items ∧
      st.Moved move (st.act site move).1 (st.act site move).2.service.inbox
        (st.act site move).2.service.callers (st.act site move).2.inHand items := by
  -- what leaves the inbox alone lets nothing enter
  have hnone : ∀ xs : List Item, xs = xs ++ [] := fun xs => (List.append_nil xs).symm
  -- one case for each move
  cases move with
  | begin =>
    show ∃ items, st.service.begin.inbox.items = _ ++ items ∧
      st.Moved .begin none st.service.begin.inbox st.service.begin.callers st.inHand items
    unfold Service.begin
    split
    · exact ⟨[], hnone _, .aside _ rfl nofun nofun nofun⟩
    · exact ⟨[], hnone _, .aside _ rfl nofun nofun nofun⟩
  | finish =>
    show ∃ items, st.service.endIfOver.inbox.items = _ ++ items ∧
      st.Moved .finish none st.service.endIfOver.inbox st.service.endIfOver.callers st.inHand items
    unfold Service.endIfOver
    split
    · exact ⟨[], hnone _, .aside _ rfl nofun nofun nofun⟩
    · exact ⟨[], hnone _, .aside _ rfl nofun nofun nofun⟩
  | dropSink sink => exact ⟨[], hnone _, .aside _ rfl nofun nofun nofun⟩
  | share => exact ⟨[], hnone _, .aside _ rfl nofun nofun nofun⟩
  | dropHandle => exact ⟨[], hnone _, .aside _ rfl nofun nofun nofun⟩
  | around desk => exact ⟨[], hnone _, .aside _ rfl nofun nofun nofun⟩
  | take =>
    obtain ⟨-, hhand, hitems⟩ := hallowed
    unfold act Happening.kept
    cases htake : st.service.inbox.take with
    | none => exact absurd (Inbox.items_of_take_none htake) hitems
    | some taken =>
      refine ⟨[], ?_, .took taken.1 taken.2 hhand htake⟩
      dsimp only
      rw [Inbox.items_take htake, List.tail_cons, List.append_nil]
  | handle =>
    obtain ⟨item, hhand⟩ := Option.ne_none_iff_exists'.1 hallowed.2
    unfold act
    rw [hhand]
    cases item with
    | query number => exact ⟨[], hnone _, .answered number hhand⟩
    | message sender m => exact ⟨_, Inbox.items_posted _ _, .handled _ _ hhand nofun⟩
    | completion e => exact ⟨_, Inbox.items_posted _ _, .handled _ _ hhand nofun⟩
  | ask number request =>
    unfold act
    dsimp only
    split
    · next hopen =>
      exact ⟨[], (Inbox.items_ask _ _).trans (hnone _), .asked number request hopen⟩
    · next hopen =>
      exact ⟨[], hnone _, .rebuffed number request (Bool.eq_false_iff.2 hopen)⟩
  | look number =>
    obtain ⟨c, hc⟩ := Option.isSome_iff_exists.1 hallowed
    have hnumber := Service.number_of_caller? hc
    subst hnumber
    unfold act
    dsimp only
    rw [hc]
    dsimp only
    -- what a caller does when it looks is one of five things
    rcases st.service.look_cases c with ⟨snapshot, hanswer, heq⟩ | ⟨hanswer, hopen, heq⟩ |
      ⟨sender, m, hanswer, hgranted, hrequest, heq⟩ | ⟨hanswer, hgranted, hrequest, heq⟩ |
      ⟨hanswer, heq⟩ <;> rw [heq]
    · exact ⟨[], hnone _, .collected c snapshot hc hanswer⟩
    · exact ⟨[], (Inbox.items_withdraw _ _).trans (hnone _), .refused c hc hanswer hopen⟩
    · exact ⟨_, Inbox.items_send hgranted _, .sent c sender m hc hanswer hrequest hgranted⟩
    · exact ⟨_, Inbox.items_send hgranted _, .queued c hc hanswer hrequest hgranted⟩
    · exact ⟨[], hnone _, .waited c hc hanswer⟩
  | cancel number =>
    exact ⟨[], (Inbox.items_withdraw _ _).trans (hnone _), .gaveUp number hallowed⟩
  | complete sink outcome =>
    show ∃ items, (st.service.complete sink outcome).2.inbox.items = _ ++ items ∧
      st.Moved (.complete sink outcome) none (st.service.complete sink outcome).2.inbox
        (st.service.complete sink outcome).2.callers st.inHand items
    unfold Service.complete
    dsimp only
    split
    · exact ⟨_, Inbox.items_posted _ _, .completed sink outcome _⟩
    · exact ⟨[], hnone _, .aside _ rfl nofun nofun nofun⟩
  | kill =>
    show ∃ items, st.service.kill.inbox.items = [] ++ items ∧
      st.Moved .kill none st.service.kill.inbox st.service.kill.callers none items
    rw [Service.kill_of_open hallowed]
    exact ⟨[], Inbox.items_abandon _, .killed⟩

variable (site) in
/-- What a move does, with what is said of it as a happening. -/
theorem moved {move : Move σ} (hallowed : st.Allows move) :
    st.Moved move (Happening.ending? site ⟨st, move⟩)
      (Happening.after site ⟨st, move⟩).service.inbox
      (Happening.after site ⟨st, move⟩).service.callers
      (Happening.after site ⟨st, move⟩).inHand (Happening.entered site ⟨st, move⟩) := by
  obtain ⟨items, hitems, hmoved⟩ := act_moved site hallowed
  have hentered : Happening.entered site ⟨st, move⟩ = items := by
    show (st.act site move).2.service.inbox.items.drop _ = items
    rw [hitems, List.drop_left]
  rw [hentered]
  exact hmoved

variable (site) in
/-- Nothing but what enters comes into the inbox, and it comes last. -/
theorem items_after {move : Move σ} (hallowed : st.Allows move) :
    (Happening.after site ⟨st, move⟩).service.inbox.items =
      (Happening.mk st move).kept ++ Happening.entered site ⟨st, move⟩ := by
  obtain ⟨items, hitems, -⟩ := act_moved site hallowed
  show (st.act site move).2.service.inbox.items = _ ++ (st.act site move).2.service.inbox.items.drop _
  rw [hitems, List.drop_left]

/-- Only taking an item puts one in hand. -/
theorem Moved.empty_hand {move : Move σ} {ending : Option Ending} {inbox : Inbox}
    {callers : List Caller} {hand : Option Item} {items : List Item}
    (h : st.Moved move ending inbox callers hand items) (htake : move ≠ .take)
    (hhand : st.inHand = none) : hand = none := by
  cases h with
  | took item inbox hnone hitem => exact absurd rfl htake
  | _ => first | rfl | exact hhand

/-- A move lets items in at the end, and takes the one that is handled from the front. -/
theorem Moved.order {move : Move σ} {ending : Option Ending} {inbox : Inbox} {callers : List Caller}
    {hand : Option Item} {items : List Item} (h : st.Moved move ending inbox callers hand items)
    (hkill : move ≠ .kill) :
    st.inHand.toList ++ st.service.inbox.items ++ items =
      ((Happening.turn? ⟨st, move⟩).map Turn.item).toList ++ (hand.toList ++ inbox.items) := by
  have hturn : ∀ item, st.inHand = some item →
      (Happening.turn? ⟨st, .handle⟩).map Turn.item = some item :=
    fun item hhand => congrArg (Option.map Turn.item) (Happening.turn?_handle hhand)
  -- the handled item comes first, what entered comes last, and the rest has moved up
  cases h with
  | aside move hby htake hkill hhandle =>
    have hnone : Happening.turn? ⟨st, move⟩ = none := by
      cases move <;> first | rfl | exact absurd rfl hhandle
    rw [hnone, List.append_nil]
    rfl
  | took item inbox hhand htake =>
    rw [hhand, Inbox.items_take htake, List.append_nil]
    rfl
  | handled item es hhand hitem =>
    rw [hturn item hhand, hhand, Inbox.items_posted]
    exact List.append_assoc _ _ _
  | answered number hhand =>
    rw [hturn _ hhand, hhand, List.append_nil]
    rfl
  | completed sink outcome es =>
    rw [Inbox.items_posted, List.append_assoc]
    rfl
  | asked number request hopen =>
    rw [Inbox.items_ask, List.append_nil]
    rfl
  | rebuffed number request hopen => exact List.append_nil _
  | waited c hc hanswer => exact List.append_nil _
  | collected c snapshot hc hanswer => exact List.append_nil _
  | refused c hc hanswer hopen =>
    rw [Inbox.items_withdraw, List.append_nil]
    rfl
  | sent c sender message hc hanswer hrequest hgranted =>
    rw [Inbox.items_send hgranted, List.append_assoc]
    rfl
  | queued c hc hanswer hrequest hgranted =>
    rw [Inbox.items_send hgranted, List.append_assoc]
    rfl
  | gaveUp number hc =>
    rw [Inbox.items_withdraw, List.append_nil]
    rfl
  | killed => exact absurd rfl hkill

end Stage

/-! ## The life of a service

A controller begins, and ends or is thrown away, and none of these twice. -/

namespace Stage

variable {σ : Type} (site : Site σ) {st : Stage σ}

/-- A controller begins once, and ends where nothing is left and nobody could send any more, unless it
    is thrown away. -/
theorem life_after {move : Move σ} (hallowed : st.Allows move) :
    (Happening.after site ⟨st, move⟩).service.life = st.service.life ∨
    (st.service.life = .ready ∧ (Happening.after site ⟨st, move⟩).service.life = .running) ∨
    (st.service.life = .running ∧ st.inHand = none ∧ st.service.inbox.items = [] ∧
      st.service.reachable = false ∧ (Happening.after site ⟨st, move⟩).service.life = .ended) ∨
    (move = .kill ∧ st.service.isOpen = true ∧
      (Happening.after site ⟨st, move⟩).service.life = .killed) := by
  unfold Happening.after
  -- only beginning, ending and killing change the life
  cases move with
  | begin =>
    exact .inr (.inl ⟨hallowed, Service.life_begin_of_ready hallowed⟩)
  | take =>
    refine .inl ?_
    unfold act
    dsimp only
    split <;> rfl
  | handle =>
    refine .inl ?_
    unfold act
    dsimp only
    split
    · rfl
    · next item hhand => cases item <;> rfl
  | finish =>
    obtain ⟨hrunning, hhand, hitems⟩ := hallowed
    by_cases hover : st.service.reachable = false
    · exact .inr (.inr (.inl ⟨hrunning, hhand, hitems, hover,
        Service.life_endIfOver ⟨hrunning, hitems, hover⟩⟩))
    · refine .inl ?_
      show st.service.endIfOver.life = st.service.life
      unfold Service.endIfOver
      rw [if_neg fun h => hover h.2.2]
  | ask number request =>
    refine .inl ?_
    unfold act
    dsimp only
    split <;> rfl
  | look number =>
    refine .inl ?_
    unfold act
    dsimp only
    split
    · rfl
    · next c hc =>
      rcases st.service.look_cases c with ⟨snapshot, -, heq⟩ | ⟨-, -, heq⟩ | ⟨sender, m, -, -, -, heq⟩ |
        ⟨-, -, -, heq⟩ | ⟨-, heq⟩ <;> rw [heq] <;> rfl
  | cancel number => exact .inl rfl
  | complete sink outcome =>
    refine .inl ?_
    show (st.service.complete sink outcome).2.life = st.service.life
    unfold Service.complete
    dsimp only
    split <;> rfl
  | dropSink sink => exact .inl rfl
  | share => exact .inl rfl
  | dropHandle => exact .inl rfl
  | kill =>
    refine .inr (.inr (.inr ⟨rfl, hallowed, ?_⟩))
    show st.service.kill.life = .killed
    rw [Service.kill_of_open hallowed]
  | around desk => exact .inl rfl

/-- A controller that was thrown away stays so, and neither takes nor handles anything. -/
theorem killed_after {move : Move σ} (hallowed : st.Allows move) (h : st.service.life = .killed)
    (hhand : st.inHand = none) :
    (Happening.after site ⟨st, move⟩).service.life = .killed ∧
      (Happening.after site ⟨st, move⟩).inHand = none ∧ Happening.turn? ⟨st, move⟩ = none := by
  refine ⟨?_, ?_, ?_⟩
  · rcases life_after site hallowed with hsame | ⟨hready, -⟩ | ⟨hrunning, -⟩ | ⟨-, hopen, -⟩
    · exact hsame.trans h
    · rw [h] at hready
      cases hready
    · rw [h] at hrunning
      cases hrunning
    · unfold Service.isOpen at hopen
      rw [h] at hopen
      cases hopen
  · refine (moved site hallowed).empty_hand (fun htake => ?_) hhand
    subst htake
    rw [hallowed.1] at h
    cases h
  · unfold Happening.turn?
    cases move with
    | handle =>
      rw [hhand]
      rfl
    | _ => rfl

end Stage

/-! ## Items are handled in the order in which they entered

The inbox is a queue, and this is where it shows. -/

/-- The items that entered, in order. -/
def entriesOf {σ : Type} (site : Site σ) (hs : List (Happening σ)) : List Item :=
  hs.flatMap (Happening.entered site)

/-- The items that were handled, in order. -/
def handledOf {σ : Type} (hs : List (Happening σ)) : List Item := (turnsOf hs).map Turn.item

section

variable {σ : Type} {site : Site σ} {hs : List (Happening σ)} {st : Stage σ}

/-- One happening more is one item more that was handled, or none. -/
theorem handledOf_concat (hs : List (Happening σ)) (h : Happening σ) :
    handledOf (hs ++ [h]) = handledOf hs ++ (h.turn?.map Turn.item).toList := by
  unfold handledOf
  rw [turnsOf_concat, List.map_append, Option.toList_map]

/-- What has entered was handled, is in hand, or is in the inbox, in this order; unless the controller
    was thrown away, when the rest was lost. -/
theorem Served.order (h : Served site hs st) :
    (entriesOf site hs = handledOf hs ++ (st.inHand.toList ++ st.service.inbox.items) ∧
      ∀ h ∈ hs, h.move ≠ .kill) ∨
    ((∃ h ∈ hs, h.move = .kill) ∧ st.service.life = .killed ∧ handledOf hs <+: entriesOf site hs ∧
      st.inHand = none) := by
  -- by induction on the happenings
  induction h with
  | start outside files s h =>
    rw [Service.eq_of_new? h]
    exact .inl ⟨rfl, List.forall_mem_nil _⟩
  | next hs st move h hallowed hfresh ih =>
    have hmoved := Stage.moved site hallowed
    have hlonger : entriesOf site (hs ++ [⟨st, move⟩]) =
        entriesOf site hs ++ Happening.entered site ⟨st, move⟩ := by
      unfold entriesOf
      rw [List.flatMap_append, List.flatMap_singleton]
    rw [hlonger, handledOf_concat]
    rcases ih with ⟨hentries, hnone⟩ | ⟨⟨thrown, hmem, hthrown⟩, hkilled, hprefix, hhand⟩
    · -- not thrown away so far: now, or still not
      by_cases hkill : move = .kill
      · subst hkill
        refine .inr ⟨⟨_, List.mem_append_right _ List.mem_cons_self, rfl⟩, ?_, ?_, rfl⟩
        · show st.service.kill.life = .killed
          rw [Service.kill_of_open hallowed]
        · show handledOf hs ++ [] <+: _
          rw [List.append_nil, hentries, List.append_assoc]
          exact List.prefix_append _ _
      · refine .inl ⟨?_, List.forall_mem_append.2 ⟨hnone, List.forall_mem_singleton.2 hkill⟩⟩
        rw [hentries, List.append_assoc, hmoved.order hkill, List.append_assoc]
    · obtain ⟨hkilled', hhand', hturn⟩ := Stage.killed_after site hallowed hkilled hhand
      refine .inr ⟨⟨thrown, List.mem_append_left _ hmem, hthrown⟩, hkilled', ?_, hhand'⟩
      rw [hturn]
      exact (List.append_nil _).symm ▸ hprefix.trans (List.prefix_append _ _)

/-- Items are handled in the order in which they entered. -/
theorem Served.handled_prefix (h : Served site hs st) : handledOf hs <+: entriesOf site hs := by
  rcases h.order with ⟨hentries, -⟩ | ⟨-, -, hprefix, -⟩
  · exact ⟨_, hentries.symm⟩
  · exact hprefix

end

end CallMedia
