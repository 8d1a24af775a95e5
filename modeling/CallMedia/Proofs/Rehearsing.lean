/-
  A rehearsal is one order of moves.

  The functions of a service that work things off, round by round, fix an order: the controller handles
  its whole inbox, then every caller gets on.  What is shown of services holds for every order, and so
  for this one.  A service is `Attained` if moves lead to it; the controller's part, the callers' part and
  the media server's keep it so, and so does every step of a rehearsal (`Rehearsal.served`).

  Requests are known by their numbers.  The numbers used so far are kept along, for a new request must
  have a new one; a rehearsal numbers its steps.
-/
import CallMedia.Proofs.Requests
import CallMedia.Rehearsal

namespace CallMedia

/-! ## Callers that are distinct

The rounds go through the callers that were there at the start of the round, and look each one up again
by its number.  This is why the numbers must differ. -/

/-- A caller is found by its number. -/
theorem callerIn_of_mem {callers : List Caller} (h : (callers.map Caller.number).Nodup) {c : Caller}
    (hc : c ∈ callers) : callerIn callers c.number = some c := by
  unfold callerIn
  induction callers with
  | nil => cases hc
  | cons first rest ih =>
    obtain ⟨hfirst, hrest⟩ := List.nodup_cons.1 h
    rcases List.mem_cons.1 hc with rfl | hc
    · exact List.find?_cons_of_pos (decide_eq_true rfl)
    · have hne : first.number ≠ c.number := fun heq => hfirst (heq ▸ List.mem_map_of_mem hc)
      rw [List.find?_cons_of_neg (by simpa using hne)]
      exact ih hrest hc

/-- An answer leaves the callers' numbers as they are. -/
theorem numbers_answered (n : Nat) (snapshot : Snapshot) (callers : List Caller) :
    (answered n snapshot callers).map Caller.number = callers.map Caller.number := by
  unfold answered
  rw [List.map_map]
  refine List.map_congr_left fun c _ => ?_
  show (if c.number = n then { c with answer := some snapshot } else c).number = c.number
  split <;> rfl

section

variable {σ : Type} {site : Site σ} {hs : List (Happening σ)} {st : Stage σ}

/-- Only requests that were made are stood for. -/
theorem Served.caller_none (h : Served site hs st) {n : Nat} (hn : ∀ r, (n, r) ∉ requestsOf hs) :
    st.service.caller? n = none := by
  have hcourse := h.course n
  rw [requestOf?_eq_none hn] at hcourse
  exact hcourse.caller_none

/-- No move gives two callers the same number, if a new request has a new one. -/
theorem Stage.Moved.callers_nodup {move : Move σ} {ending : Option Ending} {inbox : Inbox}
    {callers : List Caller} {hand : Option Item} {items : List Item}
    (h : st.Moved move ending inbox callers hand items)
    (hcallers : (st.service.callers.map Caller.number).Nodup)
    (hnew : ∀ number request, move = .ask number request → st.service.caller? number = none) :
    (callers.map Caller.number).Nodup := by
  have hdismissed : ∀ n, ((dismissed n st.service.callers).map Caller.number).Nodup :=
    fun n => hcallers.sublist (List.filter_sublist.map _)
  -- callers go, or one comes whose number nobody has
  cases h with
  | asked number request hopen =>
    rw [List.map_append]
    refine List.nodup_append.2
      ⟨hcallers, List.pairwise_singleton _ number, fun n hn m hm heq => ?_⟩
    obtain ⟨c, hc, rfl⟩ := List.mem_map.1 hn
    have hnumber : c.number = number := heq.trans (List.mem_singleton.1 hm)
    have hfound : st.service.caller? c.number = some c := callerIn_of_mem hcallers hc
    rw [hnumber, hnew number request rfl] at hfound
    cases hfound
  | answered number hhand =>
    rw [numbers_answered]
    exact hcallers
  | collected c snapshot hc hanswer => exact hdismissed _
  | refused c hc hanswer hopen => exact hdismissed _
  | sent c sender message hc hanswer hrequest hgranted => exact hdismissed _
  | gaveUp number hc => exact hdismissed _
  | _ => exact hcallers

/-- No two callers have the same number. -/
theorem Served.callers_nodup (h : Served site hs st) :
    (st.service.callers.map Caller.number).Nodup := by
  induction h with
  | start outside files s h =>
    rw [Service.eq_of_new? h]
    exact List.nodup_nil
  | next hs st move h hallowed hfresh ih =>
    exact (Stage.moved site hallowed).callers_nodup ih
      fun number request hmove => h.caller_none (hfresh number request hmove)

end

/-! ## Services that moves lead to

Each function of a service is shown to be some moves, or none. -/

namespace Service

variable {σ : Type} {site : Site σ} {s : Service σ} {numbers : List Nat}

/-- Moves lead to a service, with requests of the given numbers and nothing in hand. -/
def Attained (site : Site σ) (numbers : List Nat) (s : Service σ) : Prop :=
  ∃ hs, Served site hs ⟨s, none⟩ ∧ ∀ n r, (n, r) ∈ requestsOf hs → n ∈ numbers

namespace Attained

/-- A new service is attained, by no moves at all. -/
theorem new {outside : σ} {files : Files} (h : new? site outside files = some s) :
    s.Attained site numbers :=
  ⟨[], .start outside files s h, fun _ _ hmem => nomatch hmem⟩

theorem mono (h : s.Attained site numbers) (n : Nat) : s.Attained site (n :: numbers) := by
  obtain ⟨hs, hserved, hnumbers⟩ := h
  exact ⟨hs, hserved, fun m r hmem => List.mem_cons_of_mem n (hnumbers m r hmem)⟩

/-- A move that makes no request and takes no item. -/
theorem move (h : s.Attained site numbers) (m : Move σ) (hallowed : Stage.Allows ⟨s, none⟩ m)
    (hasks : m.asks? = none) (htake : m ≠ .take) :
    (Happening.after site ⟨⟨s, none⟩, m⟩).service.Attained site numbers := by
  obtain ⟨hs, hserved, hnumbers⟩ := h
  have hhand : (Happening.after site ⟨⟨s, none⟩, m⟩).inHand = none :=
    (Stage.moved site hallowed).empty_hand htake rfl
  have hnext : Served site (hs ++ [⟨⟨s, none⟩, m⟩]) (Happening.after site ⟨⟨s, none⟩, m⟩) := by
    refine .next hs _ m hserved hallowed ?_
    rintro number request rfl
    cases hasks
  -- what counts of the next stage is only that its hand is empty
  generalize Happening.after site ⟨⟨s, none⟩, m⟩ = last at hhand hnext ⊢
  obtain ⟨service, hand⟩ := last
  cases hhand
  refine ⟨_, hnext, fun n r hmem => ?_⟩
  have hnone : Happening.request? ⟨⟨s, none⟩, m⟩ = none := hasks
  rw [requestsOf_concat, hnone] at hmem
  exact hnumbers n r (by simpa using hmem)

/-- At the desk anything may change but the leg and the sinks. -/
theorem atDesk (h : s.Attained site numbers) (work : Desk σ → Desk σ)
    (hleg : (work s.controller.desk).leg = s.controller.desk.leg)
    (hsinks : (work s.controller.desk).sinks = s.controller.desk.sinks)
    (hposted : (work s.controller.desk).posted = s.controller.desk.posted) :
    (s.atDesk work).Attained site numbers :=
  h.move (.around (work s.controller.desk)) ⟨hleg, hsinks, hposted⟩ rfl nofun

/-! ### The controller's part -/

/-- A service that begins; one that has begun is left alone. -/
theorem begin (h : s.Attained site numbers) : s.begin.Attained site numbers := by
  by_cases hready : s.life = .ready
  · exact h.move .begin hready rfl nofun
  · unfold Service.begin
    rw [if_neg hready]
    exact h

/-- A service that is open runs once it has begun. -/
theorem life_begin (hopen : s.isOpen = true) : s.begin.life = .running := by
  by_cases hready : s.life = .ready
  · exact life_begin_of_ready hready
  · unfold Service.begin
    rw [if_neg hready]
    unfold Service.isOpen at hopen
    simpa [hready] using hopen

/-- To take the next item and handle it is two moves. -/
theorem takeNext (h : s.Attained site numbers) (hrunning : s.life = .running) :
    (s.takeNext site).Attained site numbers := by
  unfold Service.takeNext
  cases htake : s.inbox.take with
  | none => exact h
  | some taken =>
    obtain ⟨hs, hserved, hnumbers⟩ := h
    have hitems : s.inbox.items ≠ [] := by
      rw [Inbox.items_take htake]
      exact List.cons_ne_nil _ _
    have htaken : Happening.after site ⟨⟨s, none⟩, .take⟩ =
        ⟨{ s with inbox := taken.2 }, some taken.1⟩ := by
      unfold Happening.after Stage.act
      dsimp only
      rw [htake]
    -- the item is in hand after the first move, and handled by the second
    have hfirst := Served.next hs _ .take hserved ⟨hrunning, rfl, hitems⟩ nofun
    rw [htaken] at hfirst
    have hsecond := Served.next _ _ .handle hfirst ⟨hrunning, Option.some_ne_none _⟩ nofun
    refine ⟨_, hsecond, fun n r hmem => ?_⟩
    rw [requestsOf_concat, requestsOf_concat] at hmem
    exact hnumbers n r (by simpa [Happening.request?, Move.asks?] using hmem)

/-- Handling an item does not end the controller. -/
theorem life_takeNext (s : Service σ) : (s.takeNext site).life = s.life := by
  unfold Service.takeNext
  cases s.inbox.take with
  | none => rfl
  | some taken => obtain ⟨item, inbox⟩ := taken; cases item <;> rfl

theorem takeMany (rounds : Nat) (h : s.Attained site numbers) (hrunning : s.life = .running) :
    (takeMany site rounds s).Attained site numbers := by
  induction rounds generalizing s with
  | zero => exact h
  | succ rounds ih => exact ih (h.takeNext hrunning) ((life_takeNext s).trans hrunning)

theorem endIfOver (h : s.Attained site numbers) : s.endIfOver.Attained site numbers := by
  by_cases hover : s.life = .running ∧ s.inbox.items = [] ∧ s.reachable = false
  · exact h.move .finish ⟨hover.1, rfl, hover.2.1⟩ rfl nofun
  · unfold Service.endIfOver
    rw [if_neg hover]
    exact h

/-- The controller's whole part: it begins, handles what there is, and ends if it may. -/
theorem drain (h : s.Attained site numbers) : (s.drain site).Attained site numbers := by
  unfold Service.drain
  split
  · next hopen =>
    exact (h.begin.takeMany _ (life_begin hopen)).endIfOver
  · exact h

/-! ### The callers' part -/

theorem look (h : s.Attained site numbers) {c : Caller} (hc : s.caller? c.number = some c) :
    (s.look c).2.Attained site numbers := by
  have hlook := h.move (.look c.number) (Option.isSome_iff_exists.2 ⟨c, hc⟩) rfl nofun
  have hafter : (Happening.after site ⟨⟨s, none⟩, .look c.number⟩).service = (s.look c).2 := by
    unfold Happening.after Stage.act
    dsimp only
    rw [hc]
  exact hafter ▸ hlook

/-- Who gets on is in nobody's way. -/
theorem caller?_look {c c' : Caller} (hne : c'.number ≠ c.number) :
    (s.look c).2.caller? c'.number = s.caller? c'.number := by
  have hstays : callerIn (dismissed c.number s.callers) c'.number = callerIn s.callers c'.number := by
    rw [callerIn_dismissed, if_neg hne]
  rcases s.look_cases c with ⟨snapshot, -, heq⟩ | ⟨-, -, heq⟩ | ⟨sender, m, -, -, -, heq⟩ |
    ⟨-, -, -, heq⟩ | ⟨-, heq⟩ <;> rw [heq]
  · exact hstays
  · exact hstays
  · exact hstays
  · rfl

theorem lookAll (cs : List Caller) (h : s.Attained site numbers)
    (hdistinct : (cs.map Caller.number).Nodup) (hcs : ∀ c ∈ cs, s.caller? c.number = some c) :
    (lookAll cs s).2.Attained site numbers := by
  induction cs generalizing s with
  | nil => exact h
  | cons c cs ih =>
    obtain ⟨hc, hrest⟩ := List.nodup_cons.1 hdistinct
    refine ih (h.look (hcs c List.mem_cons_self)) hrest fun c' hc' => ?_
    -- the caller that got on had another number, so that this one is where it was
    have hne : c'.number ≠ c.number := fun heq => hc (heq ▸ List.mem_map_of_mem hc')
    exact (caller?_look hne).trans (hcs c' (List.mem_cons_of_mem c hc'))

/-- A round: the controller's part, then the callers'. -/
theorem round (h : s.Attained site numbers) : (s.round site).2.Attained site numbers := by
  obtain ⟨hs, hserved, -⟩ := h.drain
  exact h.drain.lookAll _ hserved.callers_nodup
    fun c hc => callerIn_of_mem hserved.callers_nodup hc

theorem rounds (count : Nat) (h : s.Attained site numbers) :
    (rounds site count s).2.Attained site numbers := by
  induction count generalizing s with
  | zero => exact h
  | succ count ih =>
    unfold Service.rounds
    split
    · exact h
    · exact ih h.round

/-- Rounds until nothing moves, and the controller's part once more. -/
theorem settle (h : s.Attained site numbers) : (s.settle site).2.Attained site numbers :=
  (h.rounds _).drain

/-- A request with a new number lines up, and its caller looks at once. -/
theorem request (h : s.Attained site numbers) (hcount : 0 < s.callerCount) {number : Nat}
    (hnew : number ∉ numbers) (r : Request) :
    (s.request number r).2.Attained site (number :: numbers) := by
  rw [Service.request_eq]
  -- a service that is not open refuses at once, and no move is made
  split
  · exact h.mono number
  · next hopen =>
    have hopen' : s.isOpen = true := by simpa using hopen
    obtain ⟨hs, hserved, hnumbers⟩ := h
    have hfresh : ∀ r, (number, r) ∉ requestsOf hs := fun r hmem => hnew (hnumbers number r hmem)
    have hasked : Happening.after site ⟨⟨s, none⟩, .ask number r⟩ = ⟨s.lineUp number r, none⟩ := by
      unfold Happening.after Stage.act
      dsimp only
      rw [if_pos hopen']
    have hnext := Served.next hs _ (.ask number r) hserved hcount (by
      rintro number' request heq r'
      cases heq
      exact hfresh r')
    rw [hasked] at hnext
    have hlined : (s.lineUp number r).Attained site (number :: numbers) := by
      refine ⟨_, hnext, fun n r' hmem => ?_⟩
      rw [requestsOf_concat] at hmem
      rcases List.mem_append.1 hmem with hmem | hmem
      · exact List.mem_cons_of_mem _ (hnumbers n r' hmem)
      · cases List.mem_singleton.1 hmem
        exact List.mem_cons_self
    have hcaller : (s.lineUp number r).caller? number = some ⟨number, r, none⟩ := by
      have hnone : callerIn s.callers number = none := hserved.caller_none hfresh
      show callerIn (s.callers ++ [⟨number, r, none⟩]) number = _
      rw [callerIn_concat, hnone, if_pos rfl]
      rfl
    exact hlined.look hcaller

/-! ### The media server's part, and the end -/

theorem complete (h : s.Attained site numbers) {k : Sink} (hk : k ∈ s.controller.desk.sinks)
    (o : Outcome) : (s.complete k o).2.Attained site numbers :=
  h.move (.complete k o) hk rfl nofun

theorem dropSink (h : s.Attained site numbers) {k : Sink} (hk : k ∈ s.controller.desk.sinks) :
    (s.dropSink k).Attained site numbers :=
  h.move (.dropSink k) hk rfl nofun

theorem dropHandle (h : s.Attained site numbers) : s.dropHandle.Attained site numbers := by
  cases hhandle : s.handle with
  | true => exact h.move .dropHandle hhandle rfl nofun
  | false =>
    unfold Service.dropHandle
    rw [← hhandle]
    exact h

theorem kill (h : s.Attained site numbers) : s.kill.Attained site numbers := by
  by_cases hopen : s.isOpen = true
  · exact h.move .kill hopen rfl nofun
  · unfold Service.kill
    rw [if_neg hopen]
    exact h

end Attained

end Service

/-! ## Rehearsals

A rehearsal is a list of steps; each is an act and the rounds after it. -/

namespace Rehearsal

variable {place : Site Script} {s : Service Script} {numbers : List Nat} {number : Nat}

/-- Asking uses up the number, whether or not there is a handle to ask with. -/
theorem attained_ask (h : s.Attained place numbers) (hnew : number ∉ numbers) (r : Request) :
    (ask s number r).2.Attained place (number :: numbers) := by
  unfold ask
  split
  · next hhandle =>
    have hcount : 0 < s.callerCount := by
      unfold Service.callerCount
      rw [hhandle]
      exact Nat.lt_of_lt_of_le Nat.zero_lt_one (Nat.le_add_right _ _)
    have hrequest := h.request hcount hnew r
    split
    · next heq =>
      rw [heq] at hrequest
      exact hrequest
    · next heq =>
      rw [heq] at hrequest
      exact hrequest
  · exact h.mono number

/-- Every step does what some moves do. -/
theorem attained_act (h : s.Attained place numbers) (hnew : number ∉ numbers) (what : Step) :
    (act s number what).2.Attained place (number :: numbers) := by
  cases what with
  | tell sender message held => exact attained_ask h hnew _
  | query held => exact attained_ask h hnew _
  | complete category index outcome held =>
    dsimp only [act]
    split
    · exact h.mono number
    · next k hk =>
      have hheld : k ∈ s.sinksOf category := List.mem_of_getElem? hk
      exact (h.complete (List.mem_filter.1 hheld).1 outcome).mono number
  | dropSink category index =>
    dsimp only [act]
    split
    · exact h.mono number
    · next k hk =>
      have hheld : k ∈ s.sinksOf category := List.mem_of_getElem? hk
      exact (h.dropSink (List.mem_filter.1 hheld).1).mono number
  | fail request failure => exact (h.atDesk _ rfl rfl rfl).mono number
  | inline request outcome => exact (h.atDesk _ rfl rfl rfl).mono number
  | failStore store fault => exact (h.atDesk _ rfl rfl rfl).mono number
  | writeFile path bytes => exact (h.atDesk _ rfl rfl rfl).mono number
  | closeMailbox mailbox => exact (h.atDesk _ rfl rfl rfl).mono number
  | run => exact h.mono number
  | dropHandle => exact h.dropHandle.mono number
  | kill => exact h.kill.mono number

/-- A step, and the rounds that follow it. -/
theorem attained_step (h : s.Attained place numbers) (hnew : number ∉ numbers) (what : Step) :
    (step place s number what).2.Attained place (number :: numbers) := by
  have hact := attained_act h hnew what
  unfold step
  dsimp only
  refine Service.Attained.atDesk ?_ _ rfl rfl rfl
  split
  · exact hact
  · split
    · exact hact
    · exact hact.settle

/-- Whatever steps a rehearsal goes, if they are numbered it is served. -/
theorem served {outside : Script} {files : Files} (h : Service.new? place outside files = some s)
    (steps : List (Nat × Step)) (hdistinct : (steps.map Prod.fst).Nodup) :
    ∃ hs, Served place hs
      ⟨steps.foldl (fun s what => (step place s what.1 what.2).2) s, none⟩ := by
  -- by induction over the steps; the numbers used so far grow with them
  have hattained : ∀ (steps : List (Nat × Step)) (numbers : List Nat) (s : Service Script),
      s.Attained place numbers → (steps.map Prod.fst).Nodup →
      (∀ n ∈ steps.map Prod.fst, n ∉ numbers) →
      ∃ numbers', (steps.foldl (fun s what => (step place s what.1 what.2).2) s).Attained place
        numbers' := by
    intro steps
    induction steps with
    | nil => exact fun numbers s h _ _ => ⟨numbers, h⟩
    | cons what steps ih =>
      intro numbers s h hdistinct hnew
      obtain ⟨hfirst, hrest⟩ := List.nodup_cons.1 hdistinct
      obtain ⟨hnew, hnews⟩ := List.forall_mem_cons.1 hnew
      refine ih (what.1 :: numbers) _ (attained_step h hnew what.2) hrest fun n hn hmem => ?_
      rcases List.mem_cons.1 hmem with rfl | hmem
      · exact hfirst hn
      · exact hnews n hn hmem
  obtain ⟨numbers, hs, hserved, -⟩ := hattained steps [] s (.new h) hdistinct
    fun n _ hmem => nomatch hmem
  exact ⟨hs, hserved⟩

/-- The controller of a rehearsal is one that a run leads to. -/
theorem reachable {outside : Script} {files : Files} (h : Service.new? place outside files = some s)
    (steps : List (Nat × Step)) (hdistinct : (steps.map Prod.fst).Nodup) :
    Reachable place
      (steps.foldl (fun s what => (step place s what.1 what.2).2) s).controller := by
  obtain ⟨hs, hserved⟩ := served h steps hdistinct
  obtain ⟨queued, hrun, -⟩ := hserved.follows
  exact ⟨turnsOf hs, queued, hrun⟩

end Rehearsal

end CallMedia
