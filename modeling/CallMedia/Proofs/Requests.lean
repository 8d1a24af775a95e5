/-
  The course of a request.

  A request is made once.  It waits for its permit and then enters the inbox: a message is over with
  that, a query waits on for its answer.  Before that it may be given up, and it is refused once the
  controller is gone.  `Course` has a constructor for each of these, and says what the request has put
  into the inbox, how it ended, and who still stands for it.

  Two lemmas carry it from move to move.  The moves of others leave a request where it is, except that
  its query may be answered (`Stage.Moved.course_other`); its own moves lead from one constructor to the
  next (`Stage.Moved.course_own`).
-/
import CallMedia.Proofs.Lines

namespace CallMedia

/-! ## What belongs to a request

A history is read once for every number: the happenings that are the request's own, the items they put
into the inbox, and the ends they bring. -/

section

variable {σ : Type}

/-- Whether something happens to the request with a number. -/
def Happening.isOf (n : Nat) (h : Happening σ) : Bool := h.move.by? = some n

/-- What a request has put into the inbox. -/
def putBy (site : Site σ) (n : Nat) (hs : List (Happening σ)) : List Item :=
  (hs.filter (Happening.isOf n)).flatMap (Happening.entered site)

/-- How a request has ended, each time. -/
def endingsOf (site : Site σ) (n : Nat) (hs : List (Happening σ)) : List Ending :=
  (hs.filter (Happening.isOf n)).filterMap (Happening.ending? site)

/-- The request with a number. -/
def requestOf? (n : Nat) (hs : List (Happening σ)) : Option Request := (requestsOf hs).lookup n

/-- Whether a query was answered with the state in which the controller handled it. -/
def AnsweredIn (ts : List (Turn σ)) (n : Nat) (snapshot : Snapshot) : Prop :=
  ∃ pre t post, ts = pre ++ t :: post ∧ t.item = .query n ∧ t.before.snapshot = snapshot

/-- How the end of a request agrees with what it has put into the inbox. -/
inductive Settled (ts : List (Turn σ)) (n : Nat) : Request → Ending → List Item → Prop
  /-- A message ends when it is sent, and has put itself into the inbox. -/
  | sent (sender : Recipient) (message : Message) :
      Settled ts n (.tell sender message) (.reply .sent) [.message sender message]
  /-- A query ends when it is answered, and has put itself into the inbox. -/
  | answered (snapshot : Snapshot) (h : AnsweredIn ts n snapshot) :
      Settled ts n .query (.reply (.answered snapshot)) [.query n]
  /-- A request that fails before it has entered has put nothing there. -/
  | failed (r : Request) (e : Ending) (he : e = .refused ∨ e = .gaveUp) : Settled ts n r e []
  /-- A query that had entered the inbox, but whose answer nobody got. -/
  | unanswered (e : Ending) (he : e = .refused ∨ e = .gaveUp) : Settled ts n .query e [.query n]

/-- Where a request stands: the request, what it has put into the inbox, how it ended, who stands for
    it, and whether in line. -/
inductive Course (ts : List (Turn σ)) (n : Nat) :
    Option Request → List Item → List Ending → Option Caller → Prop → Prop
  /-- No request has this number yet. -/
  | unasked (lined : Prop) (hlined : ¬ lined) : Course ts n none [] [] none lined
  /-- It waits for a permit, or has one in hand. -/
  | waiting (r : Request) (lined : Prop) (hlined : lined) :
      Course ts n (some r) [] [] (some ⟨n, r, none⟩) lined
  /-- A query has entered, and its caller waits for the answer or has it. -/
  | queued (answer : Option Snapshot) (lined : Prop) (hlined : ¬ lined)
      (hanswer : ∀ snapshot, answer = some snapshot → AnsweredIn ts n snapshot) :
      Course ts n (some .query) [.query n] [] (some ⟨n, .query, answer⟩) lined
  /-- It is over, and nobody stands for it any more. -/
  | ended (r : Request) (e : Ending) (put : List Item) (lined : Prop) (hlined : ¬ lined)
      (h : Settled ts n r e put) : Course ts n (some r) put [e] none lined

variable {ts : List (Turn σ)} {n : Nat} {r : Option Request} {put : List Item} {ends : List Ending}
  {caller : Option Caller} {lined lined' : Prop}

/-- An answer stays the answer of an earlier turn. -/
theorem AnsweredIn.append {snapshot : Snapshot} (h : AnsweredIn ts n snapshot)
    (ts' : List (Turn σ)) : AnsweredIn (ts ++ ts') n snapshot := by
  obtain ⟨pre, t, post, rfl, hitem, hsnapshot⟩ := h
  exact ⟨pre, t, post ++ ts', by rw [List.append_assoc, List.cons_append], hitem, hsnapshot⟩

/-- Turns that follow change nothing, nor does what happens to others in line. -/
theorem Course.append (h : Course ts n r put ends caller lined) (ts' : List (Turn σ))
    (hlined : lined' ↔ lined) : Course (ts ++ ts') n r put ends caller lined' := by
  -- the two propositions are made one first, for `lined` is an index of `Course`
  have hsame : lined' = lined := propext hlined
  subst hsame
  cases h with
  | unasked lined hlined => exact .unasked lined' hlined
  | waiting r lined hlined => exact .waiting r lined' hlined
  | queued answer lined hlined hanswer =>
    exact .queued answer lined' hlined fun snapshot hs => (hanswer snapshot hs).append ts'
  | ended r e put lined hlined hsettled =>
    refine .ended r e put lined' hlined ?_
    cases hsettled with
    | sent sender message => exact .sent sender message
    | answered snapshot h => exact .answered snapshot (h.append ts')
    | failed r e he => exact .failed r e he
    | unanswered e he => exact .unanswered e he

/-- Who does not stand for its request any more is not in line. -/
theorem Course.caller_of_lined (h : Course ts n r put ends caller lined) (hl : lined) :
    ∃ r', r = some r' ∧ put = [] ∧ ends = [] ∧ caller = some ⟨n, r', none⟩ := by
  cases h with
  | unasked lined hlined => exact absurd hl hlined
  | waiting r lined hlined => exact ⟨r, rfl, rfl, rfl, rfl⟩
  | queued answer lined hlined hanswer => exact absurd hl hlined
  | ended r e put lined hlined hsettled => exact absurd hl hlined

/-- Nobody stands for a request that was not made. -/
theorem Course.caller_none (h : Course ts n none put ends caller lined) : caller = none := by
  cases h with
  | unasked lined hlined => rfl

/-- A request that has ended has ended once. -/
theorem Course.settled (h : Course ts n r put ends caller lined) {e : Ending} (he : e ∈ ends) :
    ∃ r', r = some r' ∧ ends = [e] ∧ Settled ts n r' e put := by
  cases h with
  | unasked lined hlined => cases he
  | waiting r lined hlined => cases he
  | queued answer lined hlined hanswer => cases he
  | ended r e' put lined hlined hsettled =>
    cases List.mem_singleton.1 he
    exact ⟨r, rfl, rfl, hsettled⟩

/-- A request that has not ended has put nothing into the inbox but a query. -/
theorem Course.pending (h : Course ts n r put ends caller lined) (he : ends = []) :
    put = [] ∨ (r = some .query ∧ put = [.query n]) := by
  cases h with
  | unasked lined hlined => exact .inl rfl
  | waiting r lined hlined => exact .inl rfl
  | queued answer lined hlined hanswer => exact .inr ⟨rfl, rfl⟩
  | ended r e put lined hlined hsettled => cases he

end

/-! ## The callers

The callers that a stage shows are a list, and a request is looked up in it by its number. -/

section

variable {n m : Nat} {callers : List Caller}

/-- The caller with a number among callers. -/
def callerIn (callers : List Caller) (n : Nat) : Option Caller :=
  callers.find? fun c => c.number = n

/-- Dismissing a caller takes it out, and leaves the others where they are. -/
theorem callerIn_dismissed :
    callerIn (dismissed m callers) n = if n = m then none else callerIn callers n := by
  unfold callerIn dismissed
  rw [List.find?_filter]
  split
  · next hn =>
    refine List.find?_eq_none.2 fun c _ hc => ?_
    obtain ⟨hm, hc⟩ := of_decide_eq_true hc
    exact of_decide_eq_true hm ((of_decide_eq_true hc).trans hn)
  · next hn =>
    congr 1
    funext c
    by_cases hc : c.number = n
    · simp [hc, hn]
    · simp [hc]

/-- An answer reaches the caller with that number, and nobody else. -/
theorem callerIn_answered (snapshot : Snapshot) :
    callerIn (answered m snapshot callers) n =
      if n = m then (callerIn callers n).map fun c => { c with answer := some snapshot }
      else callerIn callers n := by
  unfold callerIn answered
  rw [List.find?_map]
  -- an answer leaves the number as it is
  have hsame : ((fun c : Caller => decide (c.number = n)) ∘
      fun c => if c.number = m then { c with answer := some snapshot } else c) =
        fun c => decide (c.number = n) := by
    funext c
    show decide ((if c.number = m then { c with answer := some snapshot } else c).number = n) = _
    split <;> rfl
  rw [hsame]
  cases hc : callers.find? fun c => decide (c.number = n) with
  | none => rw [Option.map_none, Option.map_none, ite_self]
  | some c =>
    have hnumber : c.number = n :=
      of_decide_eq_true (List.find?_some (p := fun c : Caller => decide (c.number = n)) hc)
    rw [Option.map_some, Option.map_some, hnumber]
    split <;> rfl

/-- A caller that is added at the end is found unless one with its number is there already. -/
theorem callerIn_concat (c : Caller) :
    callerIn (callers ++ [c]) n = (callerIn callers n).or (if c.number = n then some c else none) := by
  unfold callerIn
  rw [List.find?_append]
  by_cases hc : c.number = n
  · rw [if_pos hc, List.find?_cons_of_pos (by simpa using hc)]
  · rw [if_neg hc, List.find?_cons_of_neg (by simpa using hc), List.find?_nil]

end

/-! ## Moves

The two step lemmas.  Both are by cases on the move; the first is short because a move of somebody else
finds the request as it was. -/

section

variable {σ : Type} {ts : List (Turn σ)} {st : Stage σ} {move : Move σ} {ending : Option Ending}
  {inbox : Inbox} {callers : List Caller} {hand : Option Item} {items : List Item} {n : Nat}
  {r : Option Request} {put : List Item} {ends : List Ending}

/-- Who is in line after a move of others was before. -/
theorem Stage.Moved.mem_line (h : st.Moved move ending inbox callers hand items)
    (hfair : st.service.inbox.Fair) (hline : st.service.inbox.line.Nodup)
    (hby : move.by? ≠ some n) : n ∈ inbox.line ↔ n ∈ st.service.inbox.line := by
  obtain ⟨leaves, hshift, hapart, hwho⟩ := h.shift hfair hline
  have harrives : n ∉ (Happening.linesUp? ⟨st, move⟩).toList := by
    intro hmem
    cases move with
    | ask number request =>
      have hsome : (if st.service.isOpen then some number else none) = some n :=
        Option.mem_toList.1 hmem
      split at hsome
      · exact hby hsome
      · cases hsome
    | _ => cases hmem
  have hstays : n ∉ leaves := fun hmem => hby (hwho n hmem).1
  rw [hshift.mem_line hapart]
  exact ⟨fun hmem => hmem.elim (fun ha => absurd ha harrives) And.left, fun hmem => .inr ⟨hmem, hstays⟩⟩

/-- The moves of others leave a request where it is, except that its query may be answered. -/
theorem Stage.Moved.course_other (h : st.Moved move ending inbox callers hand items)
    (hfair : st.service.inbox.Fair) (hline : st.service.inbox.line.Nodup)
    (hby : move.by? ≠ some n)
    (hput : st.inHand = some (.query n) → .query n ∈ put)
    (hc : Course ts n r put ends (callerIn st.service.callers n) (n ∈ st.service.inbox.line)) :
    Course (ts ++ (Happening.turn? ⟨st, move⟩).toList) n r put ends (callerIn callers n)
      (n ∈ inbox.line) := by
  have hmem := h.mem_line hfair hline hby
  have hstay : callerIn callers n = callerIn st.service.callers n →
      Course (ts ++ (Happening.turn? ⟨st, move⟩).toList) n r put ends (callerIn callers n)
        (n ∈ inbox.line) := fun heq => heq ▸ hc.append _ hmem
  have hdismissed : ∀ {m}, move.by? = some m →
      callerIn (dismissed m st.service.callers) n = callerIn st.service.callers n := by
    intro m hm
    rw [callerIn_dismissed, if_neg]
    intro hn
    exact hby (hn ▸ hm)
  -- of the moves of others only an answer concerns the caller, and only if it is the caller's own
  cases h with
  | answered number hhand =>
    by_cases hn : n = number
    · subst hn
      rw [callerIn_answered, if_pos rfl]
      have hlater := hc.append (Happening.turn? ⟨st, .handle⟩).toList hmem
      rw [Happening.turn?_handle hhand] at hlater ⊢
      generalize callerIn st.service.callers n = caller at hlater
      generalize (n ∈ st.service.inbox.line) = lined at hlater
      specialize hput hhand
      cases hlater with
      | unasked lined hlined => exact .unasked _ hlined
      | waiting r lined hlined => cases hput
      | queued answer lined hlined hanswer =>
        refine .queued (some _) _ hlined fun snapshot hs => ?_
        cases hs
        exact ⟨ts, st.service.turnOf (.query n), [], rfl, rfl, rfl⟩
      | ended r e put lined hlined hsettled => exact .ended r e put _ hlined hsettled
    · refine hstay ?_
      rw [callerIn_answered, if_neg hn]
  | asked number request hopen =>
    refine hstay ?_
    have hother : number ≠ n := fun hn => hby (congrArg some hn)
    rw [callerIn_concat, if_neg hother, Option.or_none]
  | collected c snapshot hcaller hanswer => exact hstay (hdismissed rfl)
  | refused c hcaller hanswer hopen => exact hstay (hdismissed rfl)
  | sent c sender message hcaller hanswer hrequest hgranted => exact hstay (hdismissed rfl)
  | gaveUp number hcaller => exact hstay (hdismissed rfl)
  | _ => exact hstay rfl

/-- Only a query that has entered the inbox is answered. -/
theorem Course.answered {lined : Prop} {c : Caller} {snapshot : Snapshot}
    (h : Course ts n r put ends (some c) lined) (ha : c.answer = some snapshot) :
    r = some .query ∧ put = [.query n] ∧ ends = [] ∧ ¬ lined ∧ AnsweredIn ts n snapshot := by
  cases h with
  | waiting r lined hlined => cases ha
  | queued answer lined hlined hanswer => exact ⟨rfl, rfl, rfl, hlined, hanswer snapshot ha⟩

/-- Whoever gives up, or is refused, is over, whether or not its query had entered. -/
theorem Course.failed {lined lined' : Prop} {c : Caller} {e : Ending}
    (h : Course ts n r put ends (some c) lined) (he : e = .refused ∨ e = .gaveUp)
    (hlined' : ¬ lined') : Course ts n r put (ends ++ [e]) none lined' := by
  cases h with
  | waiting r lined hlined => exact .ended r e [] lined' hlined' (.failed r e he)
  | queued answer lined hlined hanswer =>
    exact .ended .query e [.query n] lined' hlined' (.unanswered e he)

/-- Its own moves lead a request from one constructor to the next. -/
theorem Stage.Moved.course_own (h : st.Moved move ending inbox callers hand items)
    (hfair : st.service.inbox.Fair) (hline : st.service.inbox.line.Nodup)
    (hby : move.by? = some n) (hfresh : move.asks? ≠ none → r = none)
    (hc : Course ts n r put ends (callerIn st.service.callers n) (n ∈ st.service.inbox.line)) :
    Course ts n (r.or (move.asks?.map Prod.snd)) (put ++ items) (ends ++ ending.toList)
      (callerIn callers n) (n ∈ inbox.line) := by
  have hgone : ∀ {j : Inbox}, st.service.inbox.Shift j [] [n] → n ∉ j.line := by
    intro j hshift hmem
    rcases (hshift.mem_line nofun).1 hmem with hnone | ⟨-, hout⟩
    · cases hnone
    · exact hout (List.mem_singleton_self n)
  have hdismissed : callerIn (dismissed n st.service.callers) n = none := by
    rw [callerIn_dismissed, if_pos rfl]
  cases h with
  | aside move hnone htake hkill hhandle => rw [hnone] at hby; cases hby
  | took item inbox hhand htake => cases hby
  | handled item es hhand hitem => cases hby
  | answered number hhand => cases hby
  | completed sink outcome es => cases hby
  | killed => cases hby
  | asked number request hopen =>
    -- a new request goes from `unasked` to `waiting`
    cases hby
    have hr := hfresh (Option.some_ne_none (n, request))
    subst hr
    have hlined : n ∈ (st.service.inbox.ask n).line :=
      ((Inbox.shift_ask hfair n).mem_line nofun).2 (.inl (List.mem_singleton_self n))
    rw [callerIn_concat, if_pos rfl]
    generalize callerIn st.service.callers n = caller at hc
    generalize (n ∈ st.service.inbox.line) = lined at hc
    cases hc with
    | unasked lined hout => exact .waiting request _ hlined
  | rebuffed number request hopen =>
    -- one that comes too late ends where it began
    cases hby
    have hr := hfresh (Option.some_ne_none (n, request))
    subst hr
    generalize callerIn st.service.callers n = caller at hc ⊢
    cases hc with
    | unasked lined hout => exact .ended request .refused [] _ hout (.failed request _ (.inl rfl))
  | waited c hcaller hanswer =>
    -- to look without success changes nothing
    cases hby
    show Course ts _ (r.or none) (put ++ []) (ends ++ []) _ _
    rw [Option.or_none, List.append_nil, List.append_nil]
    exact hc
  | collected c snapshot hcaller hanswer =>
    cases hby
    have hcaller' : callerIn st.service.callers c.number = some c := hcaller
    rw [hdismissed]
    rw [hcaller'] at hc
    obtain ⟨rfl, rfl, rfl, hout, hsnapshot⟩ := hc.answered hanswer
    exact .ended .query _ _ _ hout (.answered snapshot hsnapshot)
  | refused c hcaller hanswer hopen =>
    cases hby
    have hcaller' : callerIn st.service.callers c.number = some c := hcaller
    rw [hdismissed]
    rw [hcaller'] at hc
    show Course ts _ (r.or none) (put ++ []) _ _ _
    rw [Option.or_none, List.append_nil]
    exact hc.failed (.inl rfl) (hgone (Inbox.shift_withdraw hfair hline _))
  | sent c sender message hcaller hanswer hrequest hgranted =>
    -- whoever has a permit is still `waiting`; a message is over once it is sent
    cases hby
    obtain ⟨r', rfl, rfl, rfl, hr'⟩ := hc.caller_of_lined (List.mem_append_left _ hgranted)
    have hsame : c = ⟨c.number, r', none⟩ := Option.some.inj (hcaller.symm.trans hr')
    have htell : r' = .tell sender message := by
      rw [← hrequest, hsame]
    subst htell
    rw [hdismissed]
    have hout := hgone (Inbox.shift_send hfair hline hgranted (.message sender message))
    exact .ended (.tell sender message) _ _ _ hout (.sent sender message)
  | queued c hcaller hanswer hrequest hgranted =>
    -- a query goes on from `waiting` to `queued`
    cases hby
    obtain ⟨r', rfl, rfl, rfl, hr'⟩ := hc.caller_of_lined (List.mem_append_left _ hgranted)
    have hsame : c = ⟨c.number, r', none⟩ := Option.some.inj (hcaller.symm.trans hr')
    have hquery : r' = .query := by
      rw [← hrequest, hsame]
    subst hquery
    have hout := hgone (Inbox.shift_send hfair hline hgranted (.query c.number))
    rw [hr']
    exact .queued none _ hout fun snapshot hs => absurd hs.symm (Option.some_ne_none snapshot)
  | gaveUp number hcaller =>
    cases hby
    obtain ⟨c, hcaller'⟩ := Option.isSome_iff_exists.1 hcaller
    have hcaller'' : callerIn st.service.callers n = some c := hcaller'
    rw [hdismissed]
    rw [hcaller''] at hc
    show Course ts _ (r.or none) (put ++ []) _ _ _
    rw [Option.or_none, List.append_nil]
    exact hc.failed (.inr rfl) (hgone (Inbox.shift_withdraw hfair hline _))

end

/-! ## Histories

The run lemma: by induction over what happens, every number takes its course. -/

section

variable {σ : Type} {site : Site σ} {hs : List (Happening σ)} {st : Stage σ}

/-- What one more happening adds to what a request has put into the inbox. -/
theorem putBy_concat (site : Site σ) (n : Nat) (hs : List (Happening σ)) (h : Happening σ) :
    putBy site n (hs ++ [h]) =
      putBy site n hs ++ if h.move.by? = some n then h.entered site else [] := by
  unfold putBy
  rw [List.filter_append, List.flatMap_append]
  by_cases hby : h.move.by? = some n
  · have hof : h.isOf n = true := decide_eq_true hby
    rw [if_pos hby, List.filter_cons_of_pos hof]
    exact congrArg _ (List.flatMap_singleton _ h)
  · have hof : ¬ h.isOf n = true := fun hof => hby (of_decide_eq_true hof)
    rw [if_neg hby, List.filter_cons_of_neg hof]
    rfl

/-- What one more happening adds to the ends of a request. -/
theorem endingsOf_concat (site : Site σ) (n : Nat) (hs : List (Happening σ)) (h : Happening σ) :
    endingsOf site n (hs ++ [h]) =
      endingsOf site n hs ++ if h.move.by? = some n then (h.ending? site).toList else [] := by
  unfold endingsOf
  rw [List.filter_append, List.filterMap_append]
  by_cases hby : h.move.by? = some n
  · have hof : h.isOf n = true := decide_eq_true hby
    rw [if_pos hby, List.filter_cons_of_pos hof]
    exact congrArg _ (filterMap_concat (Happening.ending? site) [] h)
  · have hof : ¬ h.isOf n = true := fun hof => hby (of_decide_eq_true hof)
    rw [if_neg hby, List.filter_cons_of_neg hof]
    rfl

/-- The first request with a number is the one that counts. -/
theorem requestOf?_concat (n : Nat) (hs : List (Happening σ)) (h : Happening σ) :
    requestOf? n (hs ++ [h]) =
      (requestOf? n hs).or (if h.move.by? = some n then h.request?.map Prod.snd else none) := by
  unfold requestOf?
  rw [requestsOf_concat, List.lookup_append]
  congr 1
  obtain ⟨st, move⟩ := h
  cases move with
  | ask number request =>
    show List.lookup n [(number, request)] = if some number = some n then some request else none
    by_cases hn : number = n
    · subst hn
      rw [if_pos rfl, List.lookup_cons_self]
    · have hother : (n == number) = false := beq_eq_false_iff_ne.2 fun h => hn h.symm
      rw [if_neg fun h => hn (Option.some.inj h), List.lookup_cons, hother]
      rfl
  | look number => exact (ite_self _).symm
  | cancel number => exact (ite_self _).symm
  | _ => rfl

theorem requestOf?_eq_none {n : Nat} (h : ∀ r, (n, r) ∉ requestsOf hs) : requestOf? n hs = none := by
  refine List.lookup_eq_none_iff.2 fun p hp => bne_iff_ne.2 fun heq => ?_
  have hn : n = p.1 := heq
  exact h p.2 (hn ▸ hp)

/-- Each request is found by its number. -/
theorem Served.requestOf?_of_mem (h : Served site hs st) {n : Nat} {r : Request}
    (hmem : (n, r) ∈ requestsOf hs) : requestOf? n hs = some r := by
  induction h with
  | start outside files s h => cases hmem
  | next hs st move h hallowed hfresh ih =>
    rw [requestOf?_concat]
    rw [requestsOf_concat] at hmem
    rcases List.mem_append.1 hmem with hmem | hmem
    · rw [ih hmem]
      rfl
    · cases move with
      | ask number request =>
        cases List.mem_singleton.1 hmem
        rw [requestOf?_eq_none (hfresh n r rfl)]
        exact if_pos rfl
      | _ => cases hmem

/-- Nobody puts a query into the inbox but the request with its number. -/
theorem Stage.Moved.by_of_query {move : Move σ} {ending : Option Ending} {inbox : Inbox}
    {callers : List Caller} {hand : Option Item} {items : List Item}
    (h : st.Moved move ending inbox callers hand items) {n : Nat} (hn : .query n ∈ items) :
    move.by? = some n := by
  have hcompletions : ∀ es : List Completion, Item.query n ∉ es.map Item.completion := by
    intro es hmem
    obtain ⟨e, -, he⟩ := List.mem_map.1 hmem
    cases he
  cases h with
  | handled item es hhand hitem => exact absurd hn (hcompletions es)
  | completed sink outcome es => exact absurd hn (hcompletions es)
  | sent c sender message hc hanswer hrequest hgranted => cases List.mem_singleton.1 hn
  | queued c hc hanswer hrequest hgranted =>
    cases List.mem_singleton.1 hn
    rfl
  | _ => cases hn

/-- A query in hand was put into the inbox by the request with its number. -/
theorem Served.put_of_inHand (h : Served site hs st) {n : Nat} (hhand : st.inHand = some (.query n)) :
    .query n ∈ putBy site n hs := by
  rcases h.order with ⟨hentries, -⟩ | ⟨-, -, -, hnone⟩
  · have hmem : .query n ∈ entriesOf site hs := by
      rw [hentries, hhand]
      exact List.mem_append_right _ List.mem_cons_self
    obtain ⟨happening, hin, hentered⟩ := List.mem_flatMap.1 hmem
    obtain ⟨pre, post, rfl⟩ := List.append_of_mem hin
    have hby := (Stage.moved site h.before.2.1).by_of_query hentered
    exact List.mem_flatMap.2 ⟨happening, List.mem_filter.2 ⟨hin, decide_eq_true hby⟩, hentered⟩
  · rw [hhand] at hnone
    cases hnone

/-- Every request takes its course. -/
theorem Served.course (h : Served site hs st) (n : Nat) :
    Course (turnsOf hs) n (requestOf? n hs) (putBy site n hs) (endingsOf site n hs)
      (st.service.caller? n) (n ∈ st.service.inbox.line) := by
  -- each move is either the request's own or somebody else's
  induction h with
  | start outside files s h =>
    rw [Service.eq_of_new? h]
    exact .unasked _ List.not_mem_nil
  | next hs st move h hallowed hfresh ih =>
    have hqueue := h.queue
    have hmoved := Stage.moved site hallowed
    rw [turnsOf_concat, requestOf?_concat, putBy_concat, endingsOf_concat]
    by_cases hby : move.by? = some n
    · rw [if_pos hby, if_pos hby, if_pos hby]
      have hturn : Happening.turn? ⟨st, move⟩ = none := by
        cases move <;> first | rfl | cases hby
      rw [hturn]
      show Course (turnsOf hs ++ []) _ _ _ _ _ _
      rw [List.append_nil]
      refine hmoved.course_own hqueue.fair hqueue.line_nodup hby (fun hasks => ?_) ih
      cases move with
      | ask number request =>
        cases hby
        exact requestOf?_eq_none (hfresh n request rfl)
      | _ => exact absurd rfl hasks
    · rw [if_neg hby, if_neg hby, if_neg hby, Option.or_none, List.append_nil, List.append_nil]
      exact hmoved.course_other hqueue.fair hqueue.line_nodup hby h.put_of_inHand ih

end

end CallMedia
