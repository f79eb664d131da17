import Outbox.Proofs.Sender.Calls

/-!
# Calls that close a sender, and calls that it turns away

Closing never waits. There is a place for the last message beyond the capacity, the thread that
brings it is free at the queue, and it is refused only by a queue that was interrupted or has ended;
and since the closed flag is won once, nobody else ends it. What is left of the call is then a few
steps of its own, which nobody can undo.

A call that begins when the sender is closed returns at its first step. A producer that has no
result yet when the queue is ended is refused at its next turn, and sleeps only until the closing
call has sent the signal that it owes.

Each of the three is a rank: the constructors are the places where such a call can stand, and the
number says how many steps of its own are left.

## Main Definitions

* `Monitor.ClosingWithin` — a call that closes the sender
* `Monitor.TurnedAwayWithin` — a call that finds the sender closed
* `Monitor.ReleasedWithin` — a producer without a result when the queue is ended
-/

namespace Outbox.Sender.Monitor

variable {capacity : Nat} {overflow : Overflow} {m m' : Monitor} {n k : Nat} {a : Activity}
  {action : Action}

/-! ### Closing calls -/

/-- A call that closes the sender. -/
def Call.Closes (call : Call) : Prop := call = .close ∨ call = .drop

/-- A call that closes the sender is under way. -/
def IsClosing (m : Monitor) : Prop :=
  ∃ (n : Nat) (a : Activity), m.calls[n]? = some a ∧ a.call.Closes ∧ m.hasReturned a = false

/-- Closing calls bring the queue the terminal message, and nobody else brings it a last one. -/
theorem Call.closes_iff_asks {call : Call} {msg : Message} :
    call.onQueue? = some (.enqueueLast msg) ↔ call.Closes ∧ msg = .terminal := by
  cases call <;> simp [onQueue?, Closes, eq_comm]

/-- What a closing call asks of the queue. -/
theorem Call.Closes.asks_of_known {b : Queue.Monitor.Activity} (closes : a.call.Closes)
    (known : ∃ b, m.queue.calls[k]? = some b ∧ a.call.onQueue? = some b.call)
    (there : m.queue.calls[k]? = some b) : b.call = .enqueueLast .terminal := by
  obtain ⟨b', there', asks⟩ := known
  cases there.symm.trans there'
  have terminal := Call.closes_iff_asks.mpr ⟨closes, rfl⟩
  exact Option.some.inj (asks.symm.trans terminal)

theorem linked_of_reachable (h : Reachable capacity overflow m) : m.Linked ∧ m.Serial := by
  obtain ⟨actions, run⟩ := h
  exact serial_of_run run

theorem Reachable.queue (h : Reachable capacity overflow m) :
    Queue.Monitor.Reachable (.make capacity overflow) m.queue := by
  obtain ⟨actions, run⟩ := h
  exact queue_reachable run

/-- The call that has ended the queue closes the sender. -/
theorem closes_of_endedBy (l : m.Linked) (ended : m.queue.EndedBy k) :
    ∃ (n : Nat) (a : Activity), m.calls[n]? = some a ∧ a.call.Closes ∧ a.phase = .queued k := by
  obtain ⟨thread, msg, onRecord⟩ := ended
  have asked : m.queue.asked[k]? = some (.enqueueLast msg) := by
    rw [Queue.Monitor.asked, List.getElem?_map, onRecord]
    rfl
  obtain ⟨n, call, a, here, rfl, queued⟩ := l.behind k (List.getElem?_eq_some_iff.mp asked).1
  obtain ⟨asked', asks, there⟩ := l.asks n a.call k ⟨a, here, rfl, queued⟩
  cases there.symm.trans asked
  exact ⟨n, a, here, (Call.closes_iff_asks.mp asks).1, queued⟩

/-- One call at most carries the last message to the queue. -/
theorem carrier_unique (h : Reachable capacity overflow m) {n' : Nat} {a' : Activity}
    (here : m.calls[n]? = some a) (here' : m.calls[n']? = some a')
    (carries : a.HasWon .closed) (carries' : a'.HasWon .closed) : n = n' := by
  obtain ⟨actions, run⟩ := h
  have won := won_of_start .closed run
  exact won.unique (won.holders n a here carries) (won.holders n' a' here' carries')

/-- **The queue of an open sender has not ended.** -/
theorem unended_of_open (h : Reachable capacity overflow m) (isOpen : m.closed = false) :
    m.queue.queue.terminated = false := by
  rw [← Bool.not_eq_true]
  intro terminated
  obtain ⟨k, ended⟩ := (Queue.Monitor.settled_of_reachable h.queue).endedBy terminated
  obtain ⟨n, a, here, closes, queued⟩ := closes_of_endedBy (linked_of_reachable h).1 ended
  obtain ⟨actions, run⟩ := h
  have won := won_of_start .closed run
  have nobody := won.unset isOpen
  have winner := won.holders n a here ⟨closes, Or.inr ⟨k, queued⟩⟩
  rw [nobody] at winner
  cases winner

/-- **A closing call is not refused by the queue**, unless the queue was interrupted. -/
theorem stored_of_result (h : Reachable capacity overflow m)
    (live : m.queue.queue.interrupted = false) (here : m.calls[n]? = some a)
    (closes : a.call.Closes) (queued : a.phase = .queued k) {b : Queue.Monitor.Activity}
    (there : m.queue.calls[k]? = some b) {result : Queue.Monitor.Result}
    (done : b.result? = some result) :
    result = .stored ∧ m.queue.queue.terminated = true := by
  have l := (linked_of_reachable h).1
  have asksLast := closes.asks_of_known (l.known here queued) there
  have onRecord : m.queue.records[k]? = some ⟨b.thread, .enqueueLast .terminal, some result⟩ := by
    simp [Queue.Monitor.records, there, Queue.Monitor.Activity.record, asksLast, done]
  obtain ⟨terminated, stored | ⟨k', other, ended⟩⟩ :=
    (Queue.Monitor.settled_of_reachable h.queue).results k _ _ _ onRecord live
  · exact ⟨stored, terminated⟩
  · -- another call would have carried the last message too
    exfalso
    obtain ⟨n', a', here', closes', queued'⟩ := closes_of_endedBy l ended
    have same := carrier_unique h here here' ⟨closes, Or.inr ⟨k, queued⟩⟩
      ⟨closes', Or.inr ⟨k', queued'⟩⟩
    subst same
    cases here.symm.trans here'
    rw [queued, Phase.queued.injEq] at queued'
    exact other queued'.symm

/-- **A call that closes the sender, and the steps that it has left.** -/
inductive ClosingWithin (m : Monitor) (n : Nat) : Nat → Prop where
  | looking {a : Activity} (here : m.calls[n]? = some a) (drop : a.call = .drop)
    (looking : a.phase = .looking 0) : ClosingWithin m n 6
  | closing {a : Activity} (here : m.calls[n]? = some a) (closes : a.call.Closes)
    (closing : a.phase = .closing) : ClosingWithin m n 5
  | calling {a : Activity} (here : m.calls[n]? = some a) (closes : a.call.Closes)
    (calling : a.phase = .calling) : ClosingWithin m n 4
  | entering {a : Activity} {k : Nat} {b : Queue.Monitor.Activity} {expired : Bool}
    (here : m.calls[n]? = some a) (closes : a.call.Closes) (queued : a.phase = .queued k)
    (there : m.queue.calls[k]? = some b) (ready : b.phase = .ready expired) : ClosingWithin m n 3
  | leaving {a : Activity} {k : Nat} {b : Queue.Monitor.Activity}
    {signals : List Queue.Monitor.Signal} {result : Queue.Monitor.Result}
    (here : m.calls[n]? = some a) (closes : a.call.Closes) (queued : a.phase = .queued k)
    (there : m.queue.calls[k]? = some b) (leaving : b.phase = .leaving signals result) :
    ClosingWithin m n signals.length
  | late {a : Activity} (here : m.calls[n]? = some a) (returned : a.phase = .returned none) :
    ClosingWithin m n 0

theorem ClosingWithin.exists_call {r : Nat} (c : ClosingWithin m n r) :
    ∃ a, m.calls[n]? = some a := by
  cases c with
  | looking here => exact ⟨_, here⟩
  | closing here => exact ⟨_, here⟩
  | calling here => exact ⟨_, here⟩
  | entering here => exact ⟨_, here⟩
  | leaving here => exact ⟨_, here⟩
  | late here => exact ⟨_, here⟩

/-- Steps of others leave a closing call the steps that it has. -/
theorem ClosingWithin.others {r : Nat} (c : ClosingWithin m n r) (here : m.calls[n]? = some a)
    (stays : m'.calls[n]? = some a)
    (atQueue : ∀ k b, a.phase = .queued k → m.queue.calls[k]? = some b →
      ∃ b', m'.queue.calls[k]? = some b' ∧
        (b' = b ∨ ∃ c expired, b.phase = .asleep c ∧ b' = { b with phase := .ready expired })) :
    ClosingWithin m' n r := by
  cases c with
  | looking there drop looking =>
    cases here.symm.trans there
    exact .looking stays drop looking
  | closing there closes closing =>
    cases here.symm.trans there
    exact .closing stays closes closing
  | calling there closes calling =>
    cases here.symm.trans there
    exact .calling stays closes calling
  | late there returned =>
    cases here.symm.trans there
    exact .late stays returned
  | entering there closes queued inQueue ready =>
    cases here.symm.trans there
    obtain ⟨b', after, rfl | ⟨c, _, asleep, -⟩⟩ := atQueue _ _ queued inQueue
    · exact .entering stays closes queued after ready
    · rw [ready] at asleep
      cases asleep
  | leaving there closes queued inQueue leaving =>
    cases here.symm.trans there
    obtain ⟨b', after, rfl | ⟨c, _, asleep, -⟩⟩ := atQueue _ _ queued inQueue
    · exact .leaving stays closes queued after leaving
    · rw [leaving] at asleep
      cases asleep

/-- **A step of its own at the sender brings a closing call nearer to its end.** -/
theorem ClosingWithin.acts {r : Nat} (c : ClosingWithin m n r) (here : m.calls[n]? = some a)
    (step : m.act? n a = some m') : ∃ r' < r, ClosingWithin m' n r' := by
  cases c with
  | looking there drop looking =>
    cases here.symm.trans there
    rw [act?, looking] at step
    cases step
    cases closed : m.closed with
    | true =>
      refine ⟨0, by decide, .late (getElem?_setPhase_self here) ?_⟩
      simp [drop, Call.onClosed]
    | false =>
      refine ⟨5, by decide, .closing (getElem?_setPhase_self here) (Or.inr drop) ?_⟩
      simp [drop, Call.onOpen]
  | closing there closes closing =>
    cases here.symm.trans there
    rw [act?, closing] at step
    dsimp only at step
    split at step
    · cases step
      exact ⟨0, by decide, .late (getElem?_setPhase_self here) rfl⟩
    · cases step
      exact ⟨4, by decide, .calling (getElem?_setPhase_self here) closes rfl⟩
  | calling there closes calling =>
    cases here.symm.trans there
    obtain ⟨call, -, rfl⟩ := reached_of_calling calling step
    exact ⟨3, by decide, .entering (getElem?_setPhase_self here) closes rfl
      List.getElem?_concat_length rfl⟩
  | entering there _ queued =>
    cases here.symm.trans there
    rw [act?, queued] at step
    cases step
  | leaving there _ queued =>
    cases here.symm.trans there
    rw [act?, queued] at step
    cases step
  | late there returned =>
    cases here.symm.trans there
    rw [act?, returned] at step
    cases step

/-- Where a closing call stands at the queue. -/
theorem ClosingWithin.at_queue {r : Nat} (c : ClosingWithin m n r) (here : m.calls[n]? = some a)
    (queued : a.phase = .queued k) {b : Queue.Monitor.Activity}
    (there : m.queue.calls[k]? = some b) :
    a.call.Closes ∧
      (r = 3 ∧ (∃ expired, b.phase = .ready expired) ∨
        ∃ signals result, r = signals.length ∧ b.phase = .leaving signals result) := by
  cases c with
  | looking here' _ phase => cases here.symm.trans here'; rw [queued] at phase; cases phase
  | closing here' _ phase => cases here.symm.trans here'; rw [queued] at phase; cases phase
  | calling here' _ phase => cases here.symm.trans here'; rw [queued] at phase; cases phase
  | late here' phase => cases here.symm.trans here'; rw [queued] at phase; cases phase
  | entering here' closes queued' there' ready =>
    cases here.symm.trans here'
    cases queued.symm.trans queued'
    cases there.symm.trans there'
    exact ⟨closes, Or.inl ⟨rfl, _, ready⟩⟩
  | leaving here' closes queued' there' leaving =>
    cases here.symm.trans here'
    cases queued.symm.trans queued'
    cases there.symm.trans there'
    exact ⟨closes, Or.inr ⟨_, _, rfl, leaving⟩⟩

/-- A turn that brings the last message is the last of its call, which owes two signals at most. -/
theorem leaving_of_last {q q' : Queue} {msg : Message} {outcome : Queue.Outcome}
    (turned : q.Turned (.offerLast msg) outcome q') (expired : Bool) :
    ∃ signals result, (Queue.Monitor.Call.enqueueLast msg).after expired outcome =
      .leaving signals result ∧ signals.length ≤ 2 := by
  cases turned with
  | storedLast => exact ⟨_, _, rfl, by simp⟩
  | refusedLast => exact ⟨_, _, rfl, by simp⟩

/-- **Every step leaves a closing call fewer steps of its own**, or is not its own. -/
theorem ClosingWithin.step {r : Nat} (c : ClosingWithin m n r) (l : m.Linked)
    (step : m.step? action = some m') :
    ∃ r', ClosingWithin m' n r' ∧ (m.isOwn n action).toNat + r' ≤ r := by
  obtain ⟨a, here⟩ := c.exists_call
  have known := l.exists_at_queue here
  have less : ∀ {r'}, r' < r → (m.isOwn n action).toNat + r' ≤ r := by
    intro r' lower
    have one := Bool.toNat_le (m.isOwn n action)
    omega
  cases (stepped step).progress here known with
  | others notOwn stays atQueue =>
    exact ⟨r, c.others here stays atQueue, by simp [notOwn]⟩
  | acts own =>
    subst own
    obtain ⟨r', lower, closer⟩ := c.acts here (act?_of_step here step)
    exact ⟨r', closer, less lower⟩
  | @enters k b expired outcome stays queued there ready turned after =>
    obtain ⟨closes, ⟨rfl, -⟩ | ⟨_, _, -, leaving⟩⟩ := c.at_queue here queued there
    · have asks := closes.asks_of_known (l.known here queued) there
      rw [asks] at turned after
      obtain ⟨signals, result, leaves, two⟩ := leaving_of_last turned expired
      rw [leaves] at after
      exact ⟨signals.length, .leaving stays closes queued after rfl, less (by omega)⟩
    · rw [ready] at leaving
      cases leaving
  | @signals k b signal rest result stays queued there owes after =>
    obtain ⟨closes, ⟨-, expired, ready⟩ | ⟨all, result', rfl, leaving⟩⟩ :=
      c.at_queue here queued there
    · rw [owes] at ready
      cases ready
    · cases owes.symm.trans leaving
      exact ⟨rest.length, .leaving stays closes queued after rfl, less (Nat.lt_succ_self _)⟩

/-- **A closing call never waits, and is not refused.** -/
theorem ClosingWithin.goes {r : Nat} (c : ClosingWithin m n r) (h : Reachable capacity overflow m)
    (live : m.queue.queue.interrupted = false) : m.Goes n none False := by
  obtain ⟨l, s⟩ := linked_of_reachable h
  cases c with
  | looking here drop looking =>
    exact .of_act here (by simp [hasReturned, looking]) (by simp [act?, looking])
  | closing here closes closing =>
    refine .of_act here (by simp [hasReturned, closing]) ?_
    rw [act?, closing]
    dsimp only
    split <;> rfl
  | @calling a here closes calling =>
    refine .of_act here (by simp [hasReturned, calling]) ?_
    -- the queue lets the call begin, because its thread is free there
    have idle := s.idle_at_queue l here calling
    have asks : a.call.onQueue? = some (.enqueueLast .terminal) :=
      Call.closes_iff_asks.mpr ⟨closes, rfl⟩
    rw [act?_of_calling n calling asks idle]
    rfl
  | @entering a k b expired here closes queued there ready =>
    have going : b.hasReturned = false := by simp [Queue.Monitor.Activity.hasReturned, ready]
    refine .of_going here ((hasReturned_of_queued queued there).trans going) (Or.inr ?_)
    exact exists_own_step here queued there going (by simp [ready])
  | @leaving a k b signals result here closes queued there leaving =>
    have done : b.result? = some result := by
      simp [Queue.Monitor.Activity.result?, leaving]
    obtain ⟨rfl, -⟩ := stored_of_result h live here closes queued there done
    refine ⟨a, here, fun _ => ?_, fun going => Or.inr ?_⟩
    · simp [refusal?, queued, there, done]
    · rw [hasReturned_of_queued queued there] at going
      exact exists_own_step here queued there going (by simp [leaving])
  | late here returned =>
    exact .of_returned here (by simp [hasReturned, returned]) (by rw [refusal?, returned])

theorem ClosingWithin.finishes {r : Nat} (c : ClosingWithin m n r)
    (h : Reachable capacity overflow m) : m.Finishes n r none fun _ => False := by
  refine finishes_of_rank (R := fun m r => Reachable capacity overflow m ∧ ClosingWithin m n r)
    (fun both live => both.2.goes both.1 live) ?_ ⟨h, c⟩
  intro m m' action r both step _
  obtain ⟨r', closer, lower⟩ := both.2.step (linked_of_reachable both.1).1 step
  exact ⟨r', ⟨both.1.step step, closer⟩, lower⟩

/-! ### Calls that come too late -/

/-- **A call that finds the sender closed, and the steps that it has left.** -/
inductive TurnedAwayWithin (refusal : Option CallError) (m : Monitor) (n : Nat) : Nat → Prop where
  | looking {a : Activity} {more : Nat} (closed : m.closed = true) (here : m.calls[n]? = some a)
    (looking : a.phase = .looking more) (answer : a.call.onClosed = .returned refusal) :
    TurnedAwayWithin refusal m n 1
  | closing {a : Activity} (closed : m.closed = true) (here : m.calls[n]? = some a)
    (closing : a.phase = .closing) (answer : refusal = none) : TurnedAwayWithin refusal m n 1
  | returned {a : Activity} (here : m.calls[n]? = some a) (returned : a.phase = .returned refusal) :
    TurnedAwayWithin refusal m n 0

/-- The steps of a call's own that are still to come do nothing to the sender and to its queue. -/
def ChangesNothing (m : Monitor) (n : Nat) : Prop :=
  ∀ actions m' action m'', m.run? actions = some m' → m'.isOwn n action = true →
    m'.step? action = some m'' →
      m''.queue = m'.queue ∧ m''.closed = m'.closed ∧ m''.streamTaken = m'.streamTaken

theorem Stepped.closed_stays (h : m.Stepped action m') (closed : m.closed = true) :
    m'.closed = true := by
  cases h <;> first | exact closed | rfl

namespace TurnedAwayWithin

variable {refusal : Option CallError} {r : Nat}

/-- Such a call is still at the sender. -/
theorem exists_call (t : TurnedAwayWithin refusal m n r) :
    ∃ a, m.calls[n]? = some a ∧ ∀ k, a.phase ≠ .queued k := by
  cases t with
  | looking _ here looking => exact ⟨_, here, by simp [looking]⟩
  | closing _ here closing => exact ⟨_, here, by simp [closing]⟩
  | returned here returned => exact ⟨_, here, by simp [returned]⟩

/-- The one step that such a call takes is to return. -/
theorem acts (t : TurnedAwayWithin refusal m n r) (here : m.calls[n]? = some a)
    (step : m.act? n a = some m') : r = 1 ∧ m' = m.setPhase n a (.returned refusal) := by
  cases t with
  | looking closed there looking answer =>
    cases here.symm.trans there
    rw [act?, looking] at step
    simp only [closed, if_true, answer, Option.some.injEq] at step
    exact ⟨rfl, step.symm⟩
  | closing closed there closing answer =>
    cases here.symm.trans there
    rw [act?, closing] at step
    simp only [closed, if_true, Option.some.injEq] at step
    exact ⟨rfl, by rw [← step, answer]⟩
  | returned there returned =>
    cases here.symm.trans there
    rw [act?, returned] at step
    cases step

theorem step (t : TurnedAwayWithin refusal m n r) (step : m.step? action = some m') :
    (∃ r', TurnedAwayWithin refusal m' n r' ∧ (m.isOwn n action).toNat + r' ≤ r) ∧
      (m.isOwn n action = true →
        m'.queue = m.queue ∧ m'.closed = m.closed ∧ m'.streamTaken = m.streamTaken) := by
  obtain ⟨a, here, away⟩ := t.exists_call
  have stepped := stepped step
  cases stepped.progress here fun k queued => absurd queued (away k) with
  | acts own =>
    subst own
    obtain ⟨rfl, rfl⟩ := t.acts here (act?_of_step here step)
    refine ⟨⟨0, .returned (getElem?_setPhase_self here) rfl, ?_⟩, fun _ => ⟨rfl, rfl, rfl⟩⟩
    exact Bool.toNat_le _
  | enters _ queued => exact absurd queued (away _)
  | signals _ queued => exact absurd queued (away _)
  | others notOwn stays =>
    refine ⟨⟨r, ?_, by simp [notOwn]⟩, fun own => absurd own (by simp [notOwn])⟩
    cases t with
    | looking closed there looking answer =>
      cases here.symm.trans there
      exact .looking (stepped.closed_stays closed) stays looking answer
    | closing closed there closing answer =>
      cases here.symm.trans there
      exact .closing (stepped.closed_stays closed) stays closing answer
    | returned there returned =>
      cases here.symm.trans there
      exact .returned stays returned

theorem goes (t : TurnedAwayWithin refusal m n r) : m.Goes n refusal False := by
  cases t with
  | looking closed here looking answer =>
    exact .of_act here (by simp [hasReturned, looking]) (by simp [act?, looking])
  | closing closed here closing answer =>
    exact .of_act here (by simp [hasReturned, closing]) (by simp [act?, closing, closed])
  | returned here returned =>
    exact .of_returned here (by simp [hasReturned, returned]) (by rw [refusal?, returned])

theorem finishes (t : TurnedAwayWithin refusal m n r) : m.Finishes n r refusal fun _ => False :=
  finishes_of_rank (R := fun m r => TurnedAwayWithin refusal m n r) (fun t _ => t.goes)
    (fun t step _ => (t.step step).1) t

theorem changesNothing (t : TurnedAwayWithin refusal m n r) : m.ChangesNothing n := by
  intro actions m' action m'' run own step
  have later : ∃ r, TurnedAwayWithin refusal m' n r := by
    clear own step
    induction actions generalizing m r with
    | nil =>
      cases run
      exact ⟨r, t⟩
    | cons first rest ih =>
      obtain ⟨next, step, run⟩ := Steps.run?_cons_iff.mp run
      obtain ⟨r', turnedAway, -⟩ := (t.step step).1
      exact ih turnedAway run
  obtain ⟨r', turnedAway⟩ := later
  exact (turnedAway.step step).2 own

end TurnedAwayWithin

/-! ### Producers that wait when the queue is ended -/

/-- **A producer that has no result yet at an ended queue, and the steps that it has left.** -/
inductive ReleasedWithin (m : Monitor) (n : Nat) : Nat → Prop where
  | waiting {a : Activity} {k : Nat} {b : Queue.Monitor.Activity}
    (terminated : m.queue.queue.terminated = true) (here : m.calls[n]? = some a)
    (queued : a.phase = .queued k) (there : m.queue.calls[k]? = some b)
    (producer : ∃ msg, b.call = .enqueue msg) (noResult : b.result? = none) : ReleasedWithin m n 1
  | released {a : Activity} {k : Nat} {b : Queue.Monitor.Activity} (here : m.calls[n]? = some a)
    (queued : a.phase = .queued k) (there : m.queue.calls[k]? = some b)
    (refused : b.phase = .leaving [] (.refused .queueTerminated)) : ReleasedWithin m n 0

/-- An ended queue refuses a producer at its next turn. -/
theorem refused_of_terminated {q q' : Queue} {msg : Message} {outcome : Queue.Outcome}
    (turned : q.Turned (.offer msg) outcome q') (terminated : q.terminated = true)
    (live : q.interrupted = false) : outcome = .refused .queueTerminated := by
  have refusal : q.refusal? = some .queueTerminated := by simp [Queue.refusal?, terminated, live]
  cases turned with
  | stored isOpen => rw [refusal] at isOpen; cases isOpen
  | full isOpen => rw [refusal] at isOpen; cases isOpen
  | refusedOffer reason =>
    rcases reason with reason | ⟨isOpen, -⟩
    · rw [refusal, Option.some.injEq] at reason
      rw [reason]
    · rw [refusal] at isOpen
      cases isOpen

theorem Stepped.terminated_stays (h : m.Stepped action m')
    (terminated : m.queue.queue.terminated = true) : m'.queue.queue.terminated = true := by
  rcases h.queue_stepped with same | ⟨inner, step⟩
  · rwa [same]
  · exact (Queue.Monitor.stepped step).recorded.terminated terminated

namespace ReleasedWithin

variable {r : Nat}

theorem step (w : ReleasedWithin m n r) (step : m.step? action = some m')
    (live : m'.queue.queue.interrupted = false) :
    ∃ r', ReleasedWithin m' n r' ∧ (m.isOwn n action).toNat + r' ≤ r := by
  have stepped := stepped step
  cases w with
  | @waiting a k b terminated here queued there producer noResult =>
    cases stepped.progress here (known_of_queued queued there) with
    | acts own => exact absurd own (ne_act_of_queued step here queued)
    | others notOwn stays atQueue =>
      obtain ⟨b', after, woken⟩ := atQueue k b queued there
      have same : b'.call = b.call ∧ b'.result? = none := by
        rcases woken with rfl | ⟨c, expired, -, rfl⟩
        · exact ⟨rfl, noResult⟩
        · exact ⟨rfl, rfl⟩
      refine ⟨1, .waiting (stepped.terminated_stays terminated) stays queued after ?_ same.2, ?_⟩
      · rw [same.1]
        exact producer
      · simp [notOwn]
    | enters stays queued' there' ready turned after =>
      cases queued.symm.trans queued'
      cases there.symm.trans there'
      obtain ⟨msg, asks⟩ := producer
      rw [asks] at turned
      have refused := refused_of_terminated turned terminated (stepped.live live)
      rw [refused] at after
      exact ⟨0, .released stays queued after rfl, Bool.toNat_le _⟩
    | signals _ queued' there' owes =>
      cases queued.symm.trans queued'
      cases there.symm.trans there'
      simp [Queue.Monitor.Activity.result?, owes] at noResult
  | @released a k b here queued there refused =>
    cases stepped.progress here (known_of_queued queued there) with
    | acts own => exact absurd own (ne_act_of_queued step here queued)
    | others notOwn stays atQueue =>
      obtain ⟨b', after, rfl | ⟨c, expired, asleep, -⟩⟩ := atQueue k b queued there
      · exact ⟨0, .released stays queued after refused, by simp [notOwn]⟩
      · rw [refused] at asleep
        cases asleep
    | enters _ queued' there' ready =>
      cases queued.symm.trans queued'
      cases there.symm.trans there'
      rw [refused] at ready
      cases ready
    | signals _ queued' there' owes =>
      cases queued.symm.trans queued'
      cases there.symm.trans there'
      rw [refused] at owes
      cases owes

/-- A producer sleeps at an ended queue only while the call that has ended it is still to wake
it. -/
theorem isClosing_of_asleep (h : Reachable capacity overflow m)
    (live : m.queue.queue.interrupted = false) (terminated : m.queue.queue.terminated = true)
    {b : Queue.Monitor.Activity} (there : m.queue.calls[k]? = some b)
    (asleep : b.phase = .asleep .room) : m.IsClosing := by
  obtain ⟨l, -⟩ := linked_of_reachable h
  have done : m.queue.queue.isOver .room = true := by simp [Queue.isOver, terminated]
  rcases (Queue.Monitor.attended_of_reachable h.queue).2 .room
    ⟨b, List.mem_of_getElem? there, asleep⟩ with ⟨c, listed, owes⟩ | ⟨notOver, -⟩
  · obtain ⟨k', there'⟩ := List.getElem?_of_mem listed
    have inside : k' < m.queue.asked.length := by
      rw [Queue.Monitor.length_asked]
      exact (List.getElem?_eq_some_iff.mp there').1
    obtain ⟨n', call, a', here', -, queued'⟩ := l.behind k' inside
    obtain ⟨c', there'', asks⟩ := l.known here' queued'
    cases there'.symm.trans there''
    rcases Queue.Monitor.owed_of_reachable h.queue k' c there' owes with ⟨msg, last⟩ | interrupted
    · rw [last] at asks
      refine ⟨n', a', here', (Call.closes_iff_asks.mp asks).1, ?_⟩
      rw [hasReturned_of_queued queued' there', ← Bool.not_eq_true]
      intro returned
      obtain ⟨result, done⟩ := Queue.Monitor.Activity.hasReturned_iff.mp returned
      simp [Queue.Monitor.Activity.owesAll, done] at owes
    · rw [live] at interrupted
      cases interrupted
  · rw [done] at notOver
    cases notOver

theorem goes (w : ReleasedWithin m n r) (h : Reachable capacity overflow m)
    (live : m.queue.queue.interrupted = false) :
    m.Goes n (some .queueTerminated) m.IsClosing := by
  cases w with
  | @waiting a k b terminated here queued there producer noResult =>
    have going := Queue.Monitor.Activity.hasReturned_eq_false noResult
    refine .of_going here ((hasReturned_of_queued queued there).trans going) ?_
    by_cases asleep : ∃ c, b.phase = .asleep c
    · obtain ⟨c, asleep⟩ := asleep
      obtain ⟨msg, asks⟩ := producer
      -- a producer sleeps on nothing but room
      have awaits := (Queue.Monitor.attended_of_reachable h.queue).1 b
        (List.mem_of_getElem? there) c asleep
      rw [asks] at awaits
      cases awaits
      exact Or.inl (isClosing_of_asleep h live terminated there asleep)
    · exact Or.inr (exists_own_step here queued there going (not_exists.mp asleep))
  | @released a k b here queued there refused =>
    have returned : m.hasReturned a = true := by
      simp [hasReturned_of_queued queued there, Queue.Monitor.Activity.hasReturned, refused]
    refine .of_returned here returned ?_
    simp [refusal?, queued, there, Queue.Monitor.Activity.result?, refused]

theorem finishes (w : ReleasedWithin m n r) (h : Reachable capacity overflow m) :
    m.Finishes n r (some .queueTerminated) IsClosing := by
  refine finishes_of_rank (R := fun m r => Reachable capacity overflow m ∧ ReleasedWithin m n r)
    (fun both live => both.2.goes both.1 live) ?_ ⟨h, w⟩
  intro m m' action r both step live
  obtain ⟨r', waits, lower⟩ := both.2.step step live
  exact ⟨r', ⟨both.1.step step, waits⟩, lower⟩

end ReleasedWithin

end Outbox.Sender.Monitor
