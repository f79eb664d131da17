import Outbox.Proofs.Sender.Closing
import Outbox.Session

/-!
# Closing always works and always ends the stream

From the turn that stores the last message on nothing goes in, and what the queue holds comes out in
order with the last message behind it. Before that turn nothing in the queue is empty. Hence a
stream that is pulled from then on hands out what was queued, then one empty chunk, and has ended;
and no chunk before that one could have ended it.

## Main Definitions

* `Stream.drain_up_to_last` — what a stream hands out, and what it leaves
* `Monitor.ClosesFreely` — what closing promises
* `Monitor.closes_freely` — every sender whose queue was not interrupted keeps the promise
-/

namespace Outbox

/-! ### Draining -/

theorem Stream.pull_of_messages {q : Queue} {m : Message} {rest : List Message}
    (live : q.interrupted = false) (oldest : q.messages = m :: rest) (interval : Nanoseconds) :
    Stream.pull ⟨interval, true⟩ q =
      .chunk m ⟨interval, !m.isLast⟩ { q with messages := rest } := by
  simp [Stream.pull, Queue.take, live, oldest]

theorem Stream.drain_of_chunk {s s' : Stream} {q q' : Queue} {m : Message} (more : s.hasNext = true)
    (pulled : s.pull q = .chunk m s' q') :
    s.drain q = (.ok m :: (s'.drain q').1, (s'.drain q').2) := by
  rw [Stream.drain, if_pos more]
  split
  · next h =>
    rw [pulled] at h
    cases h
    rfl
  · next h => rw [pulled] at h; cases h
  · next h => rw [pulled] at h; cases h

theorem Stream.drain_of_ended {s : Stream} (ended : s.hasNext = false) (q : Queue) :
    s.drain q = ([], s, q) := by
  rw [Stream.drain, if_neg (by simp [ended])]

/-- **A stream is drained up to its last message and with it**, if nobody interrupts the queue. What
is queued behind that message stays there. -/
theorem Stream.drain_up_to_last {front rest : List Message} {last : Message}
    (goesOn : ∀ c ∈ front, c.payload ≠ []) (empty : last.payload = []) (interval : Nanoseconds)
    {q : Queue} (live : q.interrupted = false) (messages : q.messages = front ++ last :: rest) :
    Stream.drain ⟨interval, true⟩ q =
      ((front ++ [last]).map .ok, ⟨interval, false⟩, { q with messages := rest }) := by
  induction front generalizing q with
  | nil =>
    have pulled := pull_of_messages live messages interval
    rw [Message.isLast_iff.mpr empty] at pulled
    rw [drain_of_chunk rfl pulled, drain_of_ended rfl]
    rfl
  | cons m front ih =>
    have oldest : q.messages = m :: (front ++ last :: rest) := messages
    have pulled := pull_of_messages live oldest interval
    have more : m.isLast = false := by
      rw [← Bool.not_eq_true, Message.isLast_iff]
      exact goesOn m List.mem_cons_self
    have others := ih (fun c hc => goesOn c (List.mem_cons_of_mem _ hc))
      (q := { q with messages := front ++ last :: rest }) live rfl
    rw [more, Bool.not_false] at pulled
    rw [drain_of_chunk rfl pulled, others]
    rfl

theorem Stream.drain_of_last {front : List Message} {last : Message}
    (goesOn : ∀ c ∈ front, c.payload ≠ []) (empty : last.payload = []) (interval : Nanoseconds)
    {q : Queue} (live : q.interrupted = false) (messages : q.messages = front ++ [last]) :
    Stream.drain ⟨interval, true⟩ q =
      (q.messages.map .ok, ⟨interval, false⟩, { q with messages := [] }) := by
  rw [messages]
  exact drain_up_to_last goesOn empty interval live messages

namespace Sender.Monitor

variable {capacity : Nat} {overflow : Overflow} {m m' : Monitor} {n k : Nat} {a : Activity}
  {action : Action}

/-! ### The last message arrives -/

/-- Once the sender is closed, some call carries the last message to the queue. -/
def Carried (m : Monitor) : Prop :=
  m.closed = true → ∃ (n : Nat) (a : Activity), m.calls[n]? = some a ∧ a.HasWon .closed

theorem Stepped.carried (h : m.Stepped action m') (l : m.Linked) (placed : m.WellPlaced)
    (c : m.Carried) : m'.Carried := by
  intro closed
  by_cases before : m.closed = true
  · obtain ⟨n, a, here, closes, place⟩ := c before
    cases h.progress here (l.exists_at_queue here) with
    | others _ stays => exact ⟨n, a, stays, closes, place⟩
    | enters stays => exact ⟨n, a, stays, closes, place⟩
    | signals stays => exact ⟨n, a, stays, closes, place⟩
    | acts own =>
      subst own
      cases h with
      | reached there =>
        cases here.symm.trans there
        exact ⟨n, _, getElem?_setPhase_self here, closes, Or.inr ⟨_, rfl⟩⟩
      | foundClosed there phase => cases here.symm.trans there; simp [phase] at place
      | foundOpen there phase => cases here.symm.trans there; simp [phase] at place
      | looksAgain there phase => cases here.symm.trans there; simp [phase] at place
      | closes there phase => cases here.symm.trans there; simp [phase] at place
      | closesLate there phase => cases here.symm.trans there; simp [phase] at place
      | claims there phase => cases here.symm.trans there; simp [phase] at place
      | claimsLate there phase => cases here.symm.trans there; simp [phase] at place
  · cases h with
    | @closes n a here closing isOpen =>
      have fits := placed a (List.mem_of_getElem? here)
      rw [Activity.Fits, closing] at fits
      exact ⟨n, _, getElem?_setPhase_self here, fits, Or.inl rfl⟩
    | _ => exact absurd closed before

theorem carried_of_reachable (h : Reachable capacity overflow m) : m.Carried := by
  refine (h.invariant stepped (P := fun m => m.Linked ∧ m.WellPlaced ∧ m.Carried) ?_ ?_).2.2
  · intro m m' action inv step
    exact ⟨step.linked inv.1, step.wellPlaced inv.2.1, step.carried inv.1 inv.2.1 inv.2.2⟩
  · refine ⟨linked_of_run (Steps.run?_nil _), ?_, ?_⟩
    · rintro a ⟨⟩
    · rintro ⟨⟩

/-- **When no closing call is under way any more, the queue has its last message.** -/
theorem terminated_of_closed (h : Reachable capacity overflow m)
    (live : m.queue.queue.interrupted = false) (closed : m.closed = true) (done : ¬ m.IsClosing) :
    m.queue.queue.terminated = true := by
  obtain ⟨n, a, here, closes, place⟩ := carried_of_reachable h closed
  have returned : m.hasReturned a = true := by
    rw [← Bool.not_eq_false]
    exact fun going => done ⟨n, a, here, closes, going⟩
  rcases place with calling | ⟨k, queued⟩
  · simp [hasReturned, calling] at returned
  · obtain ⟨b, there, -⟩ := (linked_of_reachable h).1.known here queued
    rw [hasReturned_of_queued queued there] at returned
    obtain ⟨result, leaving⟩ := Queue.Monitor.Activity.hasReturned_iff.mp returned
    have done : b.result? = some result := by simp [Queue.Monitor.Activity.result?, leaving]
    exact (stored_of_result h live here closes queued there done).2

/-! ### What the queue holds -/

/-- **Nothing that went in before the queue has ended is empty.** -/
theorem payload_of_accepted (h : Reachable capacity overflow m)
    (unended : m.queue.queue.terminated = false) {c : Message}
    (accepted : c ∈ m.queue.accepted.map Prod.snd) : c.payload ≠ [] := by
  have orderly := Queue.Monitor.orderly_of_reachable h.queue
  have lastBehind := Queue.Monitor.lastBehind_of_reachable h.queue
  obtain ⟨e, inLog, rfl⟩ := List.mem_map.mp accepted
  exact (linked_of_reachable h).1.payload_ne_nil orderly.accepted inLog
    (lastBehind.notYet unended e inLog)

theorem payload_of_queued (h : Reachable capacity overflow m)
    (unended : m.queue.queue.terminated = false) {c : Message}
    (queued : c ∈ m.queue.queue.messages) : c.payload ≠ [] := by
  refine payload_of_accepted h unended ?_
  rw [← (Queue.Monitor.orderly_of_reachable h.queue).conserved]
  exact List.mem_append_right _ queued

/-- **The step that ends the queue puts the terminal message behind all others.** -/
theorem messages_of_ending (h : Reachable capacity overflow m) (step : m.step? action = some m')
    (unended : m.queue.queue.terminated = false) (ended : m'.queue.queue.terminated = true) :
    m'.queue.queue.messages = m.queue.queue.messages ++ [.terminal] := by
  have l := (linked_of_reachable h).1
  rcases (stepped step).queue_stepped with same | ⟨inner, inQueue⟩
  · rw [same, unended] at ended
    cases ended
  · generalize m'.queue = q at inQueue ended ⊢
    cases (Queue.Monitor.stepped inQueue).recorded with
    | began _ queue => rw [queue, unended] at ended; cases ended
    | kept _ _ queue => rw [queue, unended] at ended; cases ended
    | @entered _ k thread call expired outcome before after was number turned =>
      rcases turned.terminated_iff.mp ended with earlier | ⟨⟨msg, isLast⟩, stored⟩
      · rw [unended] at earlier
        cases earlier
      · have asked : m.queue.asked[before.length]? = some call := by
          simp [Queue.Monitor.asked, was]
        obtain ⟨n, outer, a, here, rfl, queued⟩ :=
          l.behind before.length (List.getElem?_eq_some_iff.mp asked).1
        obtain ⟨asked', asks, there⟩ := l.asks n a.call _ ⟨a, here, rfl, queued⟩
        cases there.symm.trans asked
        have last : call = .enqueueLast msg := by cases call <;> cases isLast; rfl
        rw [last] at asks turned
        rw [(Call.closes_iff_asks.mp asks).2] at turned
        generalize q.queue = after at turned
        cases turned with
        | storedLast => rfl
        | refusedLast => cases stored

/-- **From an ended queue messages only come out**, in their order. -/
theorem pulled_of_run (h : Reachable capacity overflow m) {actions : List Action}
    (terminated : m.queue.queue.terminated = true) (run : m.run? actions = some m') :
    m'.queue.accepted = m.queue.accepted ∧
      ∃ pulled, m'.queue.handed = m.queue.handed ++ pulled ∧
        pulled.map Prod.snd ++ m'.queue.queue.messages = m.queue.queue.messages := by
  have kept : m'.queue.queue.terminated = true ∧ m'.queue.accepted = m.queue.accepted ∧
      m.queue.handed <+: m'.queue.handed := by
    refine Steps.run_invariant stepped (P := fun m' => m'.queue.queue.terminated = true ∧
      m'.queue.accepted = m.queue.accepted ∧ m.queue.handed <+: m'.queue.handed) ?_
      ⟨terminated, rfl, List.prefix_rfl⟩ run
    rintro next next' action ⟨terminated, accepted, handed⟩ step
    refine ⟨step.terminated_stays terminated, ?_, ?_⟩ <;>
      rcases step.queue_stepped with same | ⟨inner, inQueue⟩
    · rw [same, accepted]
    · rw [← accepted]
      exact (Queue.Monitor.stepped inQueue).recorded.accepted_of_terminated terminated
    · rwa [same]
    · exact handed.trans (Queue.Monitor.stepped inQueue).recorded.handed_prefix
  obtain ⟨-, accepted, pulled, handed⟩ := kept
  refine ⟨accepted, pulled, handed.symm, ?_⟩
  -- both states account for the same accepted messages
  have later : Reachable capacity overflow m' := h.run run
  have before := (Queue.Monitor.orderly_of_reachable h.queue).conserved
  have after := (Queue.Monitor.orderly_of_reachable later.queue).conserved
  rw [accepted, ← before, ← handed, List.map_append, List.append_assoc] at after
  exact List.append_cancel_left after

/-- A producer without a result is not in the log of an ended queue, and never will be. -/
theorem not_accepted_of_terminated (h : Reachable capacity overflow m)
    (terminated : m.queue.queue.terminated = true) {b : Queue.Monitor.Activity}
    (there : m.queue.calls[k]? = some b) (noResult : b.result? = none) {actions : List Action}
    (run : m.run? actions = some m') : ∀ e ∈ m'.queue.accepted, e.1 ≠ k := by
  rw [(pulled_of_run h terminated run).1]
  intro e inLog same
  have logs := (Queue.Monitor.orderly_of_reachable h.queue).accepted
  obtain ⟨r, onRecord, stored⟩ := Option.bind_eq_some_iff.mp ((logs.exact e.1 e.2).mp inLog)
  rw [same, Queue.Monitor.records, List.getElem?_map, there, Option.map_some, Option.some.injEq]
    at onRecord
  rw [← onRecord, Queue.Monitor.Record.stored?, Queue.Monitor.Activity.record, noResult] at stored
  cases stored

/-- Where some of the messages and the terminal one are left, pulling hands out just these. -/
theorem drain_of_pulled {queued pulled : List Message} {q : Queue}
    (goesOn : ∀ c ∈ queued, c.payload ≠ []) (rest : pulled ++ q.messages = queued ++ [.terminal])
    (live : q.interrupted = false) (more : q.messages ≠ []) (interval : Nanoseconds) :
    Stream.drain ⟨interval, true⟩ q =
      (q.messages.map .ok, ⟨interval, false⟩, { q with messages := [] }) := by
  obtain ⟨front, last, split⟩ := (List.eq_nil_or_concat q.messages).resolve_left more
  rw [List.concat_eq_append] at split
  rw [split, ← List.append_assoc] at rest
  obtain ⟨earlier, terminal⟩ := List.append_inj' rest rfl
  refine Stream.drain_of_last ?_ ?_ interval live split
  · intro c hc
    exact goesOn c (earlier ▸ List.mem_append_right _ hc)
  · rw [List.cons.inj terminal |>.1]
    rfl

/-! ### The promise -/

/-- **What closing promises** at a sender whose queue was not interrupted. -/
structure ClosesFreely (m : Monitor) : Prop where
  /-- A call that closes the sender now takes six steps of its own at most, has one to take until it
  has returned, and is not refused. -/
  closing : ∀ thread call, call.Closes → m.isBusy thread = false →
    ∃ m', m.step? (.begin thread call) = some m' ∧
      m'.Finishes m.calls.length 6 none fun _ => False
  /-- When the sender is closed and no closing call is under way, the queue has its last message. -/
  ends : m.closed = true → ¬ m.IsClosing → m.queue.queue.terminated = true
  /-- A submission to a closed sender is refused at its first step and does nothing. -/
  lateSubmission : m.closed = true → ∀ thread what, m.isBusy thread = false →
    ∃ m', m.step? (.begin thread (.submit what)) = some m' ∧
      m'.Finishes m.calls.length 1 (some .senderClosed) (fun _ => False) ∧
        m'.ChangesNothing m.calls.length
  /-- Closing a closed sender succeeds at its first step and does nothing. -/
  lateClosing : m.closed = true → ∀ thread call, call.Closes → m.isBusy thread = false →
    ∃ m', m.step? (.begin thread call) = some m' ∧
      m'.Finishes m.calls.length 1 none (fun _ => False) ∧ m'.ChangesNothing m.calls.length
  /-- A producer that waits when the queue is ended is refused at its next turn, sleeps only while a
  closing call is under way, and never gets its message in. -/
  waiting : m.queue.queue.terminated = true → ∀ (n : Nat) (a : Activity) (what : Submission)
    (k : Nat) (b : Queue.Monitor.Activity), m.calls[n]? = some a → a.call = .submit what →
      a.phase = .queued k → m.queue.calls[k]? = some b → b.result? = none →
        m.Finishes n 1 (some .queueTerminated) IsClosing ∧
          ∀ actions m', m.run? actions = some m' → ∀ e ∈ m'.queue.accepted, e.1 ≠ k
  /-- Nothing that was pulled before the queue has ended could have ended the stream. -/
  unended : m.queue.queue.terminated = false → ∀ e ∈ m.queue.handed, e.2.isLast = false
  /-- From the step that ends the queue on, whatever threads do, what comes out is what was queued
  and the terminal message behind it; and a stream that pulls what is left of it has ended then. -/
  pulled : ∀ action m', m.step? action = some m' → m.queue.queue.terminated = false →
    m'.queue.queue.terminated = true → ∀ actions m'', m'.run? actions = some m'' →
      ∃ pulled, m''.queue.handed = m'.queue.handed ++ pulled ∧
        pulled.map Prod.snd ++ m''.queue.queue.messages =
          m.queue.queue.messages ++ [.terminal] ∧
        (m''.queue.queue.interrupted = false → m''.queue.queue.messages ≠ [] → ∀ interval,
          Stream.drain ⟨interval, true⟩ m''.queue.queue =
            (m''.queue.queue.messages.map .ok, ⟨interval, false⟩,
              { m''.queue.queue with messages := [] }))
  /-- Where no other thread acts meanwhile, all this holds of the calls in one go. -/
  inOneGo : m.closed = false → ∀ interval,
    let sender : Sender := ⟨m.queue.queue, interval, false, m.streamTaken⟩
    let ended : Queue := { m.queue.queue.push .terminal with terminated := true }
    let closed : Sender := ⟨ended, interval, true, m.streamTaken⟩
    sender.close = (.ok (), closed) ∧ closed.close = (.ok (), closed) ∧
      (∀ what, closed.submit what = .refused .senderClosed) ∧
      Stream.drain ⟨interval, true⟩ ended =
        ((m.queue.queue.messages ++ [Message.terminal]).map .ok, ⟨interval, false⟩,
          { ended with messages := [] })

/-- **Closing always works and always ends the stream**, whatever the capacity, whatever a full
queue does, and whatever the threads have done before, unless somebody interrupts the queue. -/
theorem closes_freely (reachable : Reachable capacity overflow m)
    (live : m.queue.queue.interrupted = false) : m.ClosesFreely := by
  refine {
    closing := ?_
    ends := terminated_of_closed reachable live
    lateSubmission := ?_
    lateClosing := ?_
    waiting := ?_
    unended := ?_
    pulled := ?_
    inOneGo := ?_ }
  · intro thread call closes idle
    obtain ⟨m', step, -, here⟩ := exists_begin call idle
    have nextReachable := reachable.step step
    refine ⟨m', step, ?_⟩
    rcases closes with rfl | rfl
    · have within : ClosingWithin m' m.calls.length 5 := .closing here (Or.inl rfl) rfl
      exact (within.finishes nextReachable).mono (by decide)
    · have within : ClosingWithin m' m.calls.length 6 := .looking here rfl rfl
      exact within.finishes nextReachable
  · intro closed thread what idle
    obtain ⟨m', step, same, here⟩ := exists_begin (.submit what) idle
    have turnedAway : TurnedAwayWithin (some .senderClosed) m' m.calls.length 1 :=
      .looking (same.trans closed) here rfl rfl
    exact ⟨m', step, turnedAway.finishes, turnedAway.changesNothing⟩
  · intro closed thread call closes idle
    obtain ⟨m', step, same, here⟩ := exists_begin call idle
    have turnedAway : TurnedAwayWithin none m' m.calls.length 1 := by
      rcases closes with rfl | rfl
      · exact .closing (same.trans closed) here rfl rfl
      · exact .looking (same.trans closed) here rfl rfl
    exact ⟨m', step, turnedAway.finishes, turnedAway.changesNothing⟩
  · intro terminated n a what k b here submits queued there noResult
    have producer : ∃ msg, b.call = .enqueue msg := by
      obtain ⟨b', there', asks⟩ := (linked_of_reachable reachable).1.known here queued
      cases there.symm.trans there'
      rw [submits] at asks
      exact ⟨what.message, (Option.some.inj asks).symm⟩
    have waits : ReleasedWithin m n 1 := .waiting terminated here queued there producer noResult
    exact ⟨waits.finishes reachable, fun actions m' run =>
      not_accepted_of_terminated reachable terminated there noResult run⟩
  · intro unended e handed
    rw [← Bool.not_eq_true, Message.isLast_iff]
    refine payload_of_accepted reachable unended ?_
    rw [← (Queue.Monitor.orderly_of_reachable reachable.queue).conserved]
    exact List.mem_append_left _ (List.mem_map_of_mem handed)
  · intro action m' step unended ended actions m'' run
    have messages := messages_of_ending reachable step unended ended
    obtain ⟨-, pulled, handed, rest⟩ := pulled_of_run (reachable.step step) ended run
    rw [messages] at rest
    refine ⟨pulled, handed, rest, fun stillLive more interval => ?_⟩
    exact drain_of_pulled (fun c => payload_of_queued reachable unended) rest stillLive more
      interval
  · intro isOpen interval sender ended closed
    have unended := unended_of_open reachable isOpen
    have open? : m.queue.queue.refusal? = none := Queue.refusal?_eq_none_iff.mpr ⟨live, unended⟩
    refine ⟨?_, rfl, fun what => rfl, ?_⟩
    · simp [sender, closed, ended, Sender.close, Queue.offerLast_of_open open?]
    · have messages : ended.messages = m.queue.queue.messages ++ [.terminal] := rfl
      rw [← messages]
      exact Stream.drain_of_last (fun c => payload_of_queued reachable unended) rfl interval live
        messages

/-- A producer sleeps at a full queue when a closing call ends it, and that call has yet to wake
it. -/
theorem waiting_producer_turned_away :
    let actions : List Action := [.begin 0 (.submit .ping), .act 0, .act 0, .queue (.enter 0),
      .begin 1 (.submit .ping), .act 1, .act 1, .queue (.enter 1), .begin 2 .close, .act 2, .act 2,
      .queue (.enter 2)]
    ∃ m, (start (.make 1 .block)).run? actions = some m ∧ m.queue.queue.interrupted = false ∧
      m.queue.queue.messages = [.ping, .terminal] ∧
      m.queue.calls[1]? = some ⟨1, .enqueue .ping, .asleep .room⟩ ∧ m.ClosesFreely := by
  intro actions
  have reachable : Reachable 1 .block _ := ⟨actions, rfl⟩
  exact ⟨_, rfl, rfl, rfl, rfl, closes_freely reachable rfl⟩

end Sender.Monitor

end Outbox
