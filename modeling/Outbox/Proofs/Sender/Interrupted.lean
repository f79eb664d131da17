import Outbox.Proofs.Sender.Concluding
import Outbox.Proofs.Sender.Failing

/-!
# An interruption is final

Once a call of interrupt has had its turn, nothing that anybody does at a sender, its queue and its
stream succeeds any more. The queue stays as it is with all that it holds. Whoever had no result by
then fails, and so does whoever calls later: at the sender's closed flag if it was set when the call
looked at it, also by a call of close that the queue has refused, and at the queue otherwise. And
the stream says once that it was interrupted and has ended then.

## Main Definitions

* `Exchange.Final` — what an interruption leaves of a sender, its queue and its stream
* `Exchange.interruption_final` — every run that goes on from there leaves it
-/

namespace Outbox.Sender

/-! ### Calls in one go -/

theorem submit_of_interrupted {s : Sender} (interrupted : s.queue.interrupted = true)
    (what : Submission) :
    s.submit what = .refused (if s.closed then .senderClosed else .interrupted) := by
  rw [submit, Queue.offer_of_interrupted interrupted]
  split <;> rfl

/-- Closing sets the flag although the queue refuses the last message. -/
theorem close_of_interrupted {s : Sender} (interrupted : s.queue.interrupted = true) :
    s.close = (if s.closed then .ok () else .error .interrupted, { s with closed := true }) := by
  rw [close, Queue.offerLast_of_interrupted interrupted]
  split
  · next closed => rw [← closed]
  · rfl

theorem pull_of_interrupted {s : Stream} {q : Queue} (interrupted : q.interrupted = true) :
    s.pull q =
      .refused (if s.hasNext then .interrupted else .streamExhausted)
        { s with hasNext := false } := by
  rw [Stream.pull, Queue.take_of_interrupted interrupted]
  split
  · rfl
  · next finished => rw [← Bool.eq_false_iff.mpr finished]

namespace Exchange

variable {capacity : Nat} {overflow : Overflow} {e e' : Exchange} {actions : List Action}

/-! ### The promise -/

/-- **What an interruption leaves of a sender, its queue and its stream** after these steps. -/
structure Final (e : Exchange) (actions : List Action) (e' : Exchange) : Prop where
  /-- The queue is as it was, with its messages and its flags; nothing was put in, no chunk was
  taken out, and whoever had a result has kept it. -/
  halted : e.monitor.queue.Halted e'.monitor.queue
  /-- Every call at the queue but an interruption, if it had no result then or has begun since, is
  refused as interrupted: by now, at its next turn, or when it has been woken, for which somebody is
  still to send the signal. -/
  refuses : ∀ k b, e'.monitor.queue.calls[k]? = some b → b.call ≠ .interrupt →
    e.monitor.queue.resultOf k = none → e'.monitor.queue.Refuses k b
  /-- When nobody can go on by itself at the queue, they have all been refused. -/
  quiet : e'.monitor.queue.Quiet → ∀ k b, e'.monitor.queue.calls[k]? = some b →
    b.call ≠ .interrupt → e.monitor.queue.resultOf k = none →
      b.phase = .leaving [] (.refused .interrupted)
  /-- Every call at the sender that asks the queue for something, if it had no result then or has
  begun since, takes five steps of its own at most and fails: as one that comes too late if one of
  its looks found the sender closed, and otherwise as interrupted. -/
  fails : ∀ n a, e'.monitor.calls[n]? = some a → a.call.AsksQueue → ¬ e.monitor.IsDecided n →
    e.ownSteps n actions ≤ 5 ∧
      e'.monitor.Goes n (a.call.ifInterrupted (e.foundClosed n actions))
        (e'.IsOwedWaking n)
  /-- The stream hands out the chunk in hand and then says once that it was interrupted, if there is
  such a chunk and if it has not ended with it; after that it says that it has ended. -/
  concludes : e.Concludes e'
  /-- Another chunk is to come just as long as one of these answers is. -/
  hasNext : e'.hasNext = true ↔ e'.lastAnswers ≠ []
  /-- A pull under way is not stuck. -/
  pulls : ∀ p, e'.pull = some p →
    (∀ timed, (e'.step? (.resume timed)).isSome = true) ∨ e'.IsOwedWaking p.wait ∨
      ∃ action, e'.monitor.isOwn p.wait action = true ∧ (e'.monitor.step? action).isSome = true
  /-- A stream that has ended has no pull under way, and answers the next one without a look at the
  queue. -/
  ended : e'.hasNext = false → e'.pull = none ∧ ∀ thread timed asking, e'.isBusy thread = false →
    e'.monitor.streamTaken = true →
      e'.step? (.pull thread timed asking) = some (e'.tell asking.onEnded)
  /-- Where no other thread acts meanwhile, all this holds of the calls in one go. -/
  inOneGo : ∀ (s : Sender) (stream : Stream), s.queue = e'.monitor.queue.queue →
    (∀ msg, s.queue.offer msg = .refused .interrupted) ∧
      (∀ msg, s.queue.offerLast msg = .error .interrupted) ∧
      s.queue.take = .refused .interrupted ∧
      (∀ what, s.submit what = .refused (if s.closed then .senderClosed else .interrupted)) ∧
      s.close = (if s.closed then .ok () else .error .interrupted, { s with closed := true }) ∧
      stream.pull s.queue =
        .refused (if stream.hasNext then .interrupted else .streamExhausted)
          { stream with hasNext := false }

/-- **An interruption is final.** Whatever the threads at a sender, its queue and its stream have
done before, once a call of interrupt has had its turn, nothing that they do afterwards succeeds or
changes what the queue holds. -/
theorem interruption_final (reachable : Reachable capacity overflow e)
    (called : e.monitor.queue.InterruptCalled) (run : e.run? actions = some e') :
    e.Final actions e' := by
  have interrupted := (Queue.Monitor.interrupted_iff_called reachable.queue).mpr called
  have halted := halted_of_run interrupted run
  have after : Reachable capacity overflow e' := reachable.run run
  have stillInterrupted : e'.monitor.queue.queue.interrupted = true := by
    rw [halted.queue, interrupted]
  have l := lawful_of_reachable after
  have refuses : ∀ k b, e'.monitor.queue.calls[k]? = some b → b.call ≠ .interrupt →
      e.monitor.queue.resultOf k = none → e'.monitor.queue.Refuses k b :=
    fun k b there other noResult => Queue.Monitor.refuses_of_canOnlyFail after.queue
      stillInterrupted there other (halted.failing k b there other noResult)
  refine {
    halted := halted
    refuses := refuses
    quiet := fun quiet k b there other noResult => (refuses k b there other noResult).of_quiet quiet
    fails := ?_
    concludes := concludes_of_run reachable interrupted run
    hasNext := l.hasNext_iff
    pulls := fun p pulling => pull_goes after stillInterrupted pulling
    ended := ?_
    inOneGo := ?_ }
  · intro n a here asks undecided
    obtain ⟨r, f, bound⟩ := fails_of_undecided reachable interrupted run here asks undecided
    exact ⟨by omega, goes_of_failsWithin after stillInterrupted asks f⟩
  · intro finished
    have alone : e'.pull = none := by
      rw [Option.eq_none_iff_forall_ne_some]
      intro p pulling
      rw [(l.pulling p pulling).1] at finished
      cases finished
    refine ⟨alone, fun thread timed asking idle taken => ?_⟩
    simp [step?, idle, alone, taken, finished]
  · intro s stream same
    have sInterrupted : s.queue.interrupted = true := same ▸ stillInterrupted
    exact ⟨Queue.offer_of_interrupted sInterrupted, Queue.offerLast_of_interrupted sInterrupted,
      Queue.take_of_interrupted sInterrupted, submit_of_interrupted sInterrupted,
      close_of_interrupted sInterrupted, pull_of_interrupted sInterrupted⟩

/-- A producer sleeps at a full queue, another call of close has set the flag and not reached the
queue yet, and a pull begins to wait when somebody interrupts the queue. Afterwards all three fail,
a late submission finds the sender closed, and the stream, pulled twice more, has ended. -/
theorem waiting_all_fail :
    let actions : List Action := [.sender (.begin 0 .obtainStream), .sender (.act 0),
      .direct 1 (.enqueue .ping), .sender (.queue (.enter 0)),
      .sender (.queue (.signal 0 none)), .sender (.begin 1 (.submit .ping)), .sender (.act 1),
      .sender (.act 1), .sender (.queue (.enter 1)), .sender (.begin 2 .close), .sender (.act 2),
      .pull 3 true .nextChunk, .sender (.begin 4 .interrupt), .sender (.act 4),
      .sender (.queue (.enter 2))]
    let later : List Action := [.sender (.act 2), .sender (.queue (.enter 3)),
      .sender (.queue (.signal 2 none)), .sender (.queue (.signal 2 none)),
      .sender (.queue (.enter 1)), .sender (.begin 5 (.submit .ping)), .sender (.act 5),
      .sender (.act 3), .sender (.queue (.enter 4)), .resume true, .pull 3 true .nextChunk,
      .pull 3 true .iteration]
    ∃ e e', (start (.make 1 .block)).run? actions = some e ∧
      e.monitor.queue.calls[1]? = some ⟨1, .enqueue .ping, .asleep .room⟩ ∧
      e.monitor.closed = true ∧ e.monitor.queue.queue.terminated = false ∧
      e.run? later = some e' ∧ e.Final later e' ∧
      e'.monitor.queue.queue.messages = [.ping] ∧
      e'.answers =
        [.refused .interrupted, .refused .streamExhausted, .ended] := by
  intro actions later
  have reachable : Reachable 1 .block _ := ⟨actions, rfl⟩
  refine ⟨_, _, rfl, rfl, rfl, rfl, rfl, interruption_final reachable ⟨4, ?_⟩ rfl, rfl, rfl⟩
  decide

end Exchange

end Outbox.Sender
