import Outbox.Proofs.Queue.Last
import Outbox.Proofs.Sender.Flags
import Outbox.Proofs.Submission

/-!
# The last message comes once and last

Closing a sender is two steps, and a submission is two steps or more, so a submission that found the
sender open may reach the queue at any later time. The closed flag does not keep it out. Three facts
of different kinds do what the flag cannot. The flag is won once in a run, so only one call ever
carries the last message to the queue. The queue takes nothing after that message. And no submission
has an empty message, so nothing else looks like the last one.

## Main Definitions

* `Monitor.Linked` — which call of the sender stands behind which call of the queue
* `Monitor.SentinelSafe` — what a sender promises about its last message and its stream
* `Monitor.sentinel_safe` — every run keeps the promise
-/

namespace Outbox.Sender.Monitor

variable {m m' : Monitor} {n : Nat} {a : Activity}

/-! ### Calls behind the queue's calls -/

/-- A call has reached the queue, as this call there. -/
def Reached (m : Monitor) (n : Nat) (call : Call) (k : Nat) : Prop :=
  ∃ a, m.calls[n]? = some a ∧ a.call = call ∧ a.phase = .queued k

/-- **Behind each call at the queue stands one call of the sender**, and it asks for the same. -/
structure Linked (m : Monitor) : Prop where
  asks : ∀ n call k, m.Reached n call k →
    ∃ asked, call.onQueue? = some asked ∧ m.queue.asked[k]? = some asked
  behind : ∀ k < m.queue.asked.length, ∃ n call, m.Reached n call k
  alone : ∀ n n' call call' k, m.Reached n call k → m.Reached n' call' k → n = n'

theorem reached_setPhase_iff {phase : Phase} (here : m.calls[n]? = some a)
    (away : ∀ k, a.phase ≠ .queued k) (calls : m'.calls = (m.setPhase n a phase).calls)
    (i : Nat) (call : Call) (k : Nat) :
    m'.Reached i call k ↔ m.Reached i call k ∨ (i = n ∧ call = a.call ∧ phase = .queued k) := by
  unfold Reached
  rw [calls]
  constructor
  · rintro ⟨b, there, rfl, queued⟩
    rcases getElem?_setPhase there with ⟨rfl, rfl⟩ | ⟨-, old⟩
    · exact Or.inr ⟨rfl, rfl, queued⟩
    · exact Or.inl ⟨b, old, rfl, queued⟩
  · rintro (⟨b, old, rfl, queued⟩ | ⟨rfl, rfl, queued⟩)
    · have other : n ≠ i := by
        rintro rfl
        rw [here, Option.some.injEq] at old
        exact away k (old ▸ queued)
      exact ⟨b, by rw [setPhase, List.getElem?_set_ne other, old], rfl, queued⟩
    · have inside := (List.getElem?_eq_some_iff.mp here).1
      exact ⟨{ a with phase := phase }, by simp [setPhase, inside], rfl, queued⟩

/-- A step after which the same calls stand behind the same ones. -/
theorem Linked.same (l : m.Linked) (reached : ∀ n call k, m'.Reached n call k ↔ m.Reached n call k)
    (asked : m'.queue.asked = m.queue.asked) : m'.Linked := by
  refine ⟨?_, ?_, ?_⟩ <;> simp only [reached, asked]
  · exact l.asks
  · exact l.behind
  · exact l.alone

/-- A step in which a call gets further away from the queue. -/
theorem Linked.passed {phase : Phase} (l : m.Linked) (here : m.calls[n]? = some a)
    (away : ∀ k, a.phase ≠ .queued k) (calls : m'.calls = (m.setPhase n a phase).calls)
    (stays : ∀ k, phase ≠ .queued k) (queue : m'.queue = m.queue) : m'.Linked := by
  refine l.same ?_ (by rw [queue])
  intro i call k
  rw [reached_setPhase_iff here away calls]
  simp [stays]

/-- A step in which a call reaches the queue, under a number that nobody had. -/
theorem Linked.reached {asked : Queue.Monitor.Call} (l : m.Linked)
    (here : m.calls[n]? = some a) (away : ∀ k, a.phase ≠ .queued k)
    (asks : a.call.onQueue? = some asked)
    (calls : m'.calls = (m.setPhase n a (.queued m.queue.calls.length)).calls)
    (grown : m'.queue.asked = m.queue.asked ++ [asked]) : m'.Linked := by
  have more := reached_setPhase_iff here away calls
  have length := m.queue.length_asked
  -- the number that the queue gives next is behind all that it has given
  have fresh : ∀ i call, ¬ m.Reached i call m.queue.asked.length := by
    intro i call reached
    obtain ⟨asked, -, there⟩ := l.asks i call _ reached
    simp at there
  rw [← length] at more
  refine ⟨?_, ?_, ?_⟩
  · intro i call k reached
    rcases (more i call k).mp reached with old | ⟨-, rfl, new⟩
    · obtain ⟨before, hasAsked, there⟩ := l.asks i call k old
      refine ⟨before, hasAsked, ?_⟩
      rw [grown, List.getElem?_append_left (List.getElem?_eq_some_iff.mp there).1, there]
    · cases new
      exact ⟨asked, asks, by simp [grown]⟩
  · intro k inside
    rw [grown, List.length_append, List.length_singleton] at inside
    rcases Nat.lt_succ_iff_lt_or_eq.mp inside with old | rfl
    · obtain ⟨i, call, reached⟩ := l.behind k old
      exact ⟨i, call, (more i call k).mpr (Or.inl reached)⟩
    · exact ⟨n, a.call, (more _ _ _).mpr (Or.inr ⟨rfl, rfl, rfl⟩)⟩
  · intro i i' call call' k first second
    rcases (more i call k).mp first with old | ⟨rfl, -, new⟩ <;>
      rcases (more i' call' k).mp second with old' | ⟨rfl, -, new'⟩
    · exact l.alone i i' call call' k old old'
    · cases new'
      exact absurd old (fresh i call)
    · cases new
      exact absurd old' (fresh i' call')
    · rfl

theorem Stepped.linked {action : Action} (h : m.Stepped action m') (l : m.Linked) : m'.Linked := by
  cases h with
  | @began thread call idle =>
    refine l.same (fun i c k => ?_) rfl
    unfold Reached
    rw [List.getElem?_append]
    split
    · rfl
    · next outside =>
      rw [List.getElem?_eq_none (Nat.le_of_not_lt outside), List.getElem?_singleton]
      cases call <;> split <;> simp [Call.start]
  | @foundClosed n a more here looking closed =>
    refine l.passed here (by simp [looking]) rfl ?_ rfl
    cases a.call <;> simp [Call.onClosed]
  | @foundOpen n a here looking isOpen =>
    refine l.passed here (by simp [looking]) rfl ?_ rfl
    cases a.call <;> simp [Call.onOpen]
  | looksAgain here looking isOpen => exact l.passed here (by simp [looking]) rfl (by simp) rfl
  | closes here closing isOpen => exact l.passed here (by simp [closing]) rfl (by simp) rfl
  | closesLate here closing closed => exact l.passed here (by simp [closing]) rfl (by simp) rfl
  | claims here claiming free => exact l.passed here (by simp [claiming]) rfl (by simp) rfl
  | claimsLate here claiming taken => exact l.passed here (by simp [claiming]) rfl (by simp) rfl
  | reached here calling asks step =>
    exact l.reached here (by simp [calling]) asks rfl (Queue.Monitor.stepped step).recorded.asked_eq
  | @queueStepped action q inside step =>
    refine l.same (fun _ _ _ => Iff.rfl) ?_
    rw [(Queue.Monitor.stepped step).recorded.asked_eq]
    cases action with
    | begin thread call => exact absurd rfl (inside thread call)
    | _ => exact List.append_nil _

theorem linked_of_run {q : Queue} {actions : List Action} (run : (start q).run? actions = some m) :
    m.Linked := by
  refine Steps.run_invariant stepped (P := Linked) (fun l step => step.linked l) ⟨?_, ?_, ?_⟩ run
  · rintro n call k ⟨a, ⟨⟩, -⟩
  · rintro k ⟨⟩
  · rintro n n' call call' k ⟨a, ⟨⟩, -⟩

/-! ### Accepted messages -/

/-- The queue's log of accepted messages is that of its successful calls. -/
def Logged (m : Monitor) : Prop :=
  Queue.Monitor.Logs Queue.Monitor.Record.stored? m.queue.records m.queue.accepted

/-- **Who stands behind an accepted message**: a submission whose message it is, or a call that
closes the sender and brings the last message. -/
theorem Linked.accepted_cases (l : m.Linked) (logs : m.Logged) {e : Nat × Message}
    (inLog : e ∈ m.queue.accepted) :
    ∃ n call, m.Reached n call e.1 ∧
      ((∃ what, call = .submit what ∧ e.2 = what.message) ∨
        (call = .close ∨ call = .drop) ∧ m.queue.IsLastCall e.1) := by
  obtain ⟨asked, there, message⟩ := Queue.Monitor.asked_of_accepted logs inLog
  obtain ⟨n, call, reached⟩ := l.behind e.1 (List.getElem?_eq_some_iff.mp there).1
  obtain ⟨asked', asks, there'⟩ := l.asks n call e.1 reached
  have same : asked' = asked := Option.some.inj (there'.symm.trans there)
  subst same
  refine ⟨n, call, reached, ?_⟩
  cases call with
  | submit what =>
    cases asks
    exact Or.inl ⟨what, rfl, (Option.some.inj message).symm⟩
  | close =>
    cases asks
    exact Or.inr ⟨Or.inl rfl, .terminal, there⟩
  | drop =>
    cases asks
    exact Or.inr ⟨Or.inr rfl, .terminal, there⟩
  | obtainStream => cases asks
  | interrupt =>
    cases asks
    cases message
  | take timed =>
    cases asks
    cases message

/-- What a submission has put in is its message. -/
theorem Linked.eq_message (l : m.Linked) (logs : m.Logged) {what : Submission} {e : Nat × Message}
    (reached : m.Reached n (.submit what) e.1) (inLog : e ∈ m.queue.accepted) :
    e.2 = what.message := by
  obtain ⟨asked, asks, there⟩ := l.asks n _ e.1 reached
  obtain ⟨asked', there', message⟩ := Queue.Monitor.asked_of_accepted logs inLog
  rw [there, Option.some.injEq] at there'
  cases asks
  rw [← there'] at message
  exact (Option.some.inj message).symm

/-- A message that is not the last has a payload. -/
theorem Linked.payload_ne_nil (l : m.Linked) (logs : m.Logged) {e : Nat × Message}
    (inLog : e ∈ m.queue.accepted) (notLast : ¬ m.queue.IsLastCall e.1) : e.2.payload ≠ [] := by
  obtain ⟨n, call, -, ⟨what, -, message⟩ | ⟨-, last⟩⟩ := l.accepted_cases logs inLog
  · rw [message]
    exact what.payload_ne_nil
  · exact absurd last notLast

/-- An empty payload is at the end of the log, and nowhere else. -/
theorem Linked.last_once (l : m.Linked) (logs : m.Logged) (lastBehind : m.queue.LastBehind)
    {before after : List (Nat × Message)} {e : Nat × Message}
    (split : m.queue.accepted = before ++ e :: after) (empty : e.2.payload = []) :
    after = [] ∧ ∀ other ∈ before, other.2.payload ≠ [] := by
  have isLast : m.queue.IsLastCall e.1 := by
    by_cases last : m.queue.IsLastCall e.1
    · exact last
    · exact absurd empty (l.payload_ne_nil logs (by simp [split]) last)
  -- everything but the end of the log is from other calls
  have front := lastBehind.behind
  rw [split, List.dropLast_append_cons] at front
  refine ⟨?_, ?_⟩
  · cases after with
    | nil => rfl
    | cons next rest => exact absurd isLast (front e (by simp))
  · intro other earlier
    exact l.payload_ne_nil logs (by simp [split, earlier]) (front other (by simp [earlier]))

/-! ### The promise -/

/-- **What a sender promises** about its last message and its stream, after a run in which these
calls found it open when they swapped the closed flag. -/
structure SentinelSafe (closers : List Nat) (m : Monitor) : Prop where
  /-- At most one call finds the sender open. -/
  oneCloser : closers.length ≤ 1
  /-- A message with an empty payload is accepted once, and nothing is accepted after it. -/
  lastOnce : ∀ before e after, m.queue.accepted = before ++ e :: after → e.2.payload = [] →
    after = [] ∧ ∀ other ∈ before, other.2.payload ≠ []
  /-- It is accepted from the call that found the sender open. -/
  fromCloser : ∀ e ∈ m.queue.accepted, e.2.payload = [] →
    ∃ n ∈ closers, ∃ call, (call = .close ∨ call = .drop) ∧ m.Reached n call e.1
  /-- What is accepted from a submission is its message, which has a payload. -/
  submissions : ∀ n what e, m.Reached n (.submit what) e.1 → e ∈ m.queue.accepted →
    e.2 = what.message ∧ e.2.payload ≠ []
  /-- Each accepted message comes from one call. -/
  accounted : ∀ e ∈ m.queue.accepted,
    ∃ n call, m.Reached n call e.1 ∧ ∀ n' call', m.Reached n' call' e.1 → n' = n
  /-- At most one call has returned the stream. -/
  oneStream : ∀ n n' thread thread' : Nat,
    m.calls[n]? = some ⟨thread, .obtainStream, .returned none⟩ →
    m.calls[n']? = some ⟨thread', .obtainStream, .returned none⟩ → n = n'

/-- **The last message comes once and last.** Whatever the threads at a sender do, and in whichever
order their steps come, the sender keeps its promise. -/
theorem sentinel_safe {capacity : Nat} {overflow : Overflow} {actions : List Action}
    (run : (start (.make capacity overflow)).run? actions = some m) :
    m.SentinelSafe ((start (.make capacity overflow)).winners .closed actions) := by
  have closers := won_of_start .closed run
  have claimants := won_of_start .stream run
  have linked := linked_of_run run
  have reachable := queue_reachable run
  have lastBehind := Queue.Monitor.lastBehind_of_reachable reachable
  have logs : m.Logged := (Queue.Monitor.orderly_of_reachable reachable).accepted
  refine {
    oneCloser := closers.once
    lastOnce := fun before e after => linked.last_once logs lastBehind
    fromCloser := ?_
    submissions := ?_
    accounted := ?_
    oneStream := ?_ }
  · intro e inLog empty
    obtain ⟨n, call, reached, ⟨what, -, message⟩ | ⟨closes, -⟩⟩ := linked.accepted_cases logs inLog
    · rw [message] at empty
      exact absurd empty what.payload_ne_nil
    · obtain ⟨a, there, rfl, queued⟩ := reached
      have won := closers.holders n a there ⟨closes, Or.inr ⟨e.1, queued⟩⟩
      exact ⟨n, won, a.call, closes, a, there, rfl, queued⟩
  · intro n what e reached inLog
    have message := linked.eq_message logs reached inLog
    exact ⟨message, message ▸ what.payload_ne_nil⟩
  · intro e inLog
    obtain ⟨n, call, reached, -⟩ := linked.accepted_cases logs inLog
    refine ⟨n, call, reached, fun n' call' reached' => ?_⟩
    exact linked.alone n' n call' call e.1 reached' reached
  · intro n n' thread thread' first second
    exact claimants.unique (claimants.holders n _ first ⟨rfl, rfl⟩)
      (claimants.holders n' _ second ⟨rfl, rfl⟩)

/-- A submission that found the sender open reaches the queue after the last message, which one of
two calls of `close` has brought there, and is refused. -/
theorem late_submission_refused :
    let actions : List Action := [.begin 0 (.submit .ping), .act 0, .act 0, .queue (.enter 0),
      .queue (.signal 0 none), .begin 0 (.submit (.binary [1] .empty)), .act 1, .begin 1 .close,
      .begin 2 .close, .act 2, .act 3, .act 2, .queue (.enter 1), .act 1, .queue (.enter 2)]
    let s := start (.make 2 .block)
    s.winners .closed actions = [2] ∧
      ∃ m, s.run? actions = some m ∧ m.queue.accepted = [(0, .ping), (1, .terminal)] ∧
        m.SentinelSafe (s.winners .closed actions) := by
  intro actions s
  obtain ⟨m, run, accepted⟩ : ∃ m, s.run? actions = some m ∧
      m.queue.accepted = [(0, .ping), (1, .terminal)] := ⟨_, rfl, rfl⟩
  exact ⟨by decide, m, run, accepted, sentinel_safe run⟩

end Outbox.Sender.Monitor
