import Outbox.Proofs.Queue.Monitor
import Outbox.Sender.Monitor

/-!
# What a step of a sender can do

`Monitor.Stepped` lists what one step of the threads at a sender can come to. Two of the cases swap
a flag that was unset, and those two happen once in a run each. What happens at the queue is told by
the queue's own steps: a run of the sender is, for its queue, a run as well.

## Main Definitions

* `Monitor.Stepped` — a step, and the monitor it leaves
* `Monitor.queue_reachable` — the queue of a reachable sender is reachable
-/

namespace Outbox.Sender.Monitor

/-- **What a step can do**, and the monitor it leaves. -/
inductive Stepped (m : Monitor) : Action → Monitor → Prop where
  /-- A call begins on a thread that has no other under way. -/
  | began {thread : Nat} {call : Call} (idle : m.isBusy thread = false) :
    Stepped m (.begin thread call) { m with calls := m.calls ++ [⟨thread, call, call.start⟩] }
  /-- A call looks at the closed flag and finds it set. -/
  | foundClosed {n : Nat} {a : Activity} {more : Nat} (here : m.calls[n]? = some a)
    (looking : a.phase = .looking more) (closed : m.closed = true) :
    Stepped m (.act n) (m.setPhase n a a.call.onClosed)
  /-- A call looks at the closed flag for the last time and finds it unset. -/
  | foundOpen {n : Nat} {a : Activity} (here : m.calls[n]? = some a)
    (looking : a.phase = .looking 0) (isOpen : m.closed = false) :
    Stepped m (.act n) (m.setPhase n a a.call.onOpen)
  /-- A call finds the closed flag unset and will look again. -/
  | looksAgain {n : Nat} {a : Activity} {more : Nat} (here : m.calls[n]? = some a)
    (looking : a.phase = .looking (more + 1)) (isOpen : m.closed = false) :
    Stepped m (.act n) (m.setPhase n a (.looking more))
  /-- A call swaps the closed flag, which was unset. -/
  | closes {n : Nat} {a : Activity} (here : m.calls[n]? = some a) (closing : a.phase = .closing)
    (isOpen : m.closed = false) :
    Stepped m (.act n) { m.setPhase n a .calling with closed := true }
  /-- A call swaps the closed flag, which was set. -/
  | closesLate {n : Nat} {a : Activity} (here : m.calls[n]? = some a) (closing : a.phase = .closing)
    (closed : m.closed = true) :
    Stepped m (.act n) (m.setPhase n a (.returned none))
  /-- A call claims the stream. -/
  | claims {n : Nat} {a : Activity} (here : m.calls[n]? = some a) (claiming : a.phase = .claiming)
    (free : m.streamTaken = false) :
    Stepped m (.act n) { m.setPhase n a (.returned none) with streamTaken := true }
  /-- A call claims the stream, which was given away. -/
  | claimsLate {n : Nat} {a : Activity} (here : m.calls[n]? = some a)
    (claiming : a.phase = .claiming) (taken : m.streamTaken = true) :
    Stepped m (.act n) (m.setPhase n a (.returned (some .streamTaken)))
  /-- A call reaches the queue, under the next number there. -/
  | reached {n : Nat} {a : Activity} {call : Queue.Monitor.Call} {q : Queue.Monitor}
    (here : m.calls[n]? = some a) (calling : a.phase = .calling)
    (asks : a.call.onQueue? = some call) (step : m.queue.step? (.begin a.thread call) = some q) :
    Stepped m (.act n) { m.setPhase n a (.queued m.queue.calls.length) with queue := q }
  /-- A call that has reached the queue takes a step there. -/
  | queueStepped {action : Queue.Monitor.Action} {q : Queue.Monitor}
    (inside : ∀ thread call, action ≠ .begin thread call) (step : m.queue.step? action = some q) :
    Stepped m (.queue action) { m with queue := q }

variable {m m' : Monitor} {n : Nat} {a : Activity}

/-- A call that is about to reach the queue can do so, where its thread is free there. -/
theorem act?_of_calling {call : Queue.Monitor.Call} (n : Nat) (calling : a.phase = .calling)
    (asks : a.call.onQueue? = some call) (idle : m.queue.isBusy a.thread = false) :
    m.act? n a = some { m.setPhase n a (.queued m.queue.calls.length) with
      queue := { m.queue with calls := m.queue.calls ++ [⟨a.thread, call, .ready false⟩] } } := by
  simp [act?, calling, reachQueue?, asks, Queue.Monitor.step?, idle]

/-- A call that was about to reach the queue begins there, and nothing else changes. -/
theorem reached_of_calling (calling : a.phase = .calling) (h : m.act? n a = some m') :
    ∃ call, a.call.onQueue? = some call ∧
      m' = { m.setPhase n a (.queued m.queue.calls.length) with
        queue := { m.queue with calls := m.queue.calls ++ [⟨a.thread, call, .ready false⟩] } } := by
  simp only [act?, calling, reachQueue?, Option.bind_eq_bind, Option.bind_eq_some_iff] at h
  obtain ⟨call, asks, q, begins, h⟩ := h
  cases h
  cases Queue.Monitor.stepped begins with
  | began => exact ⟨call, asks, rfl⟩

/-- A step of a call's own, by how far the call has got. -/
theorem stepped_of_act (here : m.calls[n]? = some a) (h : m.act? n a = some m') :
    m.Stepped (.act n) m' := by
  unfold act? at h
  split at h
  · next more looking =>
    cases closed : m.closed with
    | true =>
      rw [closed, if_pos rfl] at h
      cases h
      exact .foundClosed here looking closed
    | false =>
      rw [closed, if_neg Bool.false_ne_true] at h
      cases more with
      | zero =>
        cases h
        exact .foundOpen here looking closed
      | succ more =>
        cases h
        exact .looksAgain here looking closed
  · next closing =>
    split at h
    · next closed =>
      cases h
      exact .closesLate here closing closed
    · next isOpen =>
      cases h
      exact .closes here closing (by simpa using isOpen)
  · next claiming =>
    split at h
    · next taken =>
      cases h
      exact .claimsLate here claiming taken
    · next free =>
      cases h
      exact .claims here claiming (by simpa using free)
  · next calling =>
    simp only [reachQueue?, Option.bind_eq_bind, Option.bind_eq_some_iff] at h
    obtain ⟨call, asks, q, step, h⟩ := h
    cases h
    exact .reached here calling asks step
  · cases h

/-- **Every step does one of these.** -/
theorem stepped {action : Action} (h : m.step? action = some m') : m.Stepped action m' := by
  cases action with
  | begin thread call =>
    simp only [step?, Option.ite_none_left_eq_some, Option.some.injEq] at h
    obtain ⟨idle, rfl⟩ := h
    exact .began (by simpa using idle)
  | act n =>
    obtain ⟨a, here, acted⟩ := Option.bind_eq_some_iff.mp h
    exact stepped_of_act here acted
  | queue action =>
    have inside : ∀ thread call, action ≠ .begin thread call := by
      rintro thread call rfl
      cases h
    have onQueue : (m.queue.step? action).map (fun q => { m with queue := q }) = some m' := by
      cases action with
      | begin thread call => exact absurd rfl (inside thread call)
      | enter n => exact h
      | signal n sleeper => exact h
      | expire n => exact h
      | stir n => exact h
    obtain ⟨q, step, rfl⟩ := Option.map_eq_some_iff.mp onQueue
    exact .queueStepped inside step

/-! ### The queue in a run -/

/-- A step leaves the queue alone, or is one of the queue's own. -/
theorem Stepped.queue_stepped {action : Action} (h : m.Stepped action m') :
    m'.queue = m.queue ∨ ∃ inner, m.queue.step? inner = some m'.queue := by
  cases h with
  | reached _ _ _ step => exact Or.inr ⟨_, step⟩
  | queueStepped _ step => exact Or.inr ⟨_, step⟩
  | began => exact Or.inl rfl
  | foundClosed => exact Or.inl rfl
  | foundOpen => exact Or.inl rfl
  | looksAgain => exact Or.inl rfl
  | closes => exact Or.inl rfl
  | closesLate => exact Or.inl rfl
  | claims => exact Or.inl rfl
  | claimsLate => exact Or.inl rfl

/-- **A run of the sender is a run of its queue.** -/
theorem queue_reachable {q : Queue} {actions : List Action}
    (run : (start q).run? actions = some m) : Queue.Monitor.Reachable q m.queue := by
  refine Steps.run_invariant stepped (P := fun m => Queue.Monitor.Reachable q m.queue) ?_
    ⟨[], rfl⟩ run
  intro m m' action reachable h
  rcases h.queue_stepped with same | ⟨inner, step⟩
  · rwa [same]
  · exact reachable.step step

end Outbox.Sender.Monitor
