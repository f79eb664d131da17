import Outbox.Queue.Turn

/-!
# What a turn can come to

A turn at a queue comes to one of nine things, and `Queue.Turned` lists them, each with all that it
tells of the queue before and after: that there was room for the message that was put in, that the
message taken out was the oldest, why nothing happened. It is the one place where the functions
behind a turn are opened; what holds of a history of turns, or of threads that take them, is derived
by cases on it.

## Main Definitions

* `Queue.Turned` — a turn, what it came to, and the queue afterwards
-/

namespace Outbox.Queue

/-- **What a turn can come to**, and the queue it leaves. -/
inductive Turned (q : Queue) : Turn → Outcome → Queue → Prop where
  /-- A message is put in behind all others. -/
  | stored {m : Message} (isOpen : q.refusal? = none) (room : q.hasRoom = true) :
    Turned q (.offer m) .stored (q.push m)
  /-- The last message is put in, room or not. -/
  | storedLast {m : Message} (isOpen : q.refusal? = none) :
    Turned q (.offerLast m) .stored { q.push m with terminated := true }
  /-- The oldest message is taken out. -/
  | taken {m : Message} {rest : List Message} (live : q.interrupted = false)
    (oldest : q.messages = m :: rest) :
    Turned q .take (.taken m) { q with messages := rest }
  | interrupted : Turned q .interrupt .interrupted q.interrupt
  | refusedOffer {m : Message} {error : CallError}
    (reason : q.refusal? = some error ∨
      q.refusal? = none ∧ q.hasRoom = false ∧ q.overflow = .failFast ∧
        error = .queueFull q.capacity) :
    Turned q (.offer m) (.refused error) q
  | refusedLast {m : Message} {error : CallError} (reason : q.refusal? = some error) :
    Turned q (.offerLast m) (.refused error) q
  | refusedTake (reason : q.interrupted = true) : Turned q .take (.refused .interrupted) q
  /-- A producer has to wait for room. -/
  | full {m : Message} (isOpen : q.refusal? = none) (noRoom : q.hasRoom = false)
    (waiting : q.overflow = .block) :
    Turned q (.offer m) .waits q
  /-- The consumer has to wait for a message. -/
  | empty (live : q.interrupted = false) (noMessage : q.messages = []) : Turned q .take .waits q

/-- **Every turn comes to one of these.** -/
theorem turned (q : Queue) (t : Turn) : q.Turned t (q.turn t).1 (q.turn t).2 := by
  cases t with
  | offer m =>
    unfold turn offer
    cases isOpen : q.refusal? with
    | some error => exact .refusedOffer (Or.inl isOpen)
    | none =>
      by_cases room : q.hasRoom = true
      · simpa [room] using Turned.stored isOpen room
      · have noRoom : q.hasRoom = false := by simpa using room
        cases waiting : q.overflow with
        | failFast =>
          simpa [noRoom] using
            Turned.refusedOffer (Or.inr ⟨isOpen, noRoom, waiting, rfl⟩)
        | block => simpa [noRoom] using Turned.full isOpen noRoom waiting
  | offerLast m =>
    unfold turn offerLast
    cases isOpen : q.refusal? with
    | some error => exact .refusedLast isOpen
    | none => exact .storedLast isOpen
  | take =>
    unfold turn take
    by_cases live : q.interrupted = true
    · simpa [live] using Turned.refusedTake live
    · rw [if_neg live]
      cases oldest : q.messages with
      | nil => exact .empty (by simpa using live) oldest
      | cons m rest => exact .taken (by simpa using live) oldest
  | interrupt => exact .interrupted

/-- The list is exact: it holds what the turn comes to and nothing else. -/
theorem turned_iff {q q' : Queue} {t : Turn} {outcome : Outcome} :
    q.Turned t outcome q' ↔ q.turn t = (outcome, q') := by
  constructor
  · intro h
    cases h with
    | stored isOpen room => simp [turn, offer, isOpen, room]
    | storedLast isOpen => simp [turn, offerLast, isOpen]
    | taken live oldest => simp [turn, take, live, oldest]
    | interrupted => rfl
    | refusedOffer reason =>
      rcases reason with reason | ⟨isOpen, noRoom, refusing, rfl⟩
      · simp [turn, offer, reason]
      · simp [turn, offer, isOpen, noRoom, refusing]
    | refusedLast reason => simp [turn, offerLast, reason]
    | refusedTake reason => simp [turn, take, reason]
    | full isOpen noRoom waiting => simp [turn, offer, isOpen, noRoom, waiting]
    | empty live noMessage => simp [turn, take, live, noMessage]
  · intro h
    have := q.turned t
    rwa [h] at this

theorem Turned.capacity_eq {q q' : Queue} {t : Turn} {outcome : Outcome}
    (h : q.Turned t outcome q') : q'.capacity = q.capacity := by
  cases h <;> rfl

/-! ### Operations at an open queue -/

theorem offer_eq_accepted_iff {q q' : Queue} {m : Message} :
    q.offer m = .accepted q' ↔ q.refusal? = none ∧ q.hasRoom = true ∧ q' = q.push m := by
  unfold offer
  cases q.refusal? <;> cases q.hasRoom <;> cases q.overflow <;> simp [eq_comm]

theorem offerLast_of_open {q : Queue} (h : q.refusal? = none) (m : Message) :
    q.offerLast m = .ok { q.push m with terminated := true } := by
  simp [offerLast, h]

/-! ### The flags -/

/-- Only an interruption interrupts, and nothing takes it back. -/
theorem Turned.interrupted_iff {q q' : Queue} {t : Turn} {outcome : Outcome}
    (h : q.Turned t outcome q') :
    q'.interrupted = true ↔ q.interrupted = true ∨ t = .interrupt := by
  cases h <;> simp [push, interrupt]

/-- Only the last message ends a queue, and nothing takes it back. -/
theorem Turned.terminated_iff {q q' : Queue} {t : Turn} {outcome : Outcome}
    (h : q.Turned t outcome q') :
    q'.terminated = true ↔
      q.terminated = true ∨ (∃ m, t = .offerLast m) ∧ outcome = .stored := by
  cases h <;> simp [push, interrupt]

theorem interrupted_turn_iff {q : Queue} {t : Turn} :
    (q.turn t).2.interrupted = true ↔ q.interrupted = true ∨ t = .interrupt :=
  (q.turned t).interrupted_iff

theorem interrupted_turns {q : Queue} (h : q.interrupted = true) (ts : List Turn) :
    (q.turns ts).2.interrupted = true := by
  induction ts generalizing q with
  | nil => exact h
  | cons t ts ih => exact ih (interrupted_turn_iff.mpr (Or.inl h))

/-- **An interrupted queue refuses everything** but being interrupted again. -/
theorem turn_of_interrupted {q : Queue} (h : q.interrupted = true) {t : Turn}
    (call : t ≠ .interrupt) : (q.turn t).1 = .refused .interrupted := by
  have closed : q.refusal? = some .interrupted := if_pos h
  cases t with
  | offer m => simp [turn, offer, closed]
  | offerLast m => simp [turn, offerLast, closed]
  | take => simp [turn, take, h]
  | interrupt => exact absurd rfl call

end Outbox.Queue
