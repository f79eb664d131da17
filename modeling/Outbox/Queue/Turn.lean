import Outbox.Queue

/-!
# Turns at a queue

Everything that happens to a queue is a sequence of turns, each of them one thread's stay under the
lock. Here the four kinds of turn are one type, so that a history of a queue is a list, and what
holds after any history is shown by induction over it.

## Main Definitions

* `Queue.Turn`, `Queue.Outcome` — what a thread does under the lock, and what it comes to
* `Queue.turn`, `Queue.turns` — one turn, and a history of them
-/

namespace Outbox.Queue

/-- **What a thread does under the lock.** -/
inductive Turn where
  | offer (message : Message)
  | offerLast (message : Message)
  | take
  | interrupt
deriving DecidableEq, Repr

/-- **What a turn comes to.** -/
inductive Outcome where
  | stored
  | taken (message : Message)
  | interrupted
  | refused (error : CallError)
  /-- Nothing, until the queue has changed. -/
  | waits
deriving DecidableEq, Repr

/-- **One turn**: what it comes to, and the queue afterwards. -/
def turn (q : Queue) : Turn → Outcome × Queue
  | .offer m =>
    match q.offer m with
    | .accepted q' => (.stored, q')
    | .refused error => (.refused error, q)
    | .waits => (.waits, q)
  | .offerLast m =>
    match q.offerLast m with
    | .ok q' => (.stored, q')
    | .error error => (.refused error, q)
  | .take =>
    match q.take with
    | .taken m q' => (.taken m, q')
    | .refused error => (.refused error, q)
    | .waits => (.waits, q)
  | .interrupt => (.interrupted, q.interrupt)

/-- **A history of turns**: what each of them comes to, and the queue in the end. -/
def turns (q : Queue) : List Turn → List Outcome × Queue
  | [] => ([], q)
  | t :: ts => ((q.turn t).1 :: ((q.turn t).2.turns ts).1, ((q.turn t).2.turns ts).2)

/-- A turn that is refused or would have to wait leaves the queue alone. -/
theorem turn_unchanged {q : Queue} {t : Turn}
    (h : (∃ error, (q.turn t).1 = .refused error) ∨ (q.turn t).1 = .waits) : (q.turn t).2 = q := by
  cases t with
  | offer m => simp only [turn] at h ⊢; split <;> simp_all
  | offerLast m => simp only [turn] at h ⊢; split <;> simp_all
  | take => simp only [turn] at h ⊢; split <;> simp_all
  | interrupt => simp [turn] at h

end Outbox.Queue
