import Outbox.Error
import Outbox.Message

/-!
# The bounded queue

Messages wait in a queue between the producers and the one consumer. What is load-bearing here is
the granularity: each function below is what one thread does while it holds the queue's lock, and
nothing else ever touches the queue. A call that has to wait does so outside, and then takes the
lock again; so an outcome is either final or `waits`, which changes nothing.

The last message is queued past the capacity, so ending a stream never waits for room. After it no
message is accepted, and after an interruption nothing succeeds at all; an interruption is looked at
first.

## Main Definitions

* `Queue` — capacity, overflow policy, messages in order, and two flags that are never taken back
* `Queue.offer`, `Queue.offerLast` — a producer's turn
* `Queue.take` — the consumer's turn
* `Queue.interrupt` — the end of all waiting
-/

namespace Outbox

/-! ### Settings -/

/-- **What a full queue does** with one more message: refuse it, or let the producer wait. -/
inductive Overflow where
  | failFast
  | block
deriving DecidableEq, Repr

/-- The name of an overflow policy in settings. -/
def Overflow.name : Overflow → String
  | .failFast => "fail-fast"
  | .block => "block"

/-- The overflow policies by name. -/
def Overflow.ofName? (name : String) : Option Overflow :=
  if name = Overflow.failFast.name then some .failFast
  else if name = Overflow.block.name then some .block
  else none

/-- **A bounded queue**, the oldest message first. -/
structure Queue where
  capacity : Nat
  overflow : Overflow
  messages : List Message
  terminated : Bool
  interrupted : Bool
deriving DecidableEq, Repr

namespace Queue

/-- An empty queue. With capacity zero it has room for the last message only. -/
def make (capacity : Nat) (overflow : Overflow) : Queue :=
  ⟨capacity, overflow, [], false, false⟩

/-- The capacity of a queue that is not told one. -/
def defaultCapacity : Nat := 10

/-- The queue used where none is asked for: ten messages, and no waiting for room. -/
def standard : Queue := make defaultCapacity .failFast

def size (q : Queue) : Nat := q.messages.length

/-- Whether one more message fits. -/
def hasRoom (q : Queue) : Bool := q.messages.length < q.capacity

/-- Why the queue takes no message any more, if it does not. -/
def refusal? (q : Queue) : Option CallError :=
  if q.interrupted then some .interrupted
  else if q.terminated then some .queueTerminated
  else none

/-- The queue with a message behind all others. -/
def push (q : Queue) (m : Message) : Queue :=
  { q with messages := q.messages ++ [m] }

@[simp]
theorem messages_push (q : Queue) (m : Message) : (q.push m).messages = q.messages ++ [m] := rfl

theorem hasRoom_iff {q : Queue} : q.hasRoom = true ↔ q.size < q.capacity := by
  simp [hasRoom, size]

/-- A queue takes messages as long as neither flag is set. -/
theorem refusal?_eq_none_iff {q : Queue} :
    q.refusal? = none ↔ q.interrupted = false ∧ q.terminated = false := by
  unfold refusal?
  cases q.interrupted <;> cases q.terminated <;> simp

/-! ### A producer's turn -/

/-- **What becomes of an offered message** in one turn. -/
inductive Offer where
  /-- It is queued. -/
  | accepted (queue : Queue)
  /-- It is refused, and the queue is as it was. -/
  | refused (error : CallError)
  /-- The queue is full and lets the producer wait; nothing has changed. -/
  | waits
deriving DecidableEq, Repr

/-- **Offers a message.** Only a full queue asks its overflow policy. -/
def offer (q : Queue) (m : Message) : Offer :=
  match q.refusal? with
  | some error => .refused error
  | none =>
    if q.hasRoom then .accepted (q.push m)
    else
      match q.overflow with
      | .failFast => .refused (.queueFull q.capacity)
      | .block => .waits

/-- **Queues the last message**, whatever the capacity, and closes the queue to all others. -/
def offerLast (q : Queue) (m : Message) : Except CallError Queue :=
  match q.refusal? with
  | some error => .error error
  | none => .ok { q.push m with terminated := true }

/-! ### The consumer's turn -/

/-- **What the consumer finds** in one turn. -/
inductive Take where
  /-- The oldest message, and the queue without it. -/
  | taken (message : Message) (queue : Queue)
  | refused (error : CallError)
  /-- No message is there. -/
  | waits
deriving DecidableEq, Repr

/-- **Takes the oldest message.** An interrupted queue gives nothing out, not even what it still
holds. -/
def take (q : Queue) : Take :=
  if q.interrupted then .refused .interrupted
  else
    match q.messages with
    | [] => .waits
    | m :: rest => .taken m { q with messages := rest }

/-- **Interrupts the queue**, for good. What it holds stays where it is. -/
def interrupt (q : Queue) : Queue :=
  { q with interrupted := true }

end Queue

end Outbox
