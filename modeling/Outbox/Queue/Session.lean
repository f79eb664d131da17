import Outbox.Config

/-!
# A queue in use

A session drives one queue step by step, with at most one producer and one consumer waiting in the
background. A step that would make its own caller wait is not taken; a waiting call is tried again
after every step, and what it comes to is reported with the step that released it.

## Main Definitions

* `Queue.Session` — the queue and the calls waiting on it
* `Queue.Session.step` — one step and its report
* `Queue.Session.finish` — the interruption that ends a session
-/

namespace Outbox.Queue

/-- **A queue and the calls waiting on it.** -/
structure Session where
  queue : Queue
  /-- The message of a producer that waits for room. -/
  producer : Option Message
  /-- Whether a consumer waits for a message. -/
  consumer : Bool
deriving DecidableEq, Repr

/-- What can be asked of a queue. -/
inductive Request where
  | enqueue (message : Message)
  | enqueueLast (message : Message)
  | dequeue (timeout : Nanoseconds)
  | interrupt
  /-- An `enqueue` in the background. -/
  | spawnEnqueue (message : Message)
  /-- A `dequeue` in the background, with time to spare. -/
  | spawnDequeue
deriving DecidableEq, Repr

/-- The result of putting a message in. -/
abbrev Stored := Except CallError Unit

/-- The result of taking a message out; no message if the time ran out. -/
abbrev Fetched := Except CallError (Option Message)

/-- **What a request comes to.** -/
inductive Answer where
  | stored (result : Stored)
  | fetched (result : Fetched)
  | interrupted
  /-- The call waits in the background. -/
  | pending
  /-- The call would have had to wait and was not made. -/
  | wouldBlock
  /-- Another call of this kind is waiting, and this one was not made. -/
  | busy

/-- **The report of a step**: its answer, and the results of the waiting calls that it released. -/
structure Report where
  answer : Answer
  producer : Option Stored
  consumer : Option Fetched

namespace Session

/-- A session on a queue that nobody waits on. -/
def start (q : Queue) : Session := ⟨q, none, false⟩

/-- The longest wait that a session sits out: twenty milliseconds. -/
def patience : Nanoseconds := milliseconds 20

/-- Puts a message in. A full queue makes the caller wait, which `onWait` turns into an answer. -/
def enqueue (s : Session) (m : Message) (onWait : Answer × Session) : Answer × Session :=
  match s.queue.offer m with
  | .accepted q => (.stored (.ok ()), { s with queue := q })
  | .refused error => (.stored (.error error), s)
  | .waits => onWait

/-- Takes a message out. An empty queue makes the caller wait, which `onWait` turns into an
answer. -/
def dequeue (s : Session) (onWait : Answer × Session) : Answer × Session :=
  match s.queue.take with
  | .taken m q => (.fetched (.ok (some m)), { s with queue := q })
  | .refused error => (.fetched (.error error), s)
  | .waits => onWait

/-- What a request does at once, before any waiting call is tried again. -/
def act (s : Session) : Request → Answer × Session
  | .enqueue m =>
    if s.producer.isSome then (.busy, s) else s.enqueue m (.wouldBlock, s)
  | .spawnEnqueue m =>
    if s.producer.isSome then (.busy, s)
    else s.enqueue m (.pending, { s with producer := some m })
  | .enqueueLast m =>
    match s.queue.offerLast m with
    | .ok q => (.stored (.ok ()), { s with queue := q })
    | .error error => (.stored (.error error), s)
  | .dequeue timeout =>
    if s.consumer then (.busy, s)
    else s.dequeue (if timeout ≤ patience then .fetched (.ok none) else .wouldBlock, s)
  | .spawnDequeue =>
    if s.consumer then (.busy, s) else s.dequeue (.pending, { s with consumer := true })
  | .interrupt => (.interrupted, { s with queue := s.queue.interrupt })

/-- Tries the waiting producer again. -/
def retryProducer (s : Session) : Option Stored × Session :=
  match s.producer with
  | none => (none, s)
  | some m =>
    match s.queue.offer m with
    | .accepted q => (some (.ok ()), { s with queue := q, producer := none })
    | .refused error => (some (.error error), { s with producer := none })
    | .waits => (none, s)

/-- Tries the waiting consumer again. -/
def retryConsumer (s : Session) : Option Fetched × Session :=
  if s.consumer then
    match s.queue.take with
    | .taken m q => (some (.ok (some m)), { s with queue := q, consumer := false })
    | .refused error => (some (.error error), { s with consumer := false })
    | .waits => (none, s)
  else (none, s)

/-- Tries all waiting calls again after a step that was answered. -/
def settle (answer : Answer) (s : Session) : Report × Session :=
  let (producer, s) := s.retryProducer
  let (consumer, s) := s.retryConsumer
  (⟨answer, producer, consumer⟩, s)

/-- **One step**: what the request does at once, and what that releases. -/
def step (s : Session) (request : Request) : Report × Session :=
  let (answer, s) := s.act request
  settle answer s

/-- **The end of a session**: the queue is interrupted, which releases every waiting call. -/
def finish (s : Session) : Report :=
  (s.step .interrupt).1

end Session

end Outbox.Queue
