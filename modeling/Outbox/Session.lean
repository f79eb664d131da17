import Outbox.Transfer

/-!
# A sender in use

A session drives a sender, its stream and its queue step by step, with at most one producer and one
consumer waiting in the background. What a step cannot do is told apart by cause: the sender may be
gone, a call of that kind may be waiting already, no stream may have been obtained, or the call
would have to wait. Such a step changes nothing. A waiting call is tried again after every step, and
what it comes to is reported with the step that released it.

## Main Definitions

* `Session` — the sender, the stream while it is at hand, and the waiting calls
* `Session.step` — one step and its report
* `Session.finish` — the interruption that ends a session
-/

namespace Outbox

/-- **A sender in use.** -/
structure Session where
  sender : Sender
  /-- Whether the queue was handed to the sender by a caller who still holds it. -/
  shared : Bool
  /-- Whether the sender is gone. -/
  dropped : Bool
  /-- The stream, while it is neither given up nor in use by a waiting consumer. -/
  stream : Option Stream
  /-- Whether a stream was ever obtained, so that there is a handle to interrupt it by. -/
  interruptible : Bool
  /-- The message of a producer that waits for room. -/
  producer : Option Message
  /-- The stream of a consumer that waits for a message. -/
  consumer : Option Stream
deriving DecidableEq, Repr

namespace Session

/-- A session with a sender that nobody waits on. -/
def start (sender : Sender) (shared : Bool) : Session :=
  ⟨sender, shared, false, none, false, none, none⟩

/-- What can be asked of a sender. -/
inductive SenderRequest where
  | submit (what : Submission)
  | close
  | isClosed
  | obtainStream
  | drop
  /-- A `submit` in the background. -/
  | spawnSubmit (what : Submission)
deriving DecidableEq, Repr

/-- What can be asked of a stream. -/
inductive StreamRequest where
  /-- Pulls a chunk; a stream that has ended refuses. -/
  | pull
  /-- Pulls a chunk as an iteration does; a stream that has ended gives nothing. -/
  | iterate
  | hasNext
  /-- Iterates to the end. -/
  | drain
  | drop
  /-- A `pull` in the background. -/
  | spawnPull
  /-- Gives the stream to a transfer over a new writer. -/
  | transfer (transport : Transport)
deriving DecidableEq, Repr

/-- **A request**: of the sender, of its stream, or of the handle that interrupts the stream. -/
inductive Request where
  | ofSender (request : SenderRequest)
  | ofStream (request : StreamRequest)
  | interrupt
deriving DecidableEq, Repr

/-- The result of pulling a chunk. -/
abbrev Pulled := Except CallError Message

/-- **What a request comes to.** -/
inductive Answer where
  | done (result : Except CallError Unit)
  | flag (value : Bool)
  | pulled (result : Pulled)
  /-- The iteration has ended. -/
  | ended
  | drained (results : List Pulled)
  | transferred (outcome : Transfer.Outcome) (writer : Writer)
  /-- The call waits in the background. -/
  | pending
  /-- The call would have had to wait and was not made. -/
  | wouldBlock
  /-- A call that this one cannot go together with is waiting. -/
  | busy
  | noStream
  | gone

/-- **The report of a step**: its answer, and the results of the waiting calls that it released. -/
structure Report where
  answer : Answer
  producer : Option (Except CallError Unit)
  consumer : Option Pulled

/-! ### The parts of a step -/

def queue (s : Session) : Queue := s.sender.queue

/-- The session over another state of its queue. -/
def withQueue (s : Session) (q : Queue) : Session :=
  { s with sender := s.sender.withQueue q }

/-- Submits to the sender. A full queue makes the caller wait, which `onWait` turns into an
answer. -/
def submit (s : Session) (what : Submission) (onWait : Answer × Session) : Answer × Session :=
  match s.sender.submit what with
  | .accepted q => (.done (.ok ()), s.withQueue q)
  | .refused error => (.done (.error error), s)
  | .waits => onWait

/-- Pulls from the stream. An empty queue makes the caller wait, which `onWait` turns into an
answer. -/
def pull (s : Session) (stream : Stream) (onWait : Answer × Session) : Answer × Session :=
  match stream.pull s.queue with
  | .chunk m stream q => (.pulled (.ok m), { s.withQueue q with stream := some stream })
  | .refused error stream => (.pulled (.error error), { s with stream := some stream })
  | .waits => onWait

/-- Whether pulling to the end would have to wait: more is to come, and neither a last message nor
an interruption will end it. -/
def wouldWaitForEnd (s : Session) (stream : Stream) : Bool :=
  stream.hasNext && !s.sender.closed && !s.queue.interrupted

/-- Drops the sender, closing it on the way; whether that succeeds is not told. -/
def dropSender (s : Session) : Session :=
  { s with sender := s.sender.close.2, dropped := true }

end Session

/-- **Iterates to the end**: every chunk and the refusal that ended the stream, if one did. An empty
queue ends the iteration too, with nothing to show for it. -/
def Stream.drain (s : Stream) (q : Queue) : List Session.Pulled × Stream × Queue :=
  if s.hasNext then
    match h : s.pull q with
    | .chunk m s' q' =>
      have : q'.size < q.size := by rw [Stream.size_of_pull h]; exact Nat.lt_succ_self _
      let (results, s'', q'') := drain s' q'
      (.ok m :: results, s'', q'')
    | .refused error s' => ([.error error], s', q)
    | .waits => ([], s, q)
  else ([], s, q)
termination_by q.size

namespace Session

/-- What a request of the stream does at once. -/
def actOnStream (s : Session) (stream : Stream) : StreamRequest → Answer × Session
  | .pull => s.pull stream (.wouldBlock, s)
  | .spawnPull => s.pull stream (.pending, { s with stream := none, consumer := some stream })
  | .iterate =>
    if stream.hasNext then s.pull stream (.wouldBlock, s) else (.ended, s)
  | .hasNext => (.flag stream.hasNext, s)
  | .drop => (.done (.ok ()), { s with stream := none })
  | .drain =>
    if s.producer.isSome then (.busy, s)
    else if s.wouldWaitForEnd stream then (.wouldBlock, s)
    else
      let (results, stream, q) := stream.drain s.queue
      (.drained results, { s.withQueue q with stream := some stream })
  | .transfer transport =>
    if s.producer.isSome then (.busy, s)
    else if !s.shared && s.wouldWaitForEnd stream then (.wouldBlock, s)
    else
      let (outcome, writer, q) := (Transfer.start (.ofTransport transport) stream).run s.queue
      (.transferred outcome writer, { s.withQueue q with stream := none })

/-- What a request of the sender does at once. -/
def actOnSender (s : Session) : SenderRequest → Answer × Session
  | .submit what =>
    if s.producer.isSome then (.busy, s) else s.submit what (.wouldBlock, s)
  | .spawnSubmit what =>
    if s.producer.isSome then (.busy, s)
    else s.submit what (.pending, { s with producer := some what.message })
  | .close =>
    let (result, sender) := s.sender.close
    (.done result, { s with sender := sender })
  | .isClosed => (.flag s.sender.closed, s)
  | .obtainStream =>
    match s.sender.obtainStream with
    | (.ok stream, sender) =>
      (.done (.ok ()), { s with sender := sender, stream := some stream, interruptible := true })
    | (.error error, sender) => (.done (.error error), { s with sender := sender })
  | .drop =>
    if s.producer.isSome then (.busy, s) else (.done (.ok ()), s.dropSender)

/-- What a request does at once, before any waiting call is tried again. -/
def act (s : Session) : Request → Answer × Session
  | .ofSender request => if s.dropped then (.gone, s) else s.actOnSender request
  | .interrupt =>
    if s.interruptible then (.done (.ok ()), s.withQueue s.queue.interrupt) else (.noStream, s)
  | .ofStream request =>
    if s.consumer.isSome then (.busy, s)
    else
      match s.stream with
      | none => (.noStream, s)
      | some stream => s.actOnStream stream request

/-! ### Waiting calls -/

/-- Tries the waiting producer again. It has passed the sender already and answers to the queue
alone. -/
def retryProducer (s : Session) : Option (Except CallError Unit) × Session :=
  match s.producer with
  | none => (none, s)
  | some m =>
    match s.queue.offer m with
    | .accepted q => (some (.ok ()), { s.withQueue q with producer := none })
    | .refused error => (some (.error error), { s with producer := none })
    | .waits => (none, s)

/-- Tries the waiting consumer again; its stream is at hand once it is released. -/
def retryConsumer (s : Session) : Option Pulled × Session :=
  match s.consumer with
  | none => (none, s)
  | some stream =>
    match stream.pull s.queue with
    | .chunk m stream q =>
      (some (.ok m), { s.withQueue q with stream := some stream, consumer := none })
    | .refused error stream =>
      (some (.error error), { s with stream := some stream, consumer := none })
    | .waits => (none, s)

/-- Tries all waiting calls again after a step that was answered. -/
def settle (answer : Answer) (s : Session) : Report × Session :=
  let (producer, s) := s.retryProducer
  let (consumer, s) := s.retryConsumer
  (⟨answer, producer, consumer⟩, s)

/-- **One step**: what the request does at once, and what that releases. -/
def step (s : Session) (request : Request) : Report × Session :=
  let (answer, s) := s.act request
  settle answer s

/-- **The end of a session**: the queue is interrupted, which releases every waiting call. -/
def finish (s : Session) : Report :=
  (settle (.done (.ok ())) (s.withQueue s.queue.interrupt)).1

end Session

end Outbox
