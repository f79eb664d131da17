import Outbox.Config
import Outbox.Submission

/-!
# The sender and its stream

A sender queues messages and is closed once; its stream hands them out and is given away once. Both
act on one queue. The sender's `closed` flag is its own: it is looked at before the queue is, and
set before the last message is queued, so a sender can be closed although its queue refused that
message.

## Main Definitions

* `Sender` — a queue, whether it was closed, and whether its stream was given away
* `Sender.submit`, `Sender.close`, `Sender.obtainStream` — the calls on it
* `Stream`, `Stream.pull` — the consumer's side, ended by the last message or by a refusal
-/

namespace Outbox

/-! ### The stream -/

/-- **The consumer's side**: how long it waits between two looks at an idle queue, and whether
another chunk is to come. -/
structure Stream where
  pollInterval : Nanoseconds
  hasNext : Bool
deriving DecidableEq, Repr

namespace Stream

/-- **What a pull comes to** in one turn. -/
inductive Pull where
  | chunk (message : Message) (stream : Stream) (queue : Queue)
  | refused (error : CallError) (stream : Stream)
  /-- No message is there; the stream looks again after a while and is as it was until then. -/
  | waits
deriving DecidableEq, Repr

/-- **Pulls the next chunk.** The last chunk is handed out like any other and ends the stream, as
does a refusal; a stream that has ended leaves the queue alone. -/
def pull (s : Stream) (q : Queue) : Pull :=
  if s.hasNext then
    match q.take with
    | .taken m q => .chunk m { s with hasNext := !m.isLast } q
    | .refused error => .refused error { s with hasNext := false }
    | .waits => .waits
  else .refused .streamExhausted s

end Stream

/-! ### The sender -/

/-- **A sender over its queue.** -/
structure Sender where
  queue : Queue
  pollInterval : Nanoseconds
  closed : Bool
  streamTaken : Bool
deriving DecidableEq, Repr

namespace Sender

/-- A sender over a queue of the caller's. -/
def overQueue (q : Queue) : Sender := ⟨q, defaultPollInterval, false, false⟩

/-- The sender made where nothing is asked for. -/
def standard : Sender := overQueue .standard

/-- Sets how long the stream waits on an idle queue; with no wait at all it would spin. -/
def withPollInterval (s : Sender) (interval : Nanoseconds) : Except CallError Sender :=
  if interval = 0 then .error .zeroPollInterval else .ok { s with pollInterval := interval }

/-- A sender with a queue of its own, from settings that pass validation. -/
def ofConfig (c : Config) : Except CallError Sender := do
  c.validate
  (overQueue c.queue).withPollInterval c.pollInterval

/-- **Submits to the sender.** The outcome is that of offering the message, unless the sender is
closed. -/
def submit (s : Sender) (what : Submission) : Queue.Offer :=
  if s.closed then .refused .senderClosed else s.queue.offer what.message

/-- The sender over another state of its queue. -/
def withQueue (s : Sender) (q : Queue) : Sender := { s with queue := q }

/-- **Closes the sender.** The first call queues the last message; every later one succeeds and does
nothing. -/
def close (s : Sender) : Except CallError Unit × Sender :=
  if s.closed then (.ok (), s)
  else
    match s.queue.offerLast .terminal with
    | .ok q => (.ok (), { s with queue := q, closed := true })
    | .error error => (.error error, { s with closed := true })

/-- **Gives the stream away**, once. -/
def obtainStream (s : Sender) : Except CallError Stream × Sender :=
  if s.streamTaken then (.error .streamTaken, s)
  else (.ok ⟨s.pollInterval, true⟩, { s with streamTaken := true })

end Sender

end Outbox
