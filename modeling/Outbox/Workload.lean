import Outbox.Session

/-!
# A shared sender under load

Several producers send numbered texts through one sender with a waiting queue while one consumer
pulls; then some closers close, and the sender is dropped. The run below takes one schedule: the
producers take turns, and the consumer pulls exactly when the queue is full. What is reported of a
run does not depend on the schedule, because it looks at each producer's messages on their own.

## Main Definitions

* `Workload` — how many producers, messages, closers, and the queue's capacity
* `Workload.run` — the run, and what came of it
* `Workload.Run.body` — the body that a transfer makes of the same chunks
-/

namespace Outbox

/-- **A load on one sender.** -/
structure Workload where
  producers : Nat
  messages : Nat
  closers : Nat
  capacity : Nat
deriving DecidableEq, Repr

/-- The extension that tells which producer a text comes from. -/
def producerName : String := "Producer"

/-- The text that a producer sends in its turn. -/
def Workload.text (producer turn : Nat) : Submission :=
  .text (toString turn) (Extensions.empty.insert producerName (toString producer))

/-- The turns of a load, as pairs of producer and turn: all producers' first texts, then all their
second ones, and so on. -/
def Workload.turns (load : Workload) : List (Nat × Nat) :=
  (List.range load.messages).flatMap fun turn =>
    (List.range load.producers).map fun producer => (producer, turn)

namespace Workload

/-- **A run under way**: the sender, its stream, the chunks pulled so far, and the producer of each
accepted text. -/
structure Run where
  sender : Sender
  stream : Stream
  chunks : Array Message
  accepted : Array Nat
  closings : List Bool

namespace Run

/-- The consumer pulls one chunk, if one is there. -/
def consume (r : Run) : Run :=
  match r.stream.pull r.sender.queue with
  | .chunk m stream q =>
    { r with sender := r.sender.withQueue q, stream := stream, chunks := r.chunks.push m }
  | .refused _ stream => { r with stream := stream }
  | .waits => r

/-- A producer sends a text; if it has to wait, the consumer makes room and it tries again. -/
def send (r : Run) (producer turn : Nat) : Run :=
  let what := text producer turn
  let r := match r.sender.submit what with
    | .waits => r.consume
    | _ => r
  match r.sender.submit what with
  | .accepted q =>
    { r with sender := r.sender.withQueue q, accepted := r.accepted.push producer }
  | _ => r

/-- A closer closes the sender. -/
def close (r : Run) : Run :=
  let (result, sender) := r.sender.close
  { r with sender := sender, closings := r.closings ++ [result.toBool] }

/-- The sender is dropped and the consumer pulls to the end. -/
def complete (r : Run) : Run :=
  let sender := r.sender.close.2
  let (results, stream, q) := r.stream.drain sender.queue
  { r with
    sender := sender.withQueue q
    stream := stream
    chunks := r.chunks ++ (results.filterMap Except.toOption).toArray }

/-- How many texts of a producer were accepted. -/
def sentBy (r : Run) (producer : Nat) : Nat :=
  r.accepted.count producer

/-- The payloads of a producer's texts, in the order in which they arrived. -/
def receivedFrom (r : Run) (producer : Nat) : List Bytes :=
  (r.chunks.toList.filter fun m =>
    m.extensions.getFirst? producerName == some (toString producer)).map Message.payload

/-- How many chunks end the stream. -/
def terminals (r : Run) : Nat :=
  r.chunks.countP Message.isLast

/-- **The body that a transfer makes of the run's chunks**: how it ended, and what was written. -/
def body (r : Run) : Transfer.Outcome × Bytes :=
  let queue := { Queue.make r.chunks.size .block with messages := r.chunks.toList }
  let (outcome, writer, _) :=
    (Transfer.start (.ofTransport (.scripted [] [])) ⟨defaultPollInterval, true⟩).run queue
  (outcome, writer.transport.taken)

end Run

/-- **Runs a load** on a sender of its own. -/
def run (load : Workload) : Except CallError Run := do
  let sender ← Sender.ofConfig ⟨load.capacity, .block, defaultPollInterval⟩
  let (stream, sender) := sender.obtainStream
  let start : Run := ⟨sender, ← stream, #[], #[], []⟩
  let sent := load.turns.foldl (fun r turn => r.send turn.1 turn.2) start
  let closed := (List.range load.closers).foldl (fun r _ => r.close) sent
  return closed.complete

end Workload

end Outbox
