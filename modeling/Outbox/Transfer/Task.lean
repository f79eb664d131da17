import Outbox.Queue.Turn
import Outbox.Transfer
import Outbox.Transport.Poll

/-!
# A transfer under way

A transfer runs as a task of its own. Each call that it makes to the stream or to the transport is
one step, and between two steps anything may happen: other threads take their turns at the queue,
and whoever waits for the task may drop it. A task that is dropped, or fails, interrupts the queue
in the same step; only one that has come to the end of its stream leaves the queue alone.

A chunk that the stream has handed out and the task has not framed yet is a stage of its own, since
pulling is done on another thread, which goes on when the task is dropped.

A log that no step reads says which chunks were pulled, in their order.

## Main Definitions

* `Transfer.Stage`, `Transfer.Task` — how far a transfer has got, and the transfer with its queue
* `Transfer.Task.advance` — the next call that a task makes
* `Transfer.Task.Event`, `Transfer.Task.run` — what can happen, and a history of it
-/

namespace Outbox.Transfer

/-- **How far a transfer has got.** -/
inductive Stage where
  /-- It pulls the next chunk, or waits for it. -/
  | pulling
  /-- A chunk was handed out and is to be framed. -/
  | pulled (message : Message)
  /-- The buffer is being handed over, and these bytes of it are left. -/
  | writing (left : Bytes)
  /-- The transport is being flushed. -/
  | flushing
  | ended (outcome : Outcome)
deriving DecidableEq, Repr

/-- **A transfer under way**, and the queue that its stream takes from. -/
structure Task where
  transfer : Transfer
  queue : Queue
  stage : Stage
  /-- The chunks pulled so far. -/
  pulled : List Message
deriving DecidableEq, Repr

namespace Task

/-- A transfer that has just begun. -/
def start (w : Writer) (s : Stream) (q : Queue) : Task :=
  ⟨.start w s, q, .pulling, []⟩

/-- The task with another writer. -/
def withWriter (k : Task) (w : Writer) : Task :=
  { k with transfer := { k.transfer with writer := w } }

/-- The task with its transport in another state. -/
def withTransport (k : Task) (t : Transport) : Task :=
  k.withWriter { k.transfer.writer with transport := t }

/-- The task ends early and interrupts the queue on the way out. -/
def giveUp (k : Task) (outcome : Outcome) : Task :=
  { k with queue := k.queue.interrupt, stage := .ended outcome }

/-- A chunk is done, and the next one comes. -/
def count (k : Task) : Task :=
  { k with transfer := { k.transfer with chunks := k.transfer.chunks + 1 }, stage := .pulling }

/-! ### The calls of a task -/

/-- Pulls the next chunk, if another is to come. -/
def pull (k : Task) : Task :=
  if k.transfer.stream.hasNext then
    match k.transfer.stream.pull k.queue with
    | .chunk m s q => ⟨{ k.transfer with stream := s }, q, .pulled m, k.pulled ++ [m]⟩
    | .refused error _ => k.giveUp (.failed (.stream error))
    | .waits => k
  else { k with stage := .ended (.completed k.transfer.chunks) }

/-- Frames the chunk and begins to hand over the buffer; an empty buffer needs no call. -/
def frame (k : Task) (m : Message) : Task :=
  match k.transfer.writer.write m with
  | .error error => k.giveUp (.failed error)
  | .ok w =>
    if w.buffer.isEmpty then (k.withWriter w).count
    else { k.withWriter w with stage := .writing w.buffer }

/-- Calls the transport to take what is left of the buffer. The buffer is emptied once nothing is
left. -/
def handOver (k : Task) (left : Bytes) : Task :=
  match k.transfer.writer.transport.pollWrite left with
  | (.error error, t) => (k.withTransport t).giveUp (.failed (.io error))
  | (.ok [], t) =>
    { k.withWriter { k.transfer.writer with transport := t, buffer := [] } with stage := .flushing }
  | (.ok rest, t) => { k.withTransport t with stage := .writing rest }

/-- Calls the transport to flush. -/
def settle (k : Task) : Task :=
  match k.transfer.writer.transport.pollFlush with
  | (.error error, t) => (k.withTransport t).giveUp (.failed (.io error))
  | (.ok true, t) => (k.withTransport t).count
  | (.ok false, t) => k.withTransport t

/-- **The next call that a task makes**, and what it makes of the task. -/
def advance (k : Task) : Task :=
  match k.stage with
  | .pulling => k.pull
  | .pulled m => k.frame m
  | .writing left => k.handOver left
  | .flushing => k.settle
  | .ended _ => k

/-- The task is dropped. One that has ended is not there any more. -/
def drop (k : Task) : Task :=
  match k.stage with
  | .ended _ => k
  | _ => k.giveUp .abandoned

/-! ### Histories -/

/-- **What can happen to a task.** -/
inductive Event where
  /-- The task makes its next call. -/
  | advance
  /-- Another thread takes a turn at the queue. -/
  | turn (turn : Queue.Turn)
  /-- The task is dropped. -/
  | drop
deriving DecidableEq, Repr

/-- **One event.** -/
def step (k : Task) : Event → Task
  | .advance => k.advance
  | .turn turn => { k with queue := (k.queue.turn turn).2 }
  | .drop => k.drop

/-- **A history of events.** -/
def run (k : Task) (events : List Event) : Task :=
  events.foldl step k

/-- The bytes that the transport has taken. -/
def taken (k : Task) : Bytes := k.transfer.writer.transport.taken

@[simp]
theorem run_nil (k : Task) : k.run [] = k := rfl

@[simp]
theorem run_cons (k : Task) (e : Event) (events : List Event) :
    k.run (e :: events) = (k.step e).run events := rfl

theorem run_append (k : Task) (first second : List Event) :
    k.run (first ++ second) = (k.run first).run second := by
  simp [run]

end Task

end Outbox.Transfer
