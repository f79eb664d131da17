import Outbox.Sender
import Outbox.Writer

/-!
# Transfers

A transfer drains a stream into a writer, one chunk a round, and flushes each chunk before it pulls
the next. It ends well only when the stream has ended: every other way out, also being given up
while it waits, interrupts the queue, so that no producer waits for a consumer that is gone.

A round is a step of its own because producers act between rounds; `run` is the case in which they
do not.

## Main Definitions

* `Transfer.round` — pull, frame, flush
* `Transfer.run` — rounds until the transfer ends
-/

namespace Outbox

/-- The queue that gave out a message is shorter by one. -/
theorem Queue.size_of_take {q q' : Queue} {m : Message} (h : q.take = .taken m q') :
    q.size = q'.size + 1 := by
  unfold Queue.take at h
  split at h
  · cases h
  · split at h
    · cases h
    · next hm => cases h; simp [Queue.size, hm]

/-- A stream that handed out a chunk took it from the queue. -/
theorem Stream.size_of_pull {s s' : Stream} {q q' : Queue} {m : Message}
    (h : s.pull q = .chunk m s' q') : q.size = q'.size + 1 := by
  unfold Stream.pull at h
  split at h
  · split at h
    · next ht => cases h; exact Queue.size_of_take ht
    · cases h
    · cases h
  · cases h

/-- **A transfer**: the writer, the stream it drains, and how many chunks it has written. -/
structure Transfer where
  writer : Writer
  stream : Stream
  chunks : Nat
deriving DecidableEq, Repr

namespace Transfer

/-- A transfer at its beginning. -/
def start (w : Writer) (s : Stream) : Transfer := ⟨w, s, 0⟩

/-- **What one round comes to.** -/
inductive Round where
  /-- A chunk was pulled, framed and flushed. -/
  | moved (transfer : Transfer) (queue : Queue)
  /-- The stream has ended; there is nothing to do. -/
  | finished
  /-- The transfer failed and has interrupted the queue. -/
  | failed (error : TransferError) (writer : Writer) (queue : Queue)
  /-- No chunk is there yet. -/
  | waits
deriving DecidableEq, Repr

/-- Frames a message and flushes it. -/
def emit (w : Writer) (m : Message) : Except TransferError Unit × Writer :=
  match w.write m with
  | .error error => (.error error, w)
  | .ok w => w.flush

/-- **One round**: the next chunk is pulled, framed and flushed, and then counted. -/
def round (t : Transfer) (q : Queue) : Round :=
  if t.stream.hasNext then
    match t.stream.pull q with
    | .chunk m s q =>
      match emit t.writer m with
      | (.ok (), w) => .moved ⟨w, s, t.chunks + 1⟩ q
      | (.error error, w) => .failed error w q.interrupt
    | .refused error _ => .failed (.stream error) t.writer q.interrupt
    | .waits => .waits
  else .finished

theorem size_of_moved {t t' : Transfer} {q q' : Queue} (h : t.round q = .moved t' q') :
    q.size = q'.size + 1 := by
  unfold round at h
  split at h
  · split at h
    · next hp =>
      split at h
      · cases h; exact Stream.size_of_pull hp
      · cases h
    · cases h
    · cases h
  · cases h

/-- **How a transfer ended.** -/
inductive Outcome where
  /-- With the stream, after this many chunks. -/
  | completed (chunks : Nat)
  | failed (error : TransferError)
  /-- Given up while it waited for a chunk. -/
  | abandoned
deriving DecidableEq, Repr

/-- **Runs a transfer** with no producer acting meanwhile: rounds until one of them does not move,
and the writer and the queue it leaves behind. Waiting means being given up, since nothing more
will come. -/
def run (t : Transfer) (q : Queue) : Outcome × Writer × Queue :=
  match h : t.round q with
  | .moved t' q' =>
    have : q'.size < q.size := by rw [size_of_moved h]; exact Nat.lt_succ_self _
    run t' q'
  | .finished => (.completed t.chunks, t.writer, q)
  | .failed error w q => (.failed error, w, q)
  | .waits => (.abandoned, t.writer, q.interrupt)
termination_by q.size

end Transfer

end Outbox
