import Outbox.Body
import Outbox.Transport

/-!
# Writing a body

A writer frames messages into a buffer and hands the buffer to its transport when flushed. The
buffer is emptied once the transport has taken all of it, before the transport itself is flushed:
a flush that failed half-way keeps the whole buffer and starts it again the next time, and an empty
buffer is not worth a call.
-/

namespace Outbox

/-- **A writer**: its transport, the frames not handed over yet, and the body they belong to. -/
structure Writer where
  transport : Transport
  buffer : Bytes
  body : Body
deriving DecidableEq, Repr

namespace Writer

/-- A writer of a new body. -/
def ofTransport (t : Transport) : Writer := ⟨t, [], .start⟩

/-- Frames a message into the buffer. A message that cannot be framed leaves the writer as it is. -/
def write (w : Writer) (m : Message) : Except TransferError Writer :=
  match w.body.add m with
  | .ok (frame, body) => .ok { w with buffer := w.buffer ++ frame, body := body }
  | .error fault => .error (.ofUnframable fault)

/-- **Hands the buffer to the transport and flushes it.** -/
def flush (w : Writer) : Except TransferError Unit × Writer :=
  if w.buffer.isEmpty then (.ok (), w)
  else
    match w.transport.writeAll w.buffer with
    | (some error, t) => (.error (.io error), { w with transport := t })
    | (none, t) =>
      match t.flush with
      | (some error, t) => (.error (.io error), { w with transport := t, buffer := [] })
      | (none, t) => (.ok (), { w with transport := t, buffer := [] })

/-- What is asked of a writer, step by step. -/
inductive Request where
  | write (message : Message)
  | flush
deriving DecidableEq, Repr

/-- **One request.** A refused message leaves the writer as it is; a failed flush need not. -/
def perform (w : Writer) : Request → Except TransferError Unit × Writer
  | .write m =>
    match w.write m with
    | .ok w => (.ok (), w)
    | .error error => (.error error, w)
  | .flush => w.flush

/-- **Requests in order**: what each of them came to, and the writer they leave. -/
def performAll (w : Writer) : List Request → List (Except TransferError Unit) × Writer
  | [] => ([], w)
  | r :: rs =>
    let (result, w) := w.perform r
    let (results, w) := w.performAll rs
    (result :: results, w)

@[simp]
theorem performAll_nil (w : Writer) : w.performAll [] = ([], w) := rfl

theorem performAll_cons (w : Writer) (r : Request) (rs : List Request) :
    w.performAll (r :: rs) =
      ((w.perform r).1 :: ((w.perform r).2.performAll rs).1, ((w.perform r).2.performAll rs).2) :=
  rfl

/-- Puts bytes on the transport, beside the body. -/
def appendRaw (w : Writer) (bytes : Bytes) : Writer :=
  { w with transport := w.transport.append bytes }

end Writer

end Outbox
