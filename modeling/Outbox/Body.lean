import Outbox.Body.Frame
import Outbox.Error

/-!
# A body in the making

A chunked body grows by frames until its last chunk; behind that chunk nothing belongs to it any
more, so later messages are accepted and add nothing. A message that cannot be framed is refused as
a whole: the body and what was written of it stay as they were.
-/

namespace Outbox

/-- **The progress of a chunked body**: whether its last chunk is written, and how many bytes of
data its chunks hold so far, framing not counted. -/
structure Body where
  ended : Bool
  dataSize : Nat
deriving DecidableEq, Repr

namespace Body

/-- A body nothing has been written of. -/
def start : Body := ⟨false, 0⟩

/-- **Adds a message**, answering the bytes to write for it. A body that has ended takes any
message and writes nothing. -/
def add (body : Body) (m : Message) : Except Unframable (Bytes × Body) :=
  if body.ended then .ok ([], body)
  else
    match m.unframable? with
    | some fault => .error fault
    | none => .ok (m.frame, ⟨m.isLast, body.dataSize + m.payload.length⟩)

/-- **Adds messages in order**: the bytes to write for all of them, and the body they leave. Those
that cannot be framed are left out. -/
def addAll (body : Body) : List Message → Bytes × Body
  | [] => ([], body)
  | m :: ms =>
    match body.add m with
    | .ok (frame, body') => (frame ++ (body'.addAll ms).1, (body'.addAll ms).2)
    | .error _ => body.addAll ms

@[simp]
theorem addAll_nil (body : Body) : body.addAll [] = ([], body) := rfl

theorem addAll_cons_of_ok {body body' : Body} {m : Message} {frame : Bytes}
    (h : body.add m = .ok (frame, body')) (ms : List Message) :
    body.addAll (m :: ms) = (frame ++ (body'.addAll ms).1, (body'.addAll ms).2) := by
  simp [addAll, h]

theorem addAll_cons_of_error {body : Body} {m : Message} {fault : Unframable}
    (h : body.add m = .error fault) (ms : List Message) :
    body.addAll (m :: ms) = body.addAll ms := by
  simp [addAll, h]

/-- **Adds messages in order, each of them or none**: the bytes to write for all of them and the
body they leave, or why the first that cannot be framed is refused. -/
def addEach (body : Body) : List Message → Except Unframable (Bytes × Body)
  | [] => .ok ([], body)
  | m :: ms =>
    match body.add m with
    | .error fault => .error fault
    | .ok (frame, body') =>
      match body'.addEach ms with
      | .error fault => .error fault
      | .ok (frames, body'') => .ok (frame ++ frames, body'')

@[simp]
theorem addEach_nil (body : Body) : body.addEach [] = .ok ([], body) := rfl

theorem addEach_cons_of_ok {body body' body'' : Body} {m : Message} {ms : List Message}
    {frame frames : Bytes} (h : body.add m = .ok (frame, body'))
    (hs : body'.addEach ms = .ok (frames, body'')) :
    body.addEach (m :: ms) = .ok (frame ++ frames, body'') := by
  simp [addEach, h, hs]

theorem add_of_ended {body : Body} (h : body.ended = true) (m : Message) :
    body.add m = .ok ([], body) := by
  simp [add, h]

theorem add_of_unframable {body : Body} (h : body.ended = false) {m : Message} {fault : Unframable}
    (hm : m.unframable? = some fault) : body.add m = .error fault := by
  simp [add, h, hm]

theorem add_of_framable {body : Body} (h : body.ended = false) {m : Message}
    (hm : m.unframable? = none) :
    body.add m = .ok (m.frame, ⟨m.isLast, body.dataSize + m.payload.length⟩) := by
  simp [add, h, hm]

end Body

/-- A message that cannot be framed, as the failure of a transfer. -/
def TransferError.ofUnframable (fault : Unframable) : TransferError :=
  .invalidBody fault.message

end Outbox
