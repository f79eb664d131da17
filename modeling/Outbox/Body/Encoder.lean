import Outbox.Body
import Outbox.Writer

/-!
# A body written in place

`Body.add` answers the bytes of one message, and its caller appends them. Here the same is done in
place, one piece after the other: an encoder holds the body and the buffer behind which it writes,
and each step changes one of them. A step that fails leaves behind whatever was changed before it,
so that a refused message leaves no trace is a matter of the order of the steps: all extensions are
looked at before the first byte is put.

## Main Definitions

* `Body.Encoder`, `Body.Encoding` — a body with its buffer, and a computation that changes them
* `Body.Encoder.encode` — one message, piece by piece
* `Body.Encoder.encode_eq_add` — encoding in place is adding and appending
-/

namespace Outbox.Body

/-- **An encoder**: a body, and the buffer behind which it is written. -/
structure Encoder where
  body : Body
  buffer : Bytes
deriving DecidableEq, Repr

/-- **A computation at an encoder.** One that fails keeps what it has changed by then. -/
abbrev Encoding := ExceptT TransferError (StateM Encoder)

namespace Encoding

/-- Puts bytes behind the buffer. -/
def put (bytes : Bytes) : Encoding Unit :=
  modify fun e => { e with buffer := e.buffer ++ bytes }

/-- Looks at one extension, its name before its value. -/
def checkEntry (entry : String × String) : Encoding Unit := do
  if !isToken (Bytes.ofString entry.1) then
    throw (.ofUnframable (.badName entry.1))
  if !(Bytes.ofString entry.2).all isQuotable then
    throw (.ofUnframable (.badValue entry.1))

/-- **Encodes one message**: nothing behind the end of the body; otherwise the size line, and then
the data or, with no data, the empty trailer that ends the body. -/
def message (m : Message) : Encoding Unit := do
  if (← get).body.ended then
    return
  forM m.extensions.entries checkEntry
  put (hexSize m.payload.length)
  forM m.extensions.entries fun entry => put (extension entry)
  put crlf
  if m.payload.isEmpty then
    modify fun e => { e with body.ended := true }
    put crlf
  else
    put m.payload
    put crlf
    modify fun e => { e with body.dataSize := e.body.dataSize + m.payload.length }

/-! ### What the steps come to -/

@[simp]
theorem run_get (e : Encoder) : (get : Encoding Encoder).run e = (.ok e, e) := rfl

@[simp]
theorem run_modify (f : Encoder → Encoder) (e : Encoder) :
    (modify f : Encoding Unit).run e = (.ok (), f e) := rfl

@[simp]
theorem run_put (bytes : Bytes) (e : Encoder) :
    (put bytes).run e = (.ok (), { e with buffer := e.buffer ++ bytes }) := rfl

theorem run_checkEntry (entry : String × String) (e : Encoder) :
    (checkEntry entry).run e =
      match entryFault? entry with
      | some fault => (.error (.ofUnframable fault), e)
      | none => (.ok (), e) := by
  unfold checkEntry entryFault?
  cases isToken (Bytes.ofString entry.1) <;>
    cases (Bytes.ofString entry.2).all isQuotable <;> rfl

/-- A computation behind another one begins where that has succeeded, and is left out if it has
failed. -/
theorem run_bind {α : Type} (x : Encoding α) (f : α → Encoding Unit) (e : Encoder) :
    (x >>= f).run e =
      match x.run e with
      | (.ok a, e') => (f a).run e'
      | (.error error, e') => (.error error, e') := by
  have opened : (x >>= f).run e = ExceptT.bindCont f (x.run e).1 (x.run e).2 := rfl
  rw [opened]
  rcases x.run e with ⟨result, e'⟩
  cases result <;> rfl

/-- Looking at all extensions finds the first fault, and changes nothing. -/
theorem run_forM_checkEntry (entries : List (String × String)) (e : Encoder) :
    (forM entries checkEntry).run e =
      match entries.findSome? entryFault? with
      | some fault => (.error (.ofUnframable fault), e)
      | none => (.ok (), e) := by
  induction entries with
  | nil => rfl
  | cons entry entries ih =>
    rw [List.forM_cons, run_bind, run_checkEntry, List.findSome?_cons]
    cases entryFault? entry with
    | none => exact ih
    | some fault => rfl

theorem run_forM_put (entries : List (String × String)) (e : Encoder) :
    (forM entries fun entry => put (extension entry)).run e =
      (.ok (), { e with buffer := e.buffer ++ entries.flatMap extension }) := by
  induction entries generalizing e with
  | nil => simp; rfl
  | cons entry entries ih =>
    rw [List.forM_cons, run_bind, run_put]
    simp [ih]

end Encoding

namespace Encoder

/-- **Encodes one message**: the result, and what has become of the encoder. -/
def encode (e : Encoder) (m : Message) : Except TransferError Unit × Encoder :=
  (Encoding.message m).run e

open Encoding in
/-- **Encoding in place is adding and appending.** -/
theorem encode_eq_add (e : Encoder) (m : Message) :
    e.encode m =
      match e.body.add m with
      | .ok (bytes, body) => (.ok (), ⟨body, e.buffer ++ bytes⟩)
      | .error fault => (.error (.ofUnframable fault), e) := by
  obtain ⟨⟨ended, size⟩, buffer⟩ := e
  cases ended with
  | true =>
    simp [add]
    rfl
  | false =>
    rw [encode, Encoding.message, run_bind, run_get]
    simp only [Bool.false_eq_true, if_false]
    rw [run_bind, run_forM_checkEntry]
    cases reason : m.unframable? with
    | some fault =>
      rw [add_of_unframable rfl reason]
      rw [Message.unframable?] at reason
      simp [reason]
    | none =>
      rw [add_of_framable rfl reason]
      rw [Message.unframable?] at reason
      cases payload : m.payload with
      | nil =>
        simp only [reason, run_bind, run_put, run_forM_put]
        simp [Message.frame, sizeLine, Message.isLast, payload, run_bind]
      | cons b data =>
        simp only [reason, run_bind, run_put, run_forM_put]
        simp [Message.frame, sizeLine, Message.isLast, payload, run_bind]

theorem encode_of_framable {e : Encoder} (unfinished : e.body.ended = false) {m : Message}
    (hm : m.unframable? = none) :
    e.encode m =
      (.ok (), ⟨⟨m.isLast, e.body.dataSize + m.payload.length⟩, e.buffer ++ m.frame⟩) := by
  rw [encode_eq_add, add_of_framable unfinished hm]

theorem encode_of_unframable {e : Encoder} (unfinished : e.body.ended = false) {m : Message}
    {fault : Unframable} (hm : m.unframable? = some fault) :
    e.encode m = (.error (.ofUnframable fault), e) := by
  rw [encode_eq_add, add_of_unframable unfinished hm]

theorem encode_of_ended {e : Encoder} (ended : e.body.ended = true) (m : Message) :
    e.encode m = (.ok (), e) := by
  simp [encode_eq_add, add_of_ended ended]

/-- **Encodes messages in order**: what each call came to, and what has become of the encoder. -/
def encodeAll (e : Encoder) : List Message → List (Except TransferError Unit) × Encoder
  | [] => ([], e)
  | m :: ms =>
    ((e.encode m).1 :: ((e.encode m).2.encodeAll ms).1, ((e.encode m).2.encodeAll ms).2)

@[simp]
theorem encodeAll_nil (e : Encoder) : e.encodeAll [] = ([], e) := rfl

theorem encodeAll_cons (e : Encoder) (m : Message) (ms : List Message) :
    e.encodeAll (m :: ms) =
      ((e.encode m).1 :: ((e.encode m).2.encodeAll ms).1, ((e.encode m).2.encodeAll ms).2) := rfl

end Encoder

end Outbox.Body

namespace Outbox.Writer

open Body (Encoder)

/-- **A writer frames a message in place**, behind its buffer. -/
theorem perform_write_eq_encode (w : Writer) (m : Message) :
    w.perform (.write m) =
      ((Encoder.encode ⟨w.body, w.buffer⟩ m).1,
        ⟨w.transport, (Encoder.encode ⟨w.body, w.buffer⟩ m).2.buffer,
          (Encoder.encode ⟨w.body, w.buffer⟩ m).2.body⟩) := by
  rw [Encoder.encode_eq_add, perform, write]
  cases w.body.add m with
  | error fault => rfl
  | ok written => rfl

end Outbox.Writer
