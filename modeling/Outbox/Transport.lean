import Outbox.Bytes
import Outbox.Error

/-!
# A transport that follows a script

The other end of a body is a transport that takes bytes in pieces of its own choosing, makes its
caller wait, or fails. Its choices are a script: one reply for each call, and full acceptance once
the script has run out. Writing everything is the loop over those replies, so it ends with the
script, whatever the script is.

The two loops differ in what an interrupted call is to them. A write that fails as interrupted has
taken nothing and is made again, like one that had to wait: where three of ten bytes are taken and
the next call is interrupted, the third call takes the other seven and the write succeeds. A flush
that fails as interrupted has failed. Both are behaviour as observed, and not what one would guess
from a loop that ends with its first error.

## Main Definitions

* `Reply` — what a transport does with one call
* `Transport` — the replies to come, the bytes taken so far, and the calls made so far
* `Transport.writeAll`, `Transport.flush` — the two calls, repeated until they are settled
-/

namespace Outbox

/-- **What a transport does with one call.** -/
inductive Reply where
  /-- It takes everything. -/
  | all
  /-- It takes this many bytes at most; a flush simply succeeds. -/
  | upTo (limit : Nat)
  /-- It makes the caller wait and call again. -/
  | pending
  /-- It fails. -/
  | fails (error : IoError)
deriving DecidableEq, Repr

/-- **A transport**: its replies to writes and to flushes, in order, and what it was asked so
far. -/
structure Transport where
  writes : List Reply
  flushes : List Reply
  taken : Bytes
  /-- How many bytes had been taken at the last flush that succeeded. -/
  settled : Nat
  writeCalls : Nat
  flushCalls : Nat
deriving DecidableEq, Repr

/-- A transport at the beginning of its script. -/
def Transport.scripted (writes flushes : List Reply) : Transport :=
  ⟨writes, flushes, [], 0, 0, 0⟩

/-! ### Writing -/

/-- **How writing a run of bytes went**: the bytes taken, the calls made, the replies left, and the
failure that ended it, if one did. -/
structure Written where
  taken : Bytes
  calls : Nat
  script : List Reply
  error : Option IoError
deriving DecidableEq, Repr

/-- The same with one more call in front, which took these bytes. -/
def Written.after (w : Written) (bytes : Bytes) : Written :=
  { w with taken := bytes ++ w.taken, calls := w.calls + 1 }

/-- What a transport that takes nothing fails with. -/
def writeZero : IoError := ⟨.writeZero, none⟩

/-- **Writes all of a run of bytes**, one reply at a time: it goes on with what is left after a
partial write, and calls again after a wait. To take nothing is a failure, and so is every error but
one: an interrupted call is no failure of the write, it is made again with the same bytes. -/
def writeScripted : List Reply → Bytes → Written
  | script, [] => ⟨[], 0, script, none⟩
  | [], bytes => ⟨bytes, 1, [], none⟩
  | .all :: script, bytes => ⟨bytes, 1, script, none⟩
  | .upTo limit :: script, bytes =>
    if limit = 0 then ⟨[], 1, script, some writeZero⟩
    else (writeScripted script (bytes.drop limit)).after (bytes.take limit)
  | .pending :: script, bytes => (writeScripted script bytes).after []
  | .fails error :: script, bytes =>
    if error.kind = .interrupted then (writeScripted script bytes).after []
    else ⟨[], 1, script, some error⟩

/-! ### Flushing -/

/-- **Flushes**, calling again after a wait: the calls made, the replies left, and the failure, if
there was one. Unlike an interrupted write, an interrupted flush is a failure like any other. -/
def flushScripted : List Reply → Nat × List Reply × Option IoError
  | [] => (1, [], none)
  | .pending :: script =>
    let (calls, rest, error) := flushScripted script
    (calls + 1, rest, error)
  | .fails error :: script => (1, script, some error)
  | _ :: script => (1, script, none)

namespace Transport

/-- Writes all of a run of bytes to the transport. -/
def writeAll (t : Transport) (bytes : Bytes) : Option IoError × Transport :=
  let w := writeScripted t.writes bytes
  (w.error, { t with
    writes := w.script
    taken := t.taken ++ w.taken
    writeCalls := t.writeCalls + w.calls })

/-- Flushes the transport. -/
def flush (t : Transport) : Option IoError × Transport :=
  let (calls, script, error) := flushScripted t.flushes
  (error, { t with
    flushes := script
    settled := if error.isNone then t.taken.length else t.settled
    flushCalls := t.flushCalls + calls })

/-- Puts bytes on the transport past its script, as its owner may. -/
def append (t : Transport) (bytes : Bytes) : Transport :=
  { t with taken := t.taken ++ bytes }

end Transport

end Outbox
