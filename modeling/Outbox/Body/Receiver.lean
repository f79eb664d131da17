import Outbox.Body.Grammar
import Outbox.Message

/-!
# Receiving a body

The other side of framing: a receiver takes a chunked body byte by byte and collects its chunks. It
accepts the whole grammar of a size line and not only what a frame spells, so digits of either case,
leading zeros, names without a value and needless quotes are all understood. The trailer has to be
empty.

What is load-bearing is that one byte decides the next state. What a receiver knows is then a fold
over the bytes so far, so no byte changes what was received before it; and since a receiver that has
seen the end refuses every further byte, no body is the beginning of another.

## Main Definitions

* `Body.Chunk`, `Message.chunk` — a chunk as it is received, and the one that carries a message
* `Receiver`, `Receiver.receive` — the state of a receiver, and some more bytes
* `Receiver.body?` — the chunks of a complete body
-/

namespace Outbox

namespace Body

/-- **A received chunk**: its data, and its extensions in order. A name need not have a value. -/
structure Chunk where
  data : Bytes
  extensions : List (Bytes × Option Bytes)
deriving DecidableEq, Repr

/-- The value of a hexadecimal digit of either case. -/
def hexValue? (b : UInt8) : Option Nat :=
  if 0x30 ≤ b && b ≤ 0x39 then some (b.toNat - 0x30)
  else if 0x41 ≤ b && b ≤ 0x46 then some (b.toNat - 0x37)
  else if 0x61 ≤ b && b ≤ 0x66 then some (b.toNat - 0x57)
  else none

end Body

/-- The chunk that carries a message. -/
def Message.chunk (m : Message) : Body.Chunk :=
  ⟨m.payload,
    m.extensions.entries.map fun entry => (Bytes.ofString entry.1, some (Bytes.ofString entry.2))⟩

namespace Receiver

/-- What is known of a size line: the size, and the extensions that are complete. -/
structure Line where
  size : Nat
  extensions : List (Bytes × Option Bytes)
deriving DecidableEq, Repr

/-- The line with one more extension. -/
def Line.add (line : Line) (name : Bytes) (value : Option Bytes) : Line :=
  { line with extensions := line.extensions ++ [(name, value)] }

/-- The chunk of a size line and its data. -/
def Line.chunk (line : Line) (data : Bytes) : Body.Chunk :=
  ⟨data, line.extensions⟩

/-- **Where a receiver stands**, told by what it has read last. -/
inductive Phase where
  /-- A line break, so that a size comes next. -/
  | chunkStart
  /-- A digit of a size. -/
  | size (size : Nat)
  /-- A semicolon, or a byte of a name. -/
  | name (line : Line) (name : Bytes)
  /-- The equals sign behind a name. -/
  | equals (line : Line) (name : Bytes)
  /-- A byte of a token. -/
  | token (line : Line) (name value : Bytes)
  /-- The quote that opens a string, or a byte in it. -/
  | quoted (line : Line) (name value : Bytes)
  /-- A backslash in a string. -/
  | escape (line : Line) (name value : Bytes)
  /-- The quote that closes a string. -/
  | unquoted (line : Line)
  /-- The carriage return of a size line. -/
  | lineReturn (line : Line)
  /-- The line break of a size line, or a byte of data that is not the last. -/
  | data (line : Line) (data : Bytes)
  /-- The last byte of data. -/
  | dataEnd (line : Line) (data : Bytes)
  /-- The carriage return behind the data. -/
  | dataReturn (line : Line) (data : Bytes)
  /-- The line break of the last size line. -/
  | trailer (line : Line)
  /-- The carriage return of the empty trailer. -/
  | trailerReturn (line : Line)
  /-- The end of the body. -/
  | ended
  /-- Something that is not in the grammar. -/
  | broken
deriving DecidableEq, Repr

end Receiver

/-- **A receiver**: the chunks it has received in full, and where it stands. -/
structure Receiver where
  chunks : List Body.Chunk
  phase : Receiver.Phase
deriving DecidableEq, Repr

namespace Receiver

/-- A receiver that has seen nothing. -/
def start : Receiver := ⟨[], .chunkStart⟩

/-- The receiver in another phase. -/
def go (r : Receiver) (phase : Phase) : Receiver := { r with phase := phase }

/-- The receiver with one more chunk, in another phase. -/
def push (r : Receiver) (chunk : Body.Chunk) (phase : Phase) : Receiver :=
  ⟨r.chunks ++ [chunk], phase⟩

/-- What may follow a complete part of a size line: another extension, or the end of the line. -/
def afterPart (line : Line) (b : UInt8) : Phase :=
  if b = 0x3B then .name line []
  else if b = 0x0D then .lineReturn line
  else .broken

/-- **One byte.** -/
def step (r : Receiver) (b : UInt8) : Receiver :=
  match r.phase with
  | .chunkStart =>
    match Body.hexValue? b with
    | some d => r.go (.size d)
    | none => r.go .broken
  | .size n =>
    match Body.hexValue? b with
    | some d => r.go (.size (16 * n + d))
    | none => r.go (afterPart ⟨n, []⟩ b)
  | .name line name =>
    if Body.isTokenByte b then r.go (.name line (name ++ [b]))
    else if name.isEmpty then r.go .broken
    else if b = 0x3D then r.go (.equals line name)
    else r.go (afterPart (line.add name none) b)
  | .equals line name =>
    if b = 0x22 then r.go (.quoted line name [])
    else if Body.isTokenByte b then r.go (.token line name [b])
    else r.go .broken
  | .token line name value =>
    if Body.isTokenByte b then r.go (.token line name (value ++ [b]))
    else r.go (afterPart (line.add name (some value)) b)
  | .quoted line name value =>
    if b = 0x22 then r.go (.unquoted (line.add name (some value)))
    else if b = 0x5C then r.go (.escape line name value)
    else if Body.isQuotable b then r.go (.quoted line name (value ++ [b]))
    else r.go .broken
  | .escape line name value =>
    if Body.isQuotable b then r.go (.quoted line name (value ++ [b])) else r.go .broken
  | .unquoted line => r.go (afterPart line b)
  | .lineReturn line =>
    if b = 0x0A then r.go (if line.size = 0 then .trailer line else .data line [])
    else r.go .broken
  | .data line data =>
    if data.length + 1 < line.size then r.go (.data line (data ++ [b]))
    else r.go (.dataEnd line (data ++ [b]))
  | .dataEnd line data => if b = 0x0D then r.go (.dataReturn line data) else r.go .broken
  | .dataReturn line data =>
    if b = 0x0A then r.push (line.chunk data) .chunkStart else r.go .broken
  | .trailer line => if b = 0x0D then r.go (.trailerReturn line) else r.go .broken
  | .trailerReturn line => if b = 0x0A then r.push (line.chunk []) .ended else r.go .broken
  | .ended => r.go .broken
  | .broken => r

/-- **Some more bytes.** -/
def receive (r : Receiver) (bytes : Bytes) : Receiver :=
  bytes.foldl step r

/-- **The chunks of a complete body**, the last one included; nothing if the bytes are not exactly
one body. -/
def body? (bytes : Bytes) : Option (List Body.Chunk) :=
  let r := start.receive bytes
  if r.phase = .ended then some r.chunks else none

@[simp]
theorem receive_nil (r : Receiver) : r.receive [] = r := rfl

@[simp]
theorem receive_cons (r : Receiver) (b : UInt8) (bytes : Bytes) :
    r.receive (b :: bytes) = (r.step b).receive bytes := rfl

theorem receive_append (r : Receiver) (a b : Bytes) :
    r.receive (a ++ b) = (r.receive a).receive b := by
  simp [receive]

/-- What is broken stays broken. -/
theorem receive_of_broken {r : Receiver} (h : r.phase = .broken) (bytes : Bytes) :
    r.receive bytes = r := by
  induction bytes with
  | nil => rfl
  | cons b bytes ih => rw [receive_cons, step, h, ih]

/-- Nothing belongs to a body behind its end. -/
theorem receive_of_ended {r : Receiver} (h : r.phase = .ended) (b : UInt8) (bytes : Bytes) :
    (r.receive (b :: bytes)).phase = .broken := by
  have broken : (r.step b).phase = .broken := by
    rw [step, h]
    rfl
  rw [receive_cons, receive_of_broken broken, broken]

end Receiver

end Outbox
