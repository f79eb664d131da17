import Outbox.Body.Grammar
import Outbox.Message
import Outbox.Text.Quoted

/-!
# Frames

The frame of a message is the chunk that carries it: size line, data, line break. The message
with an empty payload becomes the last chunk, whose frame also holds the empty trailer that ends the
body. Not every message has a frame: an extension name has to be a token and an extension value has
to be quotable, and the first entry that fails names the reason.

## Main Definitions

* `Message.frame` — the bytes of a message's chunk
* `Unframable`, `Message.unframable?` — why a message has no frame
-/

namespace Outbox

/-! ### Which messages have a frame -/

/-- **Why a message cannot be framed**, told of the first extension that cannot be written. -/
inductive Unframable where
  /-- The name is not a token. -/
  | badName (name : String)
  /-- The value of this name holds a byte that no quoted string can hold. -/
  | badValue (name : String)
deriving DecidableEq, Repr

/-- The text shown for a message that cannot be framed. -/
def Unframable.message : Unframable → String
  | .badName name => s!"invalid chunk extension name: {Text.quoted name}"
  | .badValue name => s!"invalid chunk extension value for {name}"

namespace Body

/-- What is wrong with one extension; its name is looked at before its value. -/
def entryFault? (entry : String × String) : Option Unframable :=
  if !isToken (Bytes.ofString entry.1) then some (.badName entry.1)
  else if !(Bytes.ofString entry.2).all isQuotable then some (.badValue entry.1)
  else none

/-- An extension as it stands in a size line, behind a semicolon. -/
def extension (entry : String × String) : Bytes :=
  0x3B :: (Bytes.ofString entry.1 ++ 0x3D :: value (Bytes.ofString entry.2))

/-- The size line of a chunk: its data's size and its extensions. -/
def sizeLine (size : Nat) (extensions : Extensions) : Bytes :=
  hexSize size ++ extensions.entries.flatMap extension ++ crlf

end Body

namespace Message

/-- The first reason, in the order of the extensions, why the message has no frame. -/
def unframable? (m : Message) : Option Unframable :=
  m.extensions.entries.findSome? Body.entryFault?

/-- **The frame of a message**: its size line, then its data and a line break. With no data what
follows the size line is the empty trailer, a single line break. -/
def frame (m : Message) : Bytes :=
  Body.sizeLine m.payload.length m.extensions ++ (m.payload ++ crlf)

end Message

end Outbox
