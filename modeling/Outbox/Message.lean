import Outbox.Bytes
import Outbox.Extensions

/-!
# Messages

One message is carried by one chunk of the body, so a queued message and the chunk made of it are
the same data: a payload and the extensions that travel beside it. An empty payload ends the body
and is reserved for that; the keep-alive message is a single line feed instead.
-/

namespace Outbox

/-- **A message**, equally the content of the chunk that carries it. -/
structure Message where
  payload : Bytes
  extensions : Extensions
deriving DecidableEq, Repr

namespace Message

/-- The keep-alive message: a line feed, which receivers skip. -/
def ping : Message := ⟨[0x0A], .empty⟩

/-- The message that ends the stream. -/
def terminal : Message := ⟨[], .empty⟩

/-- Whether the message ends the stream: exactly those with an empty payload do. -/
def isLast (m : Message) : Bool := m.payload.isEmpty

theorem isLast_iff {m : Message} : m.isLast = true ↔ m.payload = [] := by
  simp [isLast]

@[simp]
theorem isLast_ping : ping.isLast = false := rfl

@[simp]
theorem isLast_terminal : terminal.isLast = true := rfl

end Message

end Outbox
