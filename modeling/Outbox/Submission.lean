import Outbox.Charset.Label
import Outbox.Message

/-!
# Submissions

What an application hands in, and the message that is queued for it. A binary message goes out as it
is. A text is written in the charset that its own extensions ask for, and the message says so: it
carries the content type and the canonical name of the charset, and nothing else under these two
names. Whatever is empty becomes a ping, because an empty payload would end the body.

## Main Definitions

* `Message.ofText` — the message of a text
* `Submission`, `Submission.message` — what is handed in, and its message
-/

namespace Outbox

/-- The extension that tells what kind of content a message holds. -/
def contentTypeName : String := "Content-Type"

/-- The content type of every text message. -/
def textContentType : String := "text/plain"

/-- The extension that tells the charset of a text, and asks for it. -/
def charsetName : String := "Charset"

/-- The charset that a text with these extensions is written in: the one that their first `Charset`
entry asks for. -/
def Extensions.requestedCharset (e : Extensions) : Charset :=
  Charset.resolve (e.getFirst? charsetName)

/-- **The message of a text.** The charset is looked up after the content type has been set and
before the charset's own name is. -/
def Message.ofText (text : String) (extensions : Extensions) : Message :=
  let typed := extensions.merge (Extensions.empty.insert contentTypeName textContentType)
  let charset := typed.requestedCharset
  ⟨charset.encode text, typed.merge (Extensions.empty.insert charsetName charset.name)⟩

/-- **What an application hands in.** -/
inductive Submission where
  | text (content : String) (extensions : Extensions)
  | binary (content : Bytes) (extensions : Extensions)
  | ping
deriving DecidableEq, Repr

/-- **The message that is queued for a submission.** Empty ones become pings and lose their
extensions. -/
def Submission.message : Submission → Message
  | .text content extensions => if content.isEmpty then .ping else .ofText content extensions
  | .binary content extensions => if content.isEmpty then .ping else ⟨content, extensions⟩
  | .ping => .ping

end Outbox
