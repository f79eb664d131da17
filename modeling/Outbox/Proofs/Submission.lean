import Outbox.Proofs.Charset
import Outbox.Proofs.Extensions
import Outbox.Submission

/-!
# The messages of submissions

The extensions of a text's message come out of two merges with a look-up between them. The first
merge sets the content type and takes no charset away, so the look-up still finds the first charset
entry that the application gave; the second one then removes that entry with all its namesakes. What
the message says of its charset is the charset's canonical name, and every canonical name is a label
of its own charset. So whoever resolves the entry gets back the charset that the payload is written
in, and a message made of a text and of its own extensions is the message itself.

The message of a submission always has a payload. For what is handed in empty that is the ping's
line feed. For a text it rests on the charsets: each of them writes at least one byte for a scalar
that it has, and each of them has the question mark that stands for all others, in every shift
state. So no choice of charset maps a text to nothing, and the empty payload stays the mark of the
last message alone.

## Main Definitions

* `Message.textEntries` — the entries of a text's message
* `Message.ofText_eq` — the message in one step
* `Message.ofText_self` — building it again changes nothing
* `Submission.isLast_message` — no submission ends the stream
-/

namespace Outbox

/-! ### Canonical names -/

/-- The name of every charset in the table is one of its own labels, and of no charset before it. -/
theorem Charset.forLabel?_name_of_mem :
    ∀ entry ∈ labels, forLabel? entry.1.name = some entry.1 := by
  decide +kernel

/-- Every charset is in the table. -/
theorem Charset.mem_labels (charset : Charset) : charset ∈ labels.map Prod.fst := by
  cases charset with
  | utf16 order => cases order <;> decide
  | codePage page => cases page <;> decide
  | _ => decide

/-- **The canonical name of a charset is a label of it.** -/
theorem Charset.forLabel?_name (charset : Charset) : forLabel? charset.name = some charset := by
  obtain ⟨entry, listed, rfl⟩ := List.mem_map.mp charset.mem_labels
  exact forLabel?_name_of_mem entry listed

theorem Charset.resolve_name (charset : Charset) : resolve (some charset.name) = charset := by
  simp [resolve, forLabel?_name]

/-! ### In one step -/

/-- The first charset entry decides, or the fallback where there is none or where nobody knows it.
-/
theorem Extensions.requestedCharset_eq (e : Extensions) :
    e.requestedCharset =
      match e.entries.find? fun entry => Text.sameName entry.1 charsetName with
      | none => Charset.fallback
      | some entry => (Charset.forLabel? entry.2).getD Charset.fallback := by
  unfold requestedCharset Charset.resolve getFirst?
  cases e.entries.find? fun entry => Text.sameName entry.1 charsetName <;> rfl

namespace Message

@[simp]
theorem sameName_charset_contentType : Text.sameName charsetName contentTypeName = false := by
  decide +kernel

@[simp]
theorem sameName_contentType_charset : Text.sameName contentTypeName charsetName = false := by
  decide +kernel

/-- **The entries of a text's message**: the given ones without those of the two names that the
sender sets, and these two behind them. -/
def textEntries (given : List (String × String)) (charset : Charset) : List (String × String) :=
  (given.filter fun entry =>
    !Text.sameName contentTypeName entry.1 && !Text.sameName charsetName entry.1) ++
    [(contentTypeName, textContentType), (charsetName, charset.name)]

/-- **The message of a text**, its charset looked up among the given entries. -/
theorem ofText_eq (text : String) (e : Extensions) :
    ofText text e =
      ⟨e.requestedCharset.encode text, ⟨textEntries e.entries e.requestedCharset⟩⟩ := by
  let typed := e.merge (Extensions.empty.insert contentTypeName textContentType)
  have asked : typed.requestedCharset = e.requestedCharset := by
    rw [Extensions.requestedCharset, Extensions.getFirst?_merge_of_not_contains]
    · rfl
    · simp [Extensions.contains, Extensions.empty]
  have named : ofText text e = ⟨typed.requestedCharset.encode text,
      typed.merge (Extensions.empty.insert charsetName typed.requestedCharset.name)⟩ := rfl
  rw [named, asked, Extensions.merge]
  simp [typed, textEntries, Extensions.contains, Extensions.empty, List.filter_filter,
    Bool.and_comm]

/-! ### Again -/

/-- The entries of a text's message, given once more. -/
theorem textEntries_textEntries (given : List (String × String)) (charset again : Charset) :
    textEntries (textEntries given charset) again = textEntries given again := by
  simp [textEntries, List.filter_filter]

/-- **The charset entry of a text's message tells the charset of its payload.** -/
theorem requestedCharset_textEntries (given : List (String × String)) (charset : Charset) :
    Extensions.requestedCharset ⟨textEntries given charset⟩ = charset := by
  have first : Extensions.getFirst? ⟨textEntries given charset⟩ charsetName =
      some charset.name := by
    have dropped : given.find? (fun entry => (!Text.sameName contentTypeName entry.1 &&
        !Text.sameName charsetName entry.1) && Text.sameName entry.1 charsetName) = none := by
      rw [List.find?_eq_none]
      intro entry _
      simp [Text.sameName_comm entry.1]
    simp [Extensions.getFirst?, textEntries, List.find?_append, List.find?_filter, dropped]
  rw [Extensions.requestedCharset, first, charset.resolve_name]

/-- **Building a text's message again changes nothing**: made of the same text and of the extensions
that the message has, it is the same message. -/
theorem ofText_self (text : String) (e : Extensions) :
    ofText text (ofText text e).extensions = ofText text e := by
  rw [ofText_eq text e, ofText_eq, requestedCharset_textEntries, textEntries_textEntries]

end Message

/-! ### Payloads -/

/-- **The message of a submission has a payload**, whatever is handed in. -/
theorem Submission.isLast_message (what : Submission) : what.message.isLast = false := by
  cases what with
  | ping => rfl
  | text content extensions =>
    by_cases empty : content = ""
    · simp [message, empty]
    · have written : (Message.ofText content extensions).payload ≠ [] :=
        Charset.encode_ne_nil _ empty
      simp [message, empty, Message.isLast, written]
  | binary content extensions =>
    by_cases empty : content = []
    · simp [message, empty]
    · simp [message, empty, Message.isLast]

theorem Submission.payload_ne_nil (what : Submission) : what.message.payload ≠ [] := by
  intro empty
  have isLast := Message.isLast_iff.mpr empty
  rw [what.isLast_message] at isLast
  cases isLast

end Outbox
