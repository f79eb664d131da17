import Outbox.Body
import Outbox.Body.Receiver

/-!
# Receiving what was framed

A receiver that stands at the beginning of a chunk reads the frame of a message to exactly that
message's chunk, whatever the payload and the extension values hold. What makes this work is that
the receiver never searches: the size says how many bytes are data, and inside a quoted string a
quote or a backslash stands behind a backslash. A line break or a semicolon in a payload or in a
value is therefore never looked at as one.

The size line is read part by part. `HasLine r line` says that `r` stands behind a complete part of
it and knows `line`; every part leads from one such receiver to the next, whichever phase each of
them is in.

## Main Definitions

* `Message.Framable` — the messages that have a frame
* `Receiver.HasLine` — a receiver behind a complete part of a size line
-/

namespace Outbox

/-! ### Which messages have a frame -/

/-- **A message that has a frame**: every extension name is a token, and no extension value holds
DEL or a control byte other than the tab. -/
def Message.Framable (m : Message) : Prop :=
  ∀ entry ∈ m.extensions.entries,
    Body.isToken (Bytes.ofString entry.1) = true ∧
      ∀ b ∈ Bytes.ofString entry.2, b ≠ 0x7F ∧ (b < 0x20 → b = 0x09)

instance Message.decidableFramable (m : Message) : Decidable m.Framable :=
  inferInstanceAs (Decidable (∀ entry ∈ m.extensions.entries,
    Body.isToken (Bytes.ofString entry.1) = true ∧
      ∀ b ∈ Bytes.ofString entry.2, b ≠ 0x7F ∧ (b < 0x20 → b = 0x09)))

namespace Body

theorem isQuotable_iff {b : UInt8} :
    isQuotable b = true ↔ b ≠ 0x7F ∧ (b < 0x20 → b = 0x09) := by
  simp only [isQuotable, Bool.or_eq_true, beq_iff_eq, Bool.and_eq_true, decide_eq_true_eq,
    bne_iff_ne, ne_eq]
  constructor
  · rintro (rfl | ⟨printable, notDel⟩)
    · exact ⟨by decide, fun _ => rfl⟩
    · exact ⟨notDel, fun control => absurd control (UInt8.not_lt.mpr printable)⟩
  · rintro ⟨notDel, tab⟩
    by_cases control : b < 0x20
    · exact Or.inl (tab control)
    · exact Or.inr ⟨UInt8.not_lt.mp control, notDel⟩

theorem entryFault?_eq_none_iff {entry : String × String} :
    entryFault? entry = none ↔
      isToken (Bytes.ofString entry.1) = true ∧
        ∀ b ∈ Bytes.ofString entry.2, b ≠ 0x7F ∧ (b < 0x20 → b = 0x09) := by
  simp only [← isQuotable_iff, ← List.all_eq_true]
  unfold entryFault?
  cases isToken (Bytes.ofString entry.1) <;>
    cases (Bytes.ofString entry.2).all isQuotable <;> simp

end Body

/-- A message is refused by no body exactly if it has a frame. -/
theorem Message.unframable?_eq_none_iff {m : Message} :
    m.unframable? = none ↔ m.Framable := by
  simp only [unframable?, List.findSome?_eq_none_iff, Body.entryFault?_eq_none_iff, Framable]

theorem Message.framable_terminal : terminal.Framable := by
  intro entry h
  cases h

/-- Every frame ends with a line break. -/
theorem Message.frame_ne_nil (m : Message) : m.frame ≠ [] := by
  simp [frame, crlf]

namespace Receiver

open Body

/-! ### Sizes -/

theorem hexValue?_hexDigit {d : Nat} (h : d < 16) : hexValue? (hexDigit d) = some d := by
  revert d
  decide

/-- A size is read from its digits. -/
theorem receive_hexSize (chunks : List Chunk) (n : Nat) :
    (Receiver.mk chunks .chunkStart).receive (hexSize n) = ⟨chunks, .size n⟩ := by
  induction n using Nat.strongRecOn with
  | ind n ih =>
    by_cases h : n < 16
    · rw [hexSize_of_lt h, receive_cons, receive_nil]
      simp [step, hexValue?_hexDigit h, go]
    · rw [hexSize_of_le (by omega), receive_append, ih (n / 16) (by omega), receive_cons,
        receive_nil]
      simp only [step, hexValue?_hexDigit (Nat.mod_lt n (by omega)), go]
      rw [Nat.div_add_mod]

/-! ### Extensions -/

/-- **A receiver behind a complete part of a size line**: another extension or the end of the line
may follow, and `line` is what is known so far. -/
def HasLine (r : Receiver) (line : Line) : Prop :=
  ∀ b : UInt8, b = 0x3B ∨ b = 0x0D → r.step b = r.go (afterPart line b)

theorem hasLine_size (chunks : List Chunk) (n : Nat) :
    (Receiver.mk chunks (.size n)).HasLine ⟨n, []⟩ := by
  rintro b (rfl | rfl) <;> rfl

theorem hasLine_token (chunks : List Chunk) (line : Line) (name value : Bytes) :
    (Receiver.mk chunks (.token line name value)).HasLine (line.add name (some value)) := by
  rintro b (rfl | rfl) <;> rfl

theorem hasLine_unquoted (chunks : List Chunk) (line : Line) :
    (Receiver.mk chunks (.unquoted line)).HasLine line := by
  rintro b (rfl | rfl) <;> rfl

/-- Bytes that a phase collects one by one, each from its written form, are collected in order. -/
theorem receive_collected (chunks : List Chunk) (phase : Bytes → Phase) (written : UInt8 → Bytes)
    {bytes : Bytes}
    (takes : ∀ seen, ∀ b ∈ bytes,
      (Receiver.mk chunks (phase seen)).receive (written b) = ⟨chunks, phase (seen ++ [b])⟩)
    (seen : Bytes) :
    (Receiver.mk chunks (phase seen)).receive (bytes.flatMap written) =
      ⟨chunks, phase (seen ++ bytes)⟩ := by
  induction bytes generalizing seen with
  | nil => simp
  | cons b bytes ih =>
    rw [List.flatMap_cons, receive_append, takes seen b List.mem_cons_self,
      ih (fun seen b' hb' => takes seen b' (List.mem_cons_of_mem _ hb')), List.append_assoc,
      List.singleton_append]

/-- Token bytes are collected into a name. -/
theorem receive_name (chunks : List Chunk) (line : Line) {bytes : Bytes}
    (h : bytes.all isTokenByte = true) (name : Bytes) :
    (Receiver.mk chunks (.name line name)).receive bytes =
      ⟨chunks, .name line (name ++ bytes)⟩ := by
  have takes : ∀ seen, ∀ b ∈ bytes,
      (Receiver.mk chunks (.name line seen)).receive [b] = ⟨chunks, .name line (seen ++ [b])⟩ := by
    intro seen b hb
    simp [step, go, List.all_eq_true.mp h b hb]
  simpa using receive_collected chunks (.name line) ([·]) takes name

/-- Token bytes are collected into a value. -/
theorem receive_token (chunks : List Chunk) (line : Line) (name : Bytes) {bytes : Bytes}
    (h : bytes.all isTokenByte = true) (value : Bytes) :
    (Receiver.mk chunks (.token line name value)).receive bytes =
      ⟨chunks, .token line name (value ++ bytes)⟩ := by
  have takes : ∀ seen, ∀ b ∈ bytes,
      (Receiver.mk chunks (.token line name seen)).receive [b] =
        ⟨chunks, .token line name (seen ++ [b])⟩ := by
    intro seen b hb
    simp [step, go, List.all_eq_true.mp h b hb]
  simpa using receive_collected chunks (.token line name) ([·]) takes value

/-- The written form of a quoted byte is read back as that byte. -/
theorem receive_quotedByte (chunks : List Chunk) (line : Line) (name value : Bytes) {b : UInt8}
    (h : isQuotable b = true) :
    (Receiver.mk chunks (.quoted line name value)).receive (quotedByte b) =
      ⟨chunks, .quoted line name (value ++ [b])⟩ := by
  unfold quotedByte
  split
  · -- the backslash leads to `escape`, where the byte itself is taken whatever it is
    simp [step, go, h]
  · next plain =>
    simp only [Bool.or_eq_true, beq_iff_eq, not_or] at plain
    simp [step, go, h, plain.1, plain.2]

theorem receive_quotedBytes (chunks : List Chunk) (line : Line) (name : Bytes) {bytes : Bytes}
    (h : bytes.all isQuotable = true) (value : Bytes) :
    (Receiver.mk chunks (.quoted line name value)).receive (bytes.flatMap quotedByte) =
      ⟨chunks, .quoted line name (value ++ bytes)⟩ :=
  receive_collected chunks (.quoted line name) quotedByte
    (fun seen b hb => receive_quotedByte chunks line name seen (List.all_eq_true.mp h b hb)) value

/-- **A written value is read back**, from either of its forms. -/
theorem receive_value (chunks : List Chunk) (line : Line) (name : Bytes) {bytes : Bytes}
    (h : bytes.all isQuotable = true) :
    ((Receiver.mk chunks (.equals line name)).receive (value bytes)).chunks = chunks ∧
      ((Receiver.mk chunks (.equals line name)).receive (value bytes)).HasLine
        (line.add name (some bytes)) := by
  unfold value
  split
  · next token =>
    cases bytes with
    | nil => simp [isToken] at token
    | cons b rest =>
      simp only [isToken, List.isEmpty_cons, Bool.not_false, Bool.true_and, List.all_cons,
        Bool.and_eq_true] at token
      have notQuote : b ≠ 0x22 := by
        rintro rfl
        exact absurd token.1 (by decide)
      have first : (Receiver.mk chunks (.equals line name)).step b =
          ⟨chunks, .token line name [b]⟩ := by
        simp [step, go, notQuote, token.1]
      rw [receive_cons, first, receive_token _ _ _ token.2]
      exact ⟨rfl, hasLine_token _ _ _ _⟩
  · have opened : (Receiver.mk chunks (.equals line name)).step 0x22 =
        ⟨chunks, .quoted line name []⟩ := rfl
    rw [quotedString, receive_cons, opened, receive_append, receive_quotedBytes _ _ _ h]
    exact ⟨rfl, hasLine_unquoted _ _⟩

/-- **An extension is read back** behind any complete part of a size line. -/
theorem receive_extension {r : Receiver} {line : Line} (hr : r.HasLine line)
    {entry : String × String} (h : entryFault? entry = none) :
    (r.receive (extension entry)).chunks = r.chunks ∧
      (r.receive (extension entry)).HasLine
        (line.add (Bytes.ofString entry.1) (some (Bytes.ofString entry.2))) := by
  obtain ⟨isName, isValue⟩ := entryFault?_eq_none_iff.mp h
  simp only [isToken, Bool.and_eq_true, Bool.not_eq_true'] at isName
  have quotable : (Bytes.ofString entry.2).all isQuotable = true :=
    List.all_eq_true.mpr fun b hb => isQuotable_iff.mpr (isValue b hb)
  have semicolon : r.step 0x3B = ⟨r.chunks, .name line []⟩ := hr 0x3B (Or.inl rfl)
  have equals : (Receiver.mk r.chunks (.name line (Bytes.ofString entry.1))).step 0x3D =
      ⟨r.chunks, .equals line (Bytes.ofString entry.1)⟩ := by
    simp [step, go, isName.1, show isTokenByte 0x3D = false from rfl]
  rw [extension, receive_cons, semicolon, receive_append, receive_name _ _ isName.2,
    List.nil_append, receive_cons, equals]
  exact receive_value _ _ _ quotable

/-- The extensions of a size line, read one after another. -/
theorem receive_extensions {entries : List (String × String)}
    (h : ∀ entry ∈ entries, entryFault? entry = none) {r : Receiver} {line : Line}
    (hr : r.HasLine line) :
    (r.receive (entries.flatMap extension)).chunks = r.chunks ∧
      (r.receive (entries.flatMap extension)).HasLine
        ⟨line.size, line.extensions ++
          entries.map fun entry => (Bytes.ofString entry.1, some (Bytes.ofString entry.2))⟩ := by
  induction entries generalizing r line with
  | nil => simpa using hr
  | cons entry entries ih =>
    obtain ⟨sameChunks, hasLine⟩ := receive_extension hr (h entry List.mem_cons_self)
    obtain ⟨stillChunks, hasLines⟩ :=
      ih (fun e he => h e (List.mem_cons_of_mem _ he)) hasLine
    rw [List.flatMap_cons, receive_append]
    refine ⟨stillChunks.trans sameChunks, ?_⟩
    simpa [Line.add] using hasLines

/-! ### Frames -/

/-- A size line is read back, up to its line break. -/
theorem receive_sizeLine (chunks : List Chunk) (size : Nat) {e : Extensions}
    (h : ∀ entry ∈ e.entries, entryFault? entry = none) :
    (Receiver.mk chunks .chunkStart).receive (sizeLine size e) =
      let line : Line := ⟨size, e.entries.map fun entry =>
        (Bytes.ofString entry.1, some (Bytes.ofString entry.2))⟩
      ⟨chunks, if size = 0 then .trailer line else .data line []⟩ := by
  have := receive_extensions h (hasLine_size chunks size)
  rw [sizeLine, List.append_assoc, receive_append, receive_hexSize, receive_append]
  generalize (Receiver.mk chunks (.size size)).receive (e.entries.flatMap extension) = r at this
  obtain ⟨sameChunks, hasLine⟩ := this
  have lineReturn := hasLine 0x0D (Or.inr rfl)
  rw [crlf, receive_cons, lineReturn, receive_cons, receive_nil]
  simp [step, go, afterPart, sameChunks]

/-- As many bytes as the size says are data, whatever they are. -/
theorem receive_data (chunks : List Chunk) (line : Line) {bytes : Bytes} (h : bytes ≠ [])
    (data : Bytes) (size : data.length + bytes.length = line.size) :
    (Receiver.mk chunks (.data line data)).receive bytes =
      ⟨chunks, .dataEnd line (data ++ bytes)⟩ := by
  induction bytes generalizing data with
  | nil => exact absurd rfl h
  | cons b bytes ih =>
    rw [List.length_cons] at size
    cases bytes with
    | nil =>
      have last : ¬ data.length + 1 < line.size := by simp at size; omega
      simp [step, go, last]
    | cons b' bytes =>
      have more : data.length + 1 < line.size := by simp at size; omega
      rw [receive_cons, step]
      simp only [more, if_true, go]
      rw [ih (by simp) (data ++ [b]) (by simp at size ⊢; omega), List.append_assoc,
        List.singleton_append]

/-- **A frame is received as its message's chunk.** Only the last chunk ends the body. -/
theorem receive_frame (chunks : List Chunk) {m : Message} (h : m.unframable? = none) :
    (Receiver.mk chunks .chunkStart).receive m.frame =
      ⟨chunks ++ [m.chunk], if m.isLast then .ended else .chunkStart⟩ := by
  have entries : ∀ entry ∈ m.extensions.entries, entryFault? entry = none := by
    simpa [Message.unframable?] using h
  rw [Message.frame, receive_append, receive_sizeLine chunks m.payload.length entries]
  by_cases last : m.payload = []
  · simp [last, Message.isLast, crlf, step, go, push, Line.chunk, Message.chunk]
  · have sized : m.payload.length ≠ 0 := by simpa using last
    simp only [sized, if_false]
    rw [receive_append, receive_data _ _ last [] (by simp)]
    simp [crlf, step, go, push, Line.chunk, Message.chunk, Message.isLast, last]

/-- **Frames are received in order**, up to the last chunk and with it. -/
theorem receive_frames (chunks : List Chunk) {ms : List Message}
    (framable : ∀ m ∈ ms, m.unframable? = none) (goesOn : ∀ m ∈ ms, m.isLast = false) :
    (Receiver.mk chunks .chunkStart).receive (ms.flatMap Message.frame) =
      ⟨chunks ++ ms.map Message.chunk, .chunkStart⟩ := by
  induction ms generalizing chunks with
  | nil => simp
  | cons m ms ih =>
    rw [List.flatMap_cons, receive_append, receive_frame chunks (framable m List.mem_cons_self),
      goesOn m List.mem_cons_self]
    simp only [Bool.false_eq_true, if_false]
    rw [ih _ (fun n hn => framable n (List.mem_cons_of_mem _ hn))
      (fun n hn => goesOn n (List.mem_cons_of_mem _ hn)), List.map_cons, List.append_assoc,
      List.singleton_append]

/-- **A complete body is received in full**: the frames of messages that go on, then that of one
that ends it. -/
theorem body?_frames {ms : List Message} {last : Message}
    (framable : ∀ m ∈ ms ++ [last], m.unframable? = none)
    (goesOn : ∀ m ∈ ms, m.isLast = false) (ends : last.isLast = true) :
    body? ((ms ++ [last]).flatMap Message.frame) = some ((ms ++ [last]).map Message.chunk) := by
  have received : start.receive ((ms ++ [last]).flatMap Message.frame) =
      ⟨(ms ++ [last]).map Message.chunk, .ended⟩ := by
    rw [List.flatMap_append, receive_append, start,
      receive_frames [] (fun m hm => framable m (List.mem_append_left _ hm)) goesOn,
      List.flatMap_cons, List.flatMap_nil, List.append_nil,
      receive_frame _ (framable last (by simp)), ends]
    simp
  rw [body?, received]
  exact if_pos rfl

end Receiver

end Outbox
