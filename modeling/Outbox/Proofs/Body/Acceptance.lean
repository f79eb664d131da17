import Outbox.Body.Encoder
import Outbox.Proofs.Body

/-!
# What an encoder accepts

An encoder takes a message exactly if all its extensions can be written, and a message that it
refuses leaves no trace, neither in the buffer nor in the encoder. Behind the end of its body it
takes everything and does nothing. So of any calls only those matter that were accepted, up to the
first one that ended the body: the others can be left out.

Which extensions can be written is told here without the encoder. A name has to be a token of the
header grammar, which is a matter of its characters: visible ones of ASCII that are no delimiters.
The encoder looks at the bytes of the name instead, and the two agree because every byte of any
other character is outside ASCII.

## Main Definitions

* `Body.IsTokenName`, `Body.Faulty` — the names that are tokens, and what is wrong with an extension
* `Body.Encoder.accepted`, `Body.upToLast` — the messages of the calls that matter
* `Body.Encoder.accepts_framable_only` — what is accepted, and that nothing else leaves a trace
-/

namespace Outbox

/-! ### Characters and their bytes -/

theorem utf8EncodeChar_of_lt {c : Char} (ascii : c.toNat < 0x80) :
    String.utf8EncodeChar c = [UInt8.ofNat c.toNat] := by
  unfold String.utf8EncodeChar
  exact if_pos (Nat.le_of_lt_succ ascii)

theorem le_ofNat {n : Nat} (beyond : 0x80 ≤ n) (inside : n < 0x100) : 0x80 ≤ UInt8.ofNat n := by
  rw [UInt8.le_iff_toNat_le, UInt8.toNat_ofNat', Nat.mod_eq_of_lt inside]
  exact beyond

/-- No byte of a character outside ASCII is one of ASCII. -/
theorem le_of_mem_utf8EncodeChar {c : Char} (beyond : 0x80 ≤ c.toNat) {b : UInt8}
    (h : b ∈ String.utf8EncodeChar c) : 0x80 ≤ b := by
  unfold String.utf8EncodeChar at h
  have notAscii : ¬ c.val.toNat ≤ 0x7F := Nat.not_le.mpr beyond
  simp only [if_neg notAscii] at h
  -- the first byte says how many there are, and every byte has its highest bit set
  split at h
  · simp only [List.mem_cons, List.not_mem_nil, or_false] at h
    rcases h with rfl | rfl <;> exact le_ofNat (by omega) (by omega)
  · split at h
    · simp only [List.mem_cons, List.not_mem_nil, or_false] at h
      rcases h with rfl | rfl | rfl <;> exact le_ofNat (by omega) (by omega)
    · simp only [List.mem_cons, List.not_mem_nil, or_false] at h
      rcases h with rfl | rfl | rfl | rfl <;> exact le_ofNat (by omega) (by omega)

namespace Body

/-! ### Tokens -/

/-- The delimiters of a header line: ``"(),/:;<=>?@[\]{}``. -/
def delimiters : List Char := "\"(),/:;<=>?@[\\]\x7b\x7d".toList

/-- **A character of a token**: a visible one of ASCII that is no delimiter. -/
def IsTokenChar (c : Char) : Prop := 0x21 ≤ c.toNat ∧ c.toNat ≤ 0x7E ∧ c ∉ delimiters

/-- **A name that is a token**: at least one character, and only those of tokens. -/
def IsTokenName (name : String) : Prop := name ≠ "" ∧ ∀ c ∈ name.toList, IsTokenChar c

instance : DecidablePred IsTokenChar := fun c =>
  inferInstanceAs (Decidable (0x21 ≤ c.toNat ∧ c.toNat ≤ 0x7E ∧ c ∉ delimiters))

instance : DecidablePred IsTokenName := fun name =>
  -- by the characters of the name, not by all characters there are
  have : Decidable (∀ c ∈ name.toList, IsTokenChar c) := List.decidableBAll IsTokenChar name.toList
  inferInstanceAs (Decidable (name ≠ "" ∧ ∀ c ∈ name.toList, IsTokenChar c))

theorem isTokenByte_iff_of_ascii {n : Nat} (ascii : n < 0x80) :
    isTokenByte (UInt8.ofNat n) = true ↔ IsTokenChar (Char.ofNat n) := by
  revert n
  decide +kernel

theorem lt_of_isTokenByte {b : UInt8} (h : isTokenByte b = true) : b < 0x80 := by
  have all : ∀ n < 0x100, isTokenByte (UInt8.ofNat n) = true → UInt8.ofNat n < 0x80 := by
    decide +kernel
  have this := all b.toNat b.toNat_lt
  rw [UInt8.ofNat_toNat] at this
  exact this h

/-- The bytes of a character are those of a token exactly if the character is. -/
theorem all_isTokenByte_iff {c : Char} :
    (∀ b ∈ String.utf8EncodeChar c, isTokenByte b = true) ↔ IsTokenChar c := by
  by_cases ascii : c.toNat < 0x80
  · rw [utf8EncodeChar_of_lt ascii, List.forall_mem_singleton, isTokenByte_iff_of_ascii ascii,
      Char.ofNat_toNat]
  · constructor
    · intro all
      obtain ⟨b, bytes, first⟩ := List.exists_cons_of_ne_nil (String.utf8EncodeChar_ne_nil (c := c))
      have listed : b ∈ String.utf8EncodeChar c := first ▸ List.mem_cons_self
      have low := lt_of_isTokenByte (all b listed)
      exact absurd low (UInt8.not_lt.mpr (le_of_mem_utf8EncodeChar (Nat.not_lt.mp ascii) listed))
    · rintro ⟨-, visible, -⟩
      omega

/-- **The encoder's tokens are those of the grammar.** -/
theorem isToken_ofString_iff {name : String} :
    isToken (Bytes.ofString name) = true ↔ IsTokenName name := by
  have nonempty : Bytes.ofString name = [] ↔ name = "" := by
    refine ⟨fun nothing => Bytes.ofString_injective nothing, fun nothing => ?_⟩
    rw [nothing]
    rfl
  have bytes : (∀ b ∈ Bytes.ofString name, isTokenByte b = true) ↔
      ∀ c ∈ name.toList, IsTokenChar c := by
    simp only [← all_isTokenByte_iff]
    simp only [Bytes.ofString, utf8, List.mem_flatMap]
    constructor
    · intro all c hc b hb
      exact all b ⟨c, hc, hb⟩
    · rintro all b ⟨c, hc, hb⟩
      exact all c hc b hb
  simp [isToken, IsTokenName, nonempty, ← bytes]

/-! ### What is wrong with an extension -/

/-- **What is wrong with an extension**: its name is no token, or its name is one and its value
holds DEL or a control byte other than the tab. -/
inductive Faulty (entry : String × String) : Unframable → Prop where
  | name (noToken : ¬ IsTokenName entry.1) : Faulty entry (.badName entry.1)
  | value {b : UInt8} (token : IsTokenName entry.1) (held : b ∈ Bytes.ofString entry.2)
    (control : b = 0x7F ∨ b < 0x20 ∧ b ≠ 0x09) : Faulty entry (.badValue entry.1)

theorem exists_faulty_iff {entry : String × String} :
    (∃ fault, Faulty entry fault) ↔
      ¬ IsTokenName entry.1 ∨
        ∃ b ∈ Bytes.ofString entry.2, b = 0x7F ∨ b < 0x20 ∧ b ≠ 0x09 := by
  constructor
  · rintro ⟨fault, noToken | ⟨-, held, control⟩⟩
    · exact Or.inl noToken
    · exact Or.inr ⟨_, held, control⟩
  · rintro (noToken | ⟨b, held, control⟩)
    · exact ⟨_, .name noToken⟩
    · by_cases token : IsTokenName entry.1
      · exact ⟨_, .value token held control⟩
      · exact ⟨_, .name token⟩

theorem isQuotable_eq_false_iff {b : UInt8} :
    isQuotable b = false ↔ b = 0x7F ∨ b < 0x20 ∧ b ≠ 0x09 := by
  rw [← Bool.not_eq_true, isQuotable_iff]
  by_cases del : b = 0x7F <;> simp [del]

/-- **The encoder finds what is wrong with an extension**, and nothing else. -/
theorem entryFault?_eq_some_iff {entry : String × String} {fault : Unframable} :
    entryFault? entry = some fault ↔ Faulty entry fault := by
  have token : isToken (Bytes.ofString entry.1) = true ↔ IsTokenName entry.1 :=
    isToken_ofString_iff
  unfold entryFault?
  by_cases named : isToken (Bytes.ofString entry.1) = true
  · have isName := token.mp named
    by_cases quotable : (Bytes.ofString entry.2).all isQuotable = true
    · refine iff_of_false (by simp [named, quotable]) ?_
      rintro (noToken | ⟨-, held, control⟩)
      · exact noToken isName
      · have fine := List.all_eq_true.mp quotable _ held
        rw [isQuotable_eq_false_iff.mpr control] at fine
        cases fine
    · rw [Bool.not_eq_true] at quotable
      obtain ⟨b, held, bad⟩ := List.all_eq_false.mp quotable
      have control := isQuotable_eq_false_iff.mp (Bool.not_eq_true _ ▸ bad)
      simp only [named, quotable, Bool.not_true, Bool.not_false, Bool.false_eq_true, if_false,
        if_true, Option.some.injEq]
      constructor
      · rintro rfl
        exact .value isName held control
      · rintro (noToken | -)
        · exact absurd isName noToken
        · rfl
  · have noName := fun isName => named (token.mpr isName)
    simp only [named, Bool.not_false, if_true, Option.some.injEq]
    constructor
    · rintro rfl
      exact .name noName
    · rintro (- | ⟨isName, -, -⟩)
      · rfl
      · exact absurd isName noName

end Body

/-- **A message is refused over the first extension that cannot be written.** -/
theorem Message.unframable?_eq_some_iff {m : Message} {fault : Unframable} :
    m.unframable? = some fault ↔
      ∃ before entry after, m.extensions.entries = before ++ entry :: after ∧
        (∀ other ∈ before, ∀ fault, ¬ Body.Faulty other fault) ∧ Body.Faulty entry fault := by
  have fine : ∀ {entry : String × String},
      Body.entryFault? entry = none ↔ ∀ fault, ¬ Body.Faulty entry fault := by
    intro entry
    simp only [Option.eq_none_iff_forall_ne_some, ne_eq, Body.entryFault?_eq_some_iff]
  simp only [unframable?, List.findSome?_eq_some_iff, Body.entryFault?_eq_some_iff, fine]
  constructor
  · rintro ⟨before, entry, after, all, faulty, others⟩
    exact ⟨before, entry, after, all, others, faulty⟩
  · rintro ⟨before, entry, after, all, others, faulty⟩
    exact ⟨before, entry, after, all, faulty, others⟩

namespace Body

/-! ### The calls that matter -/

/-- **Messages up to the first empty one**, that one included. -/
def upToLast : List Message → List Message
  | [] => []
  | m :: ms => if m.isLast then [m] else m :: upToLast ms

namespace Encoder

/-- The messages of these calls that are accepted. -/
def accepted (e : Encoder) (ms : List Message) : List Message :=
  ((ms.zip (e.encodeAll ms).1).filter fun call => call.2.isOk).map Prod.fst

theorem accepted_cons_of_ok {e e' : Encoder} {m : Message} (taken : e.encode m = (.ok (), e'))
    (ms : List Message) : e.accepted (m :: ms) = m :: e'.accepted ms := by
  simp [accepted, encodeAll_cons, taken, Except.isOk, Except.toBool]

theorem accepted_cons_of_error {e e' : Encoder} {m : Message} {error : TransferError}
    (refused : e.encode m = (.error error, e')) (ms : List Message) :
    e.accepted (m :: ms) = e'.accepted ms := by
  simp [accepted, encodeAll_cons, refused, Except.isOk, Except.toBool]

/-- Behind the end of its body an encoder takes any messages and stays as it is. -/
theorem encodeAll_of_ended {e : Encoder} (ended : e.body.ended = true) (ms : List Message) :
    (e.encodeAll ms).2 = e ∧ ∀ result ∈ (e.encodeAll ms).1, result = .ok () := by
  induction ms with
  | nil => simp
  | cons m ms ih =>
    rw [encodeAll_cons, encode_of_ended ended]
    simpa using ih

/-- **Only accepted calls up to the end of the body matter.** Without the others the encoder ends up
the same, and nothing is refused. -/
theorem encodeAll_upToLast_accepted (e : Encoder) (ms : List Message) :
    (e.encodeAll (upToLast (e.accepted ms))).2 = (e.encodeAll ms).2 ∧
      ∀ result ∈ (e.encodeAll (upToLast (e.accepted ms))).1, result = .ok () := by
  induction ms generalizing e with
  | nil => exact ⟨rfl, nofun⟩
  | cons m ms ih =>
    cases ended : e.body.ended with
    | true =>
      obtain ⟨same, taken⟩ := encodeAll_of_ended ended (upToLast (e.accepted (m :: ms)))
      exact ⟨by rw [same, (encodeAll_of_ended ended _).1], taken⟩
    | false =>
      cases reason : m.unframable? with
      | some fault =>
        have refused := encode_of_unframable ended reason
        rw [accepted_cons_of_error refused, encodeAll_cons e m ms, refused]
        exact ih e
      | none =>
        have taken := encode_of_framable ended reason
        rw [accepted_cons_of_ok taken, encodeAll_cons e m ms, upToLast, taken]
        cases last : m.isLast with
        | true =>
          rw [last] at taken
          rw [if_pos rfl, encodeAll_cons, taken, (encodeAll_of_ended rfl ms).1]
          simp
        | false =>
          rw [last] at taken
          obtain ⟨same, allTaken⟩ :=
            ih ⟨⟨false, e.body.dataSize + m.payload.length⟩, e.buffer ++ m.frame⟩
          rw [if_neg Bool.false_ne_true, encodeAll_cons, taken]
          refine ⟨same, fun result listed => ?_⟩
          rcases List.mem_cons.mp listed with rfl | later
          · rfl
          · exact allTaken result later

/-- On an encoder whose body has not ended these are the calls whose message can be written, up to
the first empty one. -/
theorem upToLast_accepted {e : Encoder} (unfinished : e.body.ended = false) (ms : List Message) :
    upToLast (e.accepted ms) = upToLast (ms.filter (·.Framable)) := by
  induction ms generalizing e with
  | nil => rfl
  | cons m ms ih =>
    cases reason : m.unframable? with
    | some fault =>
      have noFrame : ¬ m.Framable := by simp [← Message.unframable?_eq_none_iff, reason]
      rw [accepted_cons_of_error (encode_of_unframable unfinished reason),
        List.filter_cons_of_neg (by simpa using noFrame), ih unfinished]
    | none =>
      have frame := Message.unframable?_eq_none_iff.mp reason
      rw [accepted_cons_of_ok (encode_of_framable unfinished reason),
        List.filter_cons_of_pos (by simpa using frame), upToLast, upToLast]
      cases last : m.isLast with
      | true => rfl
      | false => rw [ih rfl]

/-- **An encoder accepts what can be written, and nothing else leaves a trace.** Take any encoder,
whatever has been written with it.

* While its body has not ended, it refuses a message exactly if some extension has a name that is no
  token, or a value that holds DEL or a control byte other than the tab. It then tells what is wrong
  with the first such extension, with the name if that is wrong, and it is as it was, together with
  its buffer.
* Behind the end of its body it takes every message and stays as it is.
* Of any calls, only those count that are accepted, up to the first of an empty message. Without the
  others nothing is refused, and the encoder and its buffer end up the same. While the body has not
  ended, these are the calls whose messages can be written. -/
theorem accepts_framable_only (e : Encoder) :
    (e.body.ended = false → ∀ m : Message,
      ((∃ error, (e.encode m).1 = .error error) ↔
        ∃ entry ∈ m.extensions.entries, ¬ IsTokenName entry.1 ∨
          ∃ b ∈ Bytes.ofString entry.2, b = 0x7F ∨ b < 0x20 ∧ b ≠ 0x09) ∧
      ∀ error, (e.encode m).1 = .error error →
        (e.encode m).2 = e ∧
          ∃ before entry after fault, m.extensions.entries = before ++ entry :: after ∧
            (∀ other ∈ before, ∀ fault, ¬ Faulty other fault) ∧ Faulty entry fault ∧
              error = .invalidBody fault.message) ∧
    (e.body.ended = true → ∀ m : Message, e.encode m = (.ok (), e)) ∧
    (∀ ms : List Message,
      (e.encodeAll (upToLast (e.accepted ms))).2 = (e.encodeAll ms).2 ∧
        (∀ result ∈ (e.encodeAll (upToLast (e.accepted ms))).1, result = .ok ()) ∧
        (e.body.ended = false →
          upToLast (e.accepted ms) = upToLast (ms.filter (·.Framable)))) := by
  refine ⟨fun unfinished m => ?_, fun ended m => encode_of_ended ended m, fun ms => ?_⟩
  · cases reason : m.unframable? with
    | none =>
      rw [encode_of_framable unfinished reason]
      refine ⟨iff_of_false (by simp) ?_, nofun⟩
      rintro ⟨entry, listed, wrong⟩
      obtain ⟨fault, faulty⟩ := exists_faulty_iff.mpr wrong
      have fine := List.findSome?_eq_none_iff.mp reason entry listed
      rw [entryFault?_eq_some_iff.mpr faulty] at fine
      cases fine
    | some fault =>
      obtain ⟨before, entry, after, all, others, faulty⟩ :=
        Message.unframable?_eq_some_iff.mp reason
      rw [encode_of_unframable unfinished reason]
      refine ⟨iff_of_true ⟨_, rfl⟩ ⟨entry, ?_, exists_faulty_iff.mp ⟨fault, faulty⟩⟩, ?_⟩
      · simp [all]
      · rintro error ⟨⟩
        exact ⟨rfl, before, entry, after, fault, all, others, faulty, rfl⟩
  · obtain ⟨same, taken⟩ := encodeAll_upToLast_accepted e ms
    exact ⟨same, taken, fun unfinished => upToLast_accepted unfinished ms⟩

/-- An encoder at work, with a message whose second extension is the first that cannot be written
and is wrong in its name as well as in its value, and the same message once more behind the last
one. -/
theorem bad_message_leaves_no_trace :
    let e : Encoder := ⟨⟨false, 7⟩, [0x2A]⟩
    let good : Message := ⟨[0x61], ⟨[("Id", "\t\"é\"")]⟩⟩
    let bad : Message := ⟨[0x62], ⟨[("Id", ""), ("naïve", "\n"), ("", "")]⟩⟩
    let last : Message := ⟨[], ⟨[("End", "1")]⟩⟩
    let ms := [bad, good, bad, last, good, bad]
    e.body.ended = false ∧
      (e.encode bad).1 = .error (.invalidBody "invalid chunk extension name: \"naïve\"") ∧
      (e.encode bad).2 = e ∧
      upToLast (e.accepted ms) = [good, last] ∧
      (e.encodeAll [good, last]).2 = (e.encodeAll ms).2 ∧ (e.encodeAll ms).2.body = ⟨true, 8⟩ := by
  intro e good bad last ms
  have unfinished : e.body.ended = false := rfl
  obtain ⟨whileOpen, -, calls⟩ := accepts_framable_only e
  obtain ⟨same, -, kept⟩ := calls ms
  have named : ∃ entry ∈ bad.extensions.entries, ¬ IsTokenName entry.1 ∨
      ∃ b ∈ Bytes.ofString entry.2, b = 0x7F ∨ b < 0x20 ∧ b ≠ 0x09 :=
    ⟨("naïve", "\n"), by simp [bad], Or.inl (by decide +kernel)⟩
  obtain ⟨refused, told⟩ := whileOpen unfinished bad
  obtain ⟨error, failed⟩ := refused.mpr named
  have unchanged := (told error failed).1
  have reason : bad.unframable? = some (.badName "naïve") := by decide +kernel
  have matter : upToLast (e.accepted ms) = [good, last] := by
    rw [kept unfinished]
    decide +kernel
  rw [matter] at same
  refine ⟨unfinished, ?_, unchanged, matter, same, ?_⟩
  · have text : (Unframable.badName "naïve").message =
        "invalid chunk extension name: \"naïve\"" := by decide +kernel
    rw [encode_of_unframable unfinished reason, TransferError.ofUnframable, text]
  · rw [← same]
    decide +kernel

end Encoder
end Body
end Outbox
