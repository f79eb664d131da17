import Mathlib.Data.List.Forall2
import Outbox.Charset.Japanese.Scanner
import Outbox.Proofs.Charset

/-!
# What ISO-2022-JP writes can be read in step

A scan of the bytes of a text goes along with the encoder: behind each scalar it is between two
characters, in the encoder's own shift state, and has read one character more. This holds from every
shift state, so it goes through for a missing scalar too, which is a question mark behind the return
to ASCII that it may need. At the end both are in ASCII, which is where the next text begins.

No scalar gets an escape byte or a shift byte through: what the encoder has is plain ASCII, Roman
text or a pair. So a text cannot move the scan by itself.

## Main Definitions

* `Token.IsValid`, `Token.StandsFor` — a character that may stand in the bytes, and its scalar
* `Iso2022Jp.exists_tokens` — scan and encoder in step, over a text
* `Iso2022Jp.scans_in_step` — what a receiver makes of the bytes of a text
-/

namespace Outbox.Charset.Iso2022Jp

variable {c : Char} {bytes : Bytes} {shift next : Shift} {text : List Char}

/-! ### Characters -/

/-- **A character that may stand in the bytes**: a single byte outside the two-byte state, or a pair
of bytes from 0x21 to 0x7E. -/
def Token.IsValid : Token → Prop
  | .single shift b => shift ≠ .kanji ∧ isSingle b = true
  | .pair a b => (0x21 ≤ a ∧ a ≤ 0x7E) ∧ 0x21 ≤ b ∧ b ≤ 0x7E

/-- **A character stands for a scalar**: it is what its shift state writes for it, or for the
question mark where the scalar is missing. -/
def Token.StandsFor (t : Token) (c : Char) : Prop :=
  t.IsValid ∧ written? t.shift (iso2022Jp.standIn c) = some t.bytes

theorem isPairByte_iff {b : UInt8} : isPairByte b = true ↔ 0x21 ≤ b ∧ b ≤ 0x7E := by
  simp [isPairByte]

theorem isSingle_iff {b : UInt8} :
    isSingle b = true ↔ b < 0x80 ∧ b ≠ 0x0E ∧ b ≠ 0x0F ∧ b ≠ 0x1B := by
  simp [isSingle, and_assoc]

/-- Plain ASCII may stand for itself. -/
theorem isSingle_of_ascii (ascii : c.toNat < 0x80) (plain : isShiftControl c = false) :
    isSingle c.toNat.toUInt8 = true := by
  have all : ∀ n < 0x80, isShiftControl (Char.ofNat n) = false → isSingle n.toUInt8 = true := by
    decide +kernel
  exact all c.toNat ascii (by rwa [Char.ofNat_toNat])

/-- A pointer into 94 rows of 94 cells is written as two bytes from 0x21 to 0x7E. -/
theorem isPairByte_of_lt {n : Nat} (inside : n < 94) :
    0x21 ≤ (0x21 + n).toUInt8 ∧ (0x21 + n).toUInt8 ≤ 0x7E := by
  have value : (0x21 + n).toUInt8.toNat = 0x21 + n := Nat.mod_eq_of_lt (by omega)
  rw [UInt8.le_iff_toNat_le, UInt8.le_iff_toNat_le, value]
  exact ⟨Nat.le_add_right 0x21 n, by simpa using (by omega : 0x21 + n ≤ 0x7E)⟩

/-- **What a shift state writes is one character**, in that state. -/
theorem exists_token_of_written? (here : written? shift c = some bytes) :
    ∃ t : Token, t.IsValid ∧ t.shift = shift ∧ t.bytes = bytes := by
  cases shift with
  | ascii =>
    simp only [written?, Option.ite_none_right_eq_some, Bool.and_eq_true, decide_eq_true_eq,
      Bool.not_eq_true', Option.some.injEq] at here
    obtain ⟨⟨ascii, plain⟩, rfl⟩ := here
    exact ⟨.single .ascii c.toNat.toUInt8, ⟨by decide, isSingle_of_ascii ascii plain⟩, rfl, rfl⟩
  | roman =>
    simp only [written?, Option.ite_none_left_eq_some, Bool.or_eq_true, not_or,
      Bool.not_eq_true, Option.map_eq_some_iff] at here
    obtain ⟨⟨-, plain⟩, b, roman, rfl⟩ := here
    refine ⟨.single .roman b, ⟨by decide, ?_⟩, rfl, rfl⟩
    unfold jisRoman? at roman
    split at roman
    · next ascii =>
      cases roman
      exact isSingle_of_ascii ascii plain
    · -- the yen sign and the overline, in the places of backslash and tilde
      split at roman
      · cases roman
        decide
      · split at roman
        · cases roman
          decide
        · cases roman
  | kanji =>
    simp only [written?, Option.ite_none_left_eq_some, Option.map_eq_some_iff] at here
    obtain ⟨-, pointer, found, rfl⟩ := here
    have inside : pointer < 94 * 94 := by
      simpa using (Option.filter_eq_some_iff.mp found).2
    refine ⟨.pair (0x21 + pointer / 94).toUInt8 (0x21 + pointer % 94).toUInt8, ?_, rfl, rfl⟩
    exact ⟨isPairByte_of_lt (Nat.div_lt_of_lt_mul inside),
      isPairByte_of_lt (Nat.mod_lt pointer (by decide))⟩

/-- What would act as a shift or an escape is missing. -/
theorem step?_of_isShiftControl (control : isShiftControl c = true) (shift : Shift) :
    step? shift c = none := by
  have nowhere : home? c = none := by
    simp only [isShiftControl, Bool.or_eq_true, decide_eq_true_eq] at control
    rcases control with (rfl | rfl) | rfl <;> rfl
  rw [← Option.not_isSome_iff_eq_none, isSome_step?, nowhere]
  exact Bool.false_ne_true

/-- **A missing scalar stands as a question mark**, outside the two-byte state. -/
theorem Token.StandsFor.of_missing {t : Token} (stands : t.StandsFor c)
    (missing : iso2022Jp.step? shift c = none) :
    ∃ state : Shift, t = .single state 0x3F ∧ state ≠ .kanji := by
  obtain ⟨valid, written⟩ := stands
  rw [standIn_of_none missing] at written
  cases t with
  | single state b =>
    have outside : state ≠ .kanji := valid.1
    have question : written? state replacement = some [0x3F] := by
      cases state with
      | kanji => exact absurd rfl outside
      | _ => rfl
    rw [Token.shift, question] at written
    cases written
    exact ⟨state, rfl, outside⟩
  | pair a b => cases written

/-! ### In step with the encoder -/

/-- An escape sequence takes the scan to its shift state. -/
theorem scan?_escape (tokens : List Token) (shift next : Shift) :
    Scanner.scan? ⟨tokens, .between shift⟩ next.escape = some ⟨tokens, .between next⟩ := by
  cases next <;> rfl

/-- The bytes of a character are scanned as that. -/
theorem scan?_token {t : Token} (valid : t.IsValid) (tokens : List Token) :
    Scanner.scan? ⟨tokens, .between t.shift⟩ t.bytes =
      some ⟨tokens ++ [t], .between t.shift⟩ := by
  cases t with
  | single shift b =>
    obtain ⟨notKanji, single⟩ := valid
    obtain ⟨-, -, -, noEscape⟩ := isSingle_iff.mp single
    simp [Scanner.scan?, Steps.run?_cons, Token.bytes, Token.shift, Scanner.step?, noEscape,
      notKanji, single, Scanner.push]
  | pair a b =>
    obtain ⟨first, second⟩ := valid
    have noEscape : a ≠ 0x1B := by
      rintro rfl
      exact absurd first.1 (by decide)
    simp [Scanner.scan?, Steps.run?_cons, Token.bytes, Token.shift, Scanner.step?, noEscape,
      isPairByte_iff.mpr first, isPairByte_iff.mpr second, Scanner.go, Scanner.push]

/-- **A scalar moves the scan by one character**, into the encoder's new shift state. -/
theorem exists_token_of_step? (put : step? shift c = some (bytes, next)) :
    ∃ t : Token, t.IsValid ∧ t.shift = next ∧ written? next c = some t.bytes ∧
      ∀ tokens, Scanner.scan? ⟨tokens, .between shift⟩ bytes =
        some ⟨tokens ++ [t], .between next⟩ := by
  rcases step?_cases put with ⟨rfl, here⟩ | ⟨-, -, inside, there, rfl⟩
  · obtain ⟨t, valid, rfl, rfl⟩ := exists_token_of_written? here
    exact ⟨t, valid, rfl, here, scan?_token valid⟩
  · obtain ⟨t, valid, rfl, rfl⟩ := exists_token_of_written? there
    refine ⟨t, valid, rfl, there, fun tokens => ?_⟩
    exact Steps.run?_append_iff.mpr ⟨_, scan?_escape tokens shift _, scan?_token valid tokens⟩

/-- **Scan and encoder go in step over a text**, from any shift state, and end in ASCII. -/
theorem exists_tokens (shift : Shift) (text : List Char) :
    ∃ tokens, List.Forall₂ Token.StandsFor tokens text ∧
      ∀ before, Scanner.scan? ⟨before, .between shift⟩ (iso2022Jp.encodeFrom shift text) =
        some ⟨before ++ tokens, .between .ascii⟩ := by
  -- from every shift state, because a scalar may leave the encoder in another
  induction text generalizing shift with
  | nil =>
    refine ⟨[], .nil, fun before => ?_⟩
    rw [encodeFrom_nil, finish, List.append_nil]
    split
    · next home => rw [home, Scanner.scan?, Steps.run?_nil]
    · exact scan?_escape before shift .ascii
  | cons c text ih =>
    obtain ⟨bytes, next, put⟩ : ∃ bytes next, iso2022Jp.put shift c = (bytes, next) := ⟨_, _, rfl⟩
    have written : step? shift (iso2022Jp.standIn c) = some (bytes, next) :=
      put ▸ iso2022Jp.step?_standIn shift c
    obtain ⟨t, valid, rfl, stands, scanned⟩ := exists_token_of_step? written
    obtain ⟨tokens, others, rest⟩ := ih t.shift
    refine ⟨t :: tokens, .cons ⟨valid, stands⟩ others, fun before => ?_⟩
    rw [encodeFrom_cons, put]
    refine Steps.run?_append_iff.mpr ⟨_, scanned before, (rest _).trans ?_⟩
    rw [List.append_assoc, List.singleton_append]

theorem exists_tokens? (text : String) :
    ∃ tokens, List.Forall₂ Token.StandsFor tokens text.toList ∧
      ∀ before, Scanner.scan? ⟨before, .between .ascii⟩ (iso2022Jp.encode text) =
        some ⟨before ++ tokens, .between .ascii⟩ :=
  exists_tokens .ascii text.toList

/-! ### What a scan lets through -/

namespace Scanner

variable {s s' : Scanner} {b : UInt8}

/-- A byte that may stand anywhere is below 0x80 and no shift byte. -/
theorem plain_of_step? (h : s.step? b = some s') : b < 0x80 ∧ b ≠ 0x0E ∧ b ≠ 0x0F := by
  have pairByte : isPairByte b = true → b < 0x80 ∧ b ≠ 0x0E ∧ b ≠ 0x0F := by
    intro inside
    obtain ⟨low, high⟩ := isPairByte_iff.mp inside
    refine ⟨UInt8.lt_of_le_of_lt high (by decide), ?_, ?_⟩ <;> rintro rfl <;>
      exact absurd low (by decide)
  unfold step? at h
  grind [isSingle_iff]

theorem plain_of_scan? (h : s.scan? bytes = some s') :
    ∀ b ∈ bytes, b < 0x80 ∧ b ≠ 0x0E ∧ b ≠ 0x0F := by
  induction bytes generalizing s with
  | nil => exact nofun
  | cons b bytes ih =>
    obtain ⟨next, step, rest⟩ := Steps.run?_cons_iff.mp h
    intro other listed
    rcases List.mem_cons.mp listed with rfl | later
    · exact plain_of_step? step
    · exact ih rest other later

/-- The escape byte stands between two characters only. -/
theorem step?_escape (h : s.step? 0x1B = some s') : s' = s.go .escape := by
  unfold step? at h
  grind [isPairByte_iff]

theorem second_of_escape (h : (s.go .escape).step? b = some s') :
    b = 0x28 ∧ s' = s.go .escapeSingle ∨ b = 0x24 ∧ s' = s.go .escapeDouble := by
  simp only [step?, go] at h
  split at h
  · next single =>
    cases h
    exact Or.inl ⟨single, rfl⟩
  · split at h
    · next double =>
      cases h
      exact Or.inr ⟨double, rfl⟩
    · cases h

theorem third_of_escapeSingle (h : (s.go .escapeSingle).step? b = some s') :
    b = 0x42 ∨ b = 0x4A := by
  simp only [step?, go] at h
  split at h
  · next ascii => exact Or.inl ascii
  · exact Or.inr (Option.ite_none_right_eq_some.mp h).1

theorem third_of_escapeDouble (h : (s.go .escapeDouble).step? b = some s') : b = 0x42 := by
  simp only [step?, go] at h
  exact (Option.ite_none_right_eq_some.mp h).1

/-- **Behind the escape byte there is an escape sequence**, if the scan ends between two
characters. -/
theorem escape_of_scan? {after : Bytes} {tokens : List Token} {shift : Shift}
    (h : (s.go .escape).scan? after = some ⟨tokens, .between shift⟩) :
    ∃ next : Shift, next.escape <+: 0x1B :: after := by
  -- the second byte, then the third; a scan that stops before them is not between two characters
  cases after with
  | nil => cases h
  | cons b after =>
    obtain ⟨inside, second, h⟩ := Steps.run?_cons_iff.mp h
    rcases second_of_escape second with ⟨rfl, rfl⟩ | ⟨rfl, rfl⟩ <;> cases after with
    | nil => cases h
    | cons b after => ?_
    all_goals obtain ⟨outside, third, -⟩ := Steps.run?_cons_iff.mp h
    · rcases third_of_escapeSingle third with rfl | rfl
      · exact ⟨.ascii, after, rfl⟩
      · exact ⟨.roman, after, rfl⟩
    · obtain rfl := third_of_escapeDouble third
      exact ⟨.kanji, after, rfl⟩

end Scanner

/-! ### The bytes of a text -/

/-- **What a receiver makes of the bytes of a text in ISO-2022-JP**, scanned from ASCII.

* All of them are below 0x80 and none is a shift byte; and every escape byte begins one of the three
  escape sequences.
* The scan reads one character for each scalar, in their order, and each is what its shift state
  writes for the scalar: a single byte, or in the two-byte state a pair of bytes from 0x21 to 0x7E.
  It ends in ASCII.
* A scalar that the charset lacks is a question mark outside the two-byte state. The shift controls
  and the escape are such scalars.
* Behind these bytes those of another text are read as though they stood alone. -/
theorem scans_in_step (text : String) :
    (∀ b ∈ iso2022Jp.encode text, b < 0x80 ∧ b ≠ 0x0E ∧ b ≠ 0x0F) ∧
    (∀ before after, iso2022Jp.encode text = before ++ 0x1B :: after →
      ∃ shift : Shift, shift.escape <+: 0x1B :: after) ∧
    (∃ tokens, tokens? (iso2022Jp.encode text) = some tokens ∧
      List.Forall₂ Token.StandsFor tokens text.toList ∧
      (∀ (i : Nat) (c : Char) (state : Shift), text.toList[i]? = some c →
        iso2022Jp.step? state c = none →
          ∃ shift, tokens[i]? = some (.single shift 0x3F) ∧ shift ≠ .kanji) ∧
      ∀ more : String, ∃ others, tokens? (iso2022Jp.encode more) = some others ∧
        tokens? (iso2022Jp.encode text ++ iso2022Jp.encode more) = some (tokens ++ others)) ∧
    ∀ c, isShiftControl c = true → ∀ state, iso2022Jp.step? state c = none := by
  obtain ⟨tokens, stand, scanned⟩ := exists_tokens? text
  have scan : Scanner.start.scan? (iso2022Jp.encode text) = some ⟨tokens, .between .ascii⟩ :=
    scanned []
  refine ⟨Scanner.plain_of_scan? scan, ?_, ⟨tokens, ?_, stand, ?_, ?_⟩, ?_⟩
  · -- an escape byte is read between two characters, and what follows it is read to the end
    intro before after split
    rw [split] at scan
    obtain ⟨s, -, rest⟩ := Steps.run?_append_iff.mp scan
    obtain ⟨inside, escape, rest⟩ := Steps.run?_cons_iff.mp rest
    rw [Scanner.step?_escape escape] at rest
    exact Scanner.escape_of_scan? rest
  · rw [tokens?, scan]
  · intro i c state here missing
    obtain ⟨inText, rfl⟩ := List.getElem?_eq_some_iff.mp here
    have inTokens : i < tokens.length := stand.length_eq ▸ inText
    obtain ⟨shift, question, outside⟩ := (stand.get inTokens inText).of_missing missing
    exact ⟨shift, by rw [List.getElem?_eq_getElem inTokens, ← question]; rfl, outside⟩
  · intro more
    obtain ⟨others, -, behind⟩ := exists_tokens? more
    have alone : Scanner.start.scan? (iso2022Jp.encode more) = some ⟨others, .between .ascii⟩ :=
      behind []
    have joined : Scanner.start.scan? (iso2022Jp.encode text ++ iso2022Jp.encode more) =
        some ⟨tokens ++ others, .between .ascii⟩ :=
      Steps.run?_append_iff.mpr ⟨_, scan, behind tokens⟩
    exact ⟨others, by rw [tokens?, alone], by rw [tokens?, joined]⟩
  · exact fun c control state => step?_of_isShiftControl control state

/-- The yen sign takes the scan into Roman text. The escape behind it is missing, so a question mark
stands there, and the tilde needs the return to ASCII; the overline of the next text is announced
anew. -/
theorem yen_escape_tilde_then_overline :
    let text := "¥\x1B~"
    let bytes : Bytes := [0x1B, 0x28, 0x4A, 0x5C, 0x3F, 0x1B, 0x28, 0x42, 0x7E]
    let tokens : List Token := [.single .roman 0x5C, .single .roman 0x3F, .single .ascii 0x7E]
    iso2022Jp.encode text = bytes ∧ (∀ b ∈ bytes, b < 0x80 ∧ b ≠ 0x0E ∧ b ≠ 0x0F) ∧
      (∃ shift : Shift, shift.escape <+: [0x1B, 0x28, 0x42, 0x7E]) ∧
      tokens? bytes = some tokens ∧
      (∃ shift, tokens[1]? = some (.single shift 0x3F) ∧ shift ≠ .kanji) ∧
      tokens? (bytes ++ iso2022Jp.encode "a‾") =
        some (tokens ++ [.single .ascii 0x61, .single .roman 0x7E]) ∧
      step? .roman '\x1B' = none := by
  intro text bytes tokens
  have written : iso2022Jp.encode text = bytes := by decide +kernel
  have letters : text.toList = ['¥', '\x1B', '~'] := by decide
  obtain ⟨plain, escapes, ⟨read, scanned, -, missing, behind⟩, controls⟩ := scans_in_step text
  have noEscape : step? .roman '\x1B' = none := controls '\x1B' rfl .roman
  rw [written] at plain escapes scanned behind
  obtain rfl : tokens = read := Option.some.inj (scanned ▸ rfl)
  obtain ⟨others, second, both⟩ := behind "a‾"
  have overline : tokens? (iso2022Jp.encode "a‾") =
      some [.single .ascii 0x61, .single .roman 0x7E] := by decide +kernel
  obtain rfl : [.single .ascii 0x61, .single .roman 0x7E] = others :=
    Option.some.inj (overline.symm.trans second)
  refine ⟨written, plain, ?_, scanned, ?_, both, noEscape⟩
  · exact escapes [0x1B, 0x28, 0x4A, 0x5C, 0x3F] [0x28, 0x42, 0x7E] rfl
  · exact missing 1 '\x1B' .roman (by rw [letters]; rfl) noEscape

end Outbox.Charset.Iso2022Jp
