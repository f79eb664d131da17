import Outbox.Charset.Decode
import Outbox.Proofs.Charset
import Outbox.Proofs.Text.Units

/-!
# What a text is read back as

A reader of the Unicode charsets gets back the text. In UTF-16 this rests on the units of a scalar:
a run of them falls apart into its scalars in one way only, and so do the bytes into units.

In a charset of single bytes a text and its bytes go side by side. Each byte is read as the scalar
that was written for its place, and whether that is the text's own is known from the bytes that the
charset can read: it writes what it reads, and nothing else.

## Main Definitions

* `ByteOrder.units?_flatMap_bytes` — the bytes of a run of units are read as those units
* `Charset.isSome_step?_iff_mem_repertoire` — a charset of single bytes writes what it reads
* `Charset.read_back` — what a reader makes of the bytes of a text
-/

namespace Outbox

theorem toNat_toUInt8 {n : Nat} (h : n < 0x100) : n.toUInt8.toNat = n :=
  Nat.mod_eq_of_lt h

/-! ### Sixteen-bit units -/

namespace ByteOrder

/-- In either order the two bytes of a unit are read as that unit. -/
theorem units?_bytes_append (order : ByteOrder) {n : Nat} (h : n < 0x10000) (rest : Bytes) :
    order.units? (order.bytes n ++ rest) = (order.units? rest).map (n :: ·) := by
  have upper : (n / 0x100).toUInt8.toNat = n / 0x100 := toNat_toUInt8 (by omega)
  have lower : (n % 0x100).toUInt8.toNat = n % 0x100 := toNat_toUInt8 (by omega)
  have value : n % 0x100 + 0x100 * (n / 0x100) = n := Nat.mod_add_div n 0x100
  cases order with
  | little => simp [bytes, units?, unit, upper, lower, value]
  | big => simp [bytes, units?, unit, upper, lower, Nat.div_add_mod]

theorem units?_flatMap_bytes (order : ByteOrder) {units : List Nat}
    (h : ∀ n ∈ units, n < 0x10000) : order.units? (units.flatMap order.bytes) = some units := by
  induction units with
  | nil => rfl
  | cons n units ih =>
    rw [List.flatMap_cons, units?_bytes_append order (h n List.mem_cons_self),
      ih fun m listed => h m (List.mem_cons_of_mem n listed), Option.map_some]

end ByteOrder

/-! ### Charsets of single bytes -/

variable {c : Char} {b : UInt8}

/-- A byte that is ASCII is read as the scalar it is. -/
theorem ofNat_toUInt8_of_ascii (ascii : c.toNat < 0x80) :
    c.toNat.toUInt8 < 0x80 ∧ Char.ofNat c.toNat.toUInt8.toNat = c := by
  have value : c.toNat.toUInt8.toNat = c.toNat := toNat_toUInt8 (by omega)
  rw [UInt8.lt_iff_toNat_lt, value]
  exact ⟨ascii, Char.ofNat_toNat c⟩

theorem toNat_ofNat_of_ascii (below : b < 0x80) : (Char.ofNat b.toNat).toNat < 0x80 := by
  have all : ∀ n < 0x80, (Char.ofNat n).toNat < 0x80 := by decide
  exact all b.toNat below

namespace CodePage

variable {page : CodePage}

/-- A page has one cell for each byte from 0x80 on. -/
theorem length_cells (page : CodePage) : page.cells.length = 0x80 := by
  cases page <;> decide +kernel

/-- **A page reads the byte that it writes as the scalar it wrote it for.** -/
theorem decode?_of_encode? (written : page.encode? c = some b) : page.decode? b = some c := by
  unfold encode? at written
  split at written
  · next ascii =>
    cases written
    obtain ⟨below, same⟩ := ofNat_toUInt8_of_ascii ascii
    rw [decode?, if_pos below, same]
  · next beyond =>
    -- the cell is the first that holds the scalar; blank cells hold none from beyond ASCII
    obtain ⟨i, found, rfl⟩ := Option.map_eq_some_iff.mp written
    obtain ⟨inside, here, -⟩ := List.idxOf?_eq_some_iff.mp found
    have limit : i < 0x80 := page.length_cells ▸ inside
    have value : (0x80 + i).toUInt8.toNat = 0x80 + i := toNat_toUInt8 (by omega)
    have above : ¬(0x80 + i).toUInt8 < 0x80 := by
      rw [UInt8.lt_iff_toNat_lt, value]
      exact Nat.not_lt.mpr (Nat.le_add_right 0x80 i)
    have notBlank : (c != ' ') = true := by
      rw [bne_iff_ne]
      rintro rfl
      exact beyond (by decide)
    have cell : page.cells[i]? = some c := List.getElem?_eq_some_iff.mpr ⟨inside, here⟩
    rw [decode?, if_neg above, value, Nat.add_sub_cancel_left, cell, Option.filter_some,
      if_pos notBlank]

/-- **A page writes every scalar that it reads.** -/
theorem isSome_encode?_of_decode? (read : page.decode? b = some c) :
    (page.encode? c).isSome = true := by
  unfold decode? at read
  split at read
  · next below =>
    cases read
    rw [encode?, if_pos (toNat_ofNat_of_ascii below)]
    rfl
  · obtain ⟨cell, -⟩ := Option.filter_eq_some_iff.mp read
    have listed : c ∈ page.cells := List.mem_of_getElem? cell
    unfold encode?
    split
    · rfl
    · rw [Option.isSome_map, List.isSome_idxOf?]
      exact listed

end CodePage

namespace Charset

variable {cs : Charset} {shift : Shift}

theorem userDefinedChar_of_userDefined? (written : userDefined? c = some b) :
    userDefinedChar b = c := by
  unfold userDefined? at written
  split at written
  · next ascii =>
    cases written
    obtain ⟨below, same⟩ := ofNat_toUInt8_of_ascii ascii
    rw [userDefinedChar, if_pos below, same]
  · split at written
    · next block =>
      simp only [Bool.and_eq_true, decide_eq_true_eq] at block
      rw [← Option.some.inj written]
      have value : (c.toNat - 0xF780 + 0x80).toUInt8.toNat = c.toNat - 0xF780 + 0x80 :=
        toNat_toUInt8 (by omega)
      have above : ¬(c.toNat - 0xF780 + 0x80).toUInt8 < 0x80 := by
        rw [UInt8.lt_iff_toNat_lt, value]
        exact Nat.not_lt.mpr (Nat.le_add_left 0x80 _)
      rw [userDefinedChar, if_neg above, value, Nat.add_sub_cancel,
        Nat.add_sub_cancel' block.1, Char.ofNat_toNat]
    · cases written

theorem isSome_userDefined? (b : UInt8) : (userDefined? (userDefinedChar b)).isSome = true := by
  have all : ∀ n < 0x100, (userDefined? (userDefinedChar n.toUInt8)).isSome = true := by
    decide +kernel
  have byte : b.toNat.toUInt8 = b := UInt8.ofNat_toNat
  rw [← byte]
  exact all b.toNat b.toNat_lt

/-- What a charset of single bytes writes is one byte, and it is read as the scalar. -/
theorem exists_byte_of_step? (single : cs.isSingleByte = true) {put : Bytes × Shift}
    (has : cs.step? shift c = some put) : ∃ b, put.1 = [b] ∧ cs.ofByte? b = some c := by
  cases cs with
  | codePage page =>
    obtain ⟨b, written, rfl⟩ := Option.map_eq_some_iff.mp has
    exact ⟨b, rfl, CodePage.decode?_of_encode? written⟩
  | userDefined =>
    obtain ⟨b, written, rfl⟩ := Option.map_eq_some_iff.mp has
    exact ⟨b, rfl, congrArg some (userDefinedChar_of_userDefined? written)⟩
  | _ => cases single

theorem isSome_step?_of_ofByte? (read : cs.ofByte? b = some c) :
    (cs.step? shift c).isSome = true := by
  cases cs with
  | codePage page =>
    rw [step?, Option.isSome_map]
    exact CodePage.isSome_encode?_of_decode? read
  | userDefined =>
    cases read
    rw [step?, Option.isSome_map]
    exact isSome_userDefined? b
  | _ => cases read

/-- The repertoire is what the bytes are read as. -/
theorem mem_repertoire : c ∈ cs.repertoire ↔ ∃ b, cs.ofByte? b = some c := by
  simp only [repertoire, List.mem_filterMap, List.mem_range]
  constructor
  · rintro ⟨n, -, read⟩
    exact ⟨n.toUInt8, read⟩
  · rintro ⟨b, read⟩
    have byte : b.toNat.toUInt8 = b := UInt8.ofNat_toNat
    exact ⟨b.toNat, b.toNat_lt, by rwa [byte]⟩

/-- **A charset of single bytes writes what it reads**, and nothing else. -/
theorem isSome_step?_iff_mem_repertoire (single : cs.isSingleByte = true) :
    (cs.step? shift c).isSome = true ↔ c ∈ cs.repertoire := by
  rw [mem_repertoire]
  constructor
  · intro has
    obtain ⟨put, has⟩ := Option.isSome_iff_exists.mp has
    obtain ⟨b, -, read⟩ := exists_byte_of_step? single has
    exact ⟨b, read⟩
  · rintro ⟨b, read⟩
    exact isSome_step?_of_ofByte? read

/-- So a charset shows a text as what stands in for its scalars. -/
theorem shown_eq (single : cs.isSingleByte = true) (text : List Char) :
    cs.shown text = text.map cs.standIn := by
  apply List.map_congr_left
  intro c _
  have same : (cs.step? .ascii c).isSome = cs.repertoire.contains c := by
    rw [Bool.eq_iff_iff, List.contains_iff_mem]
    exact isSome_step?_iff_mem_repertoire single
  rw [standIn, same]

/-- **A text and its bytes go side by side** in a charset of single bytes. -/
theorem read_of_isSingleByte (single : cs.isSingleByte = true) (text : List Char) :
    (cs.encodeFrom .ascii text).length = text.length ∧
      (cs.encodeFrom .ascii text).mapM cs.ofByte? = some (text.map cs.standIn) := by
  have stateless : cs ≠ .iso2022Jp := by
    rintro rfl
    cases single
  rw [encodeFrom_of_stateless stateless]
  -- one scalar is one byte, so both sides lose their first element together
  induction text with
  | nil => exact ⟨rfl, rfl⟩
  | cons c text ih =>
    obtain ⟨b, byte, read⟩ := exists_byte_of_step? single (cs.step?_standIn .ascii c)
    rw [List.flatMap_cons, byte, List.singleton_append, List.map_cons]
    exact ⟨congrArg Nat.succ ih.1, by simp [List.mapM_cons, read, ih.2]⟩

/-! ### The Unicode charsets -/

theorem ofUtf8?_encode (text : String) : ofUtf8? (utf8.encode text) = some text.toList := by
  have stateless : utf8 ≠ .iso2022Jp := nofun
  have written : utf8.encode text = text.toList.flatMap String.utf8EncodeChar :=
    encodeFrom_of_stateless stateless text.toList
  have bytes : (⟨(utf8.encode text).toArray⟩ : ByteArray) = text.toList.utf8Encode := by
    apply ByteArray.ext
    rw [written, List.utf8Encode, List.data_toByteArray]
  rw [ofUtf8?, bytes, List.utf8Decode?_utf8Encode, Option.map_some]

theorem decode?_encode (order : ByteOrder) (text : String) :
    order.decode? ((utf16 order).encode text) = some text.toList := by
  have stateless : utf16 order ≠ .iso2022Jp := nofun
  have written : (utf16 order).encode text =
      (text.toList.flatMap Text.units).flatMap order.bytes := by
    rw [List.flatMap_assoc]
    exact encodeFrom_of_stateless stateless text.toList
  have small : ∀ n ∈ text.toList.flatMap Text.units, n < 0x10000 := by
    intro n listed
    obtain ⟨c, -, unit⟩ := List.mem_flatMap.mp listed
    exact Text.lt_of_mem_units unit
  rw [written, ByteOrder.decode?, order.units?_flatMap_bytes small, Option.bind_some,
    Text.ofUnits?_flatMap_units]

/-! ### What a reader gets -/

/-- **What a reader makes of the bytes of a text.**

* In UTF-8 and in UTF-16 of either byte order it reads the text, whatever its scalars.
* In every charset of single bytes there is one byte for each scalar. They are read as the text,
  with a question mark in the place of just those scalars that no byte of the charset is read as. -/
theorem read_back (text : String) :
    ofUtf8? (utf8.encode text) = some text.toList ∧
    (∀ order : ByteOrder, order.decode? ((utf16 order).encode text) = some text.toList) ∧
    ∀ cs : Charset, cs.isSingleByte = true →
      (cs.encode text).length = text.length ∧
        (cs.encode text).mapM cs.ofByte? = some (cs.shown text.toList) := by
  refine ⟨ofUtf8?_encode text, fun order => decode?_encode order text, fun cs single => ?_⟩
  obtain ⟨length, read⟩ := read_of_isSingleByte single text.toList
  exact ⟨length, read.trans (congrArg some (shown_eq single text.toList).symm)⟩

/-- A scalar beyond the basic plane is a pair in UTF-16 and missing from windows-1252, where the
euro sign is the byte 0x80. In x-user-defined that byte is a private-use character, and the accented
letter is missing. -/
theorem grinning_between_letters :
    let text := "é😀€"
    let bigEndian : Bytes := [0x00, 0xE9, 0xD8, 0x3D, 0xDE, 0x00, 0x20, 0xAC]
    let western : Charset := codePage .windows1252
    ofUtf8? (utf8.encode text) = some ['é', '😀', '€'] ∧
      (utf16 .big).encode text = bigEndian ∧
      ByteOrder.big.decode? bigEndian = some ['é', '😀', '€'] ∧
      western.isSingleByte = true ∧ western.encode text = [0xE9, 0x3F, 0x80] ∧
      [0xE9, 0x3F, 0x80].mapM western.ofByte? = some ['é', '?', '€'] ∧
      userDefined.isSingleByte = true ∧ userDefined.encode "\uF780é" = [0x80, 0x3F] ∧
      [0x80, 0x3F].mapM userDefined.ofByte? = some ['\uF780', '?'] := by
  intro text bigEndian western
  have letters : text.toList = ['é', '😀', '€'] := by decide
  have units : (utf16 .big).encode text = bigEndian := by decide +kernel
  have bytes : western.encode text = [0xE9, 0x3F, 0x80] := by decide +kernel
  have shown : western.shown text.toList = ['é', '?', '€'] := by decide +kernel
  have upper : userDefined.encode "\uF780é" = [0x80, 0x3F] := by decide +kernel
  have privateUse : userDefined.shown "\uF780é".toList = ['\uF780', '?'] := by decide +kernel
  obtain ⟨inUtf8, inUtf16, inBytes⟩ := read_back text
  obtain ⟨-, westernRead⟩ := inBytes western rfl
  obtain ⟨-, upperRead⟩ := (read_back "\uF780é").2.2 userDefined rfl
  have order := inUtf16 .big
  rw [bytes, shown] at westernRead
  rw [upper, privateUse] at upperRead
  rw [units, letters] at order
  rw [letters] at inUtf8
  exact ⟨inUtf8, units, order, rfl, bytes, westernRead, rfl, upper, upperRead⟩

end Charset

end Outbox
