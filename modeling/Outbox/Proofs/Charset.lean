import Outbox.Charset

/-!
# One scalar at a time

What a charset does with a scalar, told for all charsets at once. Each of them either has a scalar
in every shift state or lacks it in every one, so the scalar that stands in for it is known from the
scalar alone; and each has the question mark that stands for all others. All charsets but
ISO-2022-JP carry the shift state along unread: there the bytes of a text are those of its scalars,
and texts can be written one behind the other.

## Main Definitions

* `Charset.length_of_step?` — how many bytes a scalar takes: at least one, and five at most
* `Charset.step?_standIn` — every scalar has one that is written for it
* `Charset.encode_append` — texts one behind the other
-/

namespace Outbox.Charset

/-! ### The shift states of ISO-2022-JP -/

namespace Iso2022Jp

theorem isSome_written?_of_home? {c : Char} {next : Shift} (home : home? c = some next) :
    (written? next c).isSome = true := by
  unfold home? at home
  split at home
  · next ascii =>
    split at home
    · cases home
    · next plain =>
      cases home
      simp [written?, ascii, plain]
  · next beyond =>
    split at home
    · next marks =>
      cases home
      simp only [Bool.or_eq_true, decide_eq_true_eq] at marks
      rcases marks with rfl | rfl <;> decide
    · split at home
      · next listed =>
        cases home
        simpa [written?, beyond] using listed
      · cases home

theorem isSome_home?_of_written? {shift : Shift} {c : Char} {bytes : Bytes}
    (here : written? shift c = some bytes) : (home? c).isSome = true := by
  by_cases ascii : c.toNat < 0x80
  · have plain : isShiftControl c = false := by
      cases shift <;> simp [written?, ascii] at here
      · exact here.1
      · exact here.1.2
    simp [home?, ascii, plain]
  · cases shift with
    | ascii => simp [written?, ascii] at here
    | roman =>
      have marks : c = '\u00A5' ∨ c = '\u203E' := by
        simp only [written?, jisRoman?, if_neg ascii] at here
        grind
      simp [home?, ascii, marks]
    | kanji =>
      have listed : (jisPointer? (widened c)).isSome = true := by
        simp only [written?, if_neg ascii, Option.map_eq_some_iff] at here
        obtain ⟨pointer, found, -⟩ := here
        simp [found]
      simp only [home?, if_neg ascii, listed, if_true]
      split <;> rfl

theorem step?_of_written? {shift : Shift} {c : Char} {bytes : Bytes}
    (here : written? shift c = some bytes) : step? shift c = some (bytes, shift) := by
  simp [step?, here]

/-- A scalar that a shift state lacks is written in its own, behind the change to that. -/
theorem step?_of_home? {shift next : Shift} {c : Char} {bytes : Bytes}
    (elsewhere : written? shift c = none) (home : home? c = some next)
    (there : written? next c = some bytes) :
    step? shift c = some (next.escape ++ bytes, next) := by
  simp [step?, elsewhere, home, there]

/-- **What a step can be**: directly in the shift state, or behind the change to another. -/
theorem step?_cases {shift next : Shift} {c : Char} {bytes : Bytes}
    (put : step? shift c = some (bytes, next)) :
    (next = shift ∧ written? shift c = some bytes) ∨
      written? shift c = none ∧ home? c = some next ∧
        ∃ inside, written? next c = some inside ∧ bytes = next.escape ++ inside := by
  unfold step? at put
  split at put
  · next here =>
    cases put
    exact Or.inl ⟨rfl, here⟩
  · next elsewhere =>
    simp only [Option.bind_eq_bind, Option.bind_eq_some_iff] at put
    obtain ⟨target, home, inside, there, put⟩ := put
    cases put
    exact Or.inr ⟨elsewhere, home, inside, there, rfl⟩

/-- **A scalar is written from every shift state or from none.** -/
theorem isSome_step? (shift : Shift) (c : Char) :
    (step? shift c).isSome = (home? c).isSome := by
  cases here : written? shift c with
  | some bytes =>
    rw [step?_of_written? here, isSome_home?_of_written? here]
    rfl
  | none =>
    cases home : home? c with
    | none => simp [step?, here, home]
    | some next =>
      obtain ⟨bytes, there⟩ := Option.isSome_iff_exists.mp (isSome_written?_of_home? home)
      rw [step?_of_home? here home there]
      rfl

end Iso2022Jp

/-! ### How many bytes a scalar takes -/

variable {c : Char} {bytes : Bytes} {shift : Shift}

theorem length_units (c : Char) : 1 ≤ (Text.units c).length ∧ (Text.units c).length ≤ 2 := by
  simp only [Text.units]
  split <;> simp

theorem length_of_big5? (h : big5? c = some bytes) : 1 ≤ bytes.length ∧ bytes.length ≤ 2 := by
  grind [big5?, big5Bytes, Option.map_eq_some_iff]

theorem length_of_eucKr? (h : eucKr? c = some bytes) : 1 ≤ bytes.length ∧ bytes.length ≤ 2 := by
  grind [eucKr?, eucKrBytes, Option.map_eq_some_iff]

theorem length_of_eucJp? (h : eucJp? c = some bytes) : 1 ≤ bytes.length ∧ bytes.length ≤ 2 := by
  grind [eucJp?, eucJpBytes, Option.map_eq_some_iff]

theorem length_of_shiftJis? (h : shiftJis? c = some bytes) :
    1 ≤ bytes.length ∧ bytes.length ≤ 2 := by
  grind [shiftJis?, shiftJisBytes, Option.map_eq_some_iff]

theorem length_of_gbkShort? (h : gbkShort? c = some bytes) :
    1 ≤ bytes.length ∧ bytes.length ≤ 2 := by
  grind [gbkShort?, gbkBytes, Option.map_eq_some_iff]

theorem length_of_gbk? (h : gbk? c = some bytes) : 1 ≤ bytes.length ∧ bytes.length ≤ 2 := by
  grind [gbk?, length_of_gbkShort?]

theorem length_of_gb18030? (h : gb18030? c = some bytes) :
    1 ≤ bytes.length ∧ bytes.length ≤ 4 := by
  unfold gb18030? at h
  split at h
  · cases h
  · rcases Option.or_eq_some_iff.mp h with short | ⟨-, long⟩
    · obtain ⟨some, few⟩ := length_of_gbkShort? short
      exact ⟨some, by omega⟩
    · cases long
      simp [fourBytes]

theorem Iso2022Jp.length_of_written? (h : written? shift c = some bytes) :
    1 ≤ bytes.length ∧ bytes.length ≤ 2 := by
  cases shift with
  | ascii =>
    simp only [written?, Option.ite_none_right_eq_some, Option.some.injEq] at h
    simp [← h.2]
  | roman =>
    simp only [written?, Option.ite_none_left_eq_some, Option.map_eq_some_iff] at h
    obtain ⟨-, b, -, rfl⟩ := h
    simp
  | kanji =>
    simp only [written?, Option.ite_none_left_eq_some, Option.map_eq_some_iff] at h
    obtain ⟨-, pointer, -, rfl⟩ := h
    simp [kanjiBytes]

theorem length_escape (shift : Shift) : shift.escape.length = 3 := by
  cases shift <;> rfl

theorem Iso2022Jp.length_of_step? {next : Shift} (h : step? shift c = some (bytes, next)) :
    1 ≤ bytes.length ∧ bytes.length ≤ 5 := by
  rcases step?_cases h with ⟨-, here⟩ | ⟨-, -, inside, there, rfl⟩
  · obtain ⟨some, few⟩ := length_of_written? here
    exact ⟨some, by omega⟩
  · obtain ⟨some, few⟩ := length_of_written? there
    rw [List.length_append, length_escape]
    omega

/-- The bytes that are put with the shift state kept are those that were found. -/
theorem length_of_kept {found : Option Bytes} {n : Nat} (few : n ≤ 5)
    (within : ∀ bytes, found = some bytes → 1 ≤ bytes.length ∧ bytes.length ≤ n) {next : Shift}
    (h : found.map (·, shift) = some (bytes, next)) : 1 ≤ bytes.length ∧ bytes.length ≤ 5 := by
  obtain ⟨inside, here, put⟩ := Option.map_eq_some_iff.mp h
  cases put
  obtain ⟨some, atMost⟩ := within _ here
  exact ⟨some, Nat.le_trans atMost few⟩

/-- **A scalar that a charset has is at least one byte in it, and five at most**, the change of
shift state in front of it included. -/
theorem length_of_step? {cs : Charset} {next : Shift} (h : cs.step? shift c = some (bytes, next)) :
    1 ≤ bytes.length ∧ bytes.length ≤ 5 := by
  cases cs with
  | utf8 =>
    cases h
    rw [String.length_utf8EncodeChar]
    exact ⟨c.utf8Size_pos, Nat.le_succ_of_le c.utf8Size_le_four⟩
  | utf16 order =>
    cases h
    have two : ∀ unit ∈ Text.units c, (order.bytes unit).length = 2 := by
      intro unit _
      cases order <;> rfl
    rw [List.length_flatMap, List.map_congr_left two, List.map_const', List.sum_replicate_nat]
    have := length_units c
    omega
  | codePage page =>
    obtain ⟨b, -, put⟩ := Option.map_eq_some_iff.mp h
    cases put
    simp
  | userDefined =>
    obtain ⟨b, -, put⟩ := Option.map_eq_some_iff.mp h
    cases put
    simp
  | iso2022Jp => exact Iso2022Jp.length_of_step? h
  | big5 => exact length_of_kept (by decide) (fun _ => length_of_big5?) h
  | eucJp => exact length_of_kept (by decide) (fun _ => length_of_eucJp?) h
  | shiftJis => exact length_of_kept (by decide) (fun _ => length_of_shiftJis?) h
  | eucKr => exact length_of_kept (by decide) (fun _ => length_of_eucKr?) h
  | gbk => exact length_of_kept (by decide) (fun _ => length_of_gbk?) h
  | gb18030 => exact length_of_kept (by decide) (fun _ => length_of_gb18030?) h

/-! ### Charsets without shift states -/

/-- **All charsets but one carry the shift state along**, and write the same in each. -/
theorem step?_of_stateless {cs : Charset} (stateless : cs ≠ .iso2022Jp) (shift : Shift) (c : Char) :
    cs.step? shift c = (cs.step? .ascii c).map fun put => (put.1, shift) := by
  cases cs with
  | iso2022Jp => exact absurd rfl stateless
  | utf8 => rfl
  | utf16 order => rfl
  | _ => simp only [step?, Option.map_map, Function.comp_def]

theorem isSome_step?_congr (cs : Charset) (shift shift' : Shift) (c : Char) :
    (cs.step? shift c).isSome = (cs.step? shift' c).isSome := by
  by_cases stateless : cs = .iso2022Jp
  · subst stateless
    exact (Iso2022Jp.isSome_step? shift c).trans (Iso2022Jp.isSome_step? shift' c).symm
  · rw [step?_of_stateless stateless shift, step?_of_stateless stateless shift']
    simp

/-! ### What stands in for a scalar -/

/-- **Every charset has the question mark**, whatever its shift state. -/
theorem isSome_step?_replacement (cs : Charset) (shift : Shift) :
    (cs.step? shift replacement).isSome = true := by
  cases cs with
  | iso2022Jp => cases shift <;> rfl
  | _ => rfl

theorem standIn_of_some {cs : Charset} {put : Bytes × Shift} (has : cs.step? shift c = some put) :
    cs.standIn c = c := by
  rw [standIn, cs.isSome_step?_congr .ascii shift, has]
  rfl

theorem standIn_of_none {cs : Charset} (missing : cs.step? shift c = none) :
    cs.standIn c = replacement := by
  rw [standIn, cs.isSome_step?_congr .ascii shift, missing]
  rfl

theorem put_of_some {cs : Charset} {put : Bytes × Shift} (has : cs.step? shift c = some put) :
    cs.put shift c = put := by
  rw [Charset.put, has, Option.getD_some]

theorem put_of_none {cs : Charset} (missing : cs.step? shift c = none) :
    cs.put shift c = cs.put shift replacement := by
  obtain ⟨put, question⟩ := Option.isSome_iff_exists.mp (cs.isSome_step?_replacement shift)
  simp [Charset.put, missing, question]

/-- **What stands in for a scalar is written**, and that is what is put. -/
theorem step?_standIn (cs : Charset) (shift : Shift) (c : Char) :
    cs.step? shift (cs.standIn c) = some (cs.put shift c) := by
  cases has : cs.step? shift c with
  | some put => rw [standIn_of_some has, put_of_some has, has]
  | none =>
    obtain ⟨put, question⟩ := Option.isSome_iff_exists.mp (cs.isSome_step?_replacement shift)
    rw [standIn_of_none has, put_of_none has, put_of_some question, question]

/-! ### Texts -/

/-- **No charset writes a text as nothing.** -/
theorem encode_ne_nil (cs : Charset) {text : String} (h : text ≠ "") : cs.encode text ≠ [] := by
  unfold encode
  cases hc : text.toList with
  | nil => exact absurd (String.toList_eq_nil_iff.mp hc) h
  | cons c rest =>
    obtain ⟨some, -⟩ := length_of_step? (cs.step?_standIn .ascii c)
    rw [encodeFrom_cons]
    exact List.append_ne_nil_of_left_ne_nil (List.ne_nil_of_length_pos some) _

/-- Without shift states the bytes of a text are those of its scalars. -/
theorem encodeFrom_of_stateless {cs : Charset} (stateless : cs ≠ .iso2022Jp) (text : List Char) :
    cs.encodeFrom .ascii text = text.flatMap fun c => (cs.put .ascii c).1 := by
  induction text with
  | nil => rfl
  | cons c text ih =>
    have kept : (cs.put .ascii c).2 = .ascii := by
      have standIn := cs.step?_standIn .ascii c
      rw [step?_of_stateless stateless, Option.map_eq_some_iff] at standIn
      obtain ⟨put, -, same⟩ := standIn
      rw [← same]
    rw [encodeFrom_cons, kept, ih, List.flatMap_cons]

/-- **Texts can be written one behind the other**, unless there are shift states. -/
theorem encode_append {cs : Charset} (stateless : cs ≠ .iso2022Jp) (a b : String) :
    cs.encode (a ++ b) = cs.encode a ++ cs.encode b := by
  simp only [encode, encodeFrom_of_stateless stateless, String.toList_append, List.flatMap_append]

end Outbox.Charset
