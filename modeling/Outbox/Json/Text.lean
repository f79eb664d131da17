import Outbox.Bytes
import Outbox.Json.Fault
import Outbox.Text.Units

/-!
# Strings in a document

A string ends at the first quote that no backslash stands in front of. Reading one yields its
characters; an escape by number is a sixteen-bit unit, and units in the surrogate range have to come
in pairs. Skipping one looks at escapes only as far as their spelling goes, so there a lone unit
passes.

## Main Definitions

* `readString` — the characters of a string, from behind its opening quote
* `skipString` — the text behind a string
-/

namespace Outbox.Json

open Outbox.Text (isHighUnit isLowUnit pairScalar)

/-! ### Escapes -/

/-- The value of a hexadecimal digit. -/
def hexValue? (c : Char) : Option Nat :=
  if '0' ≤ c && c ≤ '9' then some (c.toNat - 0x30)
  else if 'a' ≤ c && c ≤ 'f' then some (c.toNat - 0x57)
  else if 'A' ≤ c && c ≤ 'F' then some (c.toNat - 0x37)
  else none

/-- The value of a run of hexadecimal digits. -/
def hexNumber? (digits : List Char) : Option Nat :=
  digits.foldlM (fun n c => (hexValue? c).map (16 * n + ·)) 0

/-- **Reads a unit**, four hexadecimal digits. A text that ends too early is told by its bytes: with
four of them left it is the digits that are wrong. -/
def readUnit : List Char → Except Fault (Nat × List Char)
  | a :: b :: c :: d :: rest =>
    match hexNumber? [a, b, c, d] with
    | some n => .ok (n, rest)
    | none => .error .malformed
  | short =>
    if 4 ≤ (utf8 short).length then .error .malformed else .error .truncated

/-- The character that a one-letter escape stands for. -/
def letterEscape? : Char → Option Char
  | '"' => some '"'
  | '\\' => some '\\'
  | '/' => some '/'
  | 'b' => some '\x08'
  | 'f' => some '\x0C'
  | 'n' => some '\n'
  | 'r' => some '\r'
  | 't' => some '\t'
  | _ => none

/-- Reads the scalar of an escape by number: one unit, or the two of a pair. -/
def readNumbered (s : List Char) : Except Fault (Char × List Char) :=
  match readUnit s with
  | .error fault => .error fault
  | .ok (n, rest) =>
    if isLowUnit n then .error .malformed
    else if isHighUnit n then
      match word ['\\', 'u'] rest with
      | .error fault => .error fault
      | .ok rest =>
        match readUnit rest with
        | .error fault => .error fault
        | .ok (m, rest) =>
          if isLowUnit m then .ok (pairScalar n m, rest) else .error .malformed
    else .ok (Char.ofNat n, rest)

/-- Reads an escape, from behind its backslash. -/
def readEscape : List Char → Except Fault (Char × List Char)
  | [] => .error .truncated
  | 'u' :: rest => readNumbered rest
  | c :: rest =>
    match letterEscape? c with
    | some d => .ok (d, rest)
    | none => .error .malformed

/-- Skips an escape, from behind its backslash. -/
def skipEscape : List Char → Except Fault (List Char)
  | [] => .error .truncated
  | 'u' :: rest => (readUnit rest).map Prod.snd
  | c :: rest => if (letterEscape? c).isSome then .ok rest else .error .malformed

/-! ### What is left is shorter -/

theorem readUnit_length {s rest : List Char} {n : Nat} (h : readUnit s = .ok (n, rest)) :
    rest.length < s.length := by
  unfold readUnit at h
  split at h
  · split at h
    · cases h; simp only [List.length_cons]; omega
    · cases h
  · split at h <;> cases h

theorem readNumbered_length {s rest : List Char} {c : Char} (h : readNumbered s = .ok (c, rest)) :
    rest.length < s.length := by
  unfold readNumbered at h
  split at h
  · cases h
  · next hu =>
    have h1 := readUnit_length hu
    split at h
    · cases h
    · split at h
      · split at h
        · cases h
        · next hw =>
          have h2 := word_length hw
          split at h
          · cases h
          · next hv =>
            have h3 := readUnit_length hv
            split at h
            · simp only [Except.ok.injEq, Prod.mk.injEq] at h
              obtain ⟨-, rfl⟩ := h
              simp only [List.length_cons, List.length_nil] at h2
              omega
            · cases h
      · simp only [Except.ok.injEq, Prod.mk.injEq] at h
        obtain ⟨-, rfl⟩ := h
        exact h1

theorem readEscape_length {s rest : List Char} {c : Char} (h : readEscape s = .ok (c, rest)) :
    rest.length < s.length := by
  unfold readEscape at h
  split at h
  · cases h
  · have := readNumbered_length h
    simp only [List.length_cons]
    omega
  · split at h
    · cases h; simp
    · cases h

theorem skipEscape_length {s rest : List Char} (h : skipEscape s = .ok rest) :
    rest.length < s.length := by
  unfold skipEscape at h
  split at h
  · cases h
  · next r =>
    cases hu : readUnit r with
    | error fault => rw [hu] at h; cases h
    | ok p =>
      rw [hu] at h
      cases h
      have := readUnit_length hu
      simp only [List.length_cons]
      omega
  · split at h
    · cases h; simp
    · cases h

/-! ### Strings -/

/-- **Reads a string**, from behind its opening quote. A control character may not stand in it. -/
def readString (s : List Char) : Except Fault (List Char × List Char) :=
  match s with
  | [] => .error .truncated
  | c :: rest =>
    if c = '"' then .ok ([], rest)
    else if c = '\\' then
      match h : readEscape rest with
      | .error fault => .error fault
      | .ok (d, rest') =>
        have := readEscape_length h
        (readString rest').map fun (text, behind) => (d :: text, behind)
    else if c.toNat < 0x20 then .error .malformed
    else (readString rest).map fun (text, behind) => (c :: text, behind)
termination_by s.length
decreasing_by all_goals simp only [List.length_cons]; omega

/-- **Skips a string**, from behind its opening quote. -/
def skipString (s : List Char) : Except Fault (List Char) :=
  match s with
  | [] => .error .truncated
  | c :: rest =>
    if c = '"' then .ok rest
    else if c = '\\' then
      match h : skipEscape rest with
      | .error fault => .error fault
      | .ok rest' =>
        have := skipEscape_length h
        skipString rest'
    else if c.toNat < 0x20 then .error .malformed
    else skipString rest
termination_by s.length
decreasing_by all_goals simp only [List.length_cons]; omega

end Outbox.Json
