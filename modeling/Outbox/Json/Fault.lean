/-!
# Faults of a document

A settings document is read from left to right, and the first thing wrong with it decides the fault:
it may end too early, break the grammar, or be well-formed so far and hold something that does not
fit. The pieces every reader starts from stand here: blanks, and words spelled out letter by letter.
-/

namespace Outbox.Json

/-- **What is wrong with a document**, told of the first place where something is. -/
inductive Fault where
  /-- It is not in the grammar. -/
  | malformed
  /-- It is well-formed so far, and what it holds does not fit. -/
  | mismatched
  /-- It ends too early. -/
  | truncated
deriving DecidableEq, Repr

/-- The name of a fault. -/
def Fault.name : Fault → String
  | .malformed => "syntax"
  | .mismatched => "data"
  | .truncated => "eof"

/-- The characters that may stand between tokens. -/
def isBlank (c : Char) : Bool :=
  c = ' ' || c = '\t' || c = '\n' || c = '\r'

/-- The text behind its leading blanks. -/
def skipBlanks (s : List Char) : List Char :=
  s.dropWhile isBlank

/-- **Reads a word**, letter by letter. -/
def word : List Char → List Char → Except Fault (List Char)
  | [], rest => .ok rest
  | _ :: _, [] => .error .truncated
  | w :: ws, c :: rest => if c = w then word ws rest else .error .malformed

theorem word_length {ws s rest : List Char} (h : word ws s = .ok rest) :
    s.length = ws.length + rest.length := by
  fun_induction word ws s with
  | case1 => cases h; simp
  | case2 => cases h
  | case3 w ws s ih =>
    have := ih h
    simp only [List.length_cons]
    omega
  | case4 => cases h

/-- Blanks are only ever removed. -/
theorem skipBlanks_length_le (s : List Char) : (skipBlanks s).length ≤ s.length :=
  (List.dropWhile_suffix isBlank).length_le

end Outbox.Json
