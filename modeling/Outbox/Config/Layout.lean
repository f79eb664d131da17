import Outbox.Config.Json
import Outbox.Json.Grammar

/-!
# Layouts of a settings document

The same settings can be laid out in many ways: members in any order and among others, names spelled
with or without escapes, blanks everywhere, or a plain list. A layout is said here from the writer's
side, as a relation between what a document holds and its text.

## Main Definitions

* `Config.Entry`, `Entry.Writes` — a member of a document, and the texts of it
* `Config.WritesObject`, `Config.WritesList` — the documents with given members, and the list form
* `Config.settings`, `Config.Repeats` — what the members of a document say, and whether one occurs
  twice
-/

namespace Outbox.Config

open Outbox.Json

/-- **A member of a settings document.** -/
inductive Entry where
  | capacity (n : Nat)
  | overflow (policy : Overflow)
  /-- In milliseconds. -/
  | pollInterval (n : Nat)
  /-- A member that is no setting. -/
  | other (name : List Char)
deriving DecidableEq, Repr

namespace Entry

/-- The setting that a member is, if it is one. -/
def field? : Entry → Option Field
  | .capacity _ => some .capacity
  | .overflow _ => some .overflow
  | .pollInterval _ => some .pollInterval
  | .other _ => none

/-- The name of a member. -/
def name : Entry → List Char
  | .capacity _ => Field.capacity.name.toList
  | .overflow _ => Field.overflow.name.toList
  | .pollInterval _ => Field.pollInterval.name.toList
  | .other name => name

/-- The texts of a member's value: a number in plain decimals that fits into 64 bits, a policy by
its name, and anything at all where nobody asks. -/
inductive WritesValue : Entry → List Char → Prop where
  | capacity (n : Nat) (h : n < wordLimit) : WritesValue (.capacity n) (Nat.toDigits 10 n)
  | overflow (policy : Overflow) (s : List Char) (h : Spells policy.name.toList s) :
    WritesValue (.overflow policy) ('"' :: (s ++ ['"']))
  | pollInterval (n : Nat) (h : n < wordLimit) : WritesValue (.pollInterval n) (Nat.toDigits 10 n)
  | other (name s : List Char) (hn : Field.ofName? name = none) (h : IsValue s) :
    WritesValue (.other name) s

/-- **The texts of a member**, with blanks around its name, its colon and its value. -/
inductive Writes : Entry → List Char → Prop where
  | intro (e : Entry) (before name between behind value after : List Char)
      (hb : IsBlanks before) (hn : Spells e.name name) (hw : IsBlanks between)
      (hi : IsBlanks behind) (hv : WritesValue e value) (ha : IsBlanks after) :
    Writes e (before ++ '"' :: (name ++ '"' :: (between ++ ':' :: (behind ++ value ++ after))))

end Entry

/-- The texts of some members, with the commas between them. -/
inductive WritesMembers : List Entry → List Char → Prop where
  | last (e : Entry) (s : List Char) (h : e.Writes s) : WritesMembers [e] s
  | more (e : Entry) (entries : List Entry) (s rest : List Char) (he : e.Writes s)
      (h : WritesMembers entries rest) :
    WritesMembers (e :: entries) (s ++ ',' :: rest)

/-- **The documents with given members**, in their order. -/
inductive WritesObject : List Entry → List Char → Prop where
  | empty (before inside after : List Char) (hb : IsBlanks before) (hi : IsBlanks inside)
      (ha : IsBlanks after) :
    WritesObject [] (before ++ '\x7b' :: (inside ++ '\x7d' :: after))
  | members (entries : List Entry) (before inside after : List Char) (hb : IsBlanks before)
      (hi : WritesMembers entries inside) (ha : IsBlanks after) :
    WritesObject entries (before ++ '\x7b' :: (inside ++ '\x7d' :: after))

/-- The texts of some items, with the commas between them. -/
inductive WritesItems : List Entry → List Char → Prop where
  | last (e : Entry) (before value after : List Char) (hb : IsBlanks before)
      (hv : e.WritesValue value) (ha : IsBlanks after) :
    WritesItems [e] (before ++ value ++ after)
  | more (e : Entry) (entries : List Entry) (before value after rest : List Char)
      (hb : IsBlanks before) (hv : e.WritesValue value) (ha : IsBlanks after)
      (h : WritesItems entries rest) :
    WritesItems (e :: entries) (before ++ value ++ after ++ ',' :: rest)

/-- **The documents in list form** that give all three settings. -/
inductive WritesList : Nat → Overflow → Nat → List Char → Prop where
  | intro (capacity : Nat) (policy : Overflow) (interval : Nat) (before inside after : List Char)
      (hb : IsBlanks before)
      (hi : WritesItems [.capacity capacity, .overflow policy, .pollInterval interval] inside)
      (ha : IsBlanks after) :
    WritesList capacity policy interval (before ++ '[' :: (inside ++ ']' :: after))

/-- Takes one member into the settings. -/
def Draft.take (d : Draft) : Entry → Draft
  | .capacity n => { d with capacity := some n }
  | .overflow policy => { d with overflow := some policy }
  | .pollInterval n => { d with pollInterval := some n }
  | .other _ => d

/-- **What the members of a document say**, with the standard settings for what they leave out. -/
def settings (entries : List Entry) : Config :=
  (entries.foldl Draft.take .empty).config

/-- Whether a setting occurs among the members twice. -/
def Repeats (entries : List Entry) : Prop := ¬ (entries.filterMap Entry.field?).Nodup

end Outbox.Config
