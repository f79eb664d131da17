import Outbox.Config
import Outbox.Json.Value

/-!
# Settings from a document

Settings are written as an object with up to three members, in any order and among members nobody
knows, or as a list with up to three items in a fixed order. What is left out keeps its standard
value. A member may occur once; a name is looked at after its escapes have been read.

## Main Definitions

* `Config.Field`, `Config.Draft` — the three settings, and those found so far
* `Config.ofJson` — the settings of a document
-/

namespace Outbox.Config

open Outbox.Json

/-- **The settings by name.** -/
inductive Field where
  | capacity
  | overflow
  | pollInterval
deriving DecidableEq, Repr

/-- The name of a setting in a document. -/
def Field.name : Field → String
  | .capacity => "capacity"
  | .overflow => "overflow"
  | .pollInterval => "poll_interval_ms"

/-- The settings in the order in which a list gives them. -/
def Field.all : List Field := [.capacity, .overflow, .pollInterval]

/-- The setting of a name. -/
def Field.ofName? (name : List Char) : Option Field :=
  Field.all.find? fun field => field.name.toList == name

/-- **The settings found so far.** -/
structure Draft where
  capacity : Option Nat
  overflow : Option Overflow
  pollInterval : Option Nat
deriving DecidableEq, Repr

namespace Draft

def empty : Draft := ⟨none, none, none⟩

/-- Whether a setting was found already. -/
def has (d : Draft) : Field → Bool
  | .capacity => d.capacity.isSome
  | .overflow => d.overflow.isSome
  | .pollInterval => d.pollInterval.isSome

/-- The settings, with the standard ones where none was found. -/
def config (d : Draft) : Config where
  capacity := d.capacity.getD Config.standard.capacity
  overflow := d.overflow.getD Config.standard.overflow
  pollInterval := (d.pollInterval.map milliseconds).getD Config.standard.pollInterval

end Draft

/-! ### Overflow policies -/

/-- The overflow policy of a name. -/
def readPolicyName (name : List Char) : Except Fault Overflow :=
  match Overflow.ofName? (String.ofList name) with
  | some policy => .ok policy
  | none => .error .mismatched

/-- Reads a `null`. -/
def readNull (s : List Char) : Except Fault (List Char) :=
  match skipBlanks s with
  | [] => .error .truncated
  | c :: rest =>
    if c = 'n' then word ['u', 'l', 'l'] rest else .error (wrongKind (c :: rest))

/-- **Reads the only member** of an object that names an overflow policy and gives it no value. The
member's name has to be a string by the grammar itself. So where anything else stands in its place,
such as a number or a `null`, there is no document, which is another fault than a value of the wrong
kind; and it is found before the name would be looked up. -/
def readPolicyMember (s : List Char) : Except Fault (Overflow × List Char) := do
  match skipBlanks s with
  | [] => .error .truncated
  | c :: rest =>
    if c = '"' then
      let (name, rest) ← readString rest
      let policy ← readPolicyName name
      let rest ← readNull (← readColon rest)
      match skipBlanks rest with
      | [] => .error .truncated
      | c :: rest => if c = '\x7d' then .ok (policy, rest) else .error .malformed
    else .error .malformed

/-- **Reads an overflow policy**: its name, or an object with the name as its only member. -/
def readPolicy (s : List Char) : Except Fault (Overflow × List Char) :=
  match skipBlanks s with
  | [] => .error .truncated
  | c :: rest =>
    if c = '"' then do
      let (name, rest) ← readString rest
      let policy ← readPolicyName name
      return (policy, rest)
    else if c = '\x7b' then readPolicyMember rest
    else .error .malformed

/-! ### Lists and objects -/

/-- Reads the value of a setting into the draft. -/
def readField (d : Draft) (s : List Char) : Field → Except Fault (Draft × List Char)
  | .capacity => (readCount s).map fun (n, rest) => ({ d with capacity := some n }, rest)
  | .overflow => (readPolicy s).map fun (p, rest) => ({ d with overflow := some p }, rest)
  | .pollInterval => (readCount s).map fun (n, rest) => ({ d with pollInterval := some n }, rest)

/-- Reads what follows the last setting of a list: the bracket that closes it, and no more items. -/
def readListEnd (s : List Char) : Except Fault (List Char) :=
  match skipBlanks s with
  | [] => .error .truncated
  | c :: rest => if c = ']' then .ok rest else .error .malformed

/-- **Reads the items of a list**, one for each setting, from behind its opening bracket. The list
may end early. -/
def readItems (first : Bool) (d : Draft) : List Field → List Char → Except Fault (Draft × List Char)
  | [], s => (readListEnd s).map (d, ·)
  | field :: fields, s =>
    match skipBlanks s with
    | [] => .error .truncated
    | c :: rest =>
      if c = ']' then .ok (d, rest)
      else if first then do
        let (d, rest) ← readField d (c :: rest) field
        readItems false d fields rest
      else if c = ',' then
        match skipBlanks rest with
        | [] => .error .truncated
        | c :: rest =>
          if c = ']' then .error .malformed
          else do
            let (d, rest) ← readField d (c :: rest) field
            readItems false d fields rest
      else .error .malformed

/-- Reads one member of an object, from behind the quote that opens its name. -/
def readMember (d : Draft) (s : List Char) : Except Fault (Draft × List Char) := do
  let (name, rest) ← readString s
  match Field.ofName? name with
  | some field =>
    if d.has field then .error .mismatched
    else readField d (← readColon rest) field
  | none => return (d, ← skipValue (← readColon rest))

/-- **Reads the members of an object**, from the first of them, and the brace that closes it, with
fuel for every member. -/
def readMembersWithin (d : Draft) : Nat → List Char → Except Fault (Draft × List Char)
  | 0, _ => .error .truncated
  | fuel + 1, s =>
    match skipBlanks s with
    | [] => .error .truncated
    | c :: rest =>
      if c = '"' then do
        let (d, rest) ← readMember d rest
        match skipBlanks rest with
        | [] => .error .truncated
        | c :: rest =>
          if c = ',' then readMembersWithin d fuel rest
          else if c = '\x7d' then .ok (d, rest)
          else .error .malformed
      else .error .malformed

/-- Reads an object, from behind its opening brace. -/
def readObject (s : List Char) : Except Fault (Draft × List Char) :=
  match skipBlanks s with
  | '\x7d' :: rest => .ok (.empty, rest)
  | inside => readMembersWithin .empty inside.length inside

/-- Reads a list or an object of settings. -/
def readDraft (s : List Char) : Except Fault (Draft × List Char) :=
  match skipBlanks s with
  | [] => .error .truncated
  | c :: rest =>
    if c = '[' then readItems true .empty Field.all rest
    else if c = '\x7b' then readObject rest
    else .error (wrongKind (c :: rest))

/-- **The settings of a document**, with nothing but blanks around them. -/
def ofJson (document : String) : Except Fault Config :=
  match readDraft document.toList with
  | .error fault => .error fault
  | .ok (draft, rest) =>
    if (skipBlanks rest).isEmpty then .ok draft.config else .error .malformed

end Outbox.Config
