import Outbox.Json.Number
import Outbox.Json.Text

/-!
# Values of any kind

A value that nobody asked for is skipped: all of it has to be in the grammar, and nothing else about
it matters, neither the depth of its nesting nor the magnitude of its numbers. A value of the wrong
kind is looked at only as far as its kind is told.

## Main Definitions

* `skipValue` — the text behind a value, whatever it is
* `wrongKind` — the fault of a value that stands where another kind is wanted
-/

namespace Outbox.Json

/-- Reads a colon behind a member's name. -/
def readColon (s : List Char) : Except Fault (List Char) :=
  match skipBlanks s with
  | [] => .error .truncated
  | c :: rest => if c = ':' then .ok rest else .error .malformed

/-- Skips a number. One that is cut short is malformed, also at the end of the text. -/
def skipNumber (s : List Char) : Except Fault (List Char) :=
  (readNumeral .malformed s).map Prod.snd

/-- Whether a number begins with this character. -/
def startsNumber (c : Char) : Bool := c = '-' || c.isDigit

mutual

/-- Skips a value, with fuel for every token in it. -/
def skipValueWithin : Nat → List Char → Except Fault (List Char)
  | 0, _ => .error .truncated
  | fuel + 1, s =>
    match skipBlanks s with
    | [] => .error .truncated
    | c :: rest =>
      if c = 'n' then word ['u', 'l', 'l'] rest
      else if c = 't' then word ['r', 'u', 'e'] rest
      else if c = 'f' then word ['a', 'l', 's', 'e'] rest
      else if c = '"' then skipString rest
      else if startsNumber c then skipNumber (c :: rest)
      else if c = '[' then
        match skipBlanks rest with
        | ']' :: behind => .ok behind
        | inside => skipItemsWithin fuel inside
      else if c = '\x7b' then
        match skipBlanks rest with
        | '\x7d' :: behind => .ok behind
        | inside => skipMembersWithin fuel inside
      else .error .malformed

/-- Skips the items of a list, from the first of them, and the bracket that closes it. -/
def skipItemsWithin : Nat → List Char → Except Fault (List Char)
  | 0, _ => .error .truncated
  | fuel + 1, s =>
    match skipValueWithin fuel s with
    | .error fault => .error fault
    | .ok rest =>
      match skipBlanks rest with
      | [] => .error .truncated
      | c :: rest =>
        if c = ',' then skipItemsWithin fuel rest
        else if c = ']' then .ok rest
        else .error .malformed

/-- Skips the members of an object, from the first of them, and the brace that closes it. -/
def skipMembersWithin : Nat → List Char → Except Fault (List Char)
  | 0, _ => .error .truncated
  | fuel + 1, s =>
    match skipBlanks s with
    | [] => .error .truncated
    | c :: rest =>
      if c = '"' then
        match (skipString rest).bind readColon with
        | .error fault => .error fault
        | .ok rest =>
          match skipValueWithin fuel rest with
          | .error fault => .error fault
          | .ok rest =>
            match skipBlanks rest with
            | [] => .error .truncated
            | c :: rest =>
              if c = ',' then skipMembersWithin fuel rest
              else if c = '\x7d' then .ok rest
              else .error .malformed
      else .error .malformed

end

/-- **Skips a value.** An item of a list uses fuel twice, for itself and for its value, and takes a
character at least; so there is fuel enough. -/
def skipValue (s : List Char) : Except Fault (List Char) :=
  skipValueWithin (2 * s.length + 1) s

/-- The fault left when reading went well and the value does not fit all the same. -/
def unfit {α : Type} : Except Fault α → Fault
  | .ok _ => .mismatched
  | .error fault => fault

/-- **The fault of a value of the wrong kind.** A word, a number or a string is read to its end and
may be faulty in itself; of a list or an object the first character is enough. -/
def wrongKind : List Char → Fault
  | [] => .malformed
  | c :: rest =>
    if c = 'n' then unfit (word ['u', 'l', 'l'] rest)
    else if c = 't' then unfit (word ['r', 'u', 'e'] rest)
    else if c = 'f' then unfit (word ['a', 'l', 's', 'e'] rest)
    else if c = '"' then unfit (readString rest)
    else if startsNumber c then
      unfit ((readNumeral .truncated (c :: rest)).bind fun (n, _) => n.count)
    else if c = '[' || c = '\x7b' then .mismatched
    else .malformed

/-- **Reads a count.** -/
def readCount (s : List Char) : Except Fault (Nat × List Char) :=
  match skipBlanks s with
  | [] => .error .truncated
  | c :: rest =>
    if startsNumber c then
      match readNumeral .truncated (c :: rest) with
      | .error fault => .error fault
      | .ok (n, rest) => n.count.map (·, rest)
    else .error (wrongKind (c :: rest))

end Outbox.Json
