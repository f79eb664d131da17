import Outbox.Text.Caseless

/-!
# Chunk extensions

The `name=value` pairs that travel beside a chunk's size. They form an ordered multimap: a name may
occur more than once, entries keep the order in which they were added, and names are compared
ignoring ASCII case while their spelling is kept. Equality is that of the entry lists, so it sees
both order and spelling.

## Main Definitions

* `Extensions` — the ordered list of entries
* `Extensions.getFirst?`, `Extensions.getAll`, `Extensions.contains` — look-up by name
* `Extensions.merge` — the entries of one list, with those of another taking over its names
-/

namespace Outbox

/-- **Chunk extensions**: entries in order, repeated names allowed. -/
structure Extensions where
  entries : List (String × String)
deriving DecidableEq, Repr

namespace Extensions

/-- No extensions at all. -/
def empty : Extensions := ⟨[]⟩

/-- Appends an entry behind all others, those of the same name included. -/
def insert (e : Extensions) (name value : String) : Extensions :=
  ⟨e.entries ++ [(name, value)]⟩

/-- The values of a name, in order. -/
def getAll (e : Extensions) (name : String) : List String :=
  (e.entries.filter fun entry => Text.sameName entry.1 name).map Prod.snd

/-- The value of the first entry of a name. -/
def getFirst? (e : Extensions) (name : String) : Option String :=
  (e.entries.find? fun entry => Text.sameName entry.1 name).map Prod.snd

/-- Whether any entry has the name. -/
def contains (e : Extensions) (name : String) : Bool :=
  e.entries.any fun entry => Text.sameName entry.1 name

/-- **Merging.** Every name of `other` takes over all its entries in `e`: those are dropped, and
`other` follows, as it is, behind the entries that stay. -/
def merge (e other : Extensions) : Extensions :=
  ⟨e.entries.filter (fun entry => !other.contains entry.1) ++ other.entries⟩

/-- The number of entries, repeated names counted each time. -/
def size (e : Extensions) : Nat := e.entries.length

def isEmpty (e : Extensions) : Bool := e.entries.isEmpty

/-- The entries between braces, as `name: value` with commas between them. -/
def render (e : Extensions) : String :=
  "\x7b" ++ ", ".intercalate (e.entries.map fun entry => entry.1 ++ ": " ++ entry.2) ++ "\x7d"

@[simp]
theorem entries_insert (e : Extensions) (name value : String) :
    (e.insert name value).entries = e.entries ++ [(name, value)] := rfl

@[simp]
theorem entries_merge (e other : Extensions) :
    (e.merge other).entries =
      e.entries.filter (fun entry => !other.contains entry.1) ++ other.entries := rfl

/-- The first value of a name is the head of its values. -/
theorem getFirst?_eq_head? (e : Extensions) (name : String) :
    e.getFirst? name = (e.getAll name).head? := by
  simp [getFirst?, getAll, List.head?_map, List.head?_filter]

end Extensions

end Outbox
