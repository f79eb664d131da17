import Outbox.Proofs.Json.Number
import Outbox.Proofs.Json.Text

/-!
# Skipping values as they are written

A value that nobody asked for is skipped to its end and no further, however deep it is nested. Its
first character tells what it is, and inside a list or an object that first character is no closing
bracket; so an empty list is never taken for one with items, nor the other way round. The fuel is
twice the length of the text and a little: every value takes one unit for itself and every item one
more, and both of them at least one character.

## Main Definitions

* `skipValueWithin_of_isValue` — a value is skipped with fuel for twice its length
* `skipValue_of_isValue` — a value is skipped
-/

namespace Outbox.Json

variable {s value items member members before between after rest : List Char} {c : Char}
  {fuel : Nat}

/-! ### Marks -/

/-- Blanks in front of a colon do not matter. -/
theorem readColon_of_isBlanks (blanks : IsBlanks between) (rest : List Char) :
    readColon (between ++ ':' :: rest) = .ok rest := by
  rw [readColon, skipBlanks_append_cons blanks (by decide)]
  rfl

/-! ### The first character -/

/-- **A value begins with something that is neither blank nor a closing bracket.** -/
theorem exists_start_of_isValue (h : IsValue value) :
    ∃ c tail, value = c :: tail ∧ isBlank c = false ∧ c ≠ ']' := by
  cases h with
  | number _ h =>
    obtain ⟨c, tail, rfl, starts⟩ := exists_start_of_isNumber h
    refine ⟨c, tail, rfl, isBlank_eq_false_of_startsNumber starts, ?_⟩
    rintro rfl
    exact absurd starts (by decide)
  | null | true | false | string | emptyList | list | emptyObject | object =>
    exact ⟨_, _, rfl, by decide, by decide⟩

/-- The items of a list begin with a value, behind blanks. -/
theorem exists_start_of_isItems (h : IsItems items) (rest : List Char) :
    ∃ c tail, skipBlanks (items ++ rest) = c :: tail ∧ c ≠ ']' := by
  cases h with
  | last before value after hb hv | more before value after _ hb hv =>
    obtain ⟨c, tail, rfl, mark, other⟩ := exists_start_of_isValue hv
    simp only [List.append_assoc, List.cons_append, skipBlanks_append_cons hb mark]
    exact ⟨_, _, rfl, other⟩

/-- The members of an object begin with a quote, behind blanks. -/
theorem exists_start_of_isMembers (h : IsMembers members) (rest : List Char) :
    ∃ tail, skipBlanks (members ++ rest) = '"' :: tail := by
  cases h with
  | last _ h | more _ _ h =>
    cases h with
    | intro before _ _ _ _ _ hb =>
      have quote : isBlank '"' = false := by decide
      simp only [List.append_assoc, List.cons_append, skipBlanks_append_cons hb quote]
      exact ⟨_, rfl⟩

/-! ### Blanks in front -/

theorem skipBlanks_skipBlanks (s : List Char) : skipBlanks (skipBlanks s) = skipBlanks s := by
  unfold skipBlanks
  induction s with
  | nil => rfl
  | cons c s ih =>
    rw [List.dropWhile_cons]
    split
    · exact ih
    · next mark => rw [List.dropWhile_cons_of_neg mark]

theorem skipValueWithin_skipBlanks (fuel : Nat) (s : List Char) :
    skipValueWithin fuel (skipBlanks s) = skipValueWithin fuel s := by
  cases fuel with
  | zero => rfl
  | succ fuel => rw [skipValueWithin, skipValueWithin, skipBlanks_skipBlanks]

theorem skipItemsWithin_skipBlanks (fuel : Nat) (s : List Char) :
    skipItemsWithin fuel (skipBlanks s) = skipItemsWithin fuel s := by
  cases fuel with
  | zero => rfl
  | succ fuel => rw [skipItemsWithin, skipItemsWithin, skipValueWithin_skipBlanks]

theorem skipMembersWithin_skipBlanks (fuel : Nat) (s : List Char) :
    skipMembersWithin fuel (skipBlanks s) = skipMembersWithin fuel s := by
  cases fuel with
  | zero => rfl
  | succ fuel => rw [skipMembersWithin, skipMembersWithin, skipBlanks_skipBlanks]

/-- Blanks in front of a value are skipped with it. -/
theorem skipValueWithin_append (blanks : IsBlanks before) (fuel : Nat) (s : List Char) :
    skipValueWithin fuel (before ++ s) = skipValueWithin fuel s := by
  rw [← skipValueWithin_skipBlanks, skipBlanks_append blanks, skipValueWithin_skipBlanks]

/-! ### Values by their first character -/

theorem skipValueWithin_bracket (fuel : Nat) (s : List Char) :
    skipValueWithin (fuel + 1) ('[' :: s) =
      match skipBlanks s with
      | ']' :: behind => .ok behind
      | inside => skipItemsWithin fuel inside := by
  rw [skipValueWithin, skipBlanks_cons (by decide)]
  rfl

theorem skipValueWithin_brace (fuel : Nat) (s : List Char) :
    skipValueWithin (fuel + 1) ('\x7b' :: s) =
      match skipBlanks s with
      | '\x7d' :: behind => .ok behind
      | inside => skipMembersWithin fuel inside := by
  rw [skipValueWithin, skipBlanks_cons (by decide)]
  rfl

/-- **A list with items in it is skipped item by item.** -/
theorem skipValueWithin_list (h : IsItems items) (rest : List Char) :
    skipValueWithin (fuel + 1) ('[' :: (items ++ rest)) = skipItemsWithin fuel (items ++ rest) := by
  obtain ⟨c, tail, begins, other⟩ := exists_start_of_isItems h rest
  rw [skipValueWithin_bracket, ← skipItemsWithin_skipBlanks fuel (items ++ rest), begins]
  split
  · next same =>
    cases same
    exact absurd rfl other
  · rfl

/-- **An object with members in it is skipped member by member.** -/
theorem skipValueWithin_object (h : IsMembers members) (rest : List Char) :
    skipValueWithin (fuel + 1) ('\x7b' :: (members ++ rest)) =
      skipMembersWithin fuel (members ++ rest) := by
  obtain ⟨tail, begins⟩ := exists_start_of_isMembers h rest
  rw [skipValueWithin_brace, ← skipMembersWithin_skipBlanks fuel (members ++ rest), begins]
  rfl

/-- A number. -/
theorem skipValueWithin_number (h : IsNumber value) (stop : Breaks rest) :
    skipValueWithin (fuel + 1) (value ++ rest) = .ok rest := by
  have skipped := skipNumber_of_isNumber h stop
  obtain ⟨c, tail, rfl, starts⟩ := exists_start_of_isNumber h
  have mark := isBlank_eq_false_of_startsNumber starts
  have others : c ≠ 'n' ∧ c ≠ 't' ∧ c ≠ 'f' ∧ c ≠ '"' := by
    refine ⟨?_, ?_, ?_, ?_⟩ <;> (rintro rfl; exact absurd starts (by decide))
  rw [List.cons_append] at skipped ⊢
  rw [skipValueWithin, skipBlanks_cons mark]
  simp [others, starts, skipped]

/-! ### Items and members -/

/-- A value between blanks is skipped with those in front of it. -/
theorem skipValueWithin_between (blanks : IsBlanks before) (blanks' : IsBlanks after)
    (mark : goesOn c = false)
    (skipped : ∀ rest, Breaks rest → skipValueWithin fuel (value ++ rest) = .ok rest)
    (rest : List Char) :
    skipValueWithin fuel (before ++ value ++ after ++ c :: rest) = .ok (after ++ c :: rest) := by
  rw [List.append_assoc, List.append_assoc, skipValueWithin_append blanks]
  exact skipped _ ((breaks_cons mark).append blanks')

/-- **Behind an item the character that follows it decides.** -/
theorem skipItemsWithin_item (blanks : IsBlanks before) (blanks' : IsBlanks after)
    (mark : goesOn c = false) (mark' : isBlank c = false)
    (skipped : ∀ rest, Breaks rest → skipValueWithin fuel (value ++ rest) = .ok rest)
    (rest : List Char) :
    skipItemsWithin (fuel + 1) (before ++ value ++ after ++ c :: rest) =
      if c = ',' then skipItemsWithin fuel rest
      else if c = ']' then .ok rest
      else .error .malformed := by
  rw [skipItemsWithin, skipValueWithin_between blanks blanks' mark skipped]
  dsimp only
  rw [skipBlanks_append_cons blanks' mark']

/-- **Behind a member the character that follows it decides**, if a value that is shorter than the
member is skipped. -/
theorem skipMembersWithin_member (h : IsMember member)
    (skipped : ∀ value rest, IsValue value → value.length < member.length → Breaks rest →
      skipValueWithin fuel (value ++ rest) = .ok rest)
    (mark : goesOn c = false) (mark' : isBlank c = false) (rest : List Char) :
    skipMembersWithin (fuel + 1) (member ++ c :: rest) =
      if c = ',' then skipMembersWithin fuel rest
      else if c = '\x7d' then .ok rest
      else .error .malformed := by
  cases h with
  | intro before name between behind value after blanks text blanks₁ blanks₂ h blanks₃ =>
    have quote : isBlank '"' = false := by decide
    have shorter : value.length < (before ++ '"' :: (name ++ '"' :: (between ++ ':' ::
        (behind ++ value ++ after)))).length := by
      simp only [List.length_append, List.length_cons]
      omega
    have skipped' := skipValueWithin_between blanks₂ blanks₃ mark
      fun rest => skipped value rest h shorter
    rw [List.append_assoc, List.cons_append, List.append_assoc, List.cons_append, List.append_assoc,
      List.cons_append, skipMembersWithin, skipBlanks_append_cons blanks quote]
    dsimp only
    rw [if_pos rfl, skipString_of_isText text, Except.bind, readColon_of_isBlanks blanks₁]
    dsimp only
    rw [skipped']
    dsimp only
    rw [skipBlanks_append_cons blanks₃ mark']

/-! ### Values -/

mutual

/-- **A value is skipped with fuel for twice its length**, and nothing behind it. -/
theorem skipValueWithin_of_isValue {value rest : List Char} (h : IsValue value)
    (stop : Breaks rest) :
    ∀ {fuel : Nat}, 2 * value.length + 1 ≤ fuel →
      skipValueWithin fuel (value ++ rest) = .ok rest
  | fuel + 1, enough => by
    cases h with
    | null | true | false => rfl
    | number _ h => exact skipValueWithin_number h stop
    | string s h =>
      rw [List.cons_append, List.append_assoc]
      exact skipString_of_isText h rest
    | emptyList s blanks =>
      have mark : isBlank ']' = false := by decide
      rw [List.cons_append, List.append_assoc, skipValueWithin_bracket, List.cons_append,
        skipBlanks_append_cons blanks mark]
      rfl
    | list items h =>
      simp only [List.length_cons, List.length_append, List.length_nil] at enough
      rw [List.cons_append, List.append_assoc, skipValueWithin_list h]
      exact skipItemsWithin_of_isItems h (by omega)
    | emptyObject s blanks =>
      have mark : isBlank '\x7d' = false := by decide
      rw [List.cons_append, List.append_assoc, skipValueWithin_brace, List.cons_append,
        skipBlanks_append_cons blanks mark]
      rfl
    | object members h =>
      simp only [List.length_cons, List.length_append, List.length_nil] at enough
      rw [List.cons_append, List.append_assoc, skipValueWithin_object h]
      exact skipMembersWithin_of_isMembers h (by omega)

/-- The items of a list are skipped with the bracket behind them. -/
theorem skipItemsWithin_of_isItems {items rest : List Char} (h : IsItems items) :
    ∀ {fuel : Nat}, 2 * items.length + 2 ≤ fuel →
      skipItemsWithin fuel (items ++ ']' :: rest) = .ok rest
  | fuel + 1, enough => by
    cases h with
    | last before value after blanks h blanks' =>
      simp only [List.length_append] at enough
      rw [skipItemsWithin_item blanks blanks' (by decide) (by decide) fun _ stop =>
        skipValueWithin_of_isValue h stop (by omega)]
      rfl
    | more before value after items blanks h blanks' more =>
      simp only [List.length_append, List.length_cons] at enough
      rw [List.append_assoc _ (',' :: items), List.cons_append,
        skipItemsWithin_item blanks blanks' (by decide) (by decide) fun _ stop =>
          skipValueWithin_of_isValue h stop (by omega)]
      exact skipItemsWithin_of_isItems more (by omega)

/-- The members of an object are skipped with the brace behind them. -/
theorem skipMembersWithin_of_isMembers {members rest : List Char} (h : IsMembers members) :
    ∀ {fuel : Nat}, 2 * members.length + 2 ≤ fuel →
      skipMembersWithin fuel (members ++ '\x7d' :: rest) = .ok rest
  | fuel + 1, enough => by
    cases h with
    | last _ h =>
      rw [skipMembersWithin_member h (fun _ _ h shorter stop =>
        skipValueWithin_of_isValue h stop (by omega)) (by decide) (by decide)]
      rfl
    | more member members h more =>
      simp only [List.length_append, List.length_cons] at enough
      rw [List.append_assoc, List.cons_append,
        skipMembersWithin_member h (fun _ _ h shorter stop =>
          skipValueWithin_of_isValue h stop (by omega)) (by decide) (by decide)]
      exact skipMembersWithin_of_isMembers more (by omega)

end

/-- **A value is skipped**, whatever breaks off behind it. -/
theorem skipValue_of_isValue (blanks : IsBlanks before) (h : IsValue value) (stop : Breaks rest) :
    skipValue (before ++ value ++ rest) = .ok rest := by
  rw [skipValue, List.append_assoc, skipValueWithin_append blanks]
  refine skipValueWithin_of_isValue h stop ?_
  simp only [List.length_append]
  omega

end Outbox.Json
