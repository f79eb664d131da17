import Outbox.Config.Layout
import Outbox.Proofs.Json.Value

/-!
# Every layout of the same settings is read alike

A settings document is read member by member into a draft, and what carries the argument is that one
member of the text does to the draft what the member says: a setting is taken, unless it was found
already, and any other member leaves the draft alone, whatever its value is, since all of that value
is skipped and nothing behind it. So reading a document is taking its members one after the other.

The rest is about drafts. Members that differ in the setting they give commute, and taking one twice
is taking it once; so a member that is repeated by no other still stands in the draft at the end,
wherever it stood in the document.

## Main Definitions

* `Config.Draft.takeNew` — takes a member into a draft, unless its setting was found already
* `Config.Alike` — what all documents with the same members have in common
* `Config.layouts_alike` — every layout is read as what its members say
-/

namespace Outbox.Config

open Outbox.Json

variable {d : Draft} {e e' : Entry} {entries : List Entry} {field : Field} {fuel : Nat} {c : Char}
  {s text value before between behind after rest : List Char}

/-! ### Drafts -/

namespace Draft

/-- Takes a member into a draft, unless its setting was found already. -/
def takeNew (d : Draft) (e : Entry) : Except Fault Draft :=
  if e.field?.any d.has then .error .mismatched else .ok (d.take e)

theorem has_take (d : Draft) (e : Entry) (field : Field) :
    (d.take e).has field = (d.has field || e.field? == some field) := by
  cases e <;> cases field <;> simp [take, has, Entry.field?]

theorem take_take_self (d : Draft) (e : Entry) : (d.take e).take e = d.take e := by
  cases e <;> rfl

/-- Members that give different settings commute. -/
theorem take_take_comm (d : Draft) (other : e.field? = none ∨ e.field? ≠ e'.field?) :
    (d.take e).take e' = (d.take e').take e := by
  cases e <;> cases e' <;> simp_all [take, Entry.field?]

/-- A member that no other repeats can as well be taken at the end. -/
theorem foldl_take_comm (alone : ∀ field ∈ e.field?, field ∉ entries.filterMap Entry.field?) :
    entries.foldl take (d.take e) = (entries.foldl take d).take e := by
  induction entries generalizing d with
  | nil => rfl
  | cons e' entries ih =>
    have other : e.field? = none ∨ e.field? ≠ e'.field? := by
      cases is : e.field? with
      | none => exact Or.inl rfl
      | some field =>
        right
        intro same
        refine alone field is (List.mem_filterMap.mpr ⟨e', List.mem_cons_self, ?_⟩)
        exact same.symm
    rw [List.foldl_cons, List.foldl_cons, take_take_comm d other]
    refine ih fun field is mem => alone field is ?_
    obtain ⟨e'', isIn, gives⟩ := List.mem_filterMap.mp mem
    exact List.mem_filterMap.mpr ⟨e'', List.mem_cons_of_mem _ isIn, gives⟩

/-- The settings found at the end are those found before and those of the members. -/
theorem has_foldl_take (d : Draft) (entries : List Entry) (field : Field) :
    (entries.foldl take d).has field = true ↔
      d.has field = true ∨ field ∈ entries.filterMap Entry.field? := by
  induction entries generalizing d with
  | nil => simp
  | cons e entries ih =>
    rw [List.foldl_cons, ih, has_take, List.filterMap_cons]
    cases is : e.field? with
    | none => simp
    | some field' =>
      simp only [Bool.or_eq_true, beq_iff_eq, Option.some.injEq, List.mem_cons, or_assoc,
        @eq_comm _ field' field]

/-- Whether no setting of some members was found already or is repeated among them. -/
def IsFresh (d : Draft) (entries : List Entry) : Prop :=
  (entries.filterMap Entry.field?).Nodup ∧
    ∀ field ∈ entries.filterMap Entry.field?, d.has field = false

theorem isFresh_cons :
    d.IsFresh (e :: entries) ↔ e.field?.any d.has = false ∧ (d.take e).IsFresh entries := by
  simp only [IsFresh, has_take, List.filterMap_cons]
  cases is : e.field? with
  | none => simp
  | some field =>
    simp only [List.nodup_cons, List.forall_mem_cons, Option.any_some, Bool.or_eq_false_iff,
      beq_eq_false_iff_ne, ne_eq, Option.some.injEq]
    constructor
    · rintro ⟨⟨alone, nodup⟩, notFound, fresh⟩
      exact ⟨notFound, nodup, fun other mem => ⟨fresh other mem, fun same => alone (same ▸ mem)⟩⟩
    · rintro ⟨notFound, nodup, fresh⟩
      exact ⟨⟨fun mem => (fresh field mem).2 rfl, nodup⟩, notFound, fun other mem =>
        (fresh other mem).1⟩

/-- **A member that is not repeated stands in the draft at the end**: taking it once more changes
nothing. -/
theorem take_foldl_take (fresh : d.IsFresh entries) (mem : e ∈ entries) :
    (entries.foldl take d).take e = entries.foldl take d := by
  induction entries generalizing d with
  | nil => cases mem
  | cons e' entries ih =>
    obtain ⟨-, fresh⟩ := isFresh_cons.mp fresh
    rw [List.foldl_cons]
    rcases List.mem_cons.mp mem with rfl | mem
    · have alone : ∀ field ∈ e.field?, field ∉ entries.filterMap Entry.field? := by
        intro field is mem
        have found := fresh.2 field mem
        rw [has_take, Option.mem_def.mp is, beq_self_eq_true, Bool.or_true] at found
        cases found
      rw [foldl_take_comm alone, take_take_self]
    · exact ih fresh mem

theorem isFresh_empty : empty.IsFresh entries ↔ ¬ Repeats entries := by
  rw [Repeats, Decidable.not_not]
  exact ⟨And.left, fun nodup => ⟨nodup, fun field _ => by cases field <;> rfl⟩⟩

/-- **Members are taken one after the other up to the first that repeats another.** -/
theorem foldlM_takeNew (d : Draft) (entries : List Entry) :
    (d.IsFresh entries → entries.foldlM takeNew d = .ok (entries.foldl take d)) ∧
      (¬ d.IsFresh entries → entries.foldlM takeNew d = .error .mismatched) := by
  induction entries generalizing d with
  | nil => exact ⟨fun _ => rfl, fun repeats => absurd ⟨List.nodup_nil, nofun⟩ repeats⟩
  | cons e entries ih =>
    rw [isFresh_cons, List.foldlM_cons, List.foldl_cons]
    cases found : e.field?.any d.has with
    | true =>
      rw [takeNew, if_pos found]
      exact ⟨fun fresh => (by cases fresh.1), fun _ => rfl⟩
    | false =>
      rw [takeNew, found, if_neg Bool.false_ne_true]
      exact ⟨fun fresh => (ih (d.take e)).1 fresh.2, fun repeats =>
        (ih (d.take e)).2 fun fresh => repeats ⟨rfl, fresh⟩⟩

end Draft

/-! ### Values -/

/-- What spells some characters may stand in a string. -/
theorem isText_of_spells (h : Spells text s) : IsText s := by
  induction h with
  | nil => exact .nil
  | plain c _ s plain _ ih => exact .plain c s plain ih
  | letter c d _ s letter _ ih => exact .letter c s (letter ▸ rfl) ih
  | unit c digits _ s four value _ ih => exact .unit digits s four (value ▸ rfl) ih
  | pair c high low first second _ s _ four four' value value' _ ih =>
    exact .unit first _ four (value ▸ rfl) (.unit second s four' (value' ▸ rfl) ih)

/-- The value of a member is a value. -/
theorem isValue_of_writesValue (h : e.WritesValue value) : IsValue value := by
  cases h with
  | capacity n | pollInterval n => exact .number _ (isNumber_toDigits n)
  | overflow policy s spells => exact .string s (isText_of_spells spells)
  | other name _ _ isValue => exact isValue

theorem ofName?_name (policy : Overflow) : Overflow.ofName? policy.name = some policy := by
  cases policy <;> decide

/-- A policy is read from its name. -/
theorem readPolicy_of_spells {policy : Overflow} (spells : Spells policy.name.toList s)
    (rest : List Char) : readPolicy ('"' :: (s ++ '"' :: rest)) = .ok (policy, rest) := by
  have named : readPolicyName policy.name.toList = .ok policy := by
    rw [readPolicyName, String.ofList_toList, ofName?_name]
  rw [readPolicy, skipBlanks_cons (by decide)]
  dsimp only
  rw [if_pos rfl, readString_of_spells spells]
  show (readPolicyName policy.name.toList >>= fun policy => pure (policy, rest)) = _
  rw [named]
  rfl

/-- **The value of a setting is taken into the draft**, and nothing behind it. -/
theorem readField_of_writesValue (h : e.WritesValue value) (is : e.field? = some field)
    (stop : Breaks rest) : readField d (value ++ rest) field = .ok (d.take e, rest) := by
  cases h with
  | capacity n fits =>
    cases is
    rw [readField, readCount_of_toDigits fits stop]
    rfl
  | overflow policy s spells =>
    cases is
    rw [readField, List.cons_append, List.append_assoc, List.cons_append, List.nil_append,
      readPolicy_of_spells spells]
    rfl
  | pollInterval n fits =>
    cases is
    rw [readField, readCount_of_toDigits fits stop]
    rfl
  | other => cases is

/-- Blanks in front of the value of a setting do not matter. -/
theorem readField_append (blanks : IsBlanks before) (d : Draft) (s : List Char) (field : Field) :
    readField d (before ++ s) field = readField d s field := by
  cases field <;> simp only [readField, readCount, readPolicy, skipBlanks_append blanks]

/-! ### Members of an object -/

/-- The name of a member tells which setting it is. -/
theorem ofName?_of_writesValue (h : e.WritesValue value) : Field.ofName? e.name = e.field? := by
  cases h with
  | capacity | overflow | pollInterval => rfl
  | other name _ none => exact none

/-- **A member of the text is taken into the draft.** -/
theorem readMember_of_writes (spells : Spells e.name s) (blanks : IsBlanks between)
    (blanks' : IsBlanks behind) (h : e.WritesValue value) (stop : Breaks rest) :
    readMember d (s ++ '"' :: (between ++ ':' :: (behind ++ value ++ rest))) =
      (d.takeNew e).map (·, rest) := by
  have named := ofName?_of_writesValue h
  cases is : e.field? with
  | none =>
    have same : d.take e = d := by cases e <;> first | rfl | cases is
    rw [is] at named
    simp only [readMember, readString_of_spells spells, named, bind, Except.bind,
      readColon_of_isBlanks blanks, skipValue_of_isValue blanks' (isValue_of_writesValue h) stop,
      Draft.takeNew, is, same]
    rfl
  | some field =>
    rw [is] at named
    have taken : readField d (behind ++ value ++ rest) field = .ok (d.take e, rest) := by
      rw [List.append_assoc, readField_append blanks', readField_of_writesValue h is stop]
    simp only [readMember, readString_of_spells spells, named, bind, Except.bind,
      readColon_of_isBlanks blanks, taken, Draft.takeNew, is, Option.any_some]
    split <;> rfl

/-- **Behind a member the character that follows it decides.** -/
theorem readMembersWithin_of_writes (h : e.Writes s) (mark : goesOn c = false)
    (mark' : isBlank c = false) :
    readMembersWithin d (fuel + 1) (s ++ c :: rest) =
      (d.takeNew e).bind fun d =>
        if c = ',' then readMembersWithin d fuel rest
        else if c = '\x7d' then .ok (d, rest)
        else .error .malformed := by
  cases h with
  | intro before name between behind value after blanks spells blanks₁ blanks₂ h blanks₃ =>
    have quote : isBlank '"' = false := by decide
    have read := readMember_of_writes (d := d) spells blanks₁ blanks₂ h
      ((breaks_cons (s := rest) mark).append blanks₃)
    simp only [List.append_assoc, List.cons_append] at read ⊢
    rw [readMembersWithin, skipBlanks_append_cons blanks quote]
    simp only [if_true, bind, Except.bind, read]
    cases d.takeNew e with
    | error => rfl
    | ok d =>
      simp only [Except.map]
      rw [skipBlanks_append_cons blanks₃ mark']

/-- Taking members one after the other begins with the first. -/
theorem readMembersWithin_of_writesMembers (h : WritesMembers entries s) (rest : List Char) :
    ∀ {fuel : Nat} (d : Draft), entries.length ≤ fuel →
      readMembersWithin d fuel (s ++ '\x7d' :: rest) =
        (entries.foldlM Draft.takeNew d).map (·, rest) := by
  induction h with
  | last e s h =>
    intro fuel d enough
    obtain ⟨fuel, rfl⟩ := Nat.exists_eq_add_of_le' enough
    show readMembersWithin d (fuel + 1) _ = _
    rw [readMembersWithin_of_writes h (by decide) (by decide), List.foldlM_cons]
    cases d.takeNew e <;> rfl
  | more e entries s more h _ ih =>
    intro fuel d enough
    obtain ⟨fuel, rfl⟩ := Nat.exists_eq_add_of_le' (Nat.le_trans (Nat.le_add_left 1 _) enough)
    rw [List.append_assoc, List.cons_append,
      readMembersWithin_of_writes h (by decide) (by decide), List.foldlM_cons]
    cases d.takeNew e with
    | error => rfl
    | ok d => exact ih d (Nat.le_of_succ_le_succ enough)

theorem readMembersWithin_skipBlanks (d : Draft) (fuel : Nat) (s : List Char) :
    readMembersWithin d fuel (skipBlanks s) = readMembersWithin d fuel s := by
  cases fuel with
  | zero => rfl
  | succ fuel => rw [readMembersWithin, readMembersWithin, skipBlanks_skipBlanks]

/-- Members begin with a quote, behind blanks, and each takes a character at least. -/
theorem exists_start_of_writesMembers (h : WritesMembers entries s) (rest : List Char) :
    ∃ tail, skipBlanks (s ++ rest) = '"' :: tail ∧ entries.length ≤ tail.length + 1 := by
  have quote : isBlank '"' = false := by decide
  induction h with
  | last e s h =>
    cases h with
    | intro before _ _ _ _ _ blanks =>
      simp only [List.append_assoc, List.cons_append, skipBlanks_append_cons blanks quote]
      exact ⟨_, rfl, Nat.le_add_left 1 _⟩
  | more e entries s more h _ ih =>
    obtain ⟨tail, begins, short⟩ := ih
    have shorter := skipBlanks_length_le (more ++ rest)
    rw [begins, List.length_cons, List.length_append] at shorter
    cases h with
    | intro before _ _ _ _ _ blanks =>
      simp only [List.append_assoc, List.cons_append, skipBlanks_append_cons blanks quote]
      refine ⟨_, rfl, ?_⟩
      simp only [List.length_append, List.length_cons]
      omega

/-- **An object is read as taking its members one after the other.** -/
theorem readObject_of_writesMembers (h : WritesMembers entries s) (rest : List Char) :
    readObject (s ++ '\x7d' :: rest) =
      (entries.foldlM Draft.takeNew .empty).map (·, rest) := by
  obtain ⟨tail, begins, short⟩ := exists_start_of_writesMembers h ('\x7d' :: rest)
  have read := readMembersWithin_of_writesMembers h rest .empty short
  rw [← readMembersWithin_skipBlanks, begins] at read
  rw [readObject, begins]
  exact read

/-! ### Items of a list -/

/-- Blanks and the bracket behind them end a list. -/
theorem readItems_end (blanks : IsBlanks after) (d : Draft) (fields : List Field)
    (rest : List Char) : readItems false d fields (after ++ ']' :: rest) = .ok (d, rest) := by
  have mark : isBlank ']' = false := by decide
  cases fields with
  | nil =>
    rw [readItems, readListEnd, skipBlanks_append_cons blanks mark]
    rfl
  | cons field fields =>
    rw [readItems, skipBlanks_append_cons blanks mark]
    rfl

/-- The first item of a list is taken into the draft. -/
theorem readItems_first (blanks : IsBlanks before) (h : e.WritesValue value)
    (is : e.field? = some field) (stop : Breaks rest) (d : Draft) (fields : List Field) :
    readItems true d (field :: fields) (before ++ value ++ rest) =
      readItems false (d.take e) fields rest := by
  have taken := readField_of_writesValue (d := d) h is stop
  obtain ⟨c, tail, rfl, mark, other⟩ := exists_start_of_isValue (isValue_of_writesValue h)
  rw [List.append_assoc, List.cons_append, readItems, skipBlanks_append_cons blanks mark]
  rw [List.cons_append] at taken
  simp only [if_neg other, if_true, taken, bind, Except.bind]

/-- Behind a comma the next item is taken. -/
theorem readItems_next (blanks : IsBlanks after) (blanks' : IsBlanks before)
    (h : e.WritesValue value) (is : e.field? = some field) (stop : Breaks rest) (d : Draft)
    (fields : List Field) :
    readItems false d (field :: fields) (after ++ ',' :: (before ++ value ++ rest)) =
      readItems false (d.take e) fields rest := by
  have comma : isBlank ',' = false := by decide
  have notEnd : ',' ≠ ']' := by decide
  have taken := readField_of_writesValue (d := d) h is stop
  obtain ⟨c, tail, rfl, mark, other⟩ := exists_start_of_isValue (isValue_of_writesValue h)
  rw [List.append_assoc, List.cons_append, readItems, skipBlanks_append_cons blanks comma]
  rw [List.cons_append] at taken
  simp only [if_neg notEnd, if_false, if_true, skipBlanks_append_cons blanks' mark, if_neg other,
    taken, bind, Except.bind, Bool.false_eq_true]

/-- **The items of a list are taken one after the other**, each for the setting whose place it is
at. -/
theorem readItems_of_writesItems (h : WritesItems entries s) (rest : List Char) :
    ∀ (fields : List Field) (d : Draft), entries.map Entry.field? = fields.map some →
      readItems true d fields (s ++ ']' :: rest) = .ok (entries.foldl Draft.take d, rest) ∧
        ∀ {after : List Char}, IsBlanks after →
          readItems false d fields (after ++ ',' :: (s ++ ']' :: rest)) =
            .ok (entries.foldl Draft.take d, rest) := by
  have bracket : goesOn ']' = false := by decide
  have comma : goesOn ',' = false := by decide
  induction h with
  | last e before value behind blanks h blanks' =>
    intro fields d same
    obtain ⟨field, fields, rfl, is, -⟩ := List.map_eq_cons_iff.mp same.symm
    have stop := (breaks_cons (s := rest) bracket).append blanks'
    rw [List.append_assoc]
    refine ⟨?_, fun blanks₁ => ?_⟩
    · rw [readItems_first blanks h is.symm stop]
      exact readItems_end blanks' _ _ rest
    · rw [readItems_next blanks₁ blanks h is.symm stop]
      exact readItems_end blanks' _ _ rest
  | more e entries before value behind more blanks h blanks' _ ih =>
    intro fields d same
    obtain ⟨field, fields, rfl, is, same⟩ := List.map_eq_cons_iff.mp same.symm
    have stop := (breaks_cons (s := more ++ ']' :: rest) comma).append blanks'
    rw [List.append_assoc, List.append_assoc, List.cons_append]
    refine ⟨?_, fun blanks₁ => ?_⟩
    · rw [readItems_first blanks h is.symm stop]
      exact (ih fields (d.take e) same.symm).2 blanks'
    · rw [readItems_next blanks₁ blanks h is.symm stop]
      exact (ih fields (d.take e) same.symm).2 blanks'

/-! ### Documents -/

/-- A draft with nothing but blanks behind it is a document's. -/
theorem ofJson_of_readDraft {document : String} (blanks : IsBlanks after)
    (read : readDraft document.toList = .ok (d, after)) : ofJson document = .ok d.config := by
  have nothing := skipBlanks_append (s := []) blanks
  rw [List.append_nil] at nothing
  rw [ofJson, read]
  dsimp only
  rw [nothing]
  rfl

/-- **A document is read as taking its members one after the other.** -/
theorem ofJson_of_writesObject {document : String} (h : WritesObject entries document.toList) :
    ofJson document = (entries.foldlM Draft.takeNew .empty).map Draft.config := by
  have brace : isBlank '\x7b' = false := by decide
  have brace' : isBlank '\x7d' = false := by decide
  generalize same : document.toList = s at h
  cases h with
  | empty before inside after blanks blanks' blanks₁ =>
    refine ofJson_of_readDraft blanks₁ ?_
    rw [same, readDraft, skipBlanks_append_cons blanks brace]
    show readObject (inside ++ '\x7d' :: after) = _
    rw [readObject, skipBlanks_append_cons blanks' brace']
    rfl
  | members _ before inside after blanks members blanks₁ =>
    have read : readDraft document.toList =
        (entries.foldlM Draft.takeNew .empty).map (·, after) := by
      rw [same, readDraft, skipBlanks_append_cons blanks brace]
      exact readObject_of_writesMembers members after
    cases taken : entries.foldlM Draft.takeNew .empty with
    | error fault =>
      rw [taken] at read
      rw [ofJson, read]
      rfl
    | ok d =>
      rw [taken] at read
      exact ofJson_of_readDraft blanks₁ read

/-- A document in list form is read as its three items. -/
theorem ofJson_of_writesList {document : String} {capacity interval : Nat} {policy : Overflow}
    (h : WritesList capacity policy interval document.toList) :
    ofJson document = .ok ⟨capacity, policy, milliseconds interval⟩ := by
  have bracket : isBlank '[' = false := by decide
  generalize same : document.toList = s at h
  cases h with
  | intro before inside after blanks items blanks₁ =>
    have read := (readItems_of_writesItems items after Field.all .empty rfl).1
    refine ofJson_of_readDraft (d := ⟨capacity, policy, interval⟩) blanks₁ ?_
    rw [same, readDraft, skipBlanks_append_cons blanks bracket]
    exact read

/-! ### What a document says -/

/-- **A setting has the value that a member gives it.** -/
def Entry.HoldsIn (c : Config) : Entry → Prop
  | .capacity n => c.capacity = n
  | .overflow policy => c.overflow = policy
  | .pollInterval n => c.pollInterval = n * 1000000
  | .other _ => True

/-- A setting has its standard value. -/
def Field.IsStandardIn (c : Config) : Field → Prop
  | .capacity => c.capacity = Config.standard.capacity
  | .overflow => c.overflow = Config.standard.overflow
  | .pollInterval => c.pollInterval = Config.standard.pollInterval

theorem Draft.holdsIn_config (same : d.take e = d) : e.HoldsIn d.config := by
  cases e with
  | other => exact trivial
  | capacity n | overflow n | pollInterval n =>
    rw [← same]
    rfl

theorem Draft.isStandardIn_config (missing : d.has field = false) :
    field.IsStandardIn d.config := by
  cases field <;> simp_all [has, Field.IsStandardIn, config]

theorem holdsIn_settings (once : ¬ Repeats entries) (mem : e ∈ entries) :
    e.HoldsIn (settings entries) :=
  Draft.holdsIn_config (Draft.take_foldl_take (Draft.isFresh_empty.mpr once) mem)

theorem isStandardIn_settings (missing : field ∉ entries.filterMap Entry.field?) :
    field.IsStandardIn (settings entries) := by
  refine Draft.isStandardIn_config ?_
  rw [← Bool.not_eq_true, Draft.has_foldl_take]
  rintro (found | mem)
  · cases field <;> cases found
  · exact missing mem

/-- The intervals in a document fit into 64 bits. -/
theorem lt_of_writesMembers (h : WritesMembers entries s) {n : Nat}
    (mem : .pollInterval n ∈ entries) : n < wordLimit := by
  have fits {e : Entry} {s : List Char} (h : e.Writes s) (same : .pollInterval n = e) :
      n < wordLimit := by
    subst same
    cases h with
    | intro _ _ _ _ _ _ _ _ _ _ h =>
      cases h with
      | pollInterval _ fits => exact fits
  induction h with
  | last e s h => exact fits h (List.mem_singleton.mp mem)
  | more e entries s rest h _ ih => exact (List.mem_cons.mp mem).elim (fits h) ih

/-- **What all documents with the same members have in common**, whatever their blanks and the
spelling of their names, and whatever the other members are. -/
structure Alike (entries : List Entry) : Prop where
  /-- If no setting occurs twice, a document is read as what its members say. -/
  object : ¬ Repeats entries → ∀ document : String, WritesObject entries document.toList →
    ofJson document = .ok (settings entries)
  /-- A list of all three settings is read as an object with them. -/
  list : ¬ Repeats entries → ∀ capacity policy interval, .capacity capacity ∈ entries →
    .overflow policy ∈ entries → .pollInterval interval ∈ entries → ∀ document : String,
      WritesList capacity policy interval document.toList → ofJson document = .ok (settings entries)
  /-- Every setting has the value that its member gives it, wherever it stands. -/
  given : ¬ Repeats entries → ∀ e ∈ entries, e.HoldsIn (settings entries)
  /-- A setting that is left out has its standard value. -/
  absent : ∀ field, field ∉ entries.filterMap Entry.field? → field.IsStandardIn (settings entries)
  /-- The whole seconds of the interval fit into 64 bits. -/
  inRange : ¬ Repeats entries → ∀ document : String, WritesObject entries document.toList →
    (settings entries).pollInterval / 1000000000 < wordLimit
  /-- If a setting occurs twice, a document does not fit. -/
  repeated : Repeats entries → ∀ document : String, WritesObject entries document.toList →
    ofJson document = .error .mismatched

/-- **Every layout of the same settings is read alike.** -/
theorem layouts_alike (entries : List Entry) : Alike entries where
  object once document h := by
    rw [ofJson_of_writesObject h,
      (Draft.foldlM_takeNew .empty entries).1 (Draft.isFresh_empty.mpr once)]
    rfl
  list once capacity policy interval hc hp hi document h := by
    have sameCapacity : (settings entries).capacity = capacity := holdsIn_settings once hc
    have samePolicy : (settings entries).overflow = policy := holdsIn_settings once hp
    have sameInterval : (settings entries).pollInterval = milliseconds interval :=
      holdsIn_settings once hi
    rw [ofJson_of_writesList h, ← sameCapacity, ← samePolicy, ← sameInterval]
  given once e mem := holdsIn_settings once mem
  absent field missing := isStandardIn_settings missing
  inRange once document h := by
    by_cases given : Field.pollInterval ∈ entries.filterMap Entry.field?
    · obtain ⟨e, mem, is⟩ := List.mem_filterMap.mp given
      cases e with
      | pollInterval n =>
        have same : (settings entries).pollInterval = n * 1000000 := holdsIn_settings once mem
        have fits : n < wordLimit := by
          generalize document.toList = s at h
          cases h with
          | empty => cases mem
          | members _ _ _ _ _ h => exact lt_of_writesMembers h mem
        have seconds : n * 1000000 / 1000000000 ≤ n := by omega
        rw [same]
        exact Nat.lt_of_le_of_lt seconds fits
      | capacity | overflow | other => cases is
    · have same : (settings entries).pollInterval = Config.standard.pollInterval :=
        isStandardIn_settings given
      rw [same]
      decide
  repeated twice document h := by
    rw [ofJson_of_writesObject h,
      (Draft.foldlM_takeNew .empty entries).2 fun fresh => Draft.isFresh_empty.mp fresh twice]
    rfl

/-- A text without quotes, backslashes and control characters spells itself. -/
theorem spells_self (plain : text.all isPlain = true) : Spells text text := by
  induction text with
  | nil => exact .nil
  | cons c text ih =>
    rw [List.all_cons, Bool.and_eq_true] at plain
    exact .plain c text text plain.1 (ih plain.2)

/-- An interval, and a capacity whose name is spelled with an escape, behind a member that nobody
asked for and that has a capacity inside. -/
theorem capacity_behind_another :
    let entries : List Entry := [.other ['x'], .pollInterval 250, .capacity 7]
    let document :=
      "\x7b\"x\":[\x7b\"capacity\":1\x7d], \"poll_interval_ms\":250,\"\\u0063apacity\": 7\x7d"
    WritesObject entries document.toList ∧ ¬ Repeats entries ∧
      ofJson document = .ok ⟨7, .failFast, 250000000⟩ := by
  intro entries document
  have blank : IsBlanks [' '] := List.forall_mem_singleton.mpr rfl
  have inside : IsMembers "\"capacity\":1".toList :=
    .last _ (.intro [] "capacity".toList [] [] _ [] nofun
      (isText_of_spells (spells_self rfl)) nofun nofun (.number _ (isNumber_toDigits 1))
      nofun)
  have first : (Entry.other ['x']).Writes "\"x\":[\x7b\"capacity\":1\x7d]".toList :=
    .intro _ [] ['x'] [] [] _ [] nofun (spells_self rfl) nofun nofun
      (.other _ _ rfl (.list _ (.last [] _ [] nofun (.object _ inside) nofun))) nofun
  have second : (Entry.pollInterval 250).Writes " \"poll_interval_ms\":250".toList :=
    .intro _ [' '] "poll_interval_ms".toList [] [] _ [] blank (spells_self rfl) nofun
      nofun (.pollInterval 250 (by decide)) nofun
  have plain : Spells "apacity".toList "apacity".toList := spells_self rfl
  have escaped : Spells (Entry.capacity 7).name "\\u0063apacity".toList :=
    .unit 'c' "0063".toList _ _ rfl rfl plain
  have third : (Entry.capacity 7).Writes "\"\\u0063apacity\": 7".toList :=
    .intro _ [] _ [] [' '] _ [] nofun escaped nofun blank (.capacity 7 (by decide)) nofun
  have written : WritesObject entries document.toList := by
    simp only [document]
    exact .members entries [] _ [] nofun
      (.more _ _ _ _ first (.more _ _ _ _ second (.last _ _ third))) nofun
  have once : ¬ Repeats entries := by
    rw [← Draft.isFresh_empty]
    exact ⟨by decide, by decide⟩
  exact ⟨written, once, (layouts_alike entries).object once document written⟩

end Outbox.Config
