import Outbox.Charset.Window
import Outbox.Proofs.Charset

/-!
# The window cannot be told from the bytes

Whatever passes a coder makes, the bytes that have been taken out of its window and the bytes of the
text that it has not read make up the bytes of the whole text. A pass keeps this as it goes, scalar
by scalar and escape by escape; the question mark for a missing scalar is put as the scalar itself
would be, and a window with room to spare holds all of it. So the bytes of a text are the same for
all windows and for all places where the passes stop.

The loop ends because every turn of it reads a scalar, or writes the escape that the next scalar has
to wait for. A scalar waits for one escape at most.

## Main Definitions

* `Loop.due` — what the loop comes to; no turn changes it
* `Loop.work` — how many turns are left at most
* `Charset.encode_through_any_window` — every loop ends, with the bytes of the text
-/

namespace Outbox.Charset

variable {cs : Charset} {last : Bool} {shift next : Shift} {c : Char} {text : List Char}
  {p q : Pass} {w : Window}

/-! ### A change of shift state on its own -/

/-- **The two halves of a change of shift state**: after the escape the scalar is put from its own
state. -/
theorem put_of_escape (elsewhere : Iso2022Jp.written? shift (iso2022Jp.standIn c) = none)
    (home : Iso2022Jp.home? (iso2022Jp.standIn c) = some next) :
    iso2022Jp.put shift c =
      (next.escape ++ (iso2022Jp.put next c).1, (iso2022Jp.put next c).2) := by
  obtain ⟨bytes, there⟩ :=
    Option.isSome_iff_exists.mp (Iso2022Jp.isSome_written?_of_home? home)
  have behind : iso2022Jp.step? shift (iso2022Jp.standIn c) = some (next.escape ++ bytes, next) :=
    Iso2022Jp.step?_of_home? elsewhere home there
  have direct : iso2022Jp.step? next (iso2022Jp.standIn c) = some (bytes, next) :=
    Iso2022Jp.step?_of_written? there
  rw [step?_standIn, Option.some.injEq] at behind direct
  rw [behind, direct]

/-! ### What a pass leaves to be written -/

/-- The text that is left to be written behind a pass: a missing scalar has been read and not been
replaced yet. -/
def Pass.rest (p : Pass) : List Char :=
  if p.stop = .lacking then replacement :: p.left else p.left

/-- **A pass and what is left behind it make up the text.** -/
theorem MayPass.encodeFrom_eq (h : MayPass cs true shift text p) :
    cs.encodeFrom shift text =
      p.written ++ if p.stop = .finished then [] else cs.encodeFrom p.shift p.rest := by
  induction h with
  | finished => simp
  | full => simp [Pass.rest]
  | lacking shift c text missing =>
    rw [encodeFrom_cons, put_of_none missing]
    rfl
  | scalar shift next c text bytes p put rest ih =>
    rw [encodeFrom_cons, put_of_some put, ih, ← List.append_assoc]
    rfl
  | escape shift next c text p stateful elsewhere home rest ih =>
    subst stateful
    rw [encodeFrom_cons, put_of_escape elsewhere home, List.append_assoc, ← encodeFrom_cons, ih,
      ← List.append_assoc]
    rfl

/-- Behind the end of a text nothing is put while more may follow. -/
theorem MayPass.of_nil (h : MayPass cs false shift [] p) : p.written = [] ∧ p.shift = shift := by
  cases h <;> exact ⟨rfl, rfl⟩

/-- **A pass over a question mark puts all of it**: the window has room for more than the escape
that might come first. -/
theorem MayPass.of_replacement (h : MayPass cs false shift [replacement] q) (fits : q.Fits w) :
    (q.written, q.shift) = cs.put shift replacement := by
  have notMissing : ∀ shift, cs.step? shift replacement ≠ none := fun shift missing => by
    have question := cs.isSome_step?_replacement shift
    rw [missing] at question
    cases question
  cases h with
  | full => exact absurd rfl (fits.2 rfl).1
  | lacking _ _ _ missing => exact absurd missing (notMissing _)
  | scalar _ _ _ _ bytes p put rest =>
    obtain ⟨nothing, same⟩ := rest.of_nil
    rw [put_of_some put, Pass.after, nothing, same, List.append_nil]
  | escape _ next _ _ p stateful elsewhere home rest =>
    subst stateful
    rw [put_of_escape elsewhere home]
    have standIn : iso2022Jp.standIn replacement = replacement := rfl
    rw [standIn] at home
    -- the pass cannot end behind the escape, because there is room for the question mark
    cases rest with
    | full =>
      have few := (fits.2 rfl).2
      have spare := w.spare
      rw [Pass.after, List.append_nil, length_escape] at few
      omega
    | lacking _ _ _ missing => exact absurd missing (notMissing _)
    | scalar _ _ _ _ bytes p put rest =>
      obtain ⟨nothing, same⟩ := rest.of_nil
      simp [put_of_some put, Pass.after, nothing, same]
    | escape _ _ _ _ _ _ again =>
      have there := Iso2022Jp.isSome_written?_of_home? home
      rw [standIn] at again
      rw [again] at there
      cases there

/-! ### What the loop comes to -/

namespace Loop

variable {l m : Loop} {n : Nat}

/-- **What the loop comes to**: the bytes so far, and those of the text that was not read. -/
def due (cs : Charset) (l : Loop) : Bytes :=
  l.encoded ++ if l.finished then [] else cs.encodeFrom l.shift l.left

/-- **No turn changes what the loop comes to.** -/
theorem MayTurn.due_eq (h : MayTurn cs w l m) : m.due cs = l.due cs := by
  cases h with
  | takeUp p unfinished pass fits stop =>
    have rest : p.rest = p.left := if_neg stop
    rw [due, due, unfinished, pass.encodeFrom_eq, rest]
    simp [Loop.takeUp]
  | replace p q unfinished pass fits stop second secondFits =>
    have rest : p.rest = replacement :: p.left := if_pos stop
    have notFinished : p.stop ≠ .finished := by simp [stop]
    have question := second.of_replacement secondFits
    rw [due, due, unfinished, pass.encodeFrom_eq, rest, if_neg notFinished, encodeFrom_cons,
      ← question]
    simp [Loop.replace]

theorem MayReach.due_eq (h : MayReach cs w n l m) : m.due cs = l.due cs := by
  induction h with
  | refl => rfl
  | step n l m k turn more ih => rw [ih, turn.due_eq]

/-! ### How long it takes -/

/-- Whether the first scalar has to wait for a change of shift state. -/
def awaitsEscape (cs : Charset) (shift : Shift) : List Char → Nat
  | [] => 0
  | c :: _ => if cs = .iso2022Jp ∧ Iso2022Jp.written? shift (cs.standIn c) = none then 1 else 0

/-- How many times passes over a text may stop for want of room at most. -/
def stops (cs : Charset) (shift : Shift) (text : List Char) : Nat :=
  2 * text.length + awaitsEscape cs shift text

/-- **How many turns are left at most.** -/
def work (cs : Charset) (l : Loop) : Nat :=
  if l.finished then 0 else stops cs l.shift l.left + 1

theorem awaitsEscape_le (cs : Charset) (shift : Shift) (text : List Char) :
    awaitsEscape cs shift text ≤ 1 := by
  cases text with
  | nil => exact Nat.zero_le 1
  | cons c text =>
    rw [awaitsEscape]
    split
    · exact Nat.le_refl 1
    · exact Nat.zero_le 1

/-- **A pass that stops for want of room has got on**, unless it did nothing. -/
theorem stops_of_full (h : MayPass cs last shift text p) (full : p.stop = .full) :
    (p.written = [] ∧ p.shift = shift ∧ p.left = text) ∨
      stops cs p.shift p.left < stops cs shift text := by
  -- behind a scalar or an escape the pass has got on, whether or not it goes on from there
  induction h with
  | finished => split at full <;> cases full
  | full => exact Or.inl ⟨rfl, rfl, rfl⟩
  | lacking => cases full
  | scalar shift next c text bytes p put rest ih =>
    have read : stops cs next text < stops cs shift (c :: text) := by
      have := awaitsEscape_le cs next text
      simp only [stops, List.length_cons]
      omega
    rcases ih full with ⟨-, sameShift, sameLeft⟩ | less
    · exact Or.inr (by simpa [Pass.after, sameShift, sameLeft] using read)
    · exact Or.inr (Nat.lt_trans less read)
  | escape shift next c text p stateful elsewhere home rest ih =>
    have waited : awaitsEscape cs shift (c :: text) = 1 := if_pos ⟨stateful, elsewhere⟩
    have waitsNoMore : awaitsEscape cs next (c :: text) = 0 := by
      refine if_neg fun ⟨_, again⟩ => ?_
      have there := Iso2022Jp.isSome_written?_of_home? home
      rw [again] at there
      cases there
    have shifted : stops cs next (c :: text) < stops cs shift (c :: text) := by
      simp only [stops, waited, waitsNoMore]
      omega
    rcases ih full with ⟨-, sameShift, sameLeft⟩ | less
    · exact Or.inr (by simpa [Pass.after, sameShift, sameLeft] using shifted)
    · exact Or.inr (Nat.lt_trans less shifted)

/-- A missing scalar has been read. -/
theorem length_of_lacking (h : MayPass cs last shift text p) (lacking : p.stop = .lacking) :
    p.left.length < text.length := by
  induction h with
  | finished => split at lacking <;> cases lacking
  | full => cases lacking
  | lacking => exact Nat.lt_succ_self _
  | scalar _ _ _ _ _ _ _ _ ih => exact Nat.lt_trans (ih lacking) (Nat.lt_succ_self _)
  | escape _ _ _ _ _ _ _ _ _ ih => exact ih lacking

/-- **Every turn gets on.** -/
theorem MayTurn.work_lt (h : MayTurn cs w l m) : m.work cs < l.work cs := by
  cases h with
  | takeUp p unfinished pass fits stop =>
    rw [work, work, unfinished]
    cases why : p.stop with
    | finished => simp [Loop.takeUp, why]
    | lacking => exact absurd why stop
    | full =>
      have less := (stops_of_full pass why).resolve_left fun h => (fits.2 why).1 h.1
      simpa [Loop.takeUp, why] using less
  | replace p q unfinished pass fits stop =>
    have read := length_of_lacking pass stop
    have := awaitsEscape_le cs q.shift p.left
    simp only [work, unfinished, Loop.replace, stops, Bool.false_eq_true, if_false]
    omega

theorem MayReach.work_le (h : MayReach cs w n l m) : n + m.work cs ≤ l.work cs := by
  induction h with
  | refl => exact Nat.le_of_eq (Nat.zero_add _)
  | step n l m k turn more ih =>
    have := turn.work_lt
    omega

/-! ### It goes on -/

/-- A coder can make a pass into what is left of a window, if that is not too little. -/
theorem exists_pass (cs : Charset) (last : Bool) (w : Window) (shift : Shift) (text : List Char)
    (used : Nat) (plenty : used + w.reserve ≤ w.room) :
    ∃ p, MayPass cs last shift text p ∧ used + p.written.length ≤ w.room ∧
      (p.stop = .full → p.written ≠ [] ∧ w.room < used + p.written.length + w.reserve) := by
  have enough := w.enough
  induction text generalizing shift used with
  | nil =>
    refine ⟨_, .finished shift, ?_, ?_⟩
    · have few : (Iso2022Jp.finish shift).length ≤ 3 := by cases shift <;> decide
      cases last
      · simpa using Nat.le_trans (Nat.le_add_right _ _) plenty
      · simp only [if_true]
        omega
    · cases last <;> exact nofun
  | cons c text ih =>
    cases has : cs.step? shift c with
    | none =>
      exact ⟨_, .lacking shift c text has, Nat.le_trans (Nat.le_add_right _ _) plenty, nofun⟩
    | some put =>
      obtain ⟨bytes, next⟩ := put
      obtain ⟨some, few⟩ := length_of_step? has
      by_cases stop : w.room < used + bytes.length + w.reserve
      · refine ⟨_, .scalar shift next c text bytes _ has (.full next text), ?_, fun _ => ⟨?_, ?_⟩⟩
        · simp only [Pass.after, List.append_nil]
          omega
        · simpa [Pass.after] using List.ne_nil_of_length_pos some
        · simpa [Pass.after] using stop
      · obtain ⟨p, pass, inside, why⟩ := ih next (used + bytes.length) (by omega)
        refine ⟨_, .scalar shift next c text bytes p has pass, ?_, fun full => ?_⟩
        · simpa [Pass.after, Nat.add_assoc] using inside
        · obtain ⟨written, room⟩ := why full
          exact ⟨by simp [Pass.after, written], by simpa [Pass.after, Nat.add_assoc] using room⟩

theorem exists_fitting (cs : Charset) (last : Bool) (w : Window) (shift : Shift)
    (text : List Char) : ∃ p, MayPass cs last shift text p ∧ p.Fits w := by
  have spare := w.spare
  obtain ⟨p, pass, inside, why⟩ := exists_pass cs last w shift text 0 (by omega)
  rw [Nat.zero_add] at inside why
  exact ⟨p, pass, inside, why⟩

/-- **A loop that has not finished can go on.** -/
theorem exists_turn (cs : Charset) (w : Window) (unfinished : l.finished = false) :
    ∃ m, MayTurn cs w l m := by
  obtain ⟨p, pass, fits⟩ := exists_fitting cs true w l.shift l.left
  by_cases lacking : p.stop = .lacking
  · obtain ⟨q, second, secondFits⟩ := exists_fitting cs false w p.shift [replacement]
    exact ⟨_, .replace p q unfinished pass fits lacking second secondFits⟩
  · exact ⟨_, .takeUp p unfinished pass fits lacking⟩

end Loop

/-! ### The bytes of a text -/

/-- **A text is encoded the same through any window.** Take a loop over a text in any charset, with
a window of any size, wherever its passes stop.

* It takes two turns for each scalar and two more at most; until it has finished it can go on; and
  when it has, it has written the bytes that the text has without a window: scalar by scalar, with
  a question mark from the same shift state for each that is missing, and one return to ASCII at the
  end.
* In every charset but ISO-2022-JP the bytes of one text behind another are the bytes of both. -/
theorem encode_through_any_window (cs : Charset) (w : Window) :
    (∀ (text : String) (n : Nat) (l : Loop), Loop.MayReach cs w n (.start text.toList) l →
      n ≤ 2 * text.length + 2 ∧
        (l.finished = false → ∃ m, Loop.MayTurn cs w l m) ∧
        (l.finished = true → l.encoded = cs.encode text)) ∧
    (cs ≠ .iso2022Jp → ∀ a b : String, cs.encode (a ++ b) = cs.encode a ++ cs.encode b) := by
  refine ⟨fun text n l reached => ⟨?_, fun unfinished => Loop.exists_turn cs w unfinished, ?_⟩,
    fun stateless => encode_append stateless⟩
  · have bound := reached.work_le
    have first := Loop.awaitsEscape_le cs .ascii text.toList
    simp only [Loop.start, Loop.work, Loop.stops, Bool.false_eq_true, if_false,
      String.length_toList] at bound
    omega
  · intro finished
    have due := reached.due_eq
    rw [Loop.due, Loop.due, finished] at due
    simpa [Loop.start, encode] using due

/-- A small window is full behind the escape that announces the yen sign; the missing scalar stands
in Roman text, and the tilde behind it does not. The standard window has room for all of it, and the
bytes are the same. In windows-1252 a text can be cut anywhere. -/
theorem yen_behind_full_window :
    let small : Window := ⟨9, 5, by decide, by decide⟩
    let text := "ab¥\x0E~"
    let bytes : Bytes := [0x61, 0x62, 0x1B, 0x28, 0x4A, 0x5C, 0x3F, 0x1B, 0x28, 0x42, 0x7E]
    (∃ l, Loop.MayReach iso2022Jp small 3 (.start text.toList) l ∧ l.finished = true ∧
      l.encoded = iso2022Jp.encode text ∧ l.encoded = bytes) ∧
    (∃ l, Loop.MayReach iso2022Jp .standard 2 (.start text.toList) l ∧ l.finished = true ∧
      l.encoded = iso2022Jp.encode text ∧ l.encoded = bytes) ∧
    (codePage .windows1252).encode ("é日" ++ "€") =
      (codePage .windows1252).encode "é日" ++ (codePage .windows1252).encode "€" := by
  intro small text bytes
  have letters : ['a', 'b', '¥', '\x0E', '~'] = text.toList := by decide
  have upToYen : MayPass iso2022Jp true .ascii ['a', 'b', '¥', '\x0E', '~']
      ⟨[0x61, 0x62, 0x1B, 0x28, 0x4A], .roman, ['¥', '\x0E', '~'], .full⟩ :=
    .scalar .ascii .ascii 'a' _ [0x61] _ rfl <| .scalar .ascii .ascii 'b' _ [0x62] _ rfl <|
      .escape .ascii .roman '¥' _ _ rfl rfl rfl <| .full .roman _
  have yen : MayPass iso2022Jp true .roman ['¥', '\x0E', '~'] ⟨[0x5C], .roman, ['~'], .lacking⟩ :=
    .scalar .roman .roman '¥' _ [0x5C] _ rfl <| .lacking .roman '\x0E' _ rfl
  have both : MayPass iso2022Jp true .ascii ['a', 'b', '¥', '\x0E', '~']
      ⟨[0x61, 0x62, 0x1B, 0x28, 0x4A, 0x5C], .roman, ['~'], .lacking⟩ :=
    .scalar .ascii .ascii 'a' _ [0x61] _ rfl <| .scalar .ascii .ascii 'b' _ [0x62] _ rfl <|
      .scalar .ascii .roman '¥' _ [0x1B, 0x28, 0x4A, 0x5C] _ rfl <| .lacking .roman '\x0E' _ rfl
  have question : MayPass iso2022Jp false .roman [replacement] ⟨[0x3F], .roman, [], .finished⟩ :=
    .scalar .roman .roman '?' _ [0x3F] _ rfl <| .finished .roman
  have tilde : MayPass iso2022Jp true .roman ['~']
      ⟨[0x1B, 0x28, 0x42, 0x7E], .ascii, [], .finished⟩ :=
    .scalar .roman .ascii '~' _ [0x1B, 0x28, 0x42, 0x7E] _ rfl <| .finished .ascii
  have throughSmall : Loop.MayReach iso2022Jp small 3 (.start ['a', 'b', '¥', '\x0E', '~']) _ :=
    .step _ _ _ _ (.takeUp _ rfl upToYen (by decide) (by decide)) <|
      .step _ _ _ _ (.replace _ _ rfl yen (by decide) rfl question (by decide)) <|
        .step _ _ _ _ (.takeUp _ rfl tilde (by decide) (by decide)) (.refl _)
  have throughStandard :
      Loop.MayReach iso2022Jp .standard 2 (.start ['a', 'b', '¥', '\x0E', '~']) _ :=
    .step _ _ _ _ (.replace _ _ rfl both (by decide) rfl question (by decide)) <|
      .step _ _ _ _ (.takeUp _ rfl tilde (by decide) (by decide)) (.refl _)
  rw [letters] at throughSmall throughStandard
  have small := (encode_through_any_window iso2022Jp small).1 text 3 _ throughSmall
  have standard := (encode_through_any_window iso2022Jp .standard).1 text 2 _ throughStandard
  have apart := (encode_through_any_window (codePage .windows1252) .standard).2
  exact ⟨⟨_, throughSmall, rfl, small.2.2 rfl, rfl⟩,
    ⟨_, throughStandard, rfl, standard.2.2 rfl, rfl⟩, apart nofun _ _⟩

end Outbox.Charset
