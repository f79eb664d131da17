import Outbox.Transport

/-!
# A transport, call by call

Writing everything and flushing are loops over single calls to the transport, and whoever waits in
such a loop may give up between two calls. Here one call is a step of its own. Nothing is added to
what a transport does: the loops are these calls, repeated until they are settled.

## Main Definitions

* `Transport.pollWrite`, `Transport.pollFlush` — one call
* `Transport.pollWrite_cases`, `Transport.pollFlush_cases` — what it can come to
* `Transport.writeAll_eq_pollWrite`, `Transport.flush_eq_pollFlush` — the loops in terms of calls
-/

namespace Outbox.Transport

/-! ### Writing -/

/-- The transport after a call to write that took these bytes. -/
def wrote (t : Transport) (script : List Reply) (bytes : Bytes) : Transport :=
  { t with writes := script, taken := t.taken ++ bytes, writeCalls := t.writeCalls + 1 }

/-- **One call to write**: what is left of the bytes, or the failure. A call that has to wait leaves
all of them; so does one that is interrupted, which is no failure here: the caller makes it again.
-/
def pollWrite (t : Transport) (bytes : Bytes) : Except IoError Bytes × Transport :=
  match t.writes with
  | [] => (.ok [], t.wrote [] bytes)
  | .all :: script => (.ok [], t.wrote script bytes)
  | .upTo limit :: script =>
    if limit = 0 then (.error writeZero, t.wrote script [])
    else (.ok (bytes.drop limit), t.wrote script (bytes.take limit))
  | .pending :: script => (.ok bytes, t.wrote script [])
  | .fails error :: script =>
    if error.kind = .interrupted then (.ok bytes, t.wrote script [])
    else (.error error, t.wrote script [])

/-- **What one call to write can come to**: it takes a part from the front, and has used up a reply
if it leaves anything; or it takes nothing, for a reason that is in the script. -/
theorem pollWrite_cases (t : Transport) (bytes : Bytes) :
    (∃ sent left script, t.pollWrite bytes = (.ok left, t.wrote script sent) ∧
      bytes = sent ++ left ∧ script <:+ t.writes ∧
        (left ≠ [] → script.length < t.writes.length)) ∨
    (∃ error script, t.pollWrite bytes = (.error error, t.wrote script []) ∧
      script <:+ t.writes ∧
        (error = writeZero ∧ .upTo 0 ∈ t.writes ∨
          error.kind ≠ .interrupted ∧ .fails error ∈ t.writes)) := by
  unfold pollWrite
  cases t.writes with
  | nil => exact Or.inl ⟨bytes, [], [], rfl, by simp, List.suffix_rfl, by simp⟩
  | cons reply script =>
    have used := List.suffix_cons reply script
    have shorter : script.length < (reply :: script).length := by simp
    cases reply with
    | all => exact Or.inl ⟨bytes, [], script, rfl, by simp, used, by simp⟩
    | pending => exact Or.inl ⟨[], bytes, script, rfl, rfl, used, fun _ => shorter⟩
    | upTo limit =>
      by_cases zero : limit = 0
      · subst zero
        exact Or.inr ⟨writeZero, script, rfl, used, Or.inl ⟨rfl, List.mem_cons_self⟩⟩
      · refine Or.inl ⟨bytes.take limit, bytes.drop limit, script, ?_, ?_, used, fun _ => shorter⟩
        · simp [zero]
        · exact (List.take_append_drop limit bytes).symm
    | fails error =>
      by_cases again : error.kind = .interrupted
      · refine Or.inl ⟨[], bytes, script, ?_, rfl, used, fun _ => shorter⟩
        simp [again]
      · refine Or.inr ⟨error, script, ?_, used, Or.inr ⟨again, List.mem_cons_self⟩⟩
        simp [again]

@[simp]
theorem writeAll_nil (t : Transport) : t.writeAll [] = (none, t) := by
  simp [writeAll, writeScripted]

/-- **Writing everything is calling until nothing is left.** -/
theorem writeAll_eq_pollWrite (t : Transport) {bytes : Bytes} (h : bytes ≠ []) :
    t.writeAll bytes =
      match t.pollWrite bytes with
      | (.error error, t') => (some error, t')
      | (.ok left, t') => t'.writeAll left := by
  obtain ⟨b, rest, rfl⟩ := List.exists_cons_of_ne_nil h
  obtain ⟨writes, flushes, taken, settled, writeCalls, flushCalls⟩ := t
  cases writes with
  | nil => simp [pollWrite, wrote, writeAll, writeScripted]
  | cons reply script =>
    cases reply with
    | all => simp [pollWrite, wrote, writeAll, writeScripted]
    | upTo limit =>
      by_cases zero : limit = 0 <;>
        simp [pollWrite, wrote, writeAll, writeScripted, zero, Written.after, Nat.add_assoc,
          Nat.add_comm]
    | pending =>
      simp [pollWrite, wrote, writeAll, writeScripted, Written.after, Nat.add_assoc, Nat.add_comm]
    | fails error =>
      by_cases again : error.kind = .interrupted <;>
        simp [pollWrite, wrote, writeAll, writeScripted, again, Written.after, Nat.add_assoc,
          Nat.add_comm]

/-- Three bytes of ten, an interrupted call, and the rest: all is written, with three calls. -/
example : (scripted [.upTo 3, .fails ⟨.interrupted, none⟩] []).writeAll (List.replicate 10 0) =
    (none, ⟨[], [], List.replicate 10 0, 0, 3, 0⟩) := by decide

/-! ### Flushing -/

/-- The transport after a call to flush, which has succeeded or not. -/
def flushed (t : Transport) (script : List Reply) (success : Bool) : Transport :=
  { t with
    flushes := script
    settled := if success then t.taken.length else t.settled
    flushCalls := t.flushCalls + 1 }

/-- **One call to flush**: whether it is done, or the failure. -/
def pollFlush (t : Transport) : Except IoError Bool × Transport :=
  match t.flushes with
  | [] => (.ok true, t.flushed [] true)
  | .pending :: script => (.ok false, t.flushed script false)
  | .fails error :: script => (.error error, t.flushed script false)
  | _ :: script => (.ok true, t.flushed script true)

/-- **What one call to flush can come to.** -/
theorem pollFlush_cases (t : Transport) :
    (∃ script, t.pollFlush = (.ok true, t.flushed script true) ∧ script <:+ t.flushes) ∨
    (∃ script, t.pollFlush = (.ok false, t.flushed script false) ∧ script <:+ t.flushes ∧
      script.length < t.flushes.length) ∨
    (∃ error script, t.pollFlush = (.error error, t.flushed script false) ∧
      script <:+ t.flushes ∧ .fails error ∈ t.flushes) := by
  unfold pollFlush
  cases t.flushes with
  | nil => exact Or.inl ⟨[], rfl, List.suffix_rfl⟩
  | cons reply script =>
    have used := List.suffix_cons reply script
    cases reply with
    | all => exact Or.inl ⟨script, rfl, used⟩
    | upTo limit => exact Or.inl ⟨script, rfl, used⟩
    | pending => exact Or.inr (Or.inl ⟨script, rfl, used, by simp⟩)
    | fails error => exact Or.inr (Or.inr ⟨error, script, rfl, used, List.mem_cons_self⟩)

/-- **Flushing is calling until it is done.** -/
theorem flush_eq_pollFlush (t : Transport) :
    t.flush =
      match t.pollFlush with
      | (.error error, t') => (some error, t')
      | (.ok true, t') => (none, t')
      | (.ok false, t') => t'.flush := by
  obtain ⟨writes, flushes, taken, settled, writeCalls, flushCalls⟩ := t
  cases flushes with
  | nil => simp [pollFlush, flushed, flush, flushScripted]
  | cons reply script =>
    cases reply <;>
      simp [pollFlush, flushed, flush, flushScripted, Nat.add_assoc, Nat.add_comm]

end Outbox.Transport
