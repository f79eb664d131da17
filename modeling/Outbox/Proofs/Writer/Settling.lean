import Outbox.Proofs.Writer.Handover

/-!
# What a flush that succeeds has flushed

A flush hands the buffer over and then flushes the transport, and it drops the buffer in between. If
the transport fails at that point, the failure is told once and nothing is left to remember it by:
the next flush finds an empty buffer and succeeds without a call. So a flush that succeeds has
emptied the buffer in any case, but it has not always flushed what the transport took.

Which flushes have is told by how the earlier ones ended. Only the last one that had something to
hand over counts, because a flush that has something to hand over and succeeds makes up for all
failures before it. The one induction is over the requests; what it carries speaks of an empty
buffer only, since a buffer that holds something is handed over and settled or fails again.

## Main Definitions

* `Transport.SettledFrom` — the bytes taken from some place on have been flushed
* `Writer.Ending`, `Writer.endings` — how each flush ended
* `Writer.settled_by_success` — what a flush that succeeds has flushed
-/

namespace Outbox

/-- **All bytes taken from this place on have been flushed**: each of them was followed by a flush
of the transport that succeeded. -/
def Transport.SettledFrom (t : Transport) (start : Nat) : Prop :=
  ∀ i < t.taken.length, start ≤ i → i < t.settled

instance (t : Transport) (start : Nat) : Decidable (t.SettledFrom start) :=
  inferInstanceAs (Decidable (∀ i < t.taken.length, start ≤ i → i < t.settled))

namespace Writer

/-! ### How flushes end -/

/-- **How a flush ends.** -/
inductive Ending where
  /-- There was nothing to hand over. -/
  | idle
  /-- The transport failed before it had taken everything. -/
  | cut
  /-- The transport took everything and failed to be flushed. -/
  | unsettled
  | settled
deriving DecidableEq, Repr

/-- How a flush of this writer ends. -/
def ending (w : Writer) : Ending :=
  if w.buffer = [] then .idle
  else if w.attempt.Whole then
    match w.flush.1 with
    | .ok _ => .settled
    | .error _ => .unsettled
  else .cut

/-- **How the flushes among these requests end**, in order. -/
def endings (w : Writer) : List Request → List Ending
  | [] => []
  | .write m :: rs => (w.perform (.write m)).2.endings rs
  | .flush :: rs => w.ending :: (w.perform .flush).2.endings rs

/-- The ending of the last flush that had something to hand over, if there was one. -/
def Ending.last? (endings : List Ending) : Option Ending :=
  (endings.filter (· ≠ .idle)).getLast?

theorem Ending.last?_cons_idle (endings : List Ending) :
    last? (.idle :: endings) = last? endings := by
  simp [last?]

theorem Ending.last?_cons_or {ending : Ending} (busy : ending ≠ .idle) (endings : List Ending)
    (before : Option Ending) :
    (last? (ending :: endings)).or before = (last? endings).or (some ending) := by
  rw [last?, List.filter_cons_of_pos (by simpa using busy), List.getLast?_cons, last?]
  cases (endings.filter (· ≠ .idle)).getLast? <;> rfl

/-- **What a flush leaves**, by its ending. -/
inductive Ended (w : Writer) : Ending → Except TransferError Unit × Writer → Prop
  | idle (empty : w.buffer = []) : Ended w .idle (.ok (), w)
  | cut (error : TransferError) (t : Transport) (something : w.buffer ≠ [])
      (taken : w.transport.taken.length ≤ t.taken.length)
      (noFlush : t.settled = w.transport.settled) :
      Ended w .cut (.error error, { w with transport := t })
  | unsettled (error : TransferError) (t : Transport) (something : w.buffer ≠ [])
      (taken : t.taken = w.transport.taken ++ w.buffer)
      (noFlush : t.settled = w.transport.settled) :
      Ended w .unsettled (.error error, { w with transport := t, buffer := [] })
  | settled (t : Transport) (something : w.buffer ≠ [])
      (taken : t.taken = w.transport.taken ++ w.buffer) (flushed : t.settled = t.taken.length) :
      Ended w .settled (.ok (), { w with transport := t, buffer := [] })

theorem ended (w : Writer) : w.Ended w.ending w.flush := by
  by_cases empty : w.buffer = []
  · rw [ending, if_pos empty, flush, if_pos (by simp [empty])]
    exact .idle empty
  have sent : (w.transport.writeAll w.buffer).2.taken = w.transport.taken ++ w.attempt.sent := rfl
  have unchanged : (w.transport.writeAll w.buffer).2.settled = w.transport.settled := rfl
  have flushes : ∀ t : Transport, t.flush.2.taken = t.taken ∧
      t.flush.2.settled = if t.flush.1.isNone then t.taken.length else t.settled :=
    fun _ => ⟨rfl, rfl⟩
  have came := w.flushed
  rw [ending, if_neg empty]
  generalize w.flush = after at came
  cases came with
  | nothing nothing => exact absurd nothing empty
  | broken error t cut writing =>
    rw [writing] at sent unchanged
    rw [if_neg cut]
    refine .cut _ t empty ?_ unchanged
    rw [sent, List.length_append]
    exact Nat.le_add_right _ _
  | unsettled error t t' whole writing flushing =>
    rw [writing, attempt_sent_of_whole whole] at sent
    rw [writing] at unchanged
    obtain ⟨same, settled⟩ := flushes t
    rw [flushing] at same settled
    rw [if_pos whole]
    exact .unsettled _ t' empty (same.trans sent) (settled.trans unchanged)
  | settled t t' whole writing flushing =>
    rw [writing, attempt_sent_of_whole whole] at sent
    obtain ⟨same, settled⟩ := flushes t
    rw [flushing] at same settled
    rw [if_pos whole]
    exact .settled t' empty (same.trans sent) (settled.trans (by rw [← same]; rfl))

/-! ### All requests -/

/-- **What is known of a writer** when the last of its flushes that had something to hand over ended
like this. -/
structure Settling (start : Nat) (w : Writer) (last : Option Ending) : Prop where
  settled_le : w.transport.settled ≤ w.transport.taken.length
  start_le : start ≤ w.transport.taken.length
  /-- With nothing left to hand over, all is settled unless that flush ended before it was. -/
  of_empty : w.buffer = [] → (w.transport.SettledFrom start ↔ last ≠ some .unsettled)

variable {start : Nat} {w : Writer} {last : Option Ending}

theorem Settling.write (h : w.Settling start last) (m : Message) :
    (w.perform (.write m)).2.Settling start last := by
  obtain ⟨frame, body, after, -⟩ := w.perform_write m
  rw [after]
  exact ⟨h.settled_le, h.start_le, fun empty => h.of_empty (List.append_eq_nil_iff.mp empty).1⟩

theorem Settling.flush (h : w.Settling start last) :
    (w.perform .flush).2.Settling start (if w.ending = .idle then last else some w.ending) := by
  have length_lt : w.buffer ≠ [] →
      w.transport.taken.length < (w.transport.taken ++ w.buffer).length := by
    intro something
    rw [List.length_append]
    exact Nat.lt_add_of_pos_right (List.length_pos_iff.mpr something)
  have ended : w.Ended w.ending (w.perform .flush) := w.ended
  generalize w.ending = ending at ended
  generalize w.perform .flush = after at ended
  cases ended with
  | idle empty => exact h
  | cut error t something taken noFlush =>
    refine ⟨?_, Nat.le_trans h.start_le taken, fun empty => absurd empty something⟩
    rw [noFlush]
    exact Nat.le_trans h.settled_le taken
  | unsettled error t something taken noFlush =>
    have more := length_lt something
    rw [← taken] at more
    refine ⟨?_, Nat.le_trans h.start_le (Nat.le_of_lt more), fun _ => ?_⟩
    · rw [noFlush]
      exact Nat.le_trans h.settled_le (Nat.le_of_lt more)
    · -- the first byte of the buffer has been taken since the last flush that succeeded
      have unflushed : ¬ t.SettledFrom start := fun all => by
        have first := all _ more h.start_le
        rw [noFlush] at first
        exact absurd h.settled_le (Nat.not_le.mpr first)
      simpa using unflushed
  | settled t something taken flushed =>
    have more := length_lt something
    rw [← taken] at more
    refine ⟨Nat.le_of_eq flushed, Nat.le_trans h.start_le (Nat.le_of_lt more), fun _ => ?_⟩
    have all : t.SettledFrom start := fun i inside _ => flushed ▸ inside
    simpa using all

theorem Settling.performAll (h : w.Settling start last) (rs : List Request) :
    (w.performAll rs).2.Settling start ((Ending.last? (w.endings rs)).or last) := by
  induction rs generalizing w last with
  | nil => exact h
  | cons r rs ih =>
    rw [performAll_cons]
    cases r with
    | write m => exact ih (h.write m)
    | flush =>
      have later := ih h.flush
      rw [endings]
      by_cases idle : w.ending = .idle
      · rw [if_pos idle] at later
        rwa [idle, Ending.last?_cons_idle]
      · rw [if_neg idle] at later
        rwa [Ending.last?_cons_or idle]

/-- **What a flush that succeeds has flushed.** Take a new writer over any transport, and any
requests, whatever their flushes come to. If the next flush succeeds, then the buffer is empty; and
all bytes that the transport has taken from this writer have been flushed, except when there was
nothing to hand over and the last flush that had something to hand over failed in flushing the
transport. In that case they have not all been flushed. -/
theorem settled_by_success {t : Transport} (regular : t.settled ≤ t.taken.length)
    (rs : List Request) :
    let w := ((ofTransport t).performAll rs).2
    w.flush.1 = .ok () →
      w.flush.2.buffer = [] ∧
        (w.flush.2.transport.SettledFrom t.taken.length ↔
          ¬ (w.buffer = [] ∧
            Ending.last? ((ofTransport t).endings rs) = some .unsettled)) := by
  intro w ok
  have new : (ofTransport t).Settling t.taken.length none := by
    refine ⟨regular, Nat.le_refl _, fun _ => iff_of_true (fun i inside late => ?_) nofun⟩
    exact absurd inside (Nat.not_lt.mpr late)
  have before := new.performAll rs
  rw [Option.or_none] at before
  have after := before.flush
  have ended : w.Ended w.ending w.flush := w.ended
  rw [show ((ofTransport t).performAll rs).2 = w from rfl] at before after
  rw [show w.perform .flush = w.flush from rfl] at after
  generalize w.ending = ending at ended after
  generalize w.flush = result at ended after ok
  cases ended with
  | idle empty =>
    refine ⟨empty, ?_⟩
    simpa [empty] using before.of_empty empty
  | cut => cases ok
  | unsettled => cases ok
  | settled t' something taken flushed =>
    refine ⟨rfl, ?_⟩
    simpa [something] using after.of_empty rfl

/-- Two messages over a transport that refuses the first attempt, takes the second in pieces and
then fails to be flushed. The second message makes up for that: what the next flush hands over is
flushed together with what came before. -/
theorem settled_by_later_message :
    let t := Transport.scripted [.fails ⟨.brokenPipe, none⟩, .upTo 2, .pending, .all]
      [.pending, .fails ⟨.timedOut, none⟩, .pending]
    let rs : List Request := [.write ⟨[0x61], .empty⟩, .flush, .flush, .write ⟨[0x62], .empty⟩]
    let w := ((ofTransport t).performAll rs).2
    t.settled ≤ t.taken.length ∧ (ofTransport t).endings rs = [.cut, .unsettled] ∧
      w.flush.1 = .ok () ∧ w.flush.2.buffer = [] ∧ w.flush.2.transport.taken.length = 12 ∧
        w.flush.2.transport.SettledFrom 0 := by
  intro t rs w
  have regular : t.settled ≤ t.taken.length := Nat.le_refl _
  have endings : (ofTransport t).endings rs = [.cut, .unsettled] := by decide +kernel
  have ok : w.flush.1 = .ok () := by decide +kernel
  have something : w.buffer ≠ [] := by decide +kernel
  obtain ⟨empty, settled⟩ := settled_by_success regular rs ok
  have length : w.flush.2.transport.taken.length = 12 := by decide +kernel
  exact ⟨regular, endings, ok, empty, length, settled.mpr fun h => something h.1⟩

/-- A transport that takes a frame and fails to be flushed, and is flushed again: the second flush
succeeds without a call, and no byte of the frame has been flushed. -/
theorem repeated_flush_settles_nothing :
    let t := Transport.scripted [] [.fails ⟨.brokenPipe, none⟩]
    let rs : List Request := [.write ⟨[0x61], .empty⟩, .flush]
    let w := ((ofTransport t).performAll rs).2
    ((ofTransport t).performAll rs).1 = [.ok (), .error (.io ⟨.brokenPipe, none⟩)] ∧
      w.flush.1 = .ok () ∧ w.flush.2.transport.taken = [0x31, 0x0D, 0x0A, 0x61, 0x0D, 0x0A] ∧
        w.flush.2.transport.flushCalls = 1 ∧ ¬ w.flush.2.transport.SettledFrom 0 := by
  decide +kernel

end Writer

end Outbox
