import Mathlib.Data.List.Flatten
import Outbox.Proofs.Transport
import Outbox.Transport.Poll

/-!
# How a buffer reaches the transport

A writer empties its buffer once the transport has taken all of it. A flush that fails before that
may have handed over a part, and that part stays in the buffer: the next flush begins with it again,
and the transport gets it twice. Such an attempt is called torn here. Torn attempts are the only way
for bytes to come twice, and none are ever left out, so what a transport has taken follows from the
attempts alone.

The one induction is over the requests, from any writer: what the transport has taken, followed by
the buffer and by the frames of the messages to come, is the same before and after every request
that is not a torn attempt.

## Main Definitions

* `Writer.Attempt`, `Writer.attempts` — what each flush handed over and what it left
* `Writer.Attempt.Torn` — a part was handed over and a part was left
* `Writer.Flushing` — the moments between the calls of one flush
* `Writer.handed_over` — the frames in order, at every moment, unless an attempt was torn
-/

namespace Outbox

/-! ### What writing everything takes -/

/-- **What is taken is a part from the front**, and all of it exactly if there is no failure. -/
theorem writeScripted_taken (script : List Reply) (bytes : Bytes) :
    (writeScripted script bytes).taken <+: bytes ∧
      ((writeScripted script bytes).error = none ↔
        (writeScripted script bytes).taken = bytes) := by
  fun_induction writeScripted script bytes with
  | case1 script => simp
  | case2 bytes _ => simp
  | case3 script bytes _ => simp
  | case4 script bytes nonempty =>
    have nonempty : bytes ≠ [] := by simpa using nonempty
    simp [nonempty.symm]
  | case5 limit script bytes _ _ ih =>
    have split := List.take_append_drop limit bytes
    obtain ⟨front, noError⟩ := ih
    have longer := (List.prefix_append_right_inj (bytes.take limit)).mpr front
    have same : bytes.take limit ++ (writeScripted script (bytes.drop limit)).taken =
        bytes.take limit ++ bytes.drop limit ↔ _ := List.append_right_inj _
    rw [split] at longer same
    exact ⟨longer, noError.trans same.symm⟩
  | case6 script bytes _ ih => exact ih
  | case7 error script bytes _ _ ih => exact ih
  | case8 error script bytes nonempty _ =>
    have nonempty : bytes ≠ [] := by simpa using nonempty
    simp [nonempty.symm]

namespace Writer

/-! ### Attempts -/

/-- **An attempt to hand over a buffer**: the bytes the transport took, and those it left. -/
structure Attempt where
  sent : Bytes
  left : Bytes
deriving DecidableEq, Repr

namespace Attempt

/-- **A torn attempt**: the transport took some of the bytes and left some. -/
def Torn (a : Attempt) : Prop := a.sent ≠ [] ∧ a.left ≠ []

/-- A whole attempt: the transport left nothing. -/
def Whole (a : Attempt) : Prop := a.left = []

instance : DecidablePred Torn := fun a => inferInstanceAs (Decidable (a.sent ≠ [] ∧ a.left ≠ []))

instance : DecidablePred Whole := fun a => inferInstanceAs (Decidable (a.left = []))

end Attempt

/-- What a flush of this writer hands over, and what it leaves. -/
def attempt (w : Writer) : Attempt :=
  let sent := (writeScripted w.transport.writes w.buffer).taken
  ⟨sent, w.buffer.drop sent.length⟩

/-- **The attempts of these requests**, in order. -/
def attempts (w : Writer) : List Request → List Attempt
  | [] => []
  | .write m :: rs => (w.perform (.write m)).2.attempts rs
  | .flush :: rs => w.attempt :: (w.perform .flush).2.attempts rs

/-- The messages that are to be written by these requests. -/
def Request.messages : List Request → List Message
  | [] => []
  | .write m :: rs => m :: messages rs
  | .flush :: rs => messages rs

theorem attempt_append (w : Writer) : w.attempt.sent ++ w.attempt.left = w.buffer := by
  have front := (writeScripted_taken w.transport.writes w.buffer).1
  exact List.prefix_iff_eq_append.mp front

theorem attempt_sent_of_whole {w : Writer} (whole : w.attempt.Whole) :
    w.attempt.sent = w.buffer := by
  rw [← w.attempt_append, show w.attempt.left = [] from whole, List.append_nil]

/-- Everything was taken exactly if the calls to write came to no failure. -/
theorem attempt_whole_iff (w : Writer) :
    w.attempt.Whole ↔ (w.transport.writeAll w.buffer).1 = none := by
  have all := (writeScripted_taken w.transport.writes w.buffer).2
  have nothingLeft : w.attempt.left = [] ↔ w.buffer = w.attempt.sent := by
    rw [← List.append_right_eq_self, w.attempt_append]
  exact nothingLeft.trans (eq_comm.trans all.symm)

/-- The whole attempts sent all that was sent exactly if no attempt was torn. -/
theorem Attempt.sent_by_whole_iff (attempts : List Attempt) :
    attempts.flatMap sent = (attempts.filter Whole).flatMap sent ↔ ∀ a ∈ attempts, ¬ a.Torn := by
  induction attempts with
  | nil => simp
  | cons a attempts ih =>
    rw [List.flatMap_cons, List.forall_mem_cons, ← ih]
    by_cases whole : a.Whole
    · have untorn : ¬ a.Torn := fun torn => torn.2 whole
      rw [List.filter_cons_of_pos (by simpa using whole), List.flatMap_cons, List.append_right_inj]
      exact (and_iff_right untorn).symm
    · have untorn : ¬ a.Torn ↔ a.sent = [] :=
        (not_congr (and_iff_left whole)).trans Decidable.not_not
      rw [List.filter_cons_of_neg (by simpa using whole), untorn]
      constructor
      · intro same
        -- what the torn attempt sent would make the left side the longer one
        have shorter := ((List.filter_sublist (p := fun a => decide a.Whole)
          (l := attempts)).flatMap sent).length_le
        have lengths := congrArg List.length same
        rw [List.length_append] at lengths
        have nothing : a.sent = [] := List.length_eq_zero_iff.mp (by omega)
        rw [nothing, List.nil_append] at same
        exact ⟨nothing, same⟩
      · rintro ⟨nothing, same⟩
        rw [nothing, List.nil_append, same]

/-! ### One request -/

/-- **What a flush can come to**: there was nothing to hand over; the transport failed and the
buffer is kept; or the transport has taken all of the buffer, which is dropped, and was flushed or
not. -/
inductive Flushed (w : Writer) : Except TransferError Unit × Writer → Prop
  | nothing (empty : w.buffer = []) : Flushed w (.ok (), w)
  | broken (error : IoError) (t : Transport) (cut : ¬ w.attempt.Whole)
      (writing : w.transport.writeAll w.buffer = (some error, t)) :
      Flushed w (.error (.io error), { w with transport := t })
  | unsettled (error : IoError) (t t' : Transport) (whole : w.attempt.Whole)
      (writing : w.transport.writeAll w.buffer = (none, t))
      (flushing : t.flush = (some error, t')) :
      Flushed w (.error (.io error), { w with transport := t', buffer := [] })
  | settled (t t' : Transport) (whole : w.attempt.Whole)
      (writing : w.transport.writeAll w.buffer = (none, t))
      (flushing : t.flush = (none, t')) :
      Flushed w (.ok (), { w with transport := t', buffer := [] })

theorem flushed (w : Writer) : w.Flushed w.flush := by
  by_cases empty : w.buffer = []
  · rw [flush, if_pos (by simp [empty])]
    exact .nothing empty
  · have whole := w.attempt_whole_iff
    rw [flush, if_neg (by simpa using empty)]
    rcases writing : w.transport.writeAll w.buffer with ⟨failure, t⟩
    rw [writing] at whole
    cases failure with
    | some error => exact .broken error t (fun all => by simpa using whole.mp all) writing
    | none =>
      rcases flushing : t.flush with ⟨failure, t'⟩
      cases failure with
      | some error =>
        simp only [flushing]
        exact .unsettled error t t' (whole.mpr rfl) writing flushing
      | none =>
        simp only [flushing]
        exact .settled t t' (whole.mpr rfl) writing flushing

/-- **After a flush** the transport has got what the attempt sent, and the buffer is dropped if the
attempt was whole and kept if it was not. -/
theorem perform_flush (w : Writer) :
    ∃ t buffer, (w.perform .flush).2 = ⟨t, buffer, w.body⟩ ∧
      t.taken = w.transport.taken ++ w.attempt.sent ∧
        (w.attempt.Whole → buffer = []) ∧ (¬ w.attempt.Whole → buffer = w.buffer) := by
  have sent : (w.transport.writeAll w.buffer).2.taken = w.transport.taken ++ w.attempt.sent := rfl
  have settles : ∀ t : Transport, t.flush.2.taken = t.taken := fun _ => rfl
  have step : w.Flushed (w.perform .flush) := w.flushed
  generalize w.perform .flush = after at step
  cases step with
  | nothing empty =>
    have parts := List.append_eq_nil_iff.mp (w.attempt_append.trans empty)
    refine ⟨w.transport, w.buffer, rfl, ?_, fun _ => empty, fun _ => rfl⟩
    rw [parts.1, List.append_nil]
  | broken error t cut writing =>
    rw [writing] at sent
    exact ⟨t, w.buffer, rfl, sent, fun whole => absurd whole cut, fun _ => rfl⟩
  | unsettled error t t' whole writing flushing =>
    rw [writing] at sent
    have same := settles t
    rw [flushing] at same
    exact ⟨t', [], rfl, same.trans sent, fun _ => rfl, fun cut => absurd whole cut⟩
  | settled t t' whole writing flushing =>
    rw [writing] at sent
    have same := settles t
    rw [flushing] at same
    exact ⟨t', [], rfl, same.trans sent, fun _ => rfl, fun cut => absurd whole cut⟩

/-- What a message adds to the buffer is what it adds in front of the messages behind it. -/
theorem perform_write (w : Writer) (m : Message) :
    ∃ frame body, (w.perform (.write m)).2 = ⟨w.transport, w.buffer ++ frame, body⟩ ∧
      ∀ ms, (w.body.addAll (m :: ms)).1 = frame ++ (body.addAll ms).1 := by
  cases added : w.body.add m with
  | ok written =>
    obtain ⟨frame, body⟩ := written
    refine ⟨frame, body, ?_, fun ms => ?_⟩
    · simp [perform, write, added]
    · rw [Body.addAll_cons_of_ok added]
  | error fault =>
    refine ⟨[], w.body, ?_, fun ms => ?_⟩
    · simp [perform, write, added]
    · rw [Body.addAll_cons_of_error added, List.nil_append]

/-! ### All requests -/

/-- **Nothing is left out**: the transport has taken what the attempts sent, and what the whole ones
sent is all that was ever in the buffer, up to what is in it still. -/
theorem performAll_accounted (w : Writer) (rs : List Request) :
    (w.performAll rs).2.transport.taken =
        w.transport.taken ++ (w.attempts rs).flatMap Attempt.sent ∧
      w.buffer ++ (w.body.addAll (Request.messages rs)).1 =
        ((w.attempts rs).filter Attempt.Whole).flatMap Attempt.sent ++
          (w.performAll rs).2.buffer := by
  induction rs generalizing w with
  | nil => simp [attempts, Request.messages]
  | cons r rs ih =>
    obtain ⟨taken, buffer⟩ := ih (w.perform r).2
    cases r with
    | write m =>
      obtain ⟨frame, body, after, adds⟩ := w.perform_write m
      rw [performAll_cons, attempts, Request.messages, adds]
      refine ⟨taken.trans (by rw [after]), Eq.trans ?_ buffer⟩
      rw [after, List.append_assoc]
    | flush =>
      obtain ⟨t, buffer', after, sent, dropped, kept⟩ := w.perform_flush
      rw [performAll_cons, attempts, Request.messages]
      refine ⟨taken.trans ?_, ?_⟩
      · rw [after, sent, List.flatMap_cons, List.append_assoc]
      · by_cases whole : w.attempt.Whole
        · rw [List.filter_cons_of_pos (by simpa using whole), List.flatMap_cons, List.append_assoc,
            ← buffer, attempt_sent_of_whole whole, after, dropped whole, List.nil_append]
        · rw [List.filter_cons_of_neg (by simpa using whole), ← buffer, after, kept whole]

/-- An attempt that is not torn moves bytes from the buffer to the transport. -/
theorem perform_flush_of_untorn (w : Writer) (untorn : ¬ w.attempt.Torn) :
    (w.perform .flush).2.transport.taken ++ (w.perform .flush).2.buffer =
      w.transport.taken ++ w.buffer := by
  obtain ⟨t, buffer, after, sent, dropped, kept⟩ := w.perform_flush
  rw [after, sent]
  by_cases whole : w.attempt.Whole
  · rw [dropped whole, attempt_sent_of_whole whole, List.append_nil]
  · have nothing : w.attempt.sent = [] :=
      Decidable.byContradiction fun some => untorn ⟨some, whole⟩
    rw [kept whole, nothing, List.append_nil]

/-- **Unless a torn attempt came before another attempt**, the transport has taken a part from the
front of what was to be handed over. -/
theorem performAll_taken_prefix (w : Writer) (rs : List Request)
    (untorn : (w.attempts rs).Pairwise fun earlier _ => ¬ earlier.Torn) :
    (w.performAll rs).2.transport.taken <+:
      w.transport.taken ++ (w.buffer ++ (w.body.addAll (Request.messages rs)).1) := by
  induction rs generalizing w with
  | nil => simp
  | cons r rs ih =>
    cases r with
    | write m =>
      obtain ⟨frame, body, after, adds⟩ := w.perform_write m
      have later := ih (w.perform (.write m)).2 untorn
      rw [performAll_cons, Request.messages, adds, after]
      rwa [after, List.append_assoc] at later
    | flush =>
      rw [attempts, List.pairwise_cons] at untorn
      obtain ⟨alone, untorn⟩ := untorn
      by_cases torn : w.attempt.Torn
      · -- no attempt comes behind a torn one, so what it sent is the last the transport has taken
        have none : (w.perform .flush).2.attempts rs = [] :=
          List.eq_nil_iff_forall_not_mem.mpr fun a ha => alone a ha torn
        obtain ⟨t, buffer, after, sent, -⟩ := w.perform_flush
        have taken := (performAll_accounted (w.perform .flush).2 rs).1
        rw [none, List.flatMap_nil, List.append_nil, after, sent] at taken
        rw [performAll_cons, Request.messages, after, taken, List.prefix_append_right_inj,
          ← w.attempt_append, List.append_assoc]
        exact List.prefix_append _ _
      · have later := ih (w.perform .flush).2 untorn
        obtain ⟨t, buffer, after, -⟩ := w.perform_flush
        rw [← List.append_assoc, perform_flush_of_untorn w torn, List.append_assoc] at later
        rw [performAll_cons, Request.messages]
        rwa [after] at later ⊢

/-! ### The moments of a flush -/

/-- **The moments of a flush**: the transport between two of the calls, and the bytes that are still
to be written. -/
inductive Flushing (w : Writer) : Transport → Bytes → Prop
  | begun : Flushing w w.transport w.buffer
  | wrote {t t' : Transport} {left left' : Bytes} (h : Flushing w t left) (more : left ≠ [])
      (call : t.pollWrite left = (.ok left', t')) : Flushing w t' left'
  | waited {t t' : Transport} (h : Flushing w t []) (call : t.pollFlush = (.ok false, t')) :
      Flushing w t' []

/-- How a flush goes on when these bytes are still to be written. -/
def handOver (w : Writer) (t : Transport) (left : Bytes) :
    Except TransferError Unit × Writer :=
  match t.writeAll left with
  | (some error, t) => (.error (.io error), { w with transport := t })
  | (none, t) =>
    match t.flush with
    | (some error, t) => (.error (.io error), { w with transport := t, buffer := [] })
    | (none, t) => (.ok (), { w with transport := t, buffer := [] })

/-- **The moments of a flush are moments of it**: whatever calls were made, the flush ends as it
does when it goes on from there. -/
theorem Flushing.flush_eq {w : Writer} {t : Transport} {left : Bytes} (h : w.Flushing t left)
    (nonempty : w.buffer ≠ []) : w.flush = w.handOver t left := by
  induction h with
  | begun =>
    rw [flush, if_neg (by simpa using nonempty)]
    rfl
  | wrote h more call ih =>
    rw [ih, handOver, Transport.writeAll_eq_pollWrite _ more, call, handOver]
  | @waited t t' h call ih =>
    have again := t.flush_eq_pollFlush
    rw [call] at again
    rw [ih]
    simp only [handOver, Transport.writeAll_nil, again]

/-- At each of its moments a flush has handed over a part from the front of the buffer. -/
theorem Flushing.taken {w : Writer} {t : Transport} {left : Bytes} (h : w.Flushing t left) :
    ∃ sent, t.taken = w.transport.taken ++ sent ∧ sent ++ left = w.buffer := by
  induction h with
  | begun => exact ⟨[], by simp, by simp⟩
  | @wrote t t' left left' h more call ih =>
    obtain ⟨sent, taken, all⟩ := ih
    rcases t.pollWrite_cases left with ⟨sent', left'', script, wrote, split, -⟩ |
      ⟨error, script, failed, -⟩
    · rw [call, Prod.mk.injEq, Except.ok.injEq] at wrote
      obtain ⟨rfl, rfl⟩ := wrote
      refine ⟨sent ++ sent', ?_, ?_⟩
      · simp [Transport.wrote, taken]
      · rw [List.append_assoc, ← split, all]
    · simp [call] at failed
  | @waited t t' h call ih =>
    obtain ⟨sent, taken, all⟩ := ih
    refine ⟨sent, Eq.trans ?_ taken, all⟩
    rcases t.pollFlush_cases with
      ⟨script, done, -⟩ | ⟨script, again, -⟩ | ⟨error, script, failed, -⟩
    · simp [call] at done
    · rw [call, Prod.mk.injEq] at again
      rw [again.2, Transport.flushed]
    · simp [call] at failed

/-! ### At every moment -/

/-- **Unless an attempt was torn**, the transport has taken all that is not in the buffer. -/
theorem performAll_of_untorn (w : Writer) (rs : List Request)
    (untorn : ∀ a ∈ w.attempts rs, ¬ a.Torn) :
    (w.performAll rs).2.transport.taken ++ (w.performAll rs).2.buffer =
      w.transport.taken ++ (w.buffer ++ (w.body.addAll (Request.messages rs)).1) := by
  obtain ⟨taken, buffer⟩ := performAll_accounted w rs
  rw [taken, buffer, (Attempt.sent_by_whole_iff _).mpr untorn, List.append_assoc]

theorem whole_of_flush_ok {w : Writer} (ok : w.flush.1 = .ok ()) : w.attempt.Whole := by
  have ended := w.flushed
  generalize w.flush = after at ended ok
  cases ended with
  | nothing empty => exact (List.append_eq_nil_iff.mp (w.attempt_append.trans empty)).2
  | broken => simp at ok
  | unsettled => simp at ok
  | settled t t' whole writing flushing => exact whole

/-- **Bytes come once and in order unless an attempt was torn.** Take a new writer over any
transport, and any requests, whatever their flushes come to. Then

* what the transport has taken after them is a part from the front of the frames of the messages
  whose write succeeded, unless a torn attempt came before another attempt;
* the same holds at each moment of a flush that comes next, unless one of the attempts before it was
  torn; and
* if that flush succeeds, the transport has taken exactly these frames, unless one of the attempts
  before it was torn: and in that case it has not. -/
theorem handed_over (t : Transport) (rs : List Request) :
    let w := ((ofTransport t).performAll rs).2
    let attempts := (ofTransport t).attempts rs
    let frames := (Body.start.addAll (Request.messages rs)).1
    ((attempts.Pairwise fun earlier _ => ¬ earlier.Torn) →
      w.transport.taken <+: t.taken ++ frames) ∧
    ((∀ a ∈ attempts, ¬ a.Torn) → ∀ t' left, w.Flushing t' left →
      t'.taken <+: t.taken ++ frames) ∧
    (w.flush.1 = .ok () →
      (w.flush.2.transport.taken = t.taken ++ frames ↔ ∀ a ∈ attempts, ¬ a.Torn)) := by
  intro w attempts frames
  refine ⟨fun untorn => ?_, fun untorn t' left moment => ?_, fun ok => ?_⟩
  · have front := performAll_taken_prefix (ofTransport t) rs untorn
    rwa [show (ofTransport t).buffer = [] from rfl, List.nil_append] at front
  · have all : w.transport.taken ++ w.buffer = t.taken ++ frames :=
      performAll_of_untorn (ofTransport t) rs untorn
    obtain ⟨sent, taken, buffer⟩ := moment.taken
    rw [taken, ← all, ← buffer, ← List.append_assoc]
    exact List.prefix_append _ _
  · obtain ⟨taken, buffer⟩ := performAll_accounted (ofTransport t) rs
    obtain ⟨t', buffer', after, sent, -⟩ := w.perform_flush
    have flushed : w.flush.2.transport.taken = w.transport.taken ++ w.buffer := by
      rw [← attempt_sent_of_whole (whole_of_flush_ok ok), ← sent]
      exact congrArg (·.transport.taken) after
    have inBuffer : frames = (attempts.filter Attempt.Whole).flatMap Attempt.sent ++ w.buffer :=
      buffer
    have handed : w.transport.taken = t.taken ++ attempts.flatMap Attempt.sent := taken
    rw [flushed, handed, inBuffer, List.append_assoc, List.append_right_inj, List.append_left_inj]
    exact Attempt.sent_by_whole_iff attempts

/-- Two messages over a transport that refuses the first attempt, takes the second in pieces and
then fails to be flushed, and takes the third at once: two failures, and every byte once. -/
theorem handed_over_after_failures :
    let t := Transport.scripted [.fails ⟨.brokenPipe, none⟩, .upTo 2, .pending, .all]
      [.pending, .fails ⟨.timedOut, none⟩]
    let rs : List Request := [.write ⟨[0x61], .empty⟩, .flush, .flush, .write ⟨[0x62], .empty⟩]
    let w := ((ofTransport t).performAll rs).2
    (∀ a ∈ (ofTransport t).attempts rs, ¬ a.Torn) ∧ w.flush.1 = .ok () ∧
      w.flush.2.transport.taken = t.taken ++ (Body.start.addAll (Request.messages rs)).1 := by
  intro t rs w
  have untorn : ∀ a ∈ (ofTransport t).attempts rs, ¬ a.Torn := by decide +kernel
  have ok : w.flush.1 = .ok () := by decide +kernel
  exact ⟨untorn, ok, ((handed_over t rs).2.2 ok).mpr untorn⟩

/-- A transport that takes the beginning of a frame and fails, and is flushed again: the frame's
beginning comes twice, after a flush that failed and then one that succeeds. -/
theorem retried_flush_repeats_bytes :
    let frame : Bytes := [0x31, 0x0D, 0x0A, 0x61, 0x0D, 0x0A]
    let t := Transport.scripted [.upTo 3, .fails ⟨.brokenPipe, none⟩] []
    let rs : List Request := [.write ⟨[0x61], .empty⟩, .flush]
    let w := ((ofTransport t).performAll rs).2
    (Body.start.addAll (Request.messages rs)).1 = frame ∧
      (ofTransport t).attempts rs = [⟨frame.take 3, frame.drop 3⟩] ∧
      w.flush.1 = .ok () ∧ w.flush.2.transport.taken = frame.take 3 ++ frame ∧
        ¬ w.flush.2.transport.taken <+: frame := by
  decide +kernel

end Writer
end Outbox
