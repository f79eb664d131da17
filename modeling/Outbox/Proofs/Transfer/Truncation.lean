import Outbox.Proofs.Submission
import Outbox.Proofs.Transfer.Ending

/-!
# A body that was cut short never looks complete

A receiver that has come to the end of a body breaks on the next byte. Frames never break a
receiver, so of all the beginnings of a run of frames only the whole run can be a complete body,
wherever the others are cut: in a size, in a quoted value, in the data, or between the two last line
breaks.

What a transport has taken of a transfer is such a beginning at every moment. Hence a receiver finds
a complete body in it only if the empty chunk was pulled and all of its frame was taken; and no
empty chunk is pulled from a queue that was interrupted before, or whose sender was never closed.

## Main Definitions

* `Receiver.phase_ne_ended_of_more` — no body is the beginning of something that is received
* `Transfer.Task.NeverClosed` — only submissions reach the queue
* `Transfer.Task.complete_iff_all_taken` — when the bytes taken are a complete body
-/

namespace Outbox

/-! ### Beginnings of what is received -/

namespace Receiver

theorem body?_eq_none_iff {bytes : Bytes} :
    body? bytes = none ↔ (start.receive bytes).phase ≠ .ended := by
  simp [body?]

theorem isSome_body?_iff {bytes : Bytes} :
    (body? bytes).isSome = true ↔ (start.receive bytes).phase = .ended := by
  simp [body?]

/-- **Where more bytes are received, the body has not ended.** -/
theorem phase_ne_ended_of_more {r : Receiver} {bytes rest : Bytes} (more : rest ≠ [])
    (received : (r.receive (bytes ++ rest)).phase ≠ .broken) :
    (r.receive bytes).phase ≠ .ended := by
  intro ended
  obtain ⟨b, rest, rfl⟩ := List.exists_cons_of_ne_nil more
  rw [receive_append] at received
  exact received (receive_of_ended ended b rest)

/-- A frame that is cut short does not end a body. -/
theorem phase_of_cut_frame (chunks : List Body.Chunk) {m : Message} (framable : m.Framable)
    {sent : Bytes} (begun : sent <+: m.frame) (short : sent ≠ m.frame) :
    ((Receiver.mk chunks .chunkStart).receive sent).phase ≠ .ended := by
  obtain ⟨rest, frame⟩ := begun
  have more : rest ≠ [] := by
    rintro rfl
    exact short (by rw [← frame, List.append_nil])
  refine phase_ne_ended_of_more more ?_
  rw [frame, receive_frame chunks (Message.unframable?_eq_none_iff.mpr framable)]
  cases m.isLast <;> simp

/-- **What is written of any messages is received without fault**, and as a complete body exactly if
the body has ended. -/
theorem phase_of_written (chunks : List Body.Chunk) (size : Nat) (ms : List Message) :
    ((Receiver.mk chunks .chunkStart).receive (Body.addAll ⟨false, size⟩ ms).1).phase =
      if (Body.addAll ⟨false, size⟩ ms).2.ended then .ended else .chunkStart := by
  induction ms generalizing chunks size with
  | nil => rfl
  | cons m ms ih =>
    cases reason : m.unframable? with
    | some fault =>
      rw [Body.addAll_cons_of_error (Body.add_of_unframable rfl reason)]
      exact ih chunks size
    | none =>
      rw [Body.addAll_cons_of_ok (Body.add_of_framable rfl reason), receive_append,
        receive_frame chunks reason]
      cases last : m.isLast with
      | false => exact ih (chunks ++ [m.chunk]) (size + m.payload.length)
      | true => rw [Body.addAll_of_ended rfl]; rfl

/-- **No proper beginning of what is written is a complete body.** -/
theorem body?_of_cut (ms : List Message) {bytes : Bytes}
    (begun : bytes <+: (Body.start.addAll ms).1) (short : bytes ≠ (Body.start.addAll ms).1) :
    body? bytes = none := by
  obtain ⟨rest, written⟩ := begun
  have more : rest ≠ [] := by
    rintro rfl
    exact short (by rw [← written, List.append_nil])
  rw [body?_eq_none_iff]
  refine phase_ne_ended_of_more more ?_
  rw [written, start, Body.start, phase_of_written]
  split <;> simp

end Receiver

/-! ### What a transport has taken -/

namespace Transfer.Task

variable {t : Transport} {s : Stream} {q : Queue} {events : List Event} {k k' : Task}

/-- Whole frames of chunks that go on leave a receiver at the beginning of a chunk. -/
theorem receive_of_goesOn {front : List Message}
    (goesOn : ∀ c ∈ front, c.Framable ∧ c.payload ≠ []) :
    Receiver.start.receive (front.flatMap Message.frame) =
      ⟨front.map Message.chunk, .chunkStart⟩ := by
  refine Receiver.receive_frames [] ?_ ?_
  · intro c h
    exact Message.unframable?_eq_none_iff.mpr (goesOn c h).1
  · intro c h
    rw [← Bool.not_eq_true, Message.isLast_iff]
    exact (goesOn c h).2

/-- **The bytes that were taken since the transfer began are a complete body** exactly if they are
the frames of all chunks pulled and the last of these is empty. -/
theorem Reached.complete_iff (r : Reached t k) :
    ∃ bytes, k.taken = t.taken ++ bytes ∧
      ((Receiver.body? bytes).isSome = true ↔
        ∃ last, k.pulled.getLast? = some last ∧ last.payload = [] ∧
          bytes = k.pulled.flatMap Message.frame) := by
  rcases r with between | ⟨front, m, sent, cut⟩
  · refine ⟨_, between.taken, ?_⟩
    rw [Receiver.isSome_body?_iff, receive_of_goesOn between.goesOn]
    refine iff_of_false (by simp) ?_
    rintro ⟨last, isLast, empty, -⟩
    exact (between.goesOn last (List.mem_of_getLast? isLast)).2 empty
  · refine ⟨_, cut.taken, ?_⟩
    have newest : k.pulled.getLast? = some m := by rw [cut.pulled, List.getLast?_concat]
    rw [Receiver.isSome_body?_iff, Receiver.receive_append, receive_of_goesOn cut.goesOn, newest,
      cut.pulled, List.flatMap_append, List.flatMap_singleton, List.append_right_inj]
    by_cases whole : sent = m.frame
    · have framable := cut.framable (whole ▸ m.frame_ne_nil)
      rw [whole, Receiver.receive_frame _ (Message.unframable?_eq_none_iff.mpr framable)]
      cases last : m.isLast with
      | true => simp [Message.isLast_iff.mp last]
      | false => simp [← Message.isLast_iff, last]
    · refine iff_of_false ?_ (by simp [whole])
      by_cases nothing : sent = []
      · simp [nothing]
      · exact Receiver.phase_of_cut_frame _ (cut.framable nothing) cut.begun whole

/-! ### Where no empty chunk is pulled -/

/-- No empty chunk was pulled, and none will be: the queue is interrupted. -/
structure Silenced (k : Task) : Prop where
  interrupted : k.queue.interrupted = true
  goesOn : ∀ c ∈ k.pulled, c.payload ≠ []

theorem Silenced.stepped {e : Event} (h : Silenced k) (step : k.Stepped e k') : Silenced k' := by
  cases step with
  | gone _ => exact h
  | dropped _ => exact ⟨rfl, h.goesOn⟩
  | turned turn => exact ⟨Queue.interrupted_turn_iff.mpr (Or.inl h.interrupted), h.goesOn⟩
  | advanced call =>
    rcases call.takes_or_leaves with ⟨_, _, live, -⟩ | ⟨same | interrupted, pulled⟩
    · rw [h.interrupted] at live
      cases live
    · exact ⟨same ▸ h.interrupted, pulled ▸ h.goesOn⟩
    · exact ⟨interrupted ▸ rfl, pulled ▸ h.goesOn⟩

/-- **The sender was never closed**: the queue holds messages of submissions, and only such messages
are offered to it. -/
structure NeverClosed (q : Queue) (events : List Event) : Prop where
  queued : ∀ m ∈ q.messages, ∃ what : Submission, m = what.message
  offered : ∀ m, .turn (.offer m) ∈ events → ∃ what : Submission, m = what.message
  noLast : ∀ m, .turn (.offerLast m) ∉ events

/-- No empty chunk was pulled, and none is there to be pulled. -/
structure WithoutLast (k : Task) : Prop where
  queued : ∀ m ∈ k.queue.messages, m.payload ≠ []
  goesOn : ∀ c ∈ k.pulled, c.payload ≠ []

theorem WithoutLast.stepped {e : Event} (fed : NeverClosed q events) (listed : e ∈ events)
    (h : WithoutLast k) (step : k.Stepped e k') : WithoutLast k' := by
  cases step with
  | gone _ => exact h
  | dropped _ => exact ⟨h.queued, h.goesOn⟩
  | turned turn =>
    refine ⟨?_, h.goesOn⟩
    have turned := k.queue.turned turn
    generalize (k.queue.turn turn).1 = outcome, (k.queue.turn turn).2 = queue at turned ⊢
    cases turned with
    | @stored m =>
      intro c hc
      rcases List.mem_append.mp hc with old | new
      · exact h.queued c old
      · obtain ⟨what, rfl⟩ := fed.offered m listed
        rw [List.mem_singleton.mp new]
        exact what.payload_ne_nil
    | @storedLast m => exact absurd listed (fed.noLast m)
    | taken _ oldest => exact fun c hc => h.queued c (oldest ▸ List.mem_cons_of_mem _ hc)
    | _ => exact h.queued
  | advanced call =>
    rcases call.takes_or_leaves with ⟨m, rest, -, oldest, queue, pulled⟩ | ⟨queue, pulled⟩
    · have queued := h.queued
      rw [oldest, List.forall_mem_cons] at queued
      refine ⟨queue ▸ queued.2, ?_⟩
      rw [pulled, List.forall_mem_append, List.forall_mem_singleton]
      exact ⟨h.goesOn, queued.1⟩
    · have messages : k'.queue.messages = k.queue.messages := by
        rcases queue with same | interrupted
        · rw [same]
        · rw [interrupted]
          rfl
      exact ⟨messages ▸ h.queued, pulled ▸ h.goesOn⟩

/-! ### Cut short -/

/-- **A body that was cut short never looks complete.** Take a transfer into a new writer, whatever
its transport does and whatever happens between its calls, at any moment of its life. A receiver
finds a complete body in the bytes that the transport has taken exactly if the chunk pulled last is
the empty one and all frames were taken up to its end. So it never does if the queue was interrupted
before an empty chunk was pulled, or if the sender was never closed. And whatever messages are
written, no proper beginning of their bytes is a complete body. -/
theorem complete_iff_all_taken (t : Transport) (s : Stream) (q : Queue) :
    (∃ events, (∀ e ∈ events, e = .advance ∨ e = .drop) ∧
      ((start (.ofTransport t) s q).run events).EndedAs
        ((Transfer.start (.ofTransport t) s).run q)) ∧
    (∀ events, ∃ bytes,
      ((start (.ofTransport t) s q).run events).taken = t.taken ++ bytes ∧
      ((Receiver.body? bytes).isSome = true ↔
        ∃ last, ((start (.ofTransport t) s q).run events).pulled.getLast? = some last ∧
          last.payload = [] ∧
          bytes = ((start (.ofTransport t) s q).run events).pulled.flatMap Message.frame) ∧
      (∀ before after, events = before ++ after →
        ((start (.ofTransport t) s q).run before).queue.interrupted = true →
        (∀ c ∈ ((start (.ofTransport t) s q).run before).pulled, c.payload ≠ []) →
          Receiver.body? bytes = none) ∧
      (NeverClosed q events → Receiver.body? bytes = none)) ∧
    ∀ (ms : List Message) (bytes : Bytes), bytes <+: (Body.start.addAll ms).1 →
      bytes ≠ (Body.start.addAll ms).1 → Receiver.body? bytes = none := by
  refine ⟨run_eq _ rfl, ?_, fun ms bytes begun short => Receiver.body?_of_cut ms begun short⟩
  intro events
  obtain ⟨bytes, taken, complete⟩ := (standing_run t s q events).place.reached.complete_iff
  have incomplete : (∀ c ∈ ((start (.ofTransport t) s q).run events).pulled, c.payload ≠ []) →
      Receiver.body? bytes = none := by
    intro goesOn
    rw [← Option.not_isSome_iff_eq_none, complete]
    rintro ⟨last, isLast, empty, -⟩
    exact goesOn last (List.mem_of_getLast? isLast) empty
  refine ⟨bytes, taken, complete, ?_, ?_⟩
  · rintro before after rfl interrupted goesOn
    have silenced : Silenced (((start (.ofTransport t) s q).run before).run after) :=
      run_invariant (fun _ h step => h.stepped step) ⟨interrupted, goesOn⟩
    rw [← run_append] at silenced
    exact incomplete silenced.goesOn
  · intro fed
    have first : WithoutLast (start (.ofTransport t) s q) := by
      refine ⟨fun m hm => ?_, by simp [start]⟩
      obtain ⟨what, rfl⟩ := fed.queued m hm
      exact what.payload_ne_nil
    have withoutLast : WithoutLast ((start (.ofTransport t) s q).run events) :=
      run_invariant (fun listed h step => h.stepped fed listed step) first
    exact incomplete withoutLast.goesOn

/-- Data that spells the end of a body, and a transport that has taken just that when the task is
dropped: a receiver finds no complete body in it. -/
theorem lookalike_never_complete :
    let t := Transport.scripted [.upTo 8] []
    let s : Stream := ⟨1, true⟩
    let m : Message := ⟨[0x30, 0x0D, 0x0A, 0x0D, 0x0A], .empty⟩
    let q : Queue := ⟨1, .block, [m], false, false⟩
    let events : List Event := [.advance, .advance, .advance, .drop]
    let k := (start (.ofTransport t) s q).run events
    k.taken = [0x35, 0x0D, 0x0A, 0x30, 0x0D, 0x0A, 0x0D, 0x0A] ∧
      k.queue.interrupted = true ∧ (∀ c ∈ k.pulled, c.payload ≠ []) ∧ NeverClosed q events ∧
        Receiver.body? k.taken = none ∧
        [0x35, 0x0D, 0x0A, 0x30, 0x0D, 0x0A, 0x0D, 0x0A] <+:
          (Body.start.addAll [m, .terminal]).1 ∧
        Receiver.body? [0x35, 0x0D, 0x0A, 0x30, 0x0D, 0x0A, 0x0D, 0x0A] = none := by
  intro t s m q events k
  have taken : k.taken = [0x35, 0x0D, 0x0A, 0x30, 0x0D, 0x0A, 0x0D, 0x0A] := by decide +kernel
  have interrupted : k.queue.interrupted = true := by decide +kernel
  have goesOn : ∀ c ∈ k.pulled, c.payload ≠ [] := by decide +kernel
  have neverClosed : NeverClosed q events := by
    refine ⟨?_, by simp [events], by simp [events]⟩
    intro c hc
    exact ⟨.binary m.payload .empty, List.mem_singleton.mp hc⟩
  have begun : [0x35, 0x0D, 0x0A, 0x30, 0x0D, 0x0A, 0x0D, 0x0A] <+:
      (Body.start.addAll [m, .terminal]).1 := by decide +kernel
  obtain ⟨-, moments, cuts⟩ := complete_iff_all_taken t s q
  obtain ⟨bytes, all, -, ofInterrupted, ofNeverClosed⟩ := moments events
  have same : k.taken = bytes := all
  refine ⟨taken, interrupted, goesOn, neverClosed, ?_, begun,
    cuts [m, .terminal] _ begun (by decide +kernel)⟩
  rw [same]
  exact ofInterrupted events [] (List.append_nil events).symm interrupted goesOn

end Transfer.Task

end Outbox
