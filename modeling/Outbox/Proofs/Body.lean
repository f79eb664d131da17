import Outbox.Proofs.Framing

/-!
# Whole bodies

Messages up to the first empty one make a whole body if each of them has a frame. What a body is
written as and what a receiver makes of it are then inverse to each other: the bytes are received as
one complete body of exactly these messages, so different messages are never written as the same
bytes. Whatever is added behind the empty message leaves no byte.

The extensions take part in this as strings and not only as bytes, because UTF-8 maps no two strings
to the same bytes.

## Main Definitions

* `Body.Whole` — the messages that make a whole body
* `Body.received_as_written` — writing and receiving a whole body
-/

namespace Outbox

/-! ### A chunk determines its message -/

/-- No two strings have the same UTF-8 form. -/
theorem Bytes.ofString_injective {s t : String} (h : ofString s = ofString t) : s = t := by
  have image : ∀ u : String, (ofString u).toByteArray = u.toByteArray := by
    intro u
    rw [← String.utf8Encode_toList]
    rfl
  rw [← String.toByteArray_inj, ← image, ← image, h]

/-- The chunks of two messages differ if the messages do. -/
theorem Message.chunk_injective : Function.Injective Message.chunk := by
  rintro ⟨payload, ⟨entries⟩⟩ ⟨payload', ⟨entries'⟩⟩ same
  simp only [chunk, Body.Chunk.mk.injEq] at same
  obtain ⟨rfl, sameEntries⟩ := same
  have entries_eq : entries = entries' := by
    refine (List.map_inj_right ?_).mp sameEntries
    rintro ⟨name, value⟩ ⟨name', value'⟩ h
    simp only [Prod.mk.injEq, Option.some.injEq] at h
    rw [Bytes.ofString_injective h.1, Bytes.ofString_injective h.2]
  rw [entries_eq]

namespace Body

/-! ### What is written of messages in order -/

/-- Messages that have a frame and go on are written as their frames. -/
theorem addEach_of_framable {ms : List Message} (framable : ∀ m ∈ ms, m.Framable)
    (goesOn : ∀ m ∈ ms, m.payload ≠ []) (size : Nat) :
    addEach ⟨false, size⟩ ms = .ok (ms.flatMap Message.frame,
      ⟨false, size + (ms.flatMap Message.payload).length⟩) := by
  induction ms generalizing size with
  | nil => rfl
  | cons m ms ih =>
    have notLast : m.isLast = false := by
      rw [← Bool.not_eq_true, Message.isLast_iff]
      exact goesOn m List.mem_cons_self
    have added : add ⟨false, size⟩ m = .ok (m.frame, ⟨false, size + m.payload.length⟩) := by
      have hasFrame := Message.unframable?_eq_none_iff.mpr (framable m List.mem_cons_self)
      rw [add_of_framable rfl hasFrame, notLast]
    have rest := ih (fun n hn => framable n (List.mem_cons_of_mem _ hn))
      (fun n hn => goesOn n (List.mem_cons_of_mem _ hn)) (size + m.payload.length)
    rw [addEach_cons_of_ok added rest, List.flatMap_cons, List.flatMap_cons, List.length_append,
      Nat.add_assoc]

/-- Behind the end of a body any messages are taken, and nothing is written of them. -/
theorem addEach_of_ended {body : Body} (ended : body.ended = true) (ms : List Message) :
    body.addEach ms = .ok ([], body) := by
  induction ms with
  | nil => rfl
  | cons m ms ih => rw [addEach_cons_of_ok (add_of_ended ended m) ih, List.append_nil]

theorem addAll_of_ended {body : Body} (ended : body.ended = true) (ms : List Message) :
    body.addAll ms = ([], body) := by
  induction ms with
  | nil => rfl
  | cons m ms ih => rw [addAll_cons_of_ok (add_of_ended ended m), ih, List.append_nil]

theorem addEach_append {body body' body'' : Body} {ms ms' : List Message} {bytes bytes' : Bytes}
    (first : body.addEach ms = .ok (bytes, body'))
    (second : body'.addEach ms' = .ok (bytes', body'')) :
    body.addEach (ms ++ ms') = .ok (bytes ++ bytes', body'') := by
  induction ms generalizing body bytes with
  | nil =>
    cases first
    exact second
  | cons m ms ih =>
    rw [addEach] at first
    -- a refused message would have refused the whole list
    cases added : body.add m with
    | error fault => simp [added] at first
    | ok written =>
      obtain ⟨frame, next⟩ := written
      simp only [added] at first
      cases rest : next.addEach ms with
      | error fault => simp [rest] at first
      | ok later =>
        obtain ⟨frames, last⟩ := later
        simp only [rest, Except.ok.injEq, Prod.mk.injEq] at first
        obtain ⟨rfl, rfl⟩ := first
        rw [List.cons_append, addEach_cons_of_ok added (ih rest), List.append_assoc]

/-! ### Whole bodies -/

/-- **The messages of a whole body**: each of them has a frame, and the last one, and only that one,
is empty. -/
structure Whole (ms : List Message) : Prop where
  framable : ∀ m ∈ ms, m.Framable
  ends : ∃ front last, ms = front ++ [last] ∧ last.payload = [] ∧ ∀ m ∈ front, m.payload ≠ []

namespace Whole

variable {ms : List Message}

/-- The last message is the one that ends the body. -/
theorem isLast_append {front : List Message} {last : Message} (whole : Whole (front ++ [last])) :
    (∀ m ∈ front, m.isLast = false) ∧ last.isLast = true := by
  obtain ⟨front', last', same, empty, goesOn⟩ := whole.ends
  obtain ⟨rfl, lasts⟩ := List.append_inj' same rfl
  obtain rfl : last = last' := List.singleton_inj.mp lasts
  refine ⟨fun m hm => ?_, Message.isLast_iff.mpr empty⟩
  rw [← Bool.not_eq_true, Message.isLast_iff]
  exact goesOn m hm

/-- A whole body is written as the frames of its messages, and ends. -/
theorem written (whole : Whole ms) :
    start.addEach ms =
      .ok (ms.flatMap Message.frame, ⟨true, (ms.flatMap Message.payload).length⟩) := by
  obtain ⟨front, last, rfl, empty, goesOn⟩ := whole.ends
  have upToLast := addEach_of_framable
    (fun m hm => whole.framable m (List.mem_append_left _ hm)) goesOn 0
  rw [Nat.zero_add] at upToLast
  have ending : addEach ⟨false, (front.flatMap Message.payload).length⟩ [last] =
      .ok (last.frame, ⟨true, (front.flatMap Message.payload).length⟩) := by
    have hasFrame := Message.unframable?_eq_none_iff.mpr (whole.framable last (by simp))
    have added : add ⟨false, (front.flatMap Message.payload).length⟩ last = _ :=
      add_of_framable rfl hasFrame
    rw [Message.isLast_iff.mpr empty, empty] at added
    rw [addEach_cons_of_ok added (addEach_nil _), List.append_nil]
    rfl
  rw [start, addEach_append upToLast ending, List.flatMap_append, List.flatMap_append]
  simp [empty]

/-- A whole body is received as its messages. -/
theorem received (whole : Whole ms) :
    Receiver.body? (ms.flatMap Message.frame) = some (ms.map Message.chunk) := by
  obtain ⟨front, last, rfl, empty, goesOn⟩ := whole.ends
  refine Receiver.body?_frames ?_ ?_ (Message.isLast_iff.mpr empty)
  · intro m hm
    exact Message.unframable?_eq_none_iff.mpr (whole.framable m hm)
  · intro m hm
    rw [← Bool.not_eq_true, Message.isLast_iff]
    exact goesOn m hm

/-- What is added behind a whole body leaves no byte. -/
theorem written_append (whole : Whole ms) (late : List Message) :
    start.addEach (ms ++ late) =
      .ok (ms.flatMap Message.frame, ⟨true, (ms.flatMap Message.payload).length⟩) := by
  have nothing : addEach ⟨true, (ms.flatMap Message.payload).length⟩ late = _ :=
    addEach_of_ended rfl late
  rw [addEach_append whole.written nothing, List.append_nil]

end Whole

/-- **A body is received as it was written.** Take the messages of a whole body and any messages
behind them. All of them are taken, whether the late ones have a frame or not; the body has ended
and counts the data of the whole body alone; the late ones leave no byte; and a receiver accepts
exactly the bytes that were written and finds each message in them, its data and its extensions in
order. So no other whole body is written as these bytes, whatever is behind it. -/
theorem received_as_written {ms : List Message} (whole : Whole ms) (late : List Message) :
    ∃ bytes,
      start.addEach (ms ++ late) =
        .ok (bytes, ⟨true, (ms.flatMap Message.payload).length⟩) ∧
      start.addEach ms = .ok (bytes, ⟨true, (ms.flatMap Message.payload).length⟩) ∧
      Receiver.body? bytes = some (ms.map Message.chunk) ∧
      ∀ (others later : List Message) (body : Body), Whole others →
        start.addEach (others ++ later) = .ok (bytes, body) → others = ms := by
  refine ⟨ms.flatMap Message.frame, whole.written_append late, whole.written, whole.received, ?_⟩
  intro others later body otherWhole sameBytes
  have frames : others.flatMap Message.frame = ms.flatMap Message.frame := by
    rw [otherWhole.written_append later, Except.ok.injEq, Prod.mk.injEq] at sameBytes
    exact sameBytes.1
  -- the same bytes are received as the same chunks, and these tell the messages
  have chunks : some (others.map Message.chunk) = some (ms.map Message.chunk) := by
    rw [← otherWhole.received, ← whole.received, frames]
  exact (List.map_inj_right fun _ _ same => Message.chunk_injective same).mp
    (Option.some.inj chunks)

/-- Data that spells the end of a body, values that need quotes and backslashes, a name that comes
twice, an empty value, extensions of the last message, and a late message without a frame. -/
theorem awkward_received_as_written :
    let ms : List Message := [
      ⟨[0x30, 0x0D, 0x0A, 0x0D, 0x0A], ⟨[("a", "x\\y;\"z\""), ("a", ""), ("A", "é\t")]⟩⟩,
      ⟨List.replicate 26 0x0D, .empty⟩, ⟨[], ⟨[("b", "1")]⟩⟩]
    let late : List Message := [⟨[0x31], ⟨[("no token", "\n")]⟩⟩]
    Whole ms ∧
      ∃ bytes,
        start.addEach (ms ++ late) = .ok (bytes, ⟨true, 31⟩) ∧
        start.addEach ms = .ok (bytes, ⟨true, 31⟩) ∧
        Receiver.body? bytes = some (ms.map Message.chunk) ∧
        ∀ (others later : List Message) (body : Body), Whole others →
          start.addEach (others ++ later) = .ok (bytes, body) → others = ms := by
  intro ms late
  have whole : Whole ms := by
    refine ⟨by decide +kernel, ms.dropLast, ⟨[], ⟨[("b", "1")]⟩⟩, rfl, rfl, ?_⟩
    decide
  exact ⟨whole, received_as_written whole late⟩

end Body

end Outbox
