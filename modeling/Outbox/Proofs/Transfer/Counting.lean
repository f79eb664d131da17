import Outbox.Proofs.Delivery
import Outbox.Proofs.Transfer.Ending

/-!
# What a transfer counts

A transfer counts a chunk once the chunk is flushed, and a writer whose body has ended takes any
chunk and writes nothing. So the count is that of the chunks pulled, whatever the writer was used
for before, and it is that of the chunks written as long as the writer's body goes on when the
transfer begins. Into a finished body a whole stream is counted and none of it is written.

The writer is any writer here, with whatever it holds in its buffer, and so the invariant compares
what the transport has taken with what the writer was given at the beginning.

## Main Definitions

* `Writer.frames` — what messages become behind all that a writer has written
* `Transfer.Task.Handed`, `Transfer.Task.Tally` — what a task has handed over and counted
* `Transfer.Task.completed_counts` — what a count says of the bytes taken
-/

namespace Outbox

/-- **What messages become behind all that a writer has written**: their frames, or nothing once the
body has ended. -/
def Writer.frames (w : Writer) (ms : List Message) : Bytes :=
  if w.body.ended then [] else ms.flatMap Message.frame

theorem Writer.frames_nil (w : Writer) : w.frames [] = [] := by simp [frames]

theorem Writer.frames_append (w : Writer) (ms ms' : List Message) :
    w.frames (ms ++ ms') = w.frames ms ++ w.frames ms' := by
  cases ended : w.body.ended <;> simp [frames, ended]

namespace Transfer.Task

variable {w : Writer} {s : Stream} {k k' : Task} {ms : List Message} {m : Message} {left : Bytes}

/-! ### Chunks pulled -/

/-- **What a stream has handed out**: it goes on until the first empty chunk. -/
structure Pulls (s : Stream) (k : Task) : Prop where
  hasNext : k.transfer.stream.hasNext = (s.hasNext && !k.pulled.any Message.isLast)
  before : ∀ front m, k.pulled = front ++ [m] →
    s.hasNext = true ∧ front.any Message.isLast = false

theorem Pulls.same (h : Pulls s k) (stream : k'.transfer.stream = k.transfer.stream)
    (pulled : k'.pulled = k.pulled) : Pulls s k' :=
  ⟨by rw [stream, pulled, h.hasNext], by rw [pulled]; exact h.before⟩

/-- A stream that has ended had ended before, or has handed out a whole body. -/
theorem Pulls.whole_of_drained (h : Pulls s k) (noMore : k.transfer.stream.hasNext = false)
    (framable : ∀ m ∈ k.pulled, m.Framable) :
    k.pulled = [] ∧ s.hasNext = false ∨ Body.Whole k.pulled := by
  have ended := h.hasNext
  rw [noMore] at ended
  rcases List.eq_nil_or_concat k.pulled with none | ⟨front, last, pulled⟩
  · exact Or.inl ⟨none, by simpa [none] using ended.symm⟩
  · rw [List.concat_eq_append] at pulled
    obtain ⟨began, goesOn⟩ := h.before front last pulled
    have isLast : last.isLast = true := by simpa [began, pulled, goesOn] using ended
    refine Or.inr ⟨framable, front, last, pulled, Message.isLast_iff.mp isLast, ?_⟩
    intro m hm
    rw [ne_eq, ← Message.isLast_iff]
    exact (List.any_eq_false.mp goesOn) m hm

/-! ### Bytes handed over -/

/-- **What a writer has become of these messages**, when the transport has taken all but `left`. -/
structure Handed (w : Writer) (k : Task) (ms : List Message) (left : Bytes) : Prop where
  taken : k.taken ++ left = w.transport.taken ++ (w.buffer ++ w.frames ms)
  ended : k.transfer.writer.body.ended = (w.body.ended || ms.any Message.isLast)
  framable : w.body.ended = false → ∀ m ∈ ms, m.Framable

namespace Handed

theorem same (h : Handed w k ms left) (taken : k'.taken = k.taken)
    (body : k'.transfer.writer.body = k.transfer.writer.body) : Handed w k' ms left :=
  ⟨by rw [taken, h.taken], by rw [body, h.ended], h.framable⟩

/-- The transport takes some of what is left. -/
theorem takes {part rest : Bytes} (h : Handed w k ms left) (split : left = part ++ rest)
    (taken : k'.taken = k.taken ++ part)
    (body : k'.transfer.writer.body = k.transfer.writer.body) : Handed w k' ms rest :=
  ⟨by rw [taken, List.append_assoc, ← split, h.taken], by rw [body, h.ended], h.framable⟩

/-- One more message is framed behind the buffer, or swallowed by a body that has ended. -/
theorem writes {w' : Writer} (h : Handed w k ms k.transfer.writer.buffer)
    (goesOn : ms.any Message.isLast = false) (written : k.transfer.writer.write m = .ok w') :
    Handed w (k.withWriter w') (ms ++ [m]) w'.buffer := by
  have ended := h.ended
  rw [goesOn, Bool.or_false] at ended
  cases hasEnded : w.body.ended with
  | true =>
    rw [hasEnded] at ended
    have same : w' = k.transfer.writer := by
      simp only [Writer.write, Body.add_of_ended ended, List.append_nil, Except.ok.injEq] at written
      exact written.symm
    subst same
    refine ⟨?_, by simp [withWriter, ended, hasEnded], by simp [hasEnded]⟩
    have nothing : ∀ ms, w.frames ms = [] := by simp [Writer.frames, hasEnded]
    have taken := h.taken
    rw [nothing] at taken ⊢
    exact taken
  | false =>
    rw [hasEnded] at ended
    obtain ⟨framable, transport, buffer, last⟩ := write_of_open ended written
    refine ⟨?_, ?_, fun isOpen m' h' => ?_⟩
    · have frame : w.frames [m] = m.frame := by simp [Writer.frames, hasEnded]
      have taken : (k.withWriter w').taken = k.taken := congrArg Transport.taken transport
      rw [taken, buffer, ← List.append_assoc, h.taken, Writer.frames_append, frame]
      simp only [List.append_assoc]
    · simp [withWriter, hasEnded, last, goesOn]
    · rcases List.mem_append.mp h' with earlier | new
      · exact h.framable isOpen m' earlier
      · rw [List.mem_singleton.mp new]
        exact framable

end Handed

/-! ### The count -/

/-- **What a task has counted and handed over at each stage.** -/
inductive Tally (w : Writer) (k : Task) : Stage → Prop where
  | pulling (handed : Handed w k k.pulled k.transfer.writer.buffer)
    (buffer : k.transfer.writer.buffer = if k.pulled = [] then w.buffer else [])
    (count : k.transfer.chunks = k.pulled.length) : Tally w k .pulling
  | pulled {front : List Message} {m : Message} (pulled : k.pulled = front ++ [m])
    (handed : Handed w k front k.transfer.writer.buffer)
    (count : k.transfer.chunks = front.length) : Tally w k (.pulled m)
  | writing {left : Bytes} (handed : Handed w k k.pulled left)
    (count : k.transfer.chunks + 1 = k.pulled.length) : Tally w k (.writing left)
  | flushing (handed : Handed w k k.pulled []) (buffer : k.transfer.writer.buffer = [])
    (count : k.transfer.chunks + 1 = k.pulled.length) : Tally w k .flushing
  | completed (handed : Handed w k k.pulled k.transfer.writer.buffer)
    (buffer : k.transfer.writer.buffer = if k.pulled = [] then w.buffer else [])
    (noMore : k.transfer.stream.hasNext = false) :
    Tally w k (.ended (.completed k.pulled.length))
  | early {outcome : Outcome} (early : outcome.Early) : Tally w k (.ended outcome)

/-- **What a transfer into this writer has done so far.** -/
structure Counted (w : Writer) (s : Stream) (k : Task) : Prop where
  pulls : Pulls s k
  tally : Tally w k k.stage

theorem counted_start (w : Writer) (s : Stream) (q : Queue) : Counted w s (start w s q) where
  pulls := ⟨by simp [start, Transfer.start], fun front m pulled => by simp [start] at pulled⟩
  tally := by
    refine .pulling ⟨?_, ?_, ?_⟩ rfl rfl
    · simp [start, Transfer.start, Task.taken, Writer.frames_nil]
    · simp [start, Transfer.start]
    · simp [start]

theorem Counted.giveUp {outcome : Outcome} (h : Counted w s k) (early : outcome.Early) :
    Counted w s (k.giveUp outcome) :=
  ⟨h.pulls.same rfl rfl, .early early⟩

/-- **A pull keeps it**: the chunk that comes is handed out by a stream that goes on until then. -/
theorem Counted.pull (h : Counted w s k) (stage : k.stage = .pulling) (call : k.Pulled k') :
    Counted w s k' := by
  have tally := h.tally
  rw [stage] at tally
  cases tally with
  | pulling handed buffer count =>
    cases call with
    | waits => exact h
    | refused => exact h.giveUp (fun _ => by simp)
    | @takes m rest more live oldest =>
      have both := h.pulls.hasNext
      rw [more] at both
      obtain ⟨began, goesOn⟩ : s.hasNext = true ∧ k.pulled.any Message.isLast = false := by
        simpa using both.symm
      refine ⟨⟨?_, ?_⟩, .pulled rfl (handed.same rfl rfl) count⟩
      · simp [began, goesOn]
      · intro front m' split
        obtain ⟨rfl, -⟩ := List.append_inj' split rfl
        exact ⟨began, goesOn⟩
    | completes noMore =>
      refine ⟨h.pulls.same rfl rfl, ?_⟩
      rw [count]
      exact .completed (k := { k with stage := .ended (.completed k.pulled.length) })
        (handed.same rfl rfl) buffer noMore

/-- **Framing keeps it**: what the buffer holds now is all that is left of the chunks pulled. -/
theorem Counted.frame (h : Counted w s k) (stage : k.stage = .pulled m) (call : k.Framed m k') :
    Counted w s k' := by
  have tally := h.tally
  rw [stage] at tally
  cases tally with
  | pulled pulled handed count =>
    have wrote : ∀ {w' : Writer}, k.transfer.writer.write m = .ok w' →
        Handed w (k.withWriter w') k.pulled w'.buffer := by
      intro w' written
      rw [pulled]
      exact handed.writes (h.pulls.before _ _ pulled).2 written
    have counted : k.transfer.chunks + 1 = k.pulled.length := by
      rw [count, pulled, List.length_append, List.length_singleton]
    cases call with
    | unframable => exact h.giveUp (fun _ => by simp)
    | fills written more =>
      exact ⟨h.pulls.same rfl rfl, .writing ((wrote written).same rfl rfl) counted⟩
    | skipped written nothing =>
      have filled : k.pulled ≠ [] := List.ne_nil_of_length_eq_add_one counted.symm
      exact ⟨h.pulls.same rfl rfl, .pulling ((wrote written).same rfl rfl)
        (nothing.trans (if_neg filled).symm) counted⟩

/-- **Handing over keeps it**: what the transport takes is not left any more. -/
theorem Counted.handOver (h : Counted w s k) (stage : k.stage = .writing left)
    (call : k.HandedOver left k') : Counted w s k' := by
  have tally := h.tally
  rw [stage] at tally
  cases tally with
  | writing handed count =>
    cases call with
    | part split more used =>
      exact ⟨h.pulls.same rfl rfl, .writing (handed.takes split rfl rfl) count⟩
    | all used =>
      refine ⟨h.pulls.same rfl rfl, .flushing ?_ rfl count⟩
      exact handed.takes (List.append_nil _).symm rfl rfl
    | fails => exact ⟨h.pulls.same rfl rfl, .early fun _ => by simp⟩

/-- **Settling keeps it**: a chunk is counted when all of it was taken. -/
theorem Counted.settle (h : Counted w s k) (stage : k.stage = .flushing) (call : k.Settled k') :
    Counted w s k' := by
  have tally := h.tally
  rw [stage] at tally
  cases tally with
  | flushing handed buffer count =>
    cases call with
    | flushes used =>
      have filled : k.pulled ≠ [] := List.ne_nil_of_length_eq_add_one count.symm
      rw [← buffer] at handed
      exact ⟨h.pulls.same rfl rfl,
        .pulling (handed.same rfl rfl) (buffer.trans (if_neg filled).symm) count⟩
    | @waits script used =>
      refine ⟨h.pulls.same rfl rfl, ?_⟩
      have stays : (k.withTransport (k.transfer.writer.transport.flushed script false)).stage =
          .flushing := stage
      rw [stays]
      exact .flushing (handed.same rfl rfl) buffer count
    | fails => exact ⟨h.pulls.same rfl rfl, .early fun _ => by simp⟩

/-- **Every call keeps it.** -/
theorem Counted.advanced (h : Counted w s k) (call : k.Advanced k') : Counted w s k' := by
  cases call with
  | pull stage call => exact h.pull stage call
  | frame stage call => exact h.frame stage call
  | handOver stage call => exact h.handOver stage call
  | settle stage call => exact h.settle stage call
  | isOver _ => exact h

theorem Tally.withQueue {stage : Stage} (h : Tally w k stage) (queue : Queue) :
    Tally w { k with queue := queue } stage := by
  cases h with
  | pulling handed buffer count => exact .pulling (handed.same rfl rfl) buffer count
  | pulled pulled handed count => exact .pulled pulled (handed.same rfl rfl) count
  | writing handed count => exact .writing (handed.same rfl rfl) count
  | flushing handed buffer count => exact .flushing (handed.same rfl rfl) buffer count
  | completed handed buffer noMore =>
    exact .completed (k := { k with queue := queue }) (handed.same rfl rfl) buffer noMore
  | early early => exact .early early

/-- **Every event keeps it.** -/
theorem Counted.stepped {e : Event} (h : Counted w s k) (step : k.Stepped e k') :
    Counted w s k' := by
  cases step with
  | advanced call => exact h.advanced call
  | gone _ => exact h
  | dropped _ => exact h.giveUp fun _ => by simp
  | turned turn => exact ⟨h.pulls.same rfl rfl, h.tally.withQueue _⟩

/-- **Every history keeps it.** -/
theorem counted_run (w : Writer) (s : Stream) (q : Queue) (events : List Event) :
    Counted w s ((start w s q).run events) :=
  run_invariant (fun _ h step => h.stepped step) (counted_start w s q)

/-! ### A closed sender's stream -/

/-- Any message that has a frame is emitted to a willing transport, whatever the body. -/
theorem emit_frames_of_willing (willing : w.transport.Willing) (framable : m.Framable) :
    ∃ w', emit w m = (.ok (), w') ∧ w'.transport.Willing ∧
      w'.transport.taken = w.transport.taken ++ (w.buffer ++ w.frames [m]) ∧ w'.buffer = [] ∧
        w'.body.ended = (w.body.ended || m.isLast) := by
  cases ended : w.body.ended with
  | false =>
    obtain ⟨w', emitted, stays, taken, buffer, last⟩ := emit_of_willing willing ended framable
    refine ⟨w', emitted, stays, ?_, buffer, last⟩
    simp [taken, Writer.frames, ended]
  | true =>
    obtain ⟨t, stays, taken, flushed⟩ := Writer.flush_of_willing willing
    refine ⟨⟨t, [], w.body⟩, ?_, stays, ?_, rfl, by simp [ended]⟩
    · simp [emit, Writer.write, Body.add_of_ended ended, flushed]
    · simp [taken, Writer.frames, ended]

/-- A round moves the oldest message that a stream goes on to. -/
theorem round_of_queued {q : Queue} {rest : List Message} {chunks : Nat} (more : s.hasNext = true)
    (live : q.interrupted = false) (queued : q.messages = m :: rest) {w' : Writer}
    (emitted : emit w m = (.ok (), w')) :
    Transfer.round ⟨w, s, chunks⟩ q =
      .moved ⟨w', { s with hasNext := !m.isLast }, chunks + 1⟩ { q with messages := rest } := by
  have pulled : s.pull q =
      .chunk m { s with hasNext := !m.isLast } { q with messages := rest } := by
    simp [Stream.pull, more, Queue.take, live, queued]
  simp [round, more, pulled, emitted]

theorem run_of_moved {t t' : Transfer} {q q' : Queue} (moves : t.round q = .moved t' q') :
    t.run q = t'.run q' := by
  rw [Transfer.run]
  split <;> simp_all

theorem run_of_finished {t : Transfer} {q : Queue} (ends : t.round q = .finished) :
    t.run q = (.completed t.chunks, t.writer, q) := by
  rw [Transfer.run]
  split <;> simp_all

/-- **A transfer of a closed sender's stream counts all its chunks**, into whatever writer. -/
theorem run_of_closed {q : Queue} {front rest : List Message} {last : Message} (chunks : Nat)
    (willing : w.transport.Willing) (more : s.hasNext = true) (live : q.interrupted = false)
    (queued : q.messages = front ++ last :: rest) (framable : ∀ m ∈ front ++ [last], m.Framable)
    (goesOn : ∀ m ∈ front, m.isLast = false) (ends : last.isLast = true) :
    ∃ w', Transfer.run ⟨w, s, chunks⟩ q =
        (.completed (chunks + (front.length + 1)), w', { q with messages := rest }) ∧
      w'.transport.taken = w.transport.taken ++ (w.buffer ++ w.frames (front ++ [last])) ∧
      w'.buffer = [] := by
  induction front generalizing w s q chunks with
  | nil =>
    obtain ⟨w', emitted, -, taken, buffer, -⟩ :=
      emit_frames_of_willing willing (framable last (by simp))
    refine ⟨w', ?_, taken, buffer⟩
    have moves : Transfer.round ⟨w, s, chunks⟩ q = .moved _ _ :=
      round_of_queued more live queued emitted
    rw [run_of_moved moves, run_of_finished (by simp [round, ends])]
    rfl
  | cons m front ih =>
    obtain ⟨w₁, emitted, stays, taken, buffer, ended⟩ :=
      emit_frames_of_willing willing (framable m (by simp))
    have notLast := goesOn m List.mem_cons_self
    rw [notLast, Bool.or_false] at ended
    have frames : w₁.frames = w.frames := by
      funext ms
      rw [Writer.frames, Writer.frames, ended]
    let s₁ : Stream := { s with hasNext := !m.isLast }
    let q₁ : Queue := { q with messages := front ++ last :: rest }
    have moves : Transfer.round ⟨w, s, chunks⟩ q = .moved ⟨w₁, s₁, chunks + 1⟩ q₁ :=
      round_of_queued more live queued emitted
    obtain ⟨w', run, all, empty⟩ := ih (s := s₁) (q := q₁) (chunks + 1) stays
      (by simp [s₁, notLast]) live rfl (fun m' h => framable m' (List.mem_cons_of_mem _ h))
      (fun m' h => goesOn m' (List.mem_cons_of_mem _ h))
    refine ⟨w', ?_, ?_, empty⟩
    · have count : chunks + 1 + (front.length + 1) = chunks + ((m :: front).length + 1) := by
        rw [List.length_cons]
        omega
      rw [run_of_moved moves, run, count]
    · have one : m :: front ++ [last] = [m] ++ (front ++ [last]) := rfl
      rw [all, taken, buffer, frames, one, Writer.frames_append w [m], List.nil_append]
      simp only [List.append_assoc]

/-! ### What a count says -/

/-- **A transfer that ends well has written as many chunks as it counts**, if the writer's body goes
on when it begins. The writer may hold anything in its buffer: this is handed over with the first
chunk, in front of it. Nothing is asked of the transport, of the queue or of what others do there
meanwhile. And a transfer of a closed sender's stream over a willing transport does end well, with
every chunk up to the last one. -/
theorem completed_counts (w : Writer) (isOpen : w.body.ended = false) (s : Stream) (q : Queue) :
    (∀ events chunks, ((start w s q).run events).stage = .ended (.completed chunks) →
      let pulled := ((start w s q).run events).pulled
      chunks = pulled.length ∧ (pulled = [] ∧ s.hasNext = false ∨ Body.Whole pulled) ∧
        ((start w s q).run events).taken =
          w.transport.taken ++ ((if pulled = [] then [] else w.buffer) ++
            pulled.flatMap Message.frame)) ∧
    ∀ front last rest, w.transport.Willing → s.hasNext = true → q.interrupted = false →
      q.messages = front ++ last :: rest → Body.Whole (front ++ [last]) →
      ∃ w', (Transfer.start w s).run q =
          (.completed (front.length + 1), w', { q with messages := rest }) ∧
        w'.transport.taken =
          w.transport.taken ++ (w.buffer ++ (front ++ [last]).flatMap Message.frame) := by
  have frames : ∀ ms, w.frames ms = ms.flatMap Message.frame := by simp [Writer.frames, isOpen]
  constructor
  · intro events chunks ended pulled
    obtain ⟨pulls, tally⟩ := counted_run w s q events
    rw [ended] at tally
    cases tally with
    | early early => exact absurd rfl (early chunks)
    | completed handed buffer noMore =>
      have taken := handed.taken
      rw [frames] at taken
      refine ⟨rfl, ?_, ?_⟩
      · exact pulls.whole_of_drained noMore (handed.framable isOpen)
      · by_cases none : pulled = []
        · have noFrame : pulled.flatMap Message.frame = [] := by rw [none, List.flatMap_nil]
          rw [buffer, if_pos none, noFrame, List.append_nil] at taken
          rw [List.append_cancel_right taken, if_pos none, noFrame, List.append_nil,
            List.append_nil]
        · rw [buffer, if_neg none, List.append_nil] at taken
          rw [taken, if_neg none]
  · intro front last rest willing more live queued whole
    obtain ⟨goesOn, ends⟩ := whole.isLast_append
    obtain ⟨w', run, taken, -⟩ :=
      run_of_closed 0 willing more live queued whole.framable goesOn ends
    rw [frames] at taken
    rw [Nat.zero_add] at run
    exact ⟨w', run, taken⟩

/-- A writer that still has a ping in its buffer, and a transport that takes its bytes in pieces:
the ping goes out with the first chunk, and two chunks are counted. -/
theorem two_counted_behind_ping :
    let t := Transport.scripted [.upTo 4, .pending] [.pending]
    let w : Writer := ⟨t, Message.ping.frame, ⟨false, 1⟩⟩
    let s : Stream := ⟨1, true⟩
    let q : Queue := ⟨1, .block, [⟨[0x61], .empty⟩, .terminal, .ping], true, false⟩
    w.body.ended = false ∧ ∃ w', (Transfer.start w s).run q =
        (.completed 2, w', { q with messages := [.ping] }) ∧
      w'.transport.taken = t.taken ++ (Message.ping.frame ++
        [⟨[0x61], .empty⟩, Message.terminal].flatMap Message.frame) := by
  intro t w s q
  have willing : t.Willing := ⟨by simp [t, Transport.scripted], by simp [t, Transport.scripted]⟩
  have whole : Body.Whole [⟨[0x61], .empty⟩, Message.terminal] :=
    ⟨by decide +kernel, [⟨[0x61], .empty⟩], .terminal, rfl, rfl, by decide⟩
  exact ⟨rfl,
    (completed_counts w rfl s q).2 [⟨[0x61], .empty⟩] .terminal [.ping] willing rfl rfl rfl whole⟩

/-- Two closed senders' streams into one writer: the second one is counted, and nothing is written
of it, for the first one has ended the body. -/
theorem second_stream_counted_unwritten :
    let s : Stream := ⟨1, true⟩
    let q : Queue := ⟨2, .failFast, [⟨[0x61], .empty⟩, .terminal], true, false⟩
    let first := (start (.ofTransport (.scripted [] [])) s q).run (List.replicate 9 .advance)
    let second := (start first.transfer.writer s q).run (List.replicate 5 .advance)
    first.stage = .ended (.completed 2) ∧ second.stage = .ended (.completed 2) ∧
      second.pulled = q.messages ∧ second.taken = first.taken ∧
        second.taken ≠ first.taken ++ second.pulled.flatMap Message.frame := by
  decide +kernel

end Transfer.Task

end Outbox
