import Outbox.Transfer.Task

/-!
# A task left to itself

A task that nobody disturbs does what the transfer does in one go. The loops inside a round end with
the transport's script, so a few calls bring the task from one pull to the next, and a round that
moves a chunk leaves fewer behind. Hence the task ends, unless it has to wait for a chunk that never
comes; and then it is dropped.

## Main Definitions

* `Transfer.Task.Undisturbed` — what a task comes to by its own calls alone
* `Transfer.Task.EndedAs`, `Transfer.Task.run_eq` — a task ends as the transfer does
-/

namespace Outbox.Transfer.Task

/-- **What a task comes to by its own calls alone.** -/
def Undisturbed (k k' : Task) : Prop :=
  ∃ calls, k.run (List.replicate calls .advance) = k'

namespace Undisturbed

variable {k k' k'' : Task}

theorem refl (k : Task) : Undisturbed k k := ⟨0, rfl⟩

theorem trans (first : Undisturbed k k') (second : Undisturbed k' k'') : Undisturbed k k'' := by
  obtain ⟨calls, rfl⟩ := first
  obtain ⟨more, rfl⟩ := second
  refine ⟨calls + more, ?_⟩
  rw [← List.replicate_append_replicate, run_append]

/-- One call, and those behind it. -/
theorem head {next : Task} (one : k.advance = next) (later : Undisturbed next k') :
    Undisturbed k k' := by
  obtain ⟨calls, rfl⟩ := later
  refine ⟨calls + 1, ?_⟩
  rw [List.replicate_succ, run_cons, step, one]

end Undisturbed

/-! ### The loops of a round -/

/-- Handing over the buffer ends as writing everything does. -/
theorem undisturbed_writing {k : Task} {left : Bytes} (stage : k.stage = .writing left)
    (more : left ≠ []) :
    Undisturbed k
      (match k.transfer.writer.transport.writeAll left with
      | (some error, t) => (k.withTransport t).giveUp (.failed (.io error))
      | (none, t) =>
        { k.withWriter { k.transfer.writer with transport := t, buffer := [] } with
          stage := .flushing }) := by
  -- a call that leaves something has used up a reply of the script
  generalize script : k.transfer.writer.transport.writes.length = replies
  induction replies using Nat.strongRecOn generalizing k left with
  | ind replies ih =>
    have one : k.advance = k.handOver left := by rw [advance, stage]
    rw [Transport.writeAll_eq_pollWrite _ more]
    rcases k.transfer.writer.transport.pollWrite_cases left with
      ⟨sent, rest, writes, polled, -, -, fewer⟩ | ⟨error, writes, polled, -, -⟩
    · rw [polled]
      cases rest with
      | nil =>
        refine .head one ?_
        simp only [handOver, polled, Transport.writeAll_nil]
        exact .refl _
      | cons b rest =>
        refine .head (one.trans (by rw [handOver, polled])) ?_
        exact ih writes.length (script ▸ fewer (List.cons_ne_nil _ _)) rfl (List.cons_ne_nil _ _)
          rfl
    · rw [polled]
      refine .head (one.trans (by rw [handOver, polled])) (.refl _)

/-- Flushing call by call ends as flushing does. -/
theorem undisturbed_flushing {k : Task} (stage : k.stage = .flushing) :
    Undisturbed k
      (match k.transfer.writer.transport.flush with
      | (some error, t) => (k.withTransport t).giveUp (.failed (.io error))
      | (none, t) => (k.withTransport t).count) := by
  generalize script : k.transfer.writer.transport.flushes.length = replies
  induction replies using Nat.strongRecOn generalizing k with
  | ind replies ih =>
    have one : k.advance = k.settle := by rw [advance, stage]
    rw [Transport.flush_eq_pollFlush]
    rcases k.transfer.writer.transport.pollFlush_cases with
      ⟨flushes, polled, -⟩ | ⟨flushes, polled, -, fewer⟩ | ⟨error, flushes, polled, -, -⟩
    · rw [polled]
      exact .head (one.trans (by rw [settle, polled])) (.refl _)
    · rw [polled]
      refine .head (one.trans (by rw [settle, polled])) ?_
      exact ih flushes.length (script ▸ fewer) stage rfl
    · rw [polled]
      exact .head (one.trans (by rw [settle, polled])) (.refl _)

/-- A chunk that was handed out is emitted. -/
theorem undisturbed_pulled {k : Task} {m : Message} (stage : k.stage = .pulled m) :
    Undisturbed k
      (match emit k.transfer.writer m with
      | (.ok (), w) => (k.withWriter w).count
      | (.error error, w) => (k.withWriter w).giveUp (.failed error)) := by
  have one : k.advance = k.frame m := by rw [advance, stage]
  rw [emit]
  cases written : k.transfer.writer.write m with
  | error error =>
    have refused : k.advance = k.giveUp (.failed error) := by rw [one, frame, written]
    exact .head refused (.refl _)
  | ok w =>
    dsimp only
    by_cases empty : w.buffer.isEmpty = true
    · have counted : k.advance = (k.withWriter w).count := by
        rw [one, frame, written]
        exact if_pos empty
      refine .head counted ?_
      rw [Writer.flush, if_pos empty]
      exact .refl _
    · have begun : k.advance = { k.withWriter w with stage := .writing w.buffer } := by
        rw [one, frame, written]
        exact if_neg empty
      refine .head begun ?_
      rw [Writer.flush, if_neg empty]
      refine .trans (undisturbed_writing rfl (by simpa using empty)) ?_
      simp only [withWriter]
      rcases w.transport.writeAll w.buffer with ⟨_ | error, t⟩
      · refine .trans (undisturbed_flushing rfl) ?_
        dsimp only
        rcases t.flush with ⟨_ | error, t'⟩ <;> exact .refl _
      · exact .refl _

/-! ### Rounds -/

/-- **A task goes through a round as the transfer does.** -/
theorem undisturbed_round {k : Task} (stage : k.stage = .pulling) :
    match k.transfer.round k.queue with
    | .moved transfer queue => ∃ pulled, Undisturbed k ⟨transfer, queue, .pulling, pulled⟩
    | .finished => k.advance = { k with stage := .ended (.completed k.transfer.chunks) }
    | .failed error w queue =>
      ∃ k', Undisturbed k k' ∧ k'.stage = .ended (.failed error) ∧ k'.transfer.writer = w ∧
        k'.queue = queue
    | .waits => k.advance = k := by
  have one : k.advance = k.pull := by rw [advance, stage]
  rw [round]
  by_cases more : k.transfer.stream.hasNext = true
  · rw [if_pos more]
    cases pulls : k.transfer.stream.pull k.queue with
    | waits =>
      dsimp only
      rw [one, pull, if_pos more, pulls]
    | refused error s =>
      refine ⟨k.giveUp (.failed (.stream error)), .head ?_ (.refl _), rfl, rfl, rfl⟩
      rw [one, pull, if_pos more, pulls]
    | chunk m s q =>
      have handed : k.advance =
          ⟨{ k.transfer with stream := s }, q, .pulled m, k.pulled ++ [m]⟩ := by
        rw [one, pull, if_pos more, pulls]
      have emitted := Undisturbed.head handed (undisturbed_pulled rfl)
      dsimp only at emitted ⊢
      generalize emit k.transfer.writer m = result at emitted ⊢
      rcases result with ⟨error | ⟨⟩, w⟩
      · exact ⟨_, emitted, rfl, rfl, rfl⟩
      · exact ⟨k.pulled ++ [m], emitted⟩
  · rw [if_neg more]
    dsimp only
    rw [one, pull, if_neg more]

/-- The task has ended with this outcome, and has left this writer and this queue behind. -/
structure EndedAs (k : Task) (done : Outcome × Writer × Queue) : Prop where
  outcome : k.stage = .ended done.1
  writer : k.transfer.writer = done.2.1
  queue : k.queue = done.2.2

/-- **A task that is left to itself ends as the transfer does**, and is dropped if it has to wait
for a chunk, since no more will come. -/
theorem run_eq (k : Task) (stage : k.stage = .pulling) :
    ∃ events, (∀ e ∈ events, e = .advance ∨ e = .drop) ∧
      (k.run events).EndedAs (k.transfer.run k.queue) := by
  -- a round that moves a chunk leaves a shorter queue
  generalize waiting : k.queue.size = size
  induction size using Nat.strongRecOn generalizing k with
  | ind size ih =>
    have round := undisturbed_round stage
    rw [Transfer.run]
    split
    · next transfer queue moves =>
      rw [moves] at round
      obtain ⟨pulled, calls, moved⟩ := round
      have shorter : queue.size < size := by
        rw [← waiting, size_of_moved moves]
        exact Nat.lt_succ_self _
      obtain ⟨events, calm, ended⟩ :=
        ih queue.size shorter ⟨transfer, queue, .pulling, pulled⟩ rfl rfl
      refine ⟨List.replicate calls .advance ++ events, ?_, ?_⟩
      · intro e he
        rcases List.mem_append.mp he with early | late
        · exact Or.inl (List.eq_of_mem_replicate early)
        · exact calm e late
      · rw [run_append, moved]
        exact ended
    · next finished =>
      rw [finished] at round
      refine ⟨[.advance], by simp, ?_⟩
      rw [run_cons, run_nil, step, round]
      exact ⟨rfl, rfl, rfl⟩
    · next error w queue fails =>
      rw [fails] at round
      obtain ⟨k', ⟨calls, rfl⟩, ended⟩ := round
      refine ⟨List.replicate calls .advance, ?_, ended.1, ended.2.1, ended.2.2⟩
      exact fun e he => Or.inl (List.eq_of_mem_replicate he)
    · next waits =>
      refine ⟨[.drop], by simp, ?_⟩
      rw [run_cons, run_nil, step, drop, stage]
      exact ⟨rfl, rfl, rfl⟩

end Outbox.Transfer.Task
