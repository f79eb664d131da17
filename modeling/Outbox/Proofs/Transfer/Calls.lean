import Outbox.Transfer.Task

/-!
# The calls of a task

A task makes four kinds of calls, one at each stage: it pulls a chunk, frames it, hands over a part
of the buffer, or settles what it has handed over. `Pulled`, `Framed`, `HandedOver` and `Settled`
list what each of them can come to, with everything that led to it, and are the one place where the
calls are opened. `Advanced` puts them together, and with the turns of others and the drop it
becomes `Stepped`. So an invariant of a task is shown stage by stage and holds in every history by
`run_invariant`.

## Main Definitions

* `Transfer.Task.Advanced`, `Transfer.Task.advanced` — what a call can come to, by its stage
* `Transfer.Task.Stepped`, `Transfer.Task.stepped` — what any event can come to
* `Transfer.Task.run_invariant` — from each event to a whole history
-/

namespace Outbox.Transfer.Task

variable {k k' : Task}

/-! ### Calls -/

/-- **What a pull can come to**, and the task it leaves. -/
inductive Pulled (k : Task) : Task → Prop where
  /-- No chunk is there yet. -/
  | waits : Pulled k k
  /-- The oldest message is pulled. -/
  | takes {m : Message} {rest : List Message} (more : k.transfer.stream.hasNext = true)
    (live : k.queue.interrupted = false) (oldest : k.queue.messages = m :: rest) :
    Pulled k ⟨{ k.transfer with stream := { k.transfer.stream with hasNext := !m.isLast } },
      { k.queue with messages := rest }, .pulled m, k.pulled ++ [m]⟩
  | refused (more : k.transfer.stream.hasNext = true) (interrupted : k.queue.interrupted = true) :
    Pulled k (k.giveUp (.failed (.stream .interrupted)))
  /-- The stream has ended. -/
  | completes (noMore : k.transfer.stream.hasNext = false) :
    Pulled k { k with stage := .ended (.completed k.transfer.chunks) }

/-- **What framing a chunk can come to.** -/
inductive Framed (k : Task) (m : Message) : Task → Prop where
  | unframable {fault : Unframable} (isOpen : k.transfer.writer.body.ended = false)
    (reason : m.unframable? = some fault) : Framed k m (k.giveUp (.failed (.ofUnframable fault)))
  /-- The chunk is framed behind what the buffer holds. -/
  | fills {w : Writer} (written : k.transfer.writer.write m = .ok w) (more : w.buffer ≠ []) :
    Framed k m { k.withWriter w with stage := .writing w.buffer }
  /-- There is nothing to hand over: the body had ended before. -/
  | skipped {w : Writer} (written : k.transfer.writer.write m = .ok w) (nothing : w.buffer = []) :
    Framed k m (k.withWriter w).count

/-- **What handing over the rest of a buffer can come to**, in one call to the transport. -/
inductive HandedOver (k : Task) (left : Bytes) : Task → Prop where
  /-- The transport takes a part. -/
  | part {sent rest : Bytes} {script : List Reply} (split : left = sent ++ rest) (more : rest ≠ [])
    (used : script <:+ k.transfer.writer.transport.writes) :
    HandedOver k left { k.withTransport (k.transfer.writer.transport.wrote script sent) with
      stage := .writing rest }
  /-- The transport takes all that is left. -/
  | all {script : List Reply} (used : script <:+ k.transfer.writer.transport.writes) :
    HandedOver k left { k.withWriter { k.transfer.writer with
      transport := k.transfer.writer.transport.wrote script left, buffer := [] } with
        stage := .flushing }
  | fails {error : IoError} {script : List Reply}
    (used : script <:+ k.transfer.writer.transport.writes)
    (reason : error = writeZero ∧ .upTo 0 ∈ k.transfer.writer.transport.writes ∨
      error.kind ≠ .interrupted ∧ .fails error ∈ k.transfer.writer.transport.writes) :
    HandedOver k left ((k.withTransport (k.transfer.writer.transport.wrote script [])).giveUp
      (.failed (.io error)))

/-- **What settling a chunk can come to**, in one call to the transport. -/
inductive Settled (k : Task) : Task → Prop where
  | flushes {script : List Reply} (used : script <:+ k.transfer.writer.transport.flushes) :
    Settled k (k.withTransport (k.transfer.writer.transport.flushed script true)).count
  | waits {script : List Reply} (used : script <:+ k.transfer.writer.transport.flushes) :
    Settled k (k.withTransport (k.transfer.writer.transport.flushed script false))
  | fails {error : IoError} {script : List Reply}
    (used : script <:+ k.transfer.writer.transport.flushes)
    (reason : .fails error ∈ k.transfer.writer.transport.flushes) :
    Settled k ((k.withTransport (k.transfer.writer.transport.flushed script false)).giveUp
      (.failed (.io error)))

/-- **What a call of a task can come to**, by the stage of the task. -/
inductive Advanced (k : Task) : Task → Prop where
  | pull {k' : Task} (stage : k.stage = .pulling) (call : k.Pulled k') : Advanced k k'
  | frame {k' : Task} {m : Message} (stage : k.stage = .pulled m) (call : k.Framed m k') :
    Advanced k k'
  | handOver {k' : Task} {left : Bytes} (stage : k.stage = .writing left)
    (call : k.HandedOver left k') : Advanced k k'
  | settle {k' : Task} (stage : k.stage = .flushing) (call : k.Settled k') : Advanced k k'
  | isOver {outcome : Outcome} (stage : k.stage = .ended outcome) : Advanced k k

theorem pulled_pull (k : Task) : k.Pulled k.pull := by
  unfold pull
  by_cases more : k.transfer.stream.hasNext = true
  · rw [if_pos more, Stream.pull, if_pos more, Queue.take]
    by_cases live : k.queue.interrupted = true
    · rw [if_pos live]
      exact .refused more live
    · rw [if_neg live]
      cases oldest : k.queue.messages with
      | nil => exact .waits
      | cons m rest => exact .takes more (by simpa using live) oldest
  · rw [if_neg more]
    exact .completes (by simpa using more)

theorem framed_frame (k : Task) (m : Message) : k.Framed m (k.frame m) := by
  unfold frame
  cases written : k.transfer.writer.write m with
  | error error =>
    -- only an open body refuses a chunk, and only one that has no frame
    cases isOpen : k.transfer.writer.body.ended with
    | true => simp [Writer.write, Body.add_of_ended isOpen] at written
    | false =>
      cases reason : m.unframable? with
      | none => simp [Writer.write, Body.add_of_framable isOpen reason] at written
      | some fault =>
        simp only [Writer.write, Body.add_of_unframable isOpen reason, Except.error.injEq]
          at written
        rw [← written]
        exact .unframable isOpen reason
  | ok w =>
    dsimp only
    by_cases nothing : w.buffer.isEmpty = true
    · rw [if_pos nothing]
      exact .skipped written (by simpa using nothing)
    · rw [if_neg nothing]
      exact .fills written (by simpa using nothing)

theorem handedOver_handOver (k : Task) (left : Bytes) : k.HandedOver left (k.handOver left) := by
  unfold handOver
  rcases k.transfer.writer.transport.pollWrite_cases left with
    ⟨sent, rest, script, polled, split, used, -⟩ | ⟨error, script, polled, used, reason⟩
  · rw [polled]
    cases rest with
    | nil =>
      rw [List.append_nil] at split
      rw [← split]
      exact .all used
    | cons b rest => exact .part split (List.cons_ne_nil _ _) used
  · rw [polled]
    exact .fails used reason

theorem settled_settle (k : Task) : k.Settled k.settle := by
  unfold settle
  rcases k.transfer.writer.transport.pollFlush_cases with
    ⟨script, polled, used⟩ | ⟨script, polled, used, -⟩ | ⟨error, script, polled, used, reason⟩
  · rw [polled]
    exact .flushes used
  · rw [polled]
    exact .waits used
  · rw [polled]
    exact .fails used reason

/-- **Every call comes to one of these.** -/
theorem advanced (k : Task) : k.Advanced k.advance := by
  unfold advance
  cases stage : k.stage with
  | pulling => exact .pull stage k.pulled_pull
  | pulled m => exact .frame stage (k.framed_frame m)
  | writing left => exact .handOver stage (k.handedOver_handOver left)
  | flushing => exact .settle stage k.settled_settle
  | ended outcome => exact .isOver stage

/-- Framing a chunk leaves the queue alone or interrupts it, and pulls nothing. -/
theorem Framed.leaves {m : Message} (call : k.Framed m k') :
    (k'.queue = k.queue ∨ k'.queue = k.queue.interrupt) ∧ k'.pulled = k.pulled := by
  cases call with
  | unframable => exact ⟨Or.inr rfl, rfl⟩
  | fills => exact ⟨Or.inl rfl, rfl⟩
  | skipped => exact ⟨Or.inl rfl, rfl⟩

theorem HandedOver.leaves {left : Bytes} (call : k.HandedOver left k') :
    (k'.queue = k.queue ∨ k'.queue = k.queue.interrupt) ∧ k'.pulled = k.pulled := by
  cases call with
  | part => exact ⟨Or.inl rfl, rfl⟩
  | all => exact ⟨Or.inl rfl, rfl⟩
  | fails => exact ⟨Or.inr rfl, rfl⟩

theorem Settled.leaves (call : k.Settled k') :
    (k'.queue = k.queue ∨ k'.queue = k.queue.interrupt) ∧ k'.pulled = k.pulled := by
  cases call with
  | flushes => exact ⟨Or.inl rfl, rfl⟩
  | waits => exact ⟨Or.inl rfl, rfl⟩
  | fails => exact ⟨Or.inr rfl, rfl⟩

/-- **What a call does to the queue**: it takes the oldest message, and that is the chunk pulled; or
it interrupts, or leaves the queue alone, and pulls nothing. -/
theorem Advanced.takes_or_leaves (call : k.Advanced k') :
    (∃ m rest, k.queue.interrupted = false ∧ k.queue.messages = m :: rest ∧
      k'.queue = { k.queue with messages := rest } ∧ k'.pulled = k.pulled ++ [m]) ∨
    ((k'.queue = k.queue ∨ k'.queue = k.queue.interrupt) ∧ k'.pulled = k.pulled) := by
  cases call with
  | pull _ call =>
    cases call with
    | takes _ live oldest => exact Or.inl ⟨_, _, live, oldest, rfl, rfl⟩
    | waits => exact Or.inr ⟨Or.inl rfl, rfl⟩
    | refused => exact Or.inr ⟨Or.inr rfl, rfl⟩
    | completes => exact Or.inr ⟨Or.inl rfl, rfl⟩
  | frame _ call => exact Or.inr call.leaves
  | handOver _ call => exact Or.inr call.leaves
  | settle _ call => exact Or.inr call.leaves
  | isOver => exact Or.inr ⟨Or.inl rfl, rfl⟩

/-! ### Events -/

/-- **What an event can come to.** -/
inductive Stepped (k : Task) : Event → Task → Prop where
  | advanced {k' : Task} (call : k.Advanced k') : Stepped k .advance k'
  | turned (turn : Queue.Turn) : Stepped k (.turn turn) { k with queue := (k.queue.turn turn).2 }
  | dropped (going : ∀ outcome, k.stage ≠ .ended outcome) :
    Stepped k .drop (k.giveUp .abandoned)
  | gone {outcome : Outcome} (stage : k.stage = .ended outcome) : Stepped k .drop k

theorem stepped (k : Task) (e : Event) : k.Stepped e (k.step e) := by
  cases e with
  | advance => exact .advanced k.advanced
  | turn turn => exact .turned turn
  | drop =>
    rw [step, drop]
    cases stage : k.stage with
    | ended outcome => exact .gone stage
    | pulling => exact .dropped (by simp [stage])
    | pulled m => exact .dropped (by simp [stage])
    | writing left => exact .dropped (by simp [stage])
    | flushing => exact .dropped (by simp [stage])

/-- **What every event keeps holds in every history** from a task of which it holds. -/
theorem run_invariant {P : Task → Prop} {events : List Event}
    (step : ∀ {k k' : Task} {e : Event}, e ∈ events → P k → k.Stepped e k' → P k') (first : P k) :
    P (k.run events) := by
  induction events generalizing k with
  | nil => exact first
  | cons e events ih =>
    exact ih (fun he => step (List.mem_cons_of_mem _ he))
      (step List.mem_cons_self first (k.stepped e))

end Outbox.Transfer.Task
