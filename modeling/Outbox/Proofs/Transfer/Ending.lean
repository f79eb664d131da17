import Outbox.Proofs.Body
import Outbox.Proofs.Queue.Turn
import Outbox.Proofs.Transfer.Calls
import Outbox.Proofs.Transfer.Task

/-!
# How a transfer ends

A transfer into a new writer ends in one of two ways. It ends well only with its stream: then the
transport took the frames of all chunks pulled, the empty one last, and if the queue is interrupted,
somebody else did it. In every other way it ends early: then the queue is interrupted, so nobody
waits for a consumer that is gone, and the transport took the frames of all chunks but the last one
pulled, and some beginning of that one's.

What the transport took is `Between` or `Cut` at every moment, and both speak of the chunks pulled
and the bytes taken alone, so neither a turn of another thread nor giving up can touch them. The
invariant, `Standing`, adds where in the round the task is, from which follow the outcomes that the
next call can have.

## Main Definitions

* `Transfer.Task.Between`, `Transfer.Task.Cut` — what the transport has taken of the chunks pulled
* `Transfer.Task.Standing` — where a task stands; every event keeps it
* `Transfer.Task.EndedWell`, `Transfer.Task.EndedEarly` — the two ways to end
* `Transfer.Task.ends_well_or_early` — every transfer into a new writer ends in one of them
-/

namespace Outbox.Transfer

/-- Any way to end but with the stream. -/
def Outcome.Early (outcome : Outcome) : Prop :=
  ∀ chunks, outcome ≠ .completed chunks

namespace Task

variable {t : Transport} {s : Stream} {q : Queue} {events : List Event} {k k' : Task}
  {front : List Message} {m : Message} {sent left : Bytes}

/-! ### What the transport has taken -/

/-- **The transport took all chunks pulled**, and none of them was empty. -/
structure Between (t : Transport) (k : Task) : Prop where
  goesOn : ∀ c ∈ k.pulled, c.Framable ∧ c.payload ≠ []
  taken : k.taken = t.taken ++ k.pulled.flatMap Message.frame

/-- **The transport took the chunks in front, and `sent` of the last one pulled.** -/
structure Cut (t : Transport) (k : Task) (front : List Message) (m : Message) (sent : Bytes) :
    Prop where
  pulled : k.pulled = front ++ [m]
  goesOn : ∀ c ∈ front, c.Framable ∧ c.payload ≠ []
  begun : sent <+: m.frame
  /-- Nothing is taken of a chunk that has no frame. -/
  framable : sent ≠ [] → m.Framable
  taken : k.taken = t.taken ++ (front.flatMap Message.frame ++ sent)

/-- **The stream has ended, and the transport took all of it.** A stream that had ended before it
was given to the transfer has no chunk. -/
structure Complete (t : Transport) (s : Stream) (k : Task) : Prop where
  pulled : k.pulled = [] ∧ s.hasNext = false ∨ Body.Whole k.pulled
  taken : k.taken = t.taken ++ k.pulled.flatMap Message.frame
  ended : k.transfer.writer.body.ended = true ↔ k.pulled ≠ []
  count : k.transfer.chunks = k.pulled.length

namespace Cut

/-- A chunk has just been pulled. -/
theorem of_between (b : Between t k) (pulled : k'.pulled = k.pulled ++ [m])
    (taken : k'.taken = k.taken) : Cut t k' k.pulled m [] where
  pulled := pulled
  goesOn := b.goesOn
  begun := List.nil_prefix
  framable := fun h => absurd rfl h
  taken := by rw [taken, b.taken, List.append_nil]

/-- Some more of the frame is taken. -/
theorem more {part rest : Bytes} (c : Cut t k front m sent) (framable : m.Framable)
    (frame : m.frame = sent ++ part ++ rest) (pulled : k'.pulled = k.pulled)
    (taken : k'.taken = k.taken ++ part) : Cut t k' front m (sent ++ part) where
  pulled := pulled.trans c.pulled
  goesOn := c.goesOn
  begun := ⟨rest, frame.symm⟩
  framable := fun _ => framable
  taken := by simp [taken, c.taken]

theorem same (c : Cut t k front m sent) (pulled : k'.pulled = k.pulled)
    (taken : k'.taken = k.taken) : Cut t k' front m sent :=
  ⟨pulled.trans c.pulled, c.goesOn, c.begun, c.framable, taken.trans c.taken⟩

/-- A chunk that goes on is done. -/
theorem between (c : Cut t k front m m.frame) (framable : m.Framable) (notLast : m.payload ≠ [])
    (pulled : k'.pulled = k.pulled) (taken : k'.taken = k.taken) : Between t k' := by
  constructor
  · intro chunk h
    rw [pulled, c.pulled, List.mem_append, List.mem_singleton] at h
    rcases h with earlier | rfl
    · exact c.goesOn chunk earlier
    · exact ⟨framable, notLast⟩
  · rw [taken, c.taken, pulled, c.pulled, List.flatMap_append, List.flatMap_singleton]

/-- The chunks pulled make a whole body once the last one is empty. -/
theorem whole (c : Cut t k front m sent) (framable : m.Framable) (last : m.payload = []) :
    Body.Whole k.pulled := by
  constructor
  · intro chunk h
    rw [c.pulled, List.mem_append, List.mem_singleton] at h
    rcases h with earlier | rfl
    · exact (c.goesOn chunk earlier).1
    · exact framable
  · exact ⟨front, m, c.pulled, last, fun chunk h => (c.goesOn chunk h).2⟩

end Cut

theorem Between.same (b : Between t k) (pulled : k'.pulled = k.pulled)
    (taken : k'.taken = k.taken) : Between t k' := by
  constructor
  · rw [pulled]
    exact b.goesOn
  · rw [taken, b.taken, pulled]

theorem Complete.same (c : Complete t s k) (transfer : k'.transfer = k.transfer)
    (pulled : k'.pulled = k.pulled) : Complete t s k' := by
  constructor
  · rw [pulled]
    exact c.pulled
  · have sameTaken : k'.taken = k.taken := by rw [Task.taken, Task.taken, transfer]
    rw [sameTaken, pulled]
    exact c.taken
  · rw [transfer, pulled]
    exact c.ended
  · rw [transfer, pulled]
    exact c.count

/-- **What the transport took of the chunks pulled**, at whatever moment. -/
def Reached (t : Transport) (k : Task) : Prop :=
  Between t k ∨ ∃ front m sent, Cut t k front m sent

theorem Reached.same (r : Reached t k) (pulled : k'.pulled = k.pulled)
    (taken : k'.taken = k.taken) : Reached t k' := by
  rcases r with between | ⟨front, m, sent, cut⟩
  · exact Or.inl (between.same pulled taken)
  · exact Or.inr ⟨front, m, sent, cut.same pulled taken⟩

theorem Complete.reached (c : Complete t s k) : Reached t k := by
  rcases c.pulled with ⟨none, -⟩ | whole
  · refine Or.inl ⟨?_, c.taken⟩
    simp [none]
  · obtain ⟨front, last, pulled, -, goesOn⟩ := whole.ends
    refine Or.inr ⟨front, last, last.frame, pulled, ?_, List.prefix_rfl, ?_, ?_⟩
    · intro chunk h
      exact ⟨whole.framable chunk (pulled ▸ List.mem_append_left _ h), goesOn chunk h⟩
    · intro _
      exact whole.framable last (pulled ▸ List.mem_append_right _ List.mem_cons_self)
    · rw [c.taken, pulled, List.flatMap_append, List.flatMap_singleton]

/-! ### Why a transfer ends early -/

/-- **Why a transfer ended early, and how much the transport took.** A cause outside the transfer is
found where it comes from: in the script of the transport, in the queue, or among the events. -/
inductive Cause (t : Transport) (q : Queue) (events : List Event) (k : Task) : Outcome → Prop where
  /-- The last chunk has no frame, and nothing was taken of it. -/
  | unframable {front : List Message} {m : Message} {fault : Unframable} (cut : Cut t k front m [])
    (reason : m.unframable? = some fault) :
    Cause t q events k (.failed (.ofUnframable fault))
  /-- The transport failed, or took nothing, before it had all of the last chunk. -/
  | writeFailed {front : List Message} {m : Message} {sent : Bytes} {error : IoError}
    (cut : Cut t k front m sent) (short : sent ≠ m.frame)
    (reason : error = writeZero ∧ .upTo 0 ∈ t.writes ∨
      error.kind ≠ .interrupted ∧ .fails error ∈ t.writes) :
    Cause t q events k (.failed (.io error))
  /-- The transport took all of the last chunk and failed to flush it. -/
  | flushFailed {front : List Message} {m : Message} {error : IoError}
    (cut : Cut t k front m m.frame) (reason : .fails error ∈ t.flushes) :
    Cause t q events k (.failed (.io error))
  /-- Somebody else interrupted the queue, and no further chunk could be pulled. -/
  | refused (between : Between t k)
    (interrupted : q.interrupted = true ∨ .turn .interrupt ∈ events) :
    Cause t q events k (.failed (.stream .interrupted))
  /-- The task was dropped, between two chunks or anywhere in one. -/
  | dropped (reached : Reached t k) (dropped : .drop ∈ events) :
    Cause t q events k .abandoned

theorem Cause.reached {outcome : Outcome} (c : Cause t q events k outcome) : Reached t k := by
  cases c with
  | unframable cut => exact Or.inr ⟨_, _, _, cut⟩
  | writeFailed cut => exact Or.inr ⟨_, _, _, cut⟩
  | flushFailed cut => exact Or.inr ⟨_, _, _, cut⟩
  | refused between => exact Or.inl between
  | dropped reached => exact reached

theorem Cause.early {outcome : Outcome} (c : Cause t q events k outcome) : outcome.Early := by
  intro chunks completed
  cases c <;> cases completed

theorem Cause.same {outcome : Outcome} (c : Cause t q events k outcome)
    (pulled : k'.pulled = k.pulled) (taken : k'.taken = k.taken) :
    Cause t q events k' outcome := by
  cases c with
  | unframable cut reason => exact .unframable (cut.same pulled taken) reason
  | writeFailed cut short reason => exact .writeFailed (cut.same pulled taken) short reason
  | flushFailed cut reason => exact .flushFailed (cut.same pulled taken) reason
  | refused between interrupted => exact .refused (between.same pulled taken) interrupted
  | dropped reached dropped => exact .dropped (reached.same pulled taken) dropped

/-! ### Where a task stands -/

/-- A chunk is under way: pulled, and not counted yet. -/
structure InChunk (t : Transport) (k : Task) (front : List Message) (m : Message) (sent : Bytes) :
    Prop extends Cut t k front m sent where
  hasNext : k.transfer.stream.hasNext = !m.isLast
  count : k.transfer.chunks = front.length

theorem InChunk.same (chunk : InChunk t k front m sent) (pulled : k'.pulled = k.pulled)
    (taken : k'.taken = k.taken) (stream : k'.transfer.stream = k.transfer.stream)
    (count : k'.transfer.chunks = k.transfer.chunks) : InChunk t k' front m sent :=
  ⟨chunk.toCut.same pulled taken, by rw [stream, chunk.hasNext], count.trans chunk.count⟩

/-- The transport takes some more of the chunk. -/
theorem InChunk.wrote {part rest : Bytes} {script : List Reply} (chunk : InChunk t k front m sent)
    (framable : m.Framable) (frame : m.frame = sent ++ part ++ rest) :
    InChunk t (k.withTransport (k.transfer.writer.transport.wrote script part)) front m
      (sent ++ part) :=
  ⟨chunk.more framable frame rfl rfl, chunk.hasNext, chunk.count⟩

/-- **What holds at each stage.** -/
inductive Place (t : Transport) (s : Stream) (q : Queue) (events : List Event) (k : Task) :
    Stage → Prop where
  | pulling (between : Between t k) (more : k.transfer.stream.hasNext = true)
    (isOpen : k.transfer.writer.body.ended = false) (buffer : k.transfer.writer.buffer = [])
    (count : k.transfer.chunks = k.pulled.length) : Place t s q events k .pulling
  /-- The stream has ended, and the next call finds that out. -/
  | drained (noMore : k.transfer.stream.hasNext = false) (complete : Complete t s k) :
    Place t s q events k .pulling
  | pulled {front : List Message} {m : Message} (chunk : InChunk t k front m [])
    (isOpen : k.transfer.writer.body.ended = false) (buffer : k.transfer.writer.buffer = []) :
    Place t s q events k (.pulled m)
  | writing {front : List Message} {m : Message} {sent left : Bytes}
    (chunk : InChunk t k front m sent) (framable : m.Framable) (frame : m.frame = sent ++ left)
    (nonempty : left ≠ []) (ended : k.transfer.writer.body.ended = m.isLast) :
    Place t s q events k (.writing left)
  | flushing {front : List Message} {m : Message} (chunk : InChunk t k front m m.frame)
    (framable : m.Framable) (ended : k.transfer.writer.body.ended = m.isLast)
    (buffer : k.transfer.writer.buffer = []) : Place t s q events k .flushing
  | completed (complete : Complete t s k) :
    Place t s q events k (.ended (.completed k.pulled.length))
  | early {outcome : Outcome} (cause : Cause t q events k outcome)
    (interrupted : k.queue.interrupted = true) : Place t s q events k (.ended outcome)

/-- **Where a task stands** that began with a new writer on this transport, this stream and this
queue, and to which no other events than these have happened. -/
structure Standing (t : Transport) (s : Stream) (q : Queue) (events : List Event) (k : Task) :
    Prop where
  writes : k.transfer.writer.transport.writes <:+ t.writes
  flushes : k.transfer.writer.transport.flushes <:+ t.flushes
  /-- The task itself interrupts the queue only by ending early. -/
  interrupted : k.queue.interrupted = true →
    q.interrupted = true ∨ .turn .interrupt ∈ events ∨
      ∃ outcome, k.stage = .ended outcome ∧ outcome.Early
  place : Place t s q events k k.stage

theorem Place.reached {stage : Stage} (p : Place t s q events k stage) : Reached t k := by
  cases p with
  | pulling between => exact Or.inl between
  | drained _ complete => exact complete.reached
  | pulled chunk => exact Or.inr ⟨_, _, _, chunk.toCut⟩
  | writing chunk => exact Or.inr ⟨_, _, _, chunk.toCut⟩
  | flushing chunk => exact Or.inr ⟨_, _, _, chunk.toCut⟩
  | completed complete => exact complete.reached
  | early cause => exact cause.reached

/-! ### What a round makes of it -/

/-- What a writer does with a chunk while the body goes on. -/
theorem write_of_open {w w' : Writer} (isOpen : w.body.ended = false)
    (written : w.write m = .ok w') :
    m.Framable ∧ w'.transport = w.transport ∧ w'.buffer = w.buffer ++ m.frame ∧
      w'.body.ended = m.isLast := by
  cases reason : m.unframable? with
  | some fault => simp [Writer.write, Body.add_of_unframable isOpen reason] at written
  | none =>
    simp only [Writer.write, Body.add_of_framable isOpen reason, Except.ok.injEq] at written
    subst written
    exact ⟨Message.unframable?_eq_none_iff.mp reason, rfl, rfl, rfl⟩

/-- A chunk that was taken and flushed was the last one, or another is to be pulled. -/
theorem place_counted {script : List Reply} (chunk : InChunk t k front m m.frame)
    (framable : m.Framable) (ended : k.transfer.writer.body.ended = m.isLast)
    (buffer : k.transfer.writer.buffer = []) :
    Place t s q events (k.withTransport (k.transfer.writer.transport.flushed script true)).count
      .pulling := by
  have count : k.transfer.chunks + 1 = k.pulled.length := by
    rw [chunk.count, chunk.pulled, List.length_append, List.length_singleton]
  have more : k.transfer.stream.hasNext = !m.isLast := chunk.hasNext
  cases last : m.isLast with
  | false =>
    rw [last] at more ended
    have goesOn : m.payload ≠ [] := by
      rw [ne_eq, ← Message.isLast_iff, last]
      exact Bool.false_ne_true
    exact .pulling (chunk.between framable goesOn rfl rfl) more ended buffer count
  | true =>
    rw [last] at more ended
    have whole := chunk.whole framable (Message.isLast_iff.mp last)
    refine .drained more ⟨Or.inr whole, ?_, ?_, count⟩
    · have taken : k.taken = t.taken ++ k.pulled.flatMap Message.frame := by
        rw [chunk.taken, chunk.pulled, List.flatMap_append, List.flatMap_singleton]
      exact taken
    · have pulled : k.pulled ≠ [] := by
        rw [chunk.pulled]
        exact List.append_ne_nil_of_right_ne_nil _ (List.cons_ne_nil _ _)
      exact iff_of_true ended pulled

/-! ### What events keep -/

theorem standing_start (t : Transport) (s : Stream) (q : Queue) (events : List Event) :
    Standing t s q events (start (.ofTransport t) s q) := by
  refine ⟨List.suffix_rfl, List.suffix_rfl, fun interrupted => Or.inl interrupted, ?_⟩
  have nothing : (start (.ofTransport t) s q).taken = t.taken ++ [].flatMap Message.frame :=
    (List.append_nil _).symm
  cases more : s.hasNext with
  | true => exact .pulling ⟨by simp [start], nothing⟩ more rfl rfl rfl
  | false =>
    refine .drained more ⟨Or.inl ⟨rfl, more⟩, nothing, ?_, rfl⟩
    simp [start, Transfer.start, Writer.ofTransport, Body.start]

/-- Giving up leaves the chunks and the bytes as they are. -/
theorem standing_giveUp {outcome : Outcome}
    (writes : k.transfer.writer.transport.writes <:+ t.writes)
    (flushes : k.transfer.writer.transport.flushes <:+ t.flushes)
    (cause : Cause t q events k outcome) : Standing t s q events (k.giveUp outcome) :=
  ⟨writes, flushes, fun _ => Or.inr (Or.inr ⟨outcome, rfl, cause.early⟩),
    .early (cause.same rfl rfl) rfl⟩

theorem Place.withQueue {stage : Stage} (p : Place t s q events k stage) {queue : Queue}
    (kept : k.queue.interrupted = true → queue.interrupted = true) :
    Place t s q events { k with queue := queue } stage := by
  cases p with
  | pulling between more isOpen buffer count =>
    exact .pulling (between.same rfl rfl) more isOpen buffer count
  | drained noMore complete => exact .drained noMore (complete.same rfl rfl)
  | pulled chunk isOpen buffer =>
    exact .pulled (chunk.same rfl rfl rfl rfl) isOpen buffer
  | writing chunk framable frame nonempty ended =>
    exact .writing (chunk.same rfl rfl rfl rfl) framable frame nonempty ended
  | flushing chunk framable ended buffer =>
    exact .flushing (chunk.same rfl rfl rfl rfl) framable ended buffer
  | completed complete =>
    exact .completed (k := { k with queue := queue }) (complete.same rfl rfl)
  | early cause interrupted => exact .early (cause.same rfl rfl) (kept interrupted)

/-- While the task is under way, only others interrupt the queue. -/
theorem Standing.interrupted_by_others (h : Standing t s q events k)
    (going : ∀ outcome, k.stage ≠ .ended outcome) (interrupted : k.queue.interrupted = true) :
    q.interrupted = true ∨ .turn .interrupt ∈ events := by
  rcases h.interrupted interrupted with before | turn | ⟨outcome, ended, -⟩
  · exact Or.inl before
  · exact Or.inr turn
  · exact absurd ended (going outcome)

/-- A task under way goes on without interrupting the queue. -/
theorem Standing.goOn (h : Standing t s q events k) (going : ∀ outcome, k.stage ≠ .ended outcome)
    (writes : k'.transfer.writer.transport.writes <:+ k.transfer.writer.transport.writes)
    (flushes : k'.transfer.writer.transport.flushes <:+ k.transfer.writer.transport.flushes)
    (queue : k'.queue.interrupted = k.queue.interrupted) (place : Place t s q events k' k'.stage) :
    Standing t s q events k' := by
  refine ⟨writes.trans h.writes, flushes.trans h.flushes, ?_, place⟩
  intro interrupted
  rcases h.interrupted_by_others going (queue ▸ interrupted) with before | turn
  · exact Or.inl before
  · exact Or.inr (Or.inl turn)

/-- **A pull keeps it**: the chunk that comes is the next one behind those done. -/
theorem Standing.pull (h : Standing t s q events k) (stage : k.stage = .pulling)
    (call : k.Pulled k') : Standing t s q events k' := by
  have going : ∀ outcome, k.stage ≠ .ended outcome := by simp [stage]
  have place := h.place
  rw [stage] at place
  cases call with
  | waits => exact h
  | takes more live oldest =>
    cases place with
    | drained noMore => rw [more] at noMore; cases noMore
    | pulling between _ isOpen buffer count =>
      refine h.goOn going List.suffix_rfl List.suffix_rfl rfl ?_
      exact .pulled ⟨.of_between between rfl rfl, rfl, count⟩ isOpen buffer
  | refused more interrupted =>
    cases place with
    | drained noMore => rw [more] at noMore; cases noMore
    | pulling between =>
      have byOthers := h.interrupted_by_others going interrupted
      exact standing_giveUp h.writes h.flushes (.refused between byOthers)
  | completes noMore =>
    cases place with
    | pulling _ more => rw [more] at noMore; cases noMore
    | drained _ complete =>
      refine h.goOn going List.suffix_rfl List.suffix_rfl rfl ?_
      rw [complete.count]
      exact .completed (k := { k with stage := .ended (.completed k.pulled.length) })
        (complete.same rfl rfl)

/-- **Framing keeps it**: the frame of the chunk is all that the buffer holds. -/
theorem Standing.frame (h : Standing t s q events k) (stage : k.stage = .pulled m)
    (call : k.Framed m k') : Standing t s q events k' := by
  have place := h.place
  rw [stage] at place
  cases place with
  | pulled chunk isOpen buffer =>
    cases call with
    | unframable _ reason =>
      exact standing_giveUp h.writes h.flushes (.unframable chunk.toCut reason)
    | @fills w written more =>
      obtain ⟨framable, transport, filled, ended⟩ := write_of_open isOpen written
      rw [buffer, List.nil_append] at filled
      have taken : (k.withWriter w).taken = k.taken := congrArg Transport.taken transport
      refine h.goOn (by simp [stage]) ?_ ?_ rfl ?_
      · exact (congrArg Transport.writes transport) ▸ List.suffix_rfl
      · exact (congrArg Transport.flushes transport) ▸ List.suffix_rfl
      · exact .writing (chunk.same rfl taken rfl rfl) framable filled.symm more ended
    | skipped written nothing =>
      -- a new body has a frame for every chunk, and no frame is empty
      obtain ⟨-, -, filled, -⟩ := write_of_open isOpen written
      rw [nothing, buffer, List.nil_append] at filled
      exact absurd filled.symm (Message.frame_ne_nil _)

/-- **Handing over keeps it**: what was taken of the chunk and what is left make up its frame. -/
theorem Standing.handOver (h : Standing t s q events k) (stage : k.stage = .writing left)
    (call : k.HandedOver left k') : Standing t s q events k' := by
  have going : ∀ outcome, k.stage ≠ .ended outcome := by simp [stage]
  have place := h.place
  rw [stage] at place
  cases place with
  | @writing front m sent _ chunk framable frame nonempty ended =>
    cases call with
    | part split more used =>
      rw [split, ← List.append_assoc] at frame
      refine h.goOn going used List.suffix_rfl rfl ?_
      exact .writing ((chunk.wrote framable frame).same rfl rfl rfl rfl) framable frame more ended
    | @all script used =>
      have whole :
          InChunk t (k.withTransport (k.transfer.writer.transport.wrote script left)) front m
            (sent ++ left) :=
        chunk.wrote framable (frame.trans (List.append_nil _).symm)
      rw [← frame] at whole
      refine h.goOn going used List.suffix_rfl rfl ?_
      exact .flushing (whole.same rfl rfl rfl rfl) framable ended rfl
    | @fails error script used reason =>
      have cut :
          Cut t (k.withTransport (k.transfer.writer.transport.wrote script [])) front m sent :=
        chunk.toCut.same rfl (List.append_nil _)
      have short : sent ≠ m.frame := by
        intro whole
        rw [← whole] at frame
        exact nonempty (List.append_right_eq_self.mp frame.symm)
      have listed : error = writeZero ∧ .upTo 0 ∈ t.writes ∨
          error.kind ≠ .interrupted ∧ .fails error ∈ t.writes := by
        rcases reason with ⟨zero, reply⟩ | ⟨kind, reply⟩
        · exact Or.inl ⟨zero, h.writes.subset reply⟩
        · exact Or.inr ⟨kind, h.writes.subset reply⟩
      exact standing_giveUp (used.trans h.writes) h.flushes (.writeFailed cut short listed)

/-- **Settling keeps it**: the chunk is done, or all of it was taken. -/
theorem Standing.settle (h : Standing t s q events k) (stage : k.stage = .flushing)
    (call : k.Settled k') : Standing t s q events k' := by
  have going : ∀ outcome, k.stage ≠ .ended outcome := by simp [stage]
  have place := h.place
  rw [stage] at place
  cases place with
  | flushing chunk framable ended buffer =>
    cases call with
    | flushes used =>
      refine h.goOn going List.suffix_rfl used rfl ?_
      exact place_counted chunk framable ended buffer
    | @waits script used =>
      refine h.goOn going List.suffix_rfl used rfl ?_
      have stays : (k.withTransport (k.transfer.writer.transport.flushed script false)).stage =
          .flushing := stage
      rw [stays]
      exact .flushing (chunk.same rfl rfl rfl rfl) framable ended buffer
    | fails used reason =>
      exact standing_giveUp h.writes (used.trans h.flushes)
        (.flushFailed (chunk.toCut.same rfl rfl) (h.flushes.subset reason))

/-- **Every call keeps it.** -/
theorem Standing.advanced (h : Standing t s q events k) (call : k.Advanced k') :
    Standing t s q events k' := by
  cases call with
  | pull stage call => exact h.pull stage call
  | frame stage call => exact h.frame stage call
  | handOver stage call => exact h.handOver stage call
  | settle stage call => exact h.settle stage call
  | isOver _ => exact h

/-- **Every event keeps it.** -/
theorem Standing.stepped {e : Event} (listed : e ∈ events) (h : Standing t s q events k)
    (step : k.Stepped e k') : Standing t s q events k' := by
  cases step with
  | advanced call => exact h.advanced call
  | gone _ => exact h
  | dropped _ => exact standing_giveUp h.writes h.flushes (.dropped h.place.reached listed)
  | turned turn =>
    refine ⟨h.writes, h.flushes, ?_, h.place.withQueue fun before => ?_⟩
    · intro interrupted
      rcases Queue.interrupted_turn_iff.mp interrupted with before | rfl
      · exact h.interrupted before
      · exact Or.inr (Or.inl listed)
    · exact Queue.interrupted_turn_iff.mpr (Or.inl before)

/-- **Every history keeps it.** -/
theorem standing_run (t : Transport) (s : Stream) (q : Queue) (events : List Event) :
    Standing t s q events ((start (.ofTransport t) s q).run events) :=
  run_invariant (fun listed h step => h.stepped listed step) (standing_start t s q events)

/-! ### The two ways to end -/

/-- **The transfer has ended with its stream**, after this many chunks. -/
structure EndedWell (t : Transport) (s : Stream) (q : Queue) (events : List Event) (k : Task)
    (chunks : Nat) : Prop where
  /-- It counted all chunks pulled. -/
  count : chunks = k.pulled.length
  /-- The last chunk pulled was the first empty one, or there was none to pull. -/
  pulled : k.pulled = [] ∧ s.hasNext = false ∨ Body.Whole k.pulled
  taken : k.taken = t.taken ++ k.pulled.flatMap Message.frame
  ended : k.transfer.writer.body.ended = true ↔ 0 < chunks
  /-- The transfer did not interrupt the queue. -/
  queue : k.queue.interrupted = true → q.interrupted = true ∨ .turn .interrupt ∈ events

/-- **The transfer has ended in any other way.** -/
structure EndedEarly (t : Transport) (q : Queue) (events : List Event) (k : Task)
    (outcome : Outcome) : Prop where
  interrupted : k.queue.interrupted = true
  /-- Whatever happens to the queue from then on, it takes nothing and gives nothing out. -/
  refuses : ∀ turns turn, turn ≠ .interrupt →
    ((k.queue.turns turns).2.turn turn).1 = .refused .interrupted
  /-- The transport took the chunks pulled but the last, and some beginning of that one. -/
  reached : Reached t k
  cause : Cause t q events k outcome

/-- **A transfer into a new writer ends well or early**, whatever the transport does, whatever the
queue holds, and whatever others do at the queue between any two calls. One that others leave alone
is such a history too, and it ends: if it has to wait for a chunk, it is dropped. -/
theorem ends_well_or_early (t : Transport) (s : Stream) (q : Queue) :
    (∃ events, (∀ e ∈ events, e = .advance ∨ e = .drop) ∧
      ((start (.ofTransport t) s q).run events).EndedAs
        ((Transfer.start (.ofTransport t) s).run q)) ∧
    ∀ (events : List Event) (outcome : Outcome),
      ((start (.ofTransport t) s q).run events).stage = .ended outcome →
        match outcome with
        | .completed chunks =>
          EndedWell t s q events ((start (.ofTransport t) s q).run events) chunks
        | outcome => EndedEarly t q events ((start (.ofTransport t) s q).run events) outcome := by
  refine ⟨run_eq _ rfl, ?_⟩
  intro events outcome ended
  have standing := standing_run t s q events
  generalize (start (.ofTransport t) s q).run events = k at ended standing
  have place := standing.place
  rw [ended] at place
  cases place with
  | completed complete =>
    refine ⟨rfl, complete.pulled, complete.taken, ?_, ?_⟩
    · rw [complete.ended, List.length_pos_iff]
    · intro interrupted
      rcases standing.interrupted interrupted with before | turn | ⟨outcome, isEnded, early⟩
      · exact Or.inl before
      · exact Or.inr turn
      · rw [ended, Stage.ended.injEq] at isEnded
        exact absurd isEnded.symm (early _)
  | early cause interrupted =>
    have endedEarly : EndedEarly t q events k outcome := by
      refine ⟨interrupted, ?_, cause.reached, cause⟩
      intro turns turn call
      exact Queue.turn_of_interrupted (Queue.interrupted_turns interrupted turns) call
    cases outcome with
    | completed chunks => exact absurd rfl (cause.early chunks)
    | failed error => exact endedEarly
    | abandoned => exact endedEarly

/-- A transfer that is dropped within its last chunk: the transport has taken the first chunk in
pieces and two bytes of the last one. -/
theorem dropped_within_last_chunk :
    let t := Transport.scripted [.upTo 3, .pending, .all, .upTo 2] [.pending]
    let s : Stream := ⟨1, true⟩
    let q : Queue := ⟨2, .block, [⟨[0x61], .empty⟩], false, false⟩
    let events : List Event := [.advance, .advance, .advance, .advance, .advance,
      .turn (.offerLast .terminal), .turn (.offer .ping), .advance, .advance, .advance, .advance,
      .advance, .drop, .turn .take]
    let k := (start (.ofTransport t) s q).run events
    k.stage = .ended .abandoned ∧ k.pulled = [⟨[0x61], .empty⟩, .terminal] ∧
      k.taken = [0x31, 0x0D, 0x0A, 0x61, 0x0D, 0x0A, 0x30, 0x0D] ∧
        EndedEarly t q events k .abandoned := by
  intro t s q events k
  have ended : k.stage = .ended .abandoned := by decide +kernel
  exact ⟨ended, by decide +kernel, by decide +kernel,
    (ends_well_or_early t s q).2 events .abandoned ended⟩

end Task

end Outbox.Transfer
