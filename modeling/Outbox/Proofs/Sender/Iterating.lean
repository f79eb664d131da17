import Outbox.Proofs.Sender.Concluding
import Outbox.Proofs.Sender.Draining

/-!
# The stream ends at its first empty chunk

A stream hands out what is queued up to the first empty message. Behind that message the queue is
none of its business, whoever put something there; behind a refusal neither. The stream has a flag
for this, and the flag says no more than its answers do: another chunk is to come as long as none of
them was an empty chunk or a refusal.

How the next chunk is asked for matters only to what says that there is none. So two runs in which
the consumer asks in different ways go side by side, with the same answers but that one.

## Main Definitions

* `Exchange.EndsAtFirstEmpty` — what the stream of an exchange promises
* `Exchange.askedBy` — the exchange where the consumer has always asked in one way
* `Exchange.ends_at_first_empty` — every queue and every run keep the promise
-/

namespace Outbox.Sender.Exchange

variable {capacity : Nat} {overflow : Overflow} {e e' : Exchange} {action : Action}
  {actions : List Action}

/-! ### Answers -/

/-- **The answers that end a stream**: an empty chunk, and every refusal. -/
def Answer.EndsStream : Answer → Prop
  | .chunk msg => msg.payload = []
  | .refused _ => True
  | .ended => False

/-- An action of the stream's own: the consumer asks, or the pull under way goes on. -/
def Action.isOfStream : Action → Bool
  | .pull _ _ _ => true
  | .resume _ => true
  | _ => false

/-- The action where the consumer, if it asks, asks in this way. -/
def Action.askedBy (asking : Asking) : Action → Action
  | .pull thread timed _ => .pull thread timed asking
  | action => action

/-- The answer to a consumer that has asked in this way. That the stream is not in a state to give
another chunk is the end of an iteration. -/
def Answer.askedBy (asking : Asking) : Answer → Answer
  | .refused (.invalidState _) => asking.onEnded
  | .ended => asking.onEnded
  | answer => answer

/-- The exchange where the consumer has been told something else. -/
def mapAnswers (e : Exchange) (f : List Answer → List Answer) : Exchange :=
  { e with answers := f e.answers }

/-- **The exchange where the consumer has always asked in this way.** -/
def askedBy (e : Exchange) (asking : Asking) : Exchange :=
  e.mapAnswers (List.map (·.askedBy asking))

/-! ### The flag and the answers -/

/-- The stream's flag says what the answers do. -/
def FlagTells (e : Exchange) : Prop :=
  e.hasNext = true ↔ ∀ answer ∈ e.answers, ¬ answer.EndsStream

/-- An answer that is given while another chunk is to come decides whether one still is. -/
theorem FlagTells.tell (tells : e.FlagTells) (more : e.hasNext = true) {answer : Answer}
    {hasNext : Bool} (decides : hasNext = true ↔ ¬ answer.EndsStream) (pull : Option Pull) :
    ({ e with hasNext := hasNext, pull := pull }.tell answer).FlagTells := by
  have before := tells.mp more
  show hasNext = true ↔ ∀ other ∈ e.answers ++ [answer], ¬ other.EndsStream
  rw [List.forall_mem_append, List.forall_mem_singleton, decides]
  exact ⟨fun goesOn => ⟨before, goesOn⟩, And.right⟩

theorem Stepped.flagTells (h : e.Stepped action e') (l : e.Lawful) (tells : e.FlagTells) :
    e'.FlagTells := by
  cases h with
  | acted => exact tells
  | called => exact tells
  | pulled => exact tells
  | waitsOn => exact tells
  | @ended thread timed asking alone finished =>
    -- the answer that has ended the stream is still there
    have stillFinished : (e.tell asking.onEnded).hasNext = false := finished
    rw [FlagTells, stillFinished]
    refine ⟨nofun, fun goesOn => ?_⟩
    rw [← finished]
    exact tells.mpr fun other listed => goesOn other (List.mem_append_left _ listed)
  | @handedOut timed p msg pulling waited =>
    refine tells.tell (l.pulling p pulling).1 ?_ none
    rw [Bool.not_eq_true', ← Bool.not_eq_true, Message.isLast_iff]
    rfl
  | @refused timed p error pulling waited =>
    have decides : false = true ↔ ¬ (Answer.refused error).EndsStream :=
      ⟨nofun, fun goesOn => absurd trivial goesOn⟩
    exact tells.tell (l.pulling p pulling).1 decides none

theorem flagTells_of_reachable (h : Reachable capacity overflow e) : e.FlagTells := by
  refine (h.invariant stepped (P := fun e => e.Lawful ∧ e.FlagTells) ?_ ⟨?_, ?_⟩).2
  · rintro e e' action ⟨l, tells⟩ step
    exact ⟨step.lawful l, step.flagTells l tells⟩
  · exact lawful_of_reachable (.refl _)
  · exact ⟨fun _ => nofun, fun _ => rfl⟩

/-- A stream that has ended has no pull under way. -/
theorem Lawful.pull_eq_none (l : e.Lawful) (finished : e.hasNext = false) : e.pull = none := by
  rw [Option.eq_none_iff_forall_ne_some]
  intro p pulling
  rw [(l.pulling p pulling).1] at finished
  cases finished

/-- **What a step can answer while another chunk is to come**: a chunk, or that the stream was
interrupted. -/
theorem Stepped.gives (h : e.Stepped action e') (reachable : Reachable capacity overflow e)
    (more : e.hasNext = true) :
    e'.answers = e.answers ∨ (∃ msg, e'.answers = e.answers ++ [.chunk msg]) ∨
      e'.answers = e.answers ++ [.refused .interrupted] := by
  cases h with
  | acted => exact Or.inl rfl
  | called => exact Or.inl rfl
  | pulled => exact Or.inl rfl
  | waitsOn => exact Or.inl rfl
  | ended alone finished =>
    rw [more] at finished
    cases finished
  | @handedOut timed p msg pulling waited => exact Or.inr (Or.inl ⟨msg, rfl⟩)
  | @refused timed p error pulling waited =>
    obtain ⟨-, can⟩ := result_of_waited reachable pulling waited
    obtain rfl : error = .interrupted := can timed
    exact Or.inr (Or.inr rfl)

/-! ### Runs side by side -/

section MapAnswers

variable (e : Exchange) (f : List Answer → List Answer)

@[simp]
theorem monitor_mapAnswers : (e.mapAnswers f).monitor = e.monitor := rfl

@[simp]
theorem isBusy_mapAnswers (thread : Nat) : (e.mapAnswers f).isBusy thread = e.isBusy thread := rfl

theorem wait?_mapAnswers (thread : Nat) (timed : Bool) :
    (e.mapAnswers f).wait? thread timed = (e.wait? thread timed).map (·.mapAnswers f) := by
  simp only [wait?, monitor_mapAnswers, Option.bind_eq_bind, Option.map_bind]
  rfl

/-- **Nobody but the stream's consumer is told anything**, and nobody looks at what it was told. -/
theorem step?_mapAnswers (others : action.isOfStream = false) :
    (e.mapAnswers f).step? action = (e.step? action).map (·.mapAnswers f) := by
  have commutes : (e.mapAnswers f).withMonitor = (·.mapAnswers f) ∘ e.withMonitor := rfl
  cases action with
  | sender action =>
    cases action <;> simp only [step?, monitor_mapAnswers, isBusy_mapAnswers, commutes,
      apply_ite (Option.map _), Option.map_none, Option.map_map]
  | direct thread call =>
    simp only [step?, monitor_mapAnswers, isBusy_mapAnswers, apply_ite (Option.map _),
      Option.map_none, Option.map_map]
    rfl
  | pull => cases others
  | resume => cases others

theorem step?_mapAnswers_of_some (others : action.isOfStream = false)
    (step : e.step? action = some e') :
    (e.mapAnswers f).step? action = some (e'.mapAnswers f) := by
  rw [step?_mapAnswers e f others, step, Option.map_some]

end MapAnswers

theorem askedBy_tell (e : Exchange) (answer : Answer) (asking : Asking) :
    (e.tell answer).askedBy asking = (e.askedBy asking).tell (answer.askedBy asking) := by
  simp [askedBy, mapAnswers, tell]

theorem Asking.askedBy_onEnded (asking asked : Asking) :
    asked.onEnded.askedBy asking = asking.onEnded := by
  cases asked <;> rfl

/-- A pull goes on with what its wait has returned. -/
theorem step?_resume (e : Exchange) {p : Pull} {result : Queue.Monitor.Result}
    (pulling : e.pull = some p) (waited : e.waited? p = some result) (timed : Bool) :
    e.step? (.resume timed) = e.goOn? p timed result := by
  simp only [step?, pulling, waited, Option.bind_eq_bind, Option.bind_some]

/-- **A step goes the same way however the consumer asks.** -/
theorem step?_askedBy (reachable : Reachable capacity overflow e) (step : e.step? action = some e')
    (asking : Asking) :
    (e.askedBy asking).step? (action.askedBy asking) = some (e'.askedBy asking) := by
  cases action with
  | sender action => exact step?_mapAnswers_of_some e _ rfl step
  | direct thread call => exact step?_mapAnswers_of_some e _ rfl step
  | pull thread timed asked =>
    rw [step?] at step
    split at step
    · cases step
    · next free =>
      refine Eq.trans (if_neg free) ?_
      split at step
      · next more =>
        refine Eq.trans (if_pos more) ?_
        rw [askedBy, wait?_mapAnswers, step]
        rfl
      · next finished =>
        cases step
        refine Eq.trans (if_neg finished) ?_
        rw [askedBy_tell, Asking.askedBy_onEnded]
  | resume timed =>
    cases stepped step with
    | @handedOut _ p msg pulling waited =>
      refine Eq.trans ((e.askedBy asking).step?_resume pulling waited timed) ?_
      rw [goOn?, askedBy_tell]
      rfl
    | @waitsOn _ p m pulling waited begun =>
      refine Eq.trans ((e.askedBy asking).step?_resume pulling waited timed) ?_
      rw [goOn?, askedBy, wait?_mapAnswers, wait?_eq_some_iff.mpr ⟨m, begun, rfl⟩]
      rfl
    | @refused _ p error pulling waited =>
      -- a wait is refused only as interrupted, which is told in one way
      obtain ⟨-, can⟩ := result_of_waited reachable pulling waited
      obtain rfl : error = .interrupted := can timed
      refine Eq.trans ((e.askedBy asking).step?_resume pulling waited timed) ?_
      rw [goOn?, askedBy_tell]
      rfl

/-- **A run goes the same way however the consumer asks.** -/
theorem run?_askedBy (reachable : Reachable capacity overflow e) (run : e.run? actions = some e')
    (asking : Asking) :
    (e.askedBy asking).run? (actions.map (·.askedBy asking)) = some (e'.askedBy asking) := by
  induction actions generalizing e with
  | nil =>
    cases run
    rfl
  | cons action actions ih =>
    obtain ⟨next, step, rest⟩ := Steps.run?_cons_iff.mp run
    exact Steps.run?_cons_iff.mpr
      ⟨_, step?_askedBy reachable step asking, ih (reachable.step step) rest⟩

/-! ### A stream that has ended -/

/-- **A step at a stream that has ended** is somebody else's, or the consumer is told so. -/
theorem Stepped.of_finished (h : e.Stepped action e') (l : e.Lawful)
    (finished : e.hasNext = false) :
    (action.isOfStream = false ∧ e'.hasNext = false ∧ e'.answers = e.answers) ∨
      action.isOfStream = true ∧ ∃ asking : Asking, e' = e.tell asking.onEnded := by
  have alone := l.pull_eq_none finished
  cases h with
  | acted => exact Or.inl ⟨rfl, finished, rfl⟩
  | called => exact Or.inl ⟨rfl, finished, rfl⟩
  | pulled _ _ more =>
    rw [finished] at more
    cases more
  | @ended thread timed asking => exact Or.inr ⟨rfl, asking, rfl⟩
  | handedOut pulling =>
    rw [alone] at pulling
    cases pulling
  | waitsOn pulling =>
    rw [alone] at pulling
    cases pulling
  | refused pulling =>
    rw [alone] at pulling
    cases pulling

/-- **A stream that has ended stays so**, says nothing else, and keeps its hands off the queue: its
own actions might as well be left out of a run. -/
theorem run?_of_finished (l : e.Lawful) (finished : e.hasNext = false)
    (run : e.run? actions = some e') :
    e'.hasNext = false ∧
      (∃ idle, e'.answers = e.answers ++ idle ∧
        ∀ answer ∈ idle, ∃ asking : Asking, answer = asking.onEnded) ∧
      ∀ told, (e.mapAnswers fun _ => told).run? (actions.filter (!·.isOfStream)) =
        some (e'.mapAnswers fun _ => told) := by
  -- the shorter run has the steps of the others only, and they read no answers
  induction actions generalizing e with
  | nil =>
    cases run
    exact ⟨finished, ⟨[], (List.append_nil _).symm, nofun⟩, fun _ => rfl⟩
  | cons action actions ih =>
    obtain ⟨next, step, rest⟩ := Steps.run?_cons_iff.mp run
    have h := stepped step
    rcases h.of_finished l finished with ⟨others, still, same⟩ | ⟨own, asking, rfl⟩
    · obtain ⟨ended, ⟨idle, answers, saysSo⟩, without⟩ := ih (h.lawful l) still rest
      refine ⟨ended, ⟨idle, by rw [answers, same], saysSo⟩, fun told => ?_⟩
      rw [List.filter_cons_of_pos (by simp [others])]
      exact Steps.run?_cons_iff.mpr
        ⟨_, step?_mapAnswers_of_some e _ others step, without told⟩
    · obtain ⟨ended, ⟨idle, answers, saysSo⟩, without⟩ := ih (h.lawful l) finished rest
      refine ⟨ended, ⟨asking.onEnded :: idle, ?_, ?_⟩, fun told => ?_⟩
      · rw [answers, tell, List.append_assoc, List.singleton_append]
      · intro answer listed
        rcases List.mem_cons.mp listed with rfl | later
        · exact ⟨asking, rfl⟩
        · exact saysSo answer later
      · rw [List.filter_cons_of_neg (by simp [own])]
        exact without told

/-! ### The promise -/

/-- **What the stream of an exchange promises.** -/
structure EndsAtFirstEmpty (e : Exchange) : Prop where
  /-- Another chunk is to come exactly if no answer was an empty chunk or a refusal. -/
  hasNext : e.hasNext = true ↔ ∀ answer ∈ e.answers, ¬ answer.EndsStream
  /-- While one is, an iteration pulls just as a call does; -/
  asked : e.hasNext = true → ∀ thread timed,
    e.step? (.pull thread timed .iteration) = e.step? (.pull thread timed .nextChunk)
  /-- and every answer is a chunk, or that the stream was interrupted. -/
  gives : e.hasNext = true → ∀ action e', e.step? action = some e' →
    e'.answers = e.answers ∨ (∃ msg, e'.answers = e.answers ++ [.chunk msg]) ∨
      e'.answers = e.answers ++ [.refused .interrupted]
  /-- Once none is, no pull is under way; a call is told that the stream is exhausted, an iteration
  that it has ended, and that is all that happens. -/
  ended : e.hasNext = false → e.pull = none ∧ ∀ thread timed asking, e.isBusy thread = false →
    e.monitor.streamTaken = true →
      e.step? (.pull thread timed asking) = some (e.tell asking.onEnded)
  /-- So it stays in every run. Without the stream's own actions the run would have come to the
  same, but for the answers. -/
  forGood : e.hasNext = false → ∀ later e', e.run? later = some e' →
    e'.hasNext = false ∧
      (∃ idle, e'.answers = e.answers ++ idle ∧
        ∀ answer ∈ idle, ∃ asking : Asking, answer = asking.onEnded) ∧
      e.run? (later.filter (!·.isOfStream)) = some (e'.mapAnswers fun _ => e.answers)

theorem endsAtFirstEmpty_of_reachable (reachable : Reachable capacity overflow e) :
    e.EndsAtFirstEmpty := by
  have l := lawful_of_reachable reachable
  refine {
    hasNext := flagTells_of_reachable reachable
    asked := fun more thread timed => by simp only [step?, more, if_true]
    gives := fun more action e' step => (stepped step).gives reachable more
    ended := ?_
    forGood := ?_ }
  · intro finished
    have alone := l.pull_eq_none finished
    refine ⟨alone, fun thread timed asking idle taken => ?_⟩
    simp [step?, idle, alone, taken, finished]
  · intro finished later e' run
    obtain ⟨still, idle, without⟩ := run?_of_finished l finished run
    exact ⟨still, idle, without e.answers⟩

/-- **The stream ends at its first empty chunk.**

* Iterated to its end over a queue that nobody has interrupted, a new stream hands out what is
  queued up to the first empty message and with it. The rest of the queue stays as it is.
* In every run, whoever calls the sender and the queue and whenever it is interrupted, the stream's
  flag says what its answers do, and an ended stream leaves the queue alone for good. Had the
  consumer always asked in one way, the run would have been the same, but for how it was told that
  the stream has ended. -/
theorem ends_at_first_empty :
    (∀ (q : Queue) (interval : Nanoseconds), q.interrupted = false →
      (∃ msg ∈ q.messages, msg.payload = []) →
        let first := q.messages.findIdx Message.isLast
        Stream.drain ⟨interval, true⟩ q =
          ((q.messages.take (first + 1)).map .ok, ⟨interval, false⟩,
            { q with messages := q.messages.drop (first + 1) })) ∧
    ∀ (capacity : Nat) (overflow : Overflow) (actions : List Action) (e : Exchange),
      (start (.make capacity overflow)).run? actions = some e →
        e.EndsAtFirstEmpty ∧ ∀ asking : Asking,
          (start (.make capacity overflow)).run? (actions.map (·.askedBy asking)) =
            some (e.askedBy asking) := by
  constructor
  · intro q interval live ⟨msg, listed, empty⟩ first
    have inside : first < q.messages.length :=
      List.findIdx_lt_length_of_exists ⟨msg, listed, Message.isLast_iff.mpr empty⟩
    have last : q.messages[first].payload = [] := Message.isLast_iff.mp List.findIdx_getElem
    have goesOn : ∀ c ∈ q.messages.take first, c.payload ≠ [] := by
      intro c before
      obtain ⟨i, short, rfl⟩ := List.mem_take_iff_getElem.mp before
      have more := List.not_of_lt_findIdx (Nat.lt_of_lt_of_le short (Nat.min_le_left _ _))
      rw [← Bool.not_eq_true, Message.isLast_iff] at more
      exact more
    have messages : q.messages =
        q.messages.take first ++ q.messages[first] :: q.messages.drop (first + 1) := by
      rw [List.getElem_cons_drop, List.take_append_drop]
    rw [Stream.drain_up_to_last goesOn last interval live messages, List.take_append_getElem]
  · intro capacity overflow actions e run
    exact ⟨endsAtFirstEmpty_of_reachable ⟨actions, run⟩,
      fun asking => run?_askedBy ⟨[], rfl⟩ run asking⟩

/-- Somebody has put an empty message between two others, past the sender. The stream ends there;
whoever asks it again is told so, also after an interruption, and the message behind it stays. -/
theorem empty_message_between_pings :
    let q : Queue := { Queue.make 3 .block with messages := [.ping, .terminal, .ping] }
    let actions : List Action := [.sender (.begin 0 .obtainStream), .sender (.act 0),
      .direct 1 (.enqueue .ping), .sender (.queue (.enter 0)), .sender (.queue (.signal 0 none)),
      .direct 1 (.enqueue .terminal), .sender (.queue (.enter 1)),
      .sender (.queue (.signal 1 none)), .direct 1 (.enqueue .ping), .sender (.queue (.enter 2)),
      .sender (.queue (.signal 2 none)), .pull 3 true .nextChunk, .sender (.act 1),
      .sender (.queue (.enter 3)), .sender (.queue (.signal 3 none)), .resume true,
      .pull 3 true .iteration, .sender (.act 2), .sender (.queue (.enter 4)),
      .sender (.queue (.signal 4 none)), .resume true]
    let later : List Action := [.pull 3 true .iteration, .sender (.begin 4 .interrupt),
      .sender (.act 3), .sender (.queue (.enter 5)), .pull 3 false .nextChunk]
    Stream.drain ⟨7, true⟩ q =
        ([.ok .ping, .ok .terminal], ⟨7, false⟩, { q with messages := [.ping] }) ∧
      ∃ e e', (start (.make 3 .block)).run? actions = some e ∧ e.EndsAtFirstEmpty ∧
        e.hasNext = false ∧ e.answers = [.chunk .ping, .chunk .terminal] ∧
        e.run? later = some e' ∧ e'.monitor.queue.queue.interrupted = true ∧
        e'.monitor.queue.queue.messages = [.ping] ∧
        e'.answers = e.answers ++ [.ended, .refused .streamExhausted] ∧
        (start (.make 3 .block)).run? (actions.map (·.askedBy .iteration)) =
          some (e.askedBy .iteration) := by
  intro q actions later
  obtain ⟨drained, inRuns⟩ := ends_at_first_empty
  have iterated := drained q 7 rfl ⟨.terminal, by decide, rfl⟩
  obtain ⟨promise, asked⟩ := inRuns 3 .block actions _ rfl
  exact ⟨iterated, _, _, rfl, promise, rfl, rfl, rfl, rfl, rfl, rfl, asked .iteration⟩

end Outbox.Sender.Exchange
