import Outbox.Proofs.Queue.Ended

/-!
# A queue that was interrupted

An interruption sets a flag that no turn takes back and that every turn looks at first. So a queue
that was interrupted stays as it was, down to the messages it holds, and whoever has no result by
then can only be refused: at the turn that a call takes next, or after the signal that wakes it. Who
sleeps is not forgotten, since nobody falls asleep any more and the interruption owes all sleepers a
signal.

Calls that have their result keep it, also those that still owe a signal for it.

## Main Definitions

* `Monitor.Activity.CanOnlyFail` — a call that has no result, or was refused as interrupted
* `Monitor.Refuses` — how such a call stands at a queue that was interrupted
* `Monitor.Halted` — what an interruption leaves of a queue; every step keeps it
-/

namespace Outbox.Queue

variable {q q' : Queue} {t : Turn} {outcome : Outcome}

/-! ### Turns -/

/-- **An interrupted queue is done**: a turn leaves it as it is, and is refused unless it interrupts
the queue once more. -/
theorem Turned.of_interrupted (h : q.Turned t outcome q') (interrupted : q.interrupted = true) :
    q' = q ∧ (t ≠ .interrupt → outcome = .refused .interrupted) := by
  have same := turned_iff.mp h
  by_cases again : t = .interrupt
  · subst again
    cases h
    refine ⟨?_, fun other => absurd rfl other⟩
    simp [Queue.interrupt, ← interrupted]
  · have refused := turn_of_interrupted interrupted again
    have kept := turn_unchanged (Or.inl ⟨_, refused⟩)
    rw [same] at refused kept
    exact ⟨kept, fun _ => refused⟩

theorem Turned.outcome_of_interrupt (h : q.Turned .interrupt outcome q') :
    outcome = .interrupted := by
  cases h
  rfl

theorem refusal?_of_interrupted (h : q.interrupted = true) : q.refusal? = some .interrupted :=
  if_pos h

theorem offer_of_interrupted (h : q.interrupted = true) (m : Message) :
    q.offer m = .refused .interrupted := by
  rw [offer, refusal?_of_interrupted h]

theorem offerLast_of_interrupted (h : q.interrupted = true) (m : Message) :
    q.offerLast m = .error .interrupted := by
  rw [offerLast, refusal?_of_interrupted h]

theorem take_of_interrupted (h : q.interrupted = true) : q.take = .refused .interrupted :=
  if_pos h

namespace Monitor

variable {m m' m'' : Monitor} {n k : Nat} {a b : Activity} {action : Action}

theorem Call.turn_eq_interrupt_iff {call : Call} : call.turn = .interrupt ↔ call = .interrupt := by
  cases call <;> simp [turn]

/-! ### What calls return -/

/-- Whether a call can return this. -/
def Call.CanReturn : Call → Result → Prop
  | .enqueue _, .stored => True
  | .enqueue _, .refused _ => True
  | .enqueueLast _, .stored => True
  | .enqueueLast _, .refused _ => True
  | .dequeue _, .fetched _ => True
  | .dequeue _, .refused error => error = .interrupted
  | .interrupt, .interrupted => True
  | _, _ => False

/-- A turn leaves its call no result, or one that the call can return. -/
theorem canReturn_of_turned {call : Call} (turned : q.Turned call.turn outcome q') {thread : Nat}
    {expired : Bool} {result : Result}
    (done : (Activity.mk thread call (call.after expired outcome)).result? = some result) :
    call.CanReturn result := by
  cases call <;> cases turned <;> cases expired <;>
    simp_all [Activity.result?, Call.after, Call.onWait, Call.CanReturn] <;>
    simp [← done]

/-- Every call has returned what it can, if it has returned. -/
def Fitting (m : Monitor) : Prop :=
  ∀ r ∈ m.records, ∀ result, r.result = some result → r.call.CanReturn result

theorem Recorded.fitting (h : m.Recorded action m') (f : m.Fitting) : m'.Fitting := by
  intro r onRecord result done
  cases h with
  | began _ _ _ _ records =>
    rw [records] at onRecord
    rcases List.mem_append.mp onRecord with old | new
    · exact f r old result done
    · rw [List.mem_singleton.mp new] at done
      cases done
  | kept _ _ _ _ _ records => exact f r (records ▸ onRecord) result done
  | entered was _ turned _ _ _ records =>
    rw [records] at onRecord
    rcases List.mem_append.mp onRecord with early | here
    · exact f r (by simp [was, early]) result done
    · rcases List.mem_cons.mp here with rfl | late
      · exact canReturn_of_turned turned done
      · exact f r (by simp [was, late]) result done

theorem fitting_of_reachable (h : Reachable q m) : m.Fitting := by
  refine h.invariant stepped (fun f step => step.recorded.fitting f) ?_
  rintro r ⟨⟩

theorem Fitting.canReturn (f : m.Fitting) (here : m.calls[n]? = some a) {result : Result}
    (done : a.result? = some result) : a.call.CanReturn result :=
  f a.record (List.mem_map_of_mem (List.mem_of_getElem? here)) result done

/-! ### Who has interrupted a queue -/

/-- A call of interrupt has had its turn. -/
def InterruptCalled (m : Monitor) : Prop :=
  ∃ thread, ⟨thread, .interrupt, some .interrupted⟩ ∈ m.records

theorem Recorded.interrupted_iff_called (h : m.Recorded action m')
    (before : m.queue.interrupted = true ↔ m.InterruptCalled) :
    m'.queue.interrupted = true ↔ m'.InterruptCalled := by
  cases h with
  | began _ queue _ _ records => simp [queue, before, InterruptCalled, records]
  | kept _ _ queue _ _ records => simp [queue, before, InterruptCalled, records]
  | @entered _ n thread call expired outcome early late was _ turned _ _ _ records =>
    rw [turned.interrupted_iff, before, InterruptCalled, InterruptCalled, was, records]
    -- the one record that has changed is that of an interruption exactly if the turn is one
    cases call with
    | interrupt =>
      obtain rfl := Turned.outcome_of_interrupt turned
      refine iff_of_true (Or.inr rfl) ⟨thread, ?_⟩
      simp [Call.recordAfter, Activity.record, Activity.result?]
    | _ => simp [Call.recordAfter, Activity.record, Call.turn]

/-- **A queue is interrupted once a call of interrupt has had its turn**, and not before. -/
theorem interrupted_iff_called {capacity : Nat} {overflow : Overflow}
    (h : Reachable (.make capacity overflow) m) :
    m.queue.interrupted = true ↔ m.InterruptCalled := by
  refine h.invariant stepped (P := fun m => m.queue.interrupted = true ↔ m.InterruptCalled)
    (fun before step => step.recorded.interrupted_iff_called before) ?_
  simp [start, Queue.make, InterruptCalled, records]

/-! ### Calls that can only fail -/

/-- **A call that has no result, or was refused as interrupted.** -/
def Activity.CanOnlyFail (a : Activity) : Prop :=
  a.result? = none ∨ a.phase = .leaving [] (.refused .interrupted)

/-- What a step at an interrupted queue makes of such a call: its turn refuses it. -/
theorem Moved.canOnlyFail (h : Moved q q' n a action b) (interrupted : q.interrupted = true)
    (other : a.call ≠ .interrupt) (c : a.CanOnlyFail) : b.CanOnlyFail := by
  cases h with
  | still => exact c
  | woken => exact Or.inl rfl
  | signalled owes =>
    rcases c with noResult | refused
    · simp [Activity.result?, owes] at noResult
    · rw [owes] at refused
      cases refused
  | entered ready turned =>
    obtain rfl := (turned.of_interrupted interrupted).2 (mt Call.turn_eq_interrupt_iff.mp other)
    exact Or.inr rfl

/-- **How a call that can only fail stands at an interrupted queue.** -/
inductive Refuses (m : Monitor) (n : Nat) (a : Activity) : Prop where
  | refused (returned : a.phase = .leaving [] (.refused .interrupted))
  /-- Its turn is next, and refuses it. -/
  | next (turn : ∃ m', m.step? (.enter n) = some m' ∧
      m'.calls[n]? = some { a with phase := .leaving [] (.refused .interrupted) })
  /-- It sleeps, and somebody is still to wake all who sleep on the same. -/
  | asleep {c : Condition} (asleep : a.phase = .asleep c) (owed : m.OwesAll c)

/-- Who sleeps at an interrupted queue is going to be woken. -/
theorem owesAll_of_asleep (h : Reachable q m) (interrupted : m.queue.interrupted = true)
    (here : m.calls[n]? = some a) {c : Condition} (asleep : a.phase = .asleep c) :
    m.OwesAll c := by
  have pointless : m.queue.isOver c = true := by cases c <;> simp [isOver, interrupted]
  rcases (attended_of_reachable h).2 c ⟨a, List.mem_of_getElem? here, asleep⟩ with
    owed | ⟨notOver, -⟩
  · exact owed
  · rw [pointless] at notOver
    cases notOver

theorem refuses_of_canOnlyFail (h : Reachable q m) (interrupted : m.queue.interrupted = true)
    (here : m.calls[n]? = some a) (other : a.call ≠ .interrupt) (c : a.CanOnlyFail) :
    m.Refuses n a := by
  rcases c with noResult | returned
  · cases phase : a.phase with
    | leaving signals result => simp [Activity.result?, phase] at noResult
    | asleep c => exact .asleep phase (owesAll_of_asleep h interrupted here phase)
    | ready expired =>
      have step : m.step? (.enter n) = some (m.enter n a expired) := by
        simp [step?, here, phase]
      obtain ⟨b, after, moved⟩ := (stepped step).moved here
      refine .next ⟨_, step, ?_⟩
      cases moved with
      | still notTurn => exact absurd rfl notTurn
      | woken notTurn => exact absurd rfl notTurn
      | entered ready turned =>
        have refused := (turned.of_interrupted interrupted).2
          (mt Call.turn_eq_interrupt_iff.mp other)
        rwa [refused] at after
  · exact .refused returned

/-- When nobody can go on by itself, whoever can only fail has been refused. -/
theorem Refuses.of_quiet (r : m.Refuses n a) (quiet : m.Quiet) :
    a.phase = .leaving [] (.refused .interrupted) := by
  cases r with
  | refused returned => exact returned
  | next turn =>
    obtain ⟨m', step, -⟩ := turn
    rw [((quiet_iff.mp quiet) n).1] at step
    cases step
  | asleep _ owed => exact absurd owed (quiet.unattended _).1

/-! ### Nothing changes any more -/

/-- **What an interruption leaves of a queue**, from some moment after it to any later one. -/
structure Halted (m m' : Monitor) : Prop where
  /-- The queue is as it was, with all that it holds. -/
  queue : m'.queue = m.queue
  accepted : m'.accepted = m.accepted
  handed : m'.handed = m.handed
  /-- Who has a result keeps it. -/
  results : ∀ k result, m.resultOf k = some result → m'.resultOf k = some result
  /-- Who had none then, or has begun since, can only fail. -/
  failing : ∀ k b, m'.calls[k]? = some b → b.call ≠ .interrupt → m.resultOf k = none →
    b.CanOnlyFail

/-- The message that a call has taken out, if this is its result. -/
def Result.message? : Result → Option Message
  | .fetched msg => msg
  | _ => none

theorem resultOf_eq (here : m.calls[n]? = some a) : m.resultOf n = a.result? := by
  simp [resultOf, records, here, Activity.record]

theorem Halted.refl (m : Monitor) : m.Halted m where
  queue := rfl
  accepted := rfl
  handed := rfl
  results _ _ := id
  failing _ _ there _ noResult := Or.inl ((resultOf_eq there).symm.trans noResult)

theorem Recorded.halts (h : m.Recorded action m') (interrupted : m.queue.interrupted = true) :
    m'.queue = m.queue ∧ m'.accepted = m.accepted ∧ m'.handed = m.handed := by
  cases h with
  | began _ queue accepted handed => exact ⟨queue, accepted, handed⟩
  | kept _ _ queue accepted handed => exact ⟨queue, accepted, handed⟩
  | @entered _ n thread call expired outcome _ _ _ _ turned _ accepted handed =>
    obtain ⟨queue, refused⟩ := turned.of_interrupted interrupted
    have nothing : (Section.mk n call outcome).stored? = none ∧
        (Section.mk n call outcome).taken? = none := by
      by_cases again : call.turn = .interrupt
      · rw [again] at turned
        simp [Section.stored?, Section.taken?, turned.outcome_of_interrupt]
      · simp [Section.stored?, Section.taken?, refused again]
    rw [nothing.1, Option.toList_none, List.append_nil] at accepted
    rw [nothing.2, Option.toList_none, List.append_nil] at handed
    exact ⟨queue, accepted, handed⟩

theorem Halted.step (h : m.Halted m') (interrupted : m.queue.interrupted = true)
    (step : m'.Stepped action m'') : m.Halted m'' := by
  have still : m'.queue.interrupted = true := by rw [h.queue, interrupted]
  obtain ⟨queue, accepted, handed⟩ := step.recorded.halts still
  refine ⟨queue.trans h.queue, accepted.trans h.accepted, handed.trans h.handed, ?_, ?_⟩
  · intro k result had
    have has := h.results k result had
    obtain ⟨r, onRecord, done⟩ := Option.bind_eq_some_iff.mp has
    rw [resultOf, step.recorded.result_stays onRecord (by simp [done])]
    exact done
  · intro k b there other noResult
    rcases step.origin there with ⟨a, here, moved⟩ | ⟨-, fresh, -⟩
    · have otherBefore : a.call ≠ .interrupt := moved.call_eq ▸ other
      exact moved.canOnlyFail still otherBefore (h.failing k a here otherBefore noResult)
    · exact Or.inl (by simp [Activity.result?, fresh])

/-- What a call takes out, it has taken out before the queue was interrupted. -/
theorem Halted.message_eq (h : m.Halted m') (there : m'.calls[k]? = some b)
    (other : b.call ≠ .interrupt) :
    (m'.resultOf k).bind Result.message? = (m.resultOf k).bind Result.message? := by
  cases had : m.resultOf k with
  | some result => rw [h.results k result had]
  | none =>
    rw [resultOf_eq there]
    rcases h.failing k b there other had with noResult | refused
    · rw [noResult]
    · simp [Activity.result?, refused, Result.message?]

/-- **An interrupted queue is halted**, in every run that goes on from there. -/
theorem halted_of_run (interrupted : m.queue.interrupted = true) {actions : List Action}
    (run : m.run? actions = some m') : m.Halted m' :=
  Steps.run_invariant stepped (P := m.Halted) (fun h step => h.step interrupted step) (.refl m) run

end Monitor

end Outbox.Queue
