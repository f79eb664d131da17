import Outbox.Proofs.Sender.Exchange

/-!
# Calls that an interruption leaves to fail

Three flags decide what becomes of a call after an interruption: the queue's two, and the sender's
own closed flag, which a call looks at before it reaches the queue and which may be set meanwhile by
a call that the queue then refuses. A call that finds the sender closed never reaches the queue; any
other reaches it, and is refused there as interrupted. Which of the two happens is decided at the
call's looks at the flag, so it is read off the steps of a run and not off the state at its end.

A call that has its result when the queue is interrupted keeps it. All others fail, and whoever
calls later as well. That is a rank again: the constructors are the places where such a call can
stand.

## Main Definitions

* `Monitor.FailsWithin` — a call that is still to fail, and the steps that it has left
* `Exchange.foundClosed` — whether a call finds the sender closed in a run
* `Exchange.fails_of_undecided` — whoever has no result fails, in a few steps of its own
-/

namespace Outbox.Sender

namespace Monitor

variable {m m' : Monitor} {n k : Nat} {a : Activity} {action : Action} {call : Call}
  {found : Bool} {r : Nat}

/-! ### Calls that are still to fail -/

/-- What a call returns that finds the sender closed. -/
def Call.ifClosed : Call → Option CallError
  | .submit _ => some .senderClosed
  | _ => none

/-- **What a call returns after an interruption**, by whether it finds the sender closed. -/
def Call.ifInterrupted (call : Call) (found : Bool) : Option CallError :=
  if found then call.ifClosed else some .interrupted

theorem Call.onClosed_eq (call : Call) : call.onClosed = .returned call.ifClosed := by
  cases call <;> rfl

theorem Call.onOpen_cases (call : Call) :
    (call = .drop ∧ call.onOpen = .closing) ∨ call.onOpen = .calling := by
  cases call <;> simp [onOpen]

/-- A call asks the queue for something, and not to be interrupted. -/
def Call.AsksQueue (call : Call) : Prop :=
  ∃ asked, call.onQueue? = some asked ∧ asked ≠ .interrupt

/-- A call has its result, whether it has returned or is about to. -/
def IsDecided (m : Monitor) (n : Nat) : Prop :=
  ∃ a, m.calls[n]? = some a ∧
    ((∃ refusal, a.phase = .returned refusal) ∨
      ∃ k, a.phase = .queued k ∧ m.queue.resultOf k ≠ none)

/-- Whether a call looks at the closed flag in a step, or swaps it, and finds it set. -/
def findsClosed (m : Monitor) (n : Nat) : Action → Bool
  | .act i =>
    i = n && m.closed && m.calls[n]?.any fun a =>
      match a.phase with
      | .looking _ => true
      | .closing => true
      | _ => false
  | _ => false

/-- **A call that is still to fail**, whether it has found the sender closed since the queue was
interrupted, and the steps that it has left. -/
inductive FailsWithin (call : Call) (m : Monitor) (n : Nat) : Bool → Nat → Prop where
  | looking {a : Activity} {more : Nat} (here : m.calls[n]? = some a) (same : a.call = call)
    (looking : a.phase = .looking more) : FailsWithin call m n false (more + 4)
  | closing {a : Activity} (here : m.calls[n]? = some a) (same : a.call = call)
    (closes : call.ifClosed = none) (closing : a.phase = .closing) : FailsWithin call m n false 3
  | calling {a : Activity} (here : m.calls[n]? = some a) (same : a.call = call)
    (calling : a.phase = .calling) : FailsWithin call m n false 2
  | waiting {a : Activity} {k : Nat} {b : Queue.Monitor.Activity} (here : m.calls[n]? = some a)
    (same : a.call = call) (queued : a.phase = .queued k) (there : m.queue.calls[k]? = some b)
    (noResult : b.result? = none) : FailsWithin call m n false 1
  | refused {a : Activity} {k : Nat} {b : Queue.Monitor.Activity} (here : m.calls[n]? = some a)
    (same : a.call = call) (queued : a.phase = .queued k) (there : m.queue.calls[k]? = some b)
    (refused : b.phase = .leaving [] (.refused .interrupted)) : FailsWithin call m n false 0
  | turnedAway {a : Activity} (here : m.calls[n]? = some a) (same : a.call = call)
    (returned : a.phase = .returned call.ifClosed) : FailsWithin call m n true 0

namespace FailsWithin

theorem exists_call (f : FailsWithin call m n found r) :
    ∃ a, m.calls[n]? = some a ∧ a.call = call := by
  cases f with
  | looking here same => exact ⟨_, here, same⟩
  | closing here same => exact ⟨_, here, same⟩
  | calling here same => exact ⟨_, here, same⟩
  | waiting here same => exact ⟨_, here, same⟩
  | refused here same => exact ⟨_, here, same⟩
  | turnedAway here same => exact ⟨_, here, same⟩

/-- Steps of others leave such a call the steps that it has. -/
theorem others (f : FailsWithin call m n found r) (here : m.calls[n]? = some a)
    (stays : m'.calls[n]? = some a)
    (atQueue : ∀ k b, a.phase = .queued k → m.queue.calls[k]? = some b →
      ∃ b', m'.queue.calls[k]? = some b' ∧
        (b' = b ∨ ∃ c expired, b.phase = .asleep c ∧ b' = { b with phase := .ready expired })) :
    FailsWithin call m' n found r := by
  cases f with
  | looking there same looking =>
    cases here.symm.trans there
    exact .looking stays same looking
  | closing there same closes closing =>
    cases here.symm.trans there
    exact .closing stays same closes closing
  | calling there same calling =>
    cases here.symm.trans there
    exact .calling stays same calling
  | turnedAway there same returned =>
    cases here.symm.trans there
    exact .turnedAway stays same returned
  | waiting there same queued inQueue noResult =>
    cases here.symm.trans there
    obtain ⟨b', after, rfl | ⟨c, expired, -, rfl⟩⟩ := atQueue _ _ queued inQueue
    · exact .waiting stays same queued after noResult
    · exact .waiting stays same queued after rfl
  | refused there same queued inQueue refused =>
    cases here.symm.trans there
    obtain ⟨b', after, rfl | ⟨c, expired, asleep, -⟩⟩ := atQueue _ _ queued inQueue
    · exact .refused stays same queued after refused
    · rw [refused] at asleep
      cases asleep

/-- **A step of its own at the sender brings such a call nearer to its end.** -/
theorem acts (f : FailsWithin call m n found r) (here : m.calls[n]? = some a)
    (step : m.act? n a = some m') :
    ∃ r' < r, FailsWithin call m' n (found || m.findsClosed n (.act n)) r' := by
  cases f with
  | @looking b more there same looking =>
    cases here.symm.trans there
    rw [act?, looking] at step
    cases step
    have now : ∀ phase, (m.setPhase n a phase).calls[n]? = some { a with phase := phase } :=
      fun _ => getElem?_setPhase_self here
    cases closed : m.closed with
    | true =>
      refine ⟨0, by omega, ?_⟩
      rw [show m.findsClosed n (.act n) = true by simp [findsClosed, closed, here, looking]]
      refine .turnedAway (now _) same ?_
      rw [if_pos rfl, Call.onClosed_eq, same]
    | false =>
      rw [show m.findsClosed n (.act n) = false by simp [findsClosed, closed]]
      cases more with
      | succ more => exact ⟨more + 4, by omega, .looking (now _) same rfl⟩
      | zero =>
        rcases a.call.onOpen_cases with ⟨drop, opens⟩ | opens
        · refine ⟨3, by omega, .closing (now _) same ?_ opens⟩
          rw [← same, drop]
          rfl
        · exact ⟨2, by omega, .calling (now _) same opens⟩
  | closing there same closes closing =>
    cases here.symm.trans there
    rw [act?, closing] at step
    dsimp only at step
    split at step
    · next closed =>
      cases step
      refine ⟨0, by decide, ?_⟩
      rw [show m.findsClosed n (.act n) = true by simp [findsClosed, closed, here, closing]]
      exact .turnedAway (getElem?_setPhase_self here) same (by rw [closes])
    · next isOpen =>
      cases step
      rw [show m.findsClosed n (.act n) = false by simp [findsClosed, isOpen]]
      exact ⟨2, by decide, .calling (getElem?_setPhase_self here) same rfl⟩
  | calling there same calling =>
    cases here.symm.trans there
    rw [show m.findsClosed n (.act n) = false by simp [findsClosed, here, calling]]
    obtain ⟨asked, -, rfl⟩ := reached_of_calling calling step
    exact ⟨1, by decide, .waiting (getElem?_setPhase_self here) same rfl
      List.getElem?_concat_length rfl⟩
  | waiting there _ queued =>
    cases here.symm.trans there
    rw [act?, queued] at step
    cases step
  | refused there _ queued =>
    cases here.symm.trans there
    rw [act?, queued] at step
    cases step
  | turnedAway there _ returned =>
    cases here.symm.trans there
    rw [act?, returned] at step
    cases step

/-- Where such a call stands at the queue. -/
theorem at_queue (f : FailsWithin call m n found r) (here : m.calls[n]? = some a)
    (queued : a.phase = .queued k) {b : Queue.Monitor.Activity}
    (there : m.queue.calls[k]? = some b) :
    found = false ∧ (r = 1 ∧ b.result? = none ∨
      r = 0 ∧ b.phase = .leaving [] (.refused .interrupted)) := by
  cases f with
  | looking here' _ phase => cases here.symm.trans here'; rw [queued] at phase; cases phase
  | closing here' _ _ phase => cases here.symm.trans here'; rw [queued] at phase; cases phase
  | calling here' _ phase => cases here.symm.trans here'; rw [queued] at phase; cases phase
  | turnedAway here' _ phase => cases here.symm.trans here'; rw [queued] at phase; cases phase
  | waiting here' _ queued' there' noResult =>
    cases here.symm.trans here'
    cases queued.symm.trans queued'
    cases there.symm.trans there'
    exact ⟨rfl, Or.inl ⟨rfl, noResult⟩⟩
  | refused here' _ queued' there' refused =>
    cases here.symm.trans here'
    cases queued.symm.trans queued'
    cases there.symm.trans there'
    exact ⟨rfl, Or.inr ⟨rfl, refused⟩⟩

/-- What such a call asks of the queue is refused there. -/
theorem asked_ne (known : m.Known) (asks : call.AsksQueue) (here : m.calls[n]? = some a)
    (same : a.call = call) (queued : a.phase = .queued k) {b : Queue.Monitor.Activity}
    (there : m.queue.calls[k]? = some b) : b.call ≠ .interrupt := by
  obtain ⟨b', there', asked⟩ := known n a k here queued
  cases there.symm.trans there'
  obtain ⟨asked', asks, other⟩ := asks
  rw [same, asks, Option.some.injEq] at asked
  exact asked ▸ other

/-- **Every step at the sender leaves such a call fewer steps of its own**, or is not its own. -/
theorem step (f : FailsWithin call m n found r) (known : m.Known) (asks : call.AsksQueue)
    (interrupted : m.queue.queue.interrupted = true) (step : m.step? action = some m') :
    ∃ r', FailsWithin call m' n (found || m.findsClosed n action) r' ∧
      (m.isOwn n action).toNat + r' ≤ r := by
  obtain ⟨a, here, same⟩ := f.exists_call
  have away : action ≠ .act n → m.findsClosed n action = false := by
    intro other
    cases action with
    | act i =>
      have notThis : i ≠ n := fun same => other (congrArg Action.act same)
      simp [findsClosed, notThis]
    | _ => rfl
  cases (stepped step).progress here (known.exists_at_queue here) with
  | others notOwn stays atQueue =>
    have other : action ≠ .act n := by
      rintro rfl
      simp [isOwn] at notOwn
    rw [away other, Bool.or_false]
    exact ⟨r, f.others here stays atQueue, by simp [notOwn]⟩
  | acts own =>
    subst own
    obtain ⟨r', lower, closer⟩ := f.acts here (act?_of_step here step)
    refine ⟨r', closer, ?_⟩
    have one := Bool.toNat_le (m.isOwn n (.act n))
    omega
  | @enters k b expired outcome stays queued there ready turned after =>
    obtain ⟨rfl, ⟨rfl, -⟩ | ⟨-, refused⟩⟩ := f.at_queue here queued there
    · have other := asked_ne known asks here same queued there
      have refused := (turned.of_interrupted interrupted).2
        (mt Queue.Monitor.Call.turn_eq_interrupt_iff.mp other)
      rw [refused] at after
      rw [away (ne_act_of_queued step here queued)]
      exact ⟨0, .refused stays same queued after rfl, Bool.toNat_le _⟩
    · rw [ready] at refused
      cases refused
  | @signals k b signal rest result stays queued there owes after =>
    -- a call that is still to fail owes no signal
    obtain ⟨-, ⟨-, noResult⟩ | ⟨-, refused⟩⟩ := f.at_queue here queued there
    · simp [Queue.Monitor.Activity.result?, owes] at noResult
    · rw [owes] at refused
      cases refused

end FailsWithin

/-! ### Calls without a result -/

/-- A call looks at the closed flag at most once more after its next look. -/
def FewLooks (m : Monitor) : Prop := ∀ a ∈ m.calls, ∀ more, a.phase = .looking more → more ≤ 1

theorem FewLooks.setPhase {phase : Phase} (few : m.FewLooks)
    (calls : m'.calls = (m.setPhase n a phase).calls)
    (phaseFew : ∀ more, phase = .looking more → more ≤ 1) : m'.FewLooks := by
  intro b there
  rw [calls] at there
  rcases List.mem_or_eq_of_mem_set there with old | rfl
  · exact few b old
  · exact phaseFew

theorem looks_le (what : Submission) : looks what ≤ 2 := by
  cases what <;> simp only [looks] <;> (try split) <;> decide

theorem Stepped.fewLooks (h : m.Stepped action m') (few : m.FewLooks) : m'.FewLooks := by
  cases h with
  | @began thread call idle =>
    intro b there more looking
    rcases List.mem_append.mp there with old | new
    · exact few b old more looking
    · rw [List.mem_singleton.mp new] at looking
      cases call with
      | submit what =>
        have two := looks_le what
        simp only [Call.start, Phase.looking.injEq] at looking
        omega
      | drop =>
        simp only [Call.start, Phase.looking.injEq] at looking
        omega
      | _ => cases looking
  | foundClosed => exact few.setPhase rfl (by simp [Call.onClosed_eq])
  | @foundOpen n a =>
    refine few.setPhase rfl fun more looking => ?_
    rcases a.call.onOpen_cases with ⟨-, opens⟩ | opens <;> rw [opens] at looking <;> cases looking
  | @looksAgain n a more here looking =>
    have before := few a (List.mem_of_getElem? here) _ looking
    refine few.setPhase rfl fun more' again => ?_
    cases again
    omega
  | closes => exact few.setPhase rfl (by simp)
  | closesLate => exact few.setPhase rfl (by simp)
  | claims => exact few.setPhase rfl (by simp)
  | claimsLate => exact few.setPhase rfl (by simp)
  | reached => exact few.setPhase rfl (by simp)
  | queueStepped => exact few

/-- **A call without a result is still to fail**, and has five steps left at most. -/
theorem failsWithin_of_undecided (known : m.Known) (placed : m.WellPlaced) (few : m.FewLooks)
    (here : m.calls[n]? = some a) (asks : a.call.AsksQueue) (undecided : ¬ m.IsDecided n) :
    ∃ r ≤ 5, FailsWithin a.call m n false r := by
  have listed := List.mem_of_getElem? here
  have fits := placed a listed
  cases phase : a.phase with
  | looking more =>
    have one := few a listed more phase
    exact ⟨more + 4, by omega, .looking here rfl phase⟩
  | closing =>
    rw [Activity.Fits, phase] at fits
    refine ⟨3, by decide, .closing here rfl ?_ phase⟩
    rcases fits with close | drop
    · rw [close]; rfl
    · rw [drop]; rfl
  | claiming =>
    rw [Activity.Fits, phase] at fits
    obtain ⟨asked, asks, -⟩ := asks
    rw [fits] at asks
    cases asks
  | calling => exact ⟨2, by decide, .calling here rfl phase⟩
  | queued k =>
    obtain ⟨b, there, -⟩ := known n a k here phase
    refine ⟨1, by decide, .waiting here rfl phase there ?_⟩
    rw [← Queue.Monitor.resultOf_eq there, ← not_not (a := _ = none)]
    exact fun decided => undecided ⟨a, here, Or.inr ⟨k, phase, decided⟩⟩
  | returned refusal => exact absurd ⟨a, here, Or.inl ⟨refusal, phase⟩⟩ undecided

/-- A call that has not begun has no part in a step, and no result after it. -/
theorem Stepped.unbegun (h : m.Stepped action m') (unbegun : m.calls[n]? = none) :
    m.isOwn n action = false ∧ m.findsClosed n action = false ∧ ¬ m'.IsDecided n := by
  refine ⟨?_, ?_, ?_⟩
  · cases action with
    | begin => rfl
    | act i =>
      obtain ⟨b, -, there, -⟩ := h.act_moves
      have other : i ≠ n := by
        rintro rfl
        rw [unbegun] at there
        cases there
      simpa [isOwn] using other
    | queue inner => cases inner <;> simp [isOwn, unbegun]
  · cases action with
    | act i => simp [findsClosed, unbegun]
    | _ => rfl
  · rintro ⟨a, here, decided⟩
    rcases h.origin here with ⟨b, there⟩ | ⟨-, -, start, -⟩
    · rw [unbegun] at there
      cases there
    · rw [start] at decided
      cases call : a.call <;> simp [call, Call.start] at decided

end Monitor

namespace Exchange

open Monitor (Activity Phase Call FailsWithin)

variable {capacity : Nat} {overflow : Overflow} {e e' : Exchange} {n k : Nat} {a : Activity}
  {action : Action} {actions : List Action} {call : Call} {found : Bool} {r : Nat}

/-! ### Steps of one call in a run -/

/-- Whether a step is one of a call's own, at the sender or at the queue. -/
def isOwn (e : Exchange) (n : Nat) : Action → Bool
  | .sender action => e.monitor.isOwn n action
  | _ => false

/-- **How many steps of a run are a call's own.** -/
def ownSteps (e : Exchange) (n : Nat) : List Action → Nat
  | [] => 0
  | action :: actions =>
    (e.isOwn n action).toNat + ((e.step? action).map (·.ownSteps n actions)).getD 0

/-- Whether a call looks at the closed flag in a step, or swaps it, and finds it set. -/
def findsClosed (e : Exchange) (n : Nat) : Action → Bool
  | .sender action => e.monitor.findsClosed n action
  | _ => false

/-- **Whether a call finds the sender closed** in a run. -/
def foundClosed (e : Exchange) (n : Nat) : List Action → Bool
  | [] => false
  | action :: actions =>
    e.findsClosed n action || ((e.step? action).map (·.foundClosed n actions)).getD false

/-- Every step leaves a call that is still to fail fewer steps of its own, or is not its own. -/
theorem Stepped.failsWithin (h : e.Stepped action e') (known : e.monitor.Known)
    (interrupted : e.monitor.queue.queue.interrupted = true) (asks : call.AsksQueue)
    (f : FailsWithin call e.monitor n found r) :
    ∃ r', FailsWithin call e'.monitor n (found || e.findsClosed n action) r' ∧
      (e.isOwn n action).toNat + r' ≤ r := by
  -- a step that is not taken at the sender is nobody's own there
  have begun : ∀ {thread : Nat} {call' : Call} {m : Monitor},
      e.monitor.step? (.begin thread call') = some m →
        ∃ r', FailsWithin call m n (found || false) r' ∧ false.toNat + r' ≤ r :=
    fun step => f.step known asks interrupted step
  have same : ∃ r', FailsWithin call e.monitor n (found || false) r' ∧ false.toNat + r' ≤ r :=
    ⟨r, by rwa [Bool.or_false], by simp⟩
  cases h with
  | acted _ step => exact f.step known asks interrupted step
  | pulled _ _ _ step => exact begun step
  | waitsOn _ _ step => exact begun step
  | ended => exact same
  | handedOut => exact same
  | refused => exact same
  | @called thread asked q idle step =>
    obtain ⟨a, here, -⟩ := f.exists_call
    refine ⟨r, ?_, by simp [isOwn]⟩
    rw [show e.findsClosed n (.direct thread asked) = false from rfl, Bool.or_false]
    refine f.others here here ?_
    intro k b _ there
    cases Queue.Monitor.stepped step with
    | began =>
      refine ⟨b, ?_, Or.inl rfl⟩
      simp [withMonitor, List.getElem?_append_left (List.getElem?_eq_some_iff.mp there).1, there]

/-! ### Runs behind an interruption -/

theorem placed_of_reachable (h : Reachable capacity overflow e) :
    e.monitor.WellPlaced ∧ e.monitor.FewLooks := by
  refine h.invariant stepped (P := fun e => e.monitor.WellPlaced ∧ e.monitor.FewLooks) ?_ ?_
  · intro e e' action both h
    rcases h.monitor_cases with same | ⟨inner, step⟩ | ⟨thread, asked, q, -, same⟩
    · rwa [same]
    · have stepped := Monitor.stepped step
      exact ⟨stepped.wellPlaced both.1, stepped.fewLooks both.2⟩
    · rw [same]
      exact both
  · exact ⟨by rintro a ⟨⟩, by rintro a ⟨⟩⟩

/-- **A call that is still to fail fails in every run**, with the steps that it has left. -/
theorem failsWithin_of_run (l : e.Lawful)
    (interrupted : e.monitor.queue.queue.interrupted = true) (asks : call.AsksQueue)
    (f : FailsWithin call e.monitor n found r) (run : e.run? actions = some e') :
    ∃ r', FailsWithin call e'.monitor n (found || e.foundClosed n actions) r' ∧
      e.ownSteps n actions + r' ≤ r := by
  induction actions generalizing e found r with
  | nil =>
    cases run
    exact ⟨r, by rwa [foundClosed, Bool.or_false], by simp [ownSteps]⟩
  | cons action actions ih =>
    obtain ⟨next, hstep, rest⟩ := Steps.run?_cons_iff.mp run
    have h := stepped hstep
    obtain ⟨r₁, closer, lower⟩ := h.failsWithin l.known interrupted asks f
    obtain ⟨r', closest, bound⟩ := ih (h.lawful l) (h.interrupted interrupted) closer rest
    simp only [foundClosed, ownSteps, hstep, Option.map_some, Option.getD_some, ← Bool.or_assoc]
    exact ⟨r', closest, by omega⟩

/-- A call that has not begun has no part in a step, and no result after it. -/
theorem Stepped.unbegun (h : e.Stepped action e') (unbegun : e.monitor.calls[n]? = none) :
    e.isOwn n action = false ∧ e.findsClosed n action = false ∧ ¬ e'.monitor.IsDecided n := by
  have same : e'.monitor.calls = e.monitor.calls → ¬ e'.monitor.IsDecided n := by
    rintro calls ⟨a, here, -⟩
    rw [calls, unbegun] at here
    cases here
  cases h with
  | acted _ step => exact (Monitor.stepped step).unbegun unbegun
  | pulled _ _ _ step => exact ⟨rfl, rfl, ((Monitor.stepped step).unbegun unbegun).2.2⟩
  | waitsOn _ _ step => exact ⟨rfl, rfl, ((Monitor.stepped step).unbegun unbegun).2.2⟩
  | called => exact ⟨rfl, rfl, same rfl⟩
  | ended => exact ⟨rfl, rfl, same rfl⟩
  | handedOut => exact ⟨rfl, rfl, same rfl⟩
  | refused => exact ⟨rfl, rfl, same rfl⟩

/-- A call goes on asking for the same. -/
theorem call_of_run (run : e.run? actions = some e') {b : Activity}
    (begun : e.monitor.calls[n]? = some b) (here : e'.monitor.calls[n]? = some a) :
    a.call = b.call := by
  have kept : ∃ a, e'.monitor.calls[n]? = some a ∧ a.call = b.call := by
    refine Steps.run_invariant stepped
      (P := fun e' => ∃ a, e'.monitor.calls[n]? = some a ∧ a.call = b.call) ?_ ⟨b, begun, rfl⟩ run
    rintro e e' action ⟨a, here, same⟩ h
    obtain ⟨a', after, -, sameCall⟩ := h.call_stays here
    exact ⟨a', after, sameCall.trans same⟩
  obtain ⟨a', here', same⟩ := kept
  cases here.symm.trans here'
  exact same

theorem fails_of_begun (reachable : Reachable capacity overflow e)
    (interrupted : e.monitor.queue.queue.interrupted = true) (run : e.run? actions = some e')
    (here : e'.monitor.calls[n]? = some a) (asks : a.call.AsksQueue)
    (undecided : ¬ e.monitor.IsDecided n) {b : Activity}
    (begun : e.monitor.calls[n]? = some b) :
    ∃ r, FailsWithin a.call e'.monitor n (e.foundClosed n actions) r ∧
      e.ownSteps n actions + r ≤ 5 := by
  have l := lawful_of_reachable reachable
  have same := call_of_run run begun here
  obtain ⟨placed, few⟩ := placed_of_reachable reachable
  obtain ⟨r, five, f⟩ :=
    Monitor.failsWithin_of_undecided l.known placed few begun (same ▸ asks) undecided
  obtain ⟨r', closer, lower⟩ := failsWithin_of_run l interrupted (same ▸ asks) f run
  exact ⟨r', by simpa [same] using closer, Nat.le_trans lower five⟩

/-- **Whoever has no result when the queue is interrupted fails**, and so does whoever calls later,
in five steps of its own at most. -/
theorem fails_of_undecided (reachable : Reachable capacity overflow e)
    (interrupted : e.monitor.queue.queue.interrupted = true) (run : e.run? actions = some e')
    (here : e'.monitor.calls[n]? = some a) (asks : a.call.AsksQueue)
    (undecided : ¬ e.monitor.IsDecided n) :
    ∃ r, FailsWithin a.call e'.monitor n (e.foundClosed n actions) r ∧
      e.ownSteps n actions + r ≤ 5 := by
  induction actions generalizing e with
  | nil =>
    cases run
    exact fails_of_begun reachable interrupted (Steps.run?_nil _) here asks undecided here
  | cons action actions ih =>
    cases begun : e.monitor.calls[n]? with
    | some b => exact fails_of_begun reachable interrupted run here asks undecided begun
    | none =>
      -- the call begins later on, if not in this step
      obtain ⟨next, hstep, rest⟩ := Steps.run?_cons_iff.mp run
      have h := stepped hstep
      obtain ⟨notOwn, notFound, undecided⟩ := h.unbegun begun
      simp only [foundClosed, ownSteps, hstep, Option.map_some, Option.getD_some, notOwn, notFound,
        Bool.false_or, Bool.toNat_false, Nat.zero_add]
      exact ih (reachable.step hstep) (h.interrupted interrupted) rest undecided

/-- **A call that is still to fail goes its way to its failure.** -/
theorem goes_of_failsWithin (reachable : Reachable capacity overflow e)
    (interrupted : e.monitor.queue.queue.interrupted = true) (asks : call.AsksQueue)
    (f : FailsWithin call e.monitor n found r) :
    e.monitor.Goes n (call.ifInterrupted found) (e.IsOwedWaking n) := by
  cases f with
  | looking here same looking =>
    exact .of_act here (by simp [Monitor.hasReturned, looking]) (by simp [Monitor.act?, looking])
  | closing here same closes closing =>
    refine .of_act here (by simp [Monitor.hasReturned, closing]) ?_
    rw [Monitor.act?, closing]
    dsimp only
    split <;> rfl
  | calling here same calling =>
    obtain ⟨asked, asks, -⟩ := asks
    refine .of_act here (by simp [Monitor.hasReturned, calling]) ?_
    exact reaches_queue (lawful_of_reachable reachable) here calling (same ▸ asks)
  | @waiting a k b here same queued there noResult =>
    have going := Queue.Monitor.Activity.hasReturned_eq_false noResult
    exact .of_going here ((Monitor.hasReturned_of_queued queued there).trans going)
      (goes_at_queue reachable interrupted here queued there going)
  | @refused a k b here same queued there refused =>
    have returned : e.monitor.hasReturned a = true := by
      simp [Monitor.hasReturned_of_queued queued there, Queue.Monitor.Activity.hasReturned, refused]
    refine .of_returned here returned ?_
    simp [Monitor.refusal?, queued, there, Queue.Monitor.Activity.result?, refused,
      Call.ifInterrupted]
  | turnedAway here same returned =>
    refine .of_returned here (by simp [Monitor.hasReturned, returned]) ?_
    rw [Monitor.refusal?, returned, Call.ifInterrupted, if_pos rfl]

end Exchange

end Outbox.Sender
