import Outbox.Proofs.Queue.Calls
import Outbox.Proofs.Queue.Records

/-!
# Turns can be taken without delay

A schedule may let the signals of a turn wait, and may let the time of a sleeping call run out. It
need not. In a calm queue nobody owes a signal and nobody's time has run out; whoever has not come
to anything yet can be brought to its next turn there, since a sleeper may wake for no reason; and
after a turn that comes to something its signals can be sent at once, which leaves a calm queue
again.

## Main Definitions

* `Monitor.Calm` — nobody owes a signal, and nobody's time has run out
* `Monitor.Action.isPassive` — the steps that send a signal or wake a sleeper for no reason
* `Monitor.Calm.exists_turn` — from calm to calm, with a turn between
-/

namespace Outbox.Queue.Monitor

variable {m m' : Monitor} {k : Nat} {a : Activity}

/-- A call that owes no signal, and whose time has not run out. -/
def Activity.IsCalm (a : Activity) : Prop :=
  match a.phase with
  | .ready expired => expired = false
  | .asleep _ => True
  | .leaving signals result => signals = [] ∧ result ≠ .fetched none

/-- **A calm queue**: nobody owes a signal, and nobody's time has run out. -/
def Calm (m : Monitor) : Prop := ∀ (k : Nat) (a : Activity), m.calls[k]? = some a → a.IsCalm

/-- A step that sends a signal or wakes a sleeper for no reason. -/
def Action.isPassive : Action → Bool
  | .signal _ _ => true
  | .stir _ => true
  | _ => false

/-- **Passive steps** change neither the queue nor what is on record. -/
theorem passive_run {actions : List Action} (passive : ∀ action ∈ actions, action.isPassive = true)
    (run : m.run? actions = some m') : m'.queue = m.queue ∧ m'.records = m.records := by
  induction actions generalizing m with
  | nil =>
    cases run
    exact ⟨rfl, rfl⟩
  | cons action actions ih =>
    obtain ⟨next, step, run⟩ := Steps.run?_cons_iff.mp run
    obtain ⟨queue, records⟩ := ih (fun other listed => passive other (by simp [listed])) run
    have isPassive := passive action (by simp)
    have recorded := (stepped step).recorded
    cases recorded with
    | began => cases isPassive
    | entered => cases isPassive
    | kept _ _ sameQueue _ _ sameRecords => exact ⟨queue.trans sameQueue, records.trans sameRecords⟩

/-- Who is under way in a calm queue has not come to anything. -/
theorem Calm.result?_eq_none (calm : m.Calm) (here : m.calls[k]? = some a)
    (going : a.hasReturned = false) : a.result? = none := by
  have isCalm := calm k a here
  unfold Activity.IsCalm at isCalm
  unfold Activity.result?
  split
  · next signals result leaving =>
    rw [leaving] at isCalm
    have returned : a.hasReturned = true :=
      Activity.hasReturned_iff.mpr ⟨result, by rw [leaving, isCalm.1]⟩
    rw [going] at returned
    cases returned
  · rfl

theorem Calm.not_vain (calm : m.Calm) (here : m.calls[k]? = some a) :
    a.result? ≠ some (.fetched none) := by
  have isCalm := calm k a here
  unfold Activity.IsCalm at isCalm
  unfold Activity.result?
  split
  · next signals result leaving =>
    rw [leaving] at isCalm
    exact fun vain => isCalm.2 (Option.some.inj vain)
  · simp

/-- A call begins in a calm queue. -/
theorem Calm.snoc (calm : m.Calm) {thread : Nat} {call : Call} :
    Calm { m with calls := m.calls ++ [⟨thread, call, .ready false⟩] } := by
  intro i b there
  rcases getElem?_snoc there with old | ⟨-, rfl⟩
  · exact calm i b old
  · exact rfl

/-! ### Sending all signals -/

/-- All calls but one are calm. -/
def CalmBut (m : Monitor) (k : Nat) : Prop :=
  ∀ (i : Nat) (b : Activity), m.calls[i]? = some b → i ≠ k → b.IsCalm

theorem CalmBut.setPhase (others : m.CalmBut k) (phase : Phase) :
    (m.setPhase k a phase).CalmBut k := by
  intro i b there other
  rw [getElem?_setPhase_other (Ne.symm other)] at there
  exact others i b there other

/-- Whoever is woken is calm. -/
theorem CalmBut.wake (others : m.CalmBut k) {s : Nat} :
    (m.setPhase s a (.ready false)).CalmBut k := by
  intro i b there other
  rcases getElem?_setPhase there with ⟨-, rfl⟩ | ⟨-, stood⟩
  · exact rfl
  · exact others i b stood other

theorem CalmBut.wakeAll (others : m.CalmBut k) (c : Condition) : (m.wakeAll c).CalmBut k := by
  intro i b there other
  simp only [Monitor.wakeAll, List.getElem?_map, Option.map_eq_some_iff] at there
  obtain ⟨d, stood, rfl⟩ := there
  split
  · exact rfl
  · exact others i d stood other

/-- A signal to one is sent, and wakes a sleeper if there is one. -/
theorem exists_signal_one {c : Condition} {rest : List Signal} {result : Result}
    (here : m.calls[k]? = some a) (owes : a.phase = .leaving (.one c :: rest) result)
    (others : m.CalmBut k) :
    ∃ sleeper m', m.step? (.signal k sleeper) = some m' ∧
      m'.calls[k]? = some { a with phase := .leaving rest result } ∧ m'.CalmBut k := by
  have sent : (m.setPhase k a (.leaving rest result)).calls[k]? =
      some { a with phase := .leaving rest result } := getElem?_setPhase_self here
  have calm := others.setPhase (a := a) (.leaving rest result)
  by_cases sleepers : ∃ (s : Nat) (b : Activity),
      (m.setPhase k a (.leaving rest result)).calls[s]? = some b ∧ b.phase = .asleep c
  · obtain ⟨s, b, there, asleep⟩ := sleepers
    have other : s ≠ k := by
      rintro rfl
      cases sent.symm.trans there
      cases asleep
    refine ⟨some s, (m.setPhase k a (.leaving rest result)).setPhase s b (.ready false), ?_, ?_,
      calm.wake⟩
    · simp [step?, here, owes, wakeOne?, there, Activity.sleepsOn, asleep]
      rfl
    · rw [getElem?_setPhase_other other, sent]
  · refine ⟨none, m.setPhase k a (.leaving rest result), ?_, sent, calm⟩
    have nobody : ∀ b ∈ (m.setPhase k a (.leaving rest result)).calls, b.phase ≠ .asleep c := by
      intro b listed asleep
      obtain ⟨s, there⟩ := List.getElem?_of_mem listed
      exact sleepers ⟨s, b, there, asleep⟩
    simp only [step?, here, owes, wakeOne?, Option.bind_eq_bind, Option.bind_some]
    rw [if_neg]
    simpa [Activity.sleepsOn] using nobody

/-- A call sends its next signal, and everybody else stays calm. -/
theorem exists_signal {signal : Signal} {rest : List Signal} {result : Result}
    (here : m.calls[k]? = some a) (owes : a.phase = .leaving (signal :: rest) result)
    (others : m.CalmBut k) :
    ∃ sleeper m', m.step? (.signal k sleeper) = some m' ∧
      m'.calls[k]? = some { a with phase := .leaving rest result } ∧ m'.CalmBut k := by
  cases signal with
  | one c => exact exists_signal_one here owes others
  | all c =>
    refine ⟨none, (m.setPhase k a (.leaving rest result)).wakeAll c, by simp [step?, here, owes],
      ?_, (others.setPhase _).wakeAll c⟩
    rw [getElem?_wakeAll (getElem?_setPhase_self here), if_neg (by simp [Activity.sleepsOn])]

/-- **All signals of a turn can be sent at once.** -/
theorem exists_flush {signals : List Signal} {result : Result} (here : m.calls[k]? = some a)
    (leaving : a.phase = .leaving signals result) (something : result ≠ .fetched none)
    (others : m.CalmBut k) :
    ∃ actions m', m.run? actions = some m' ∧
      (∀ action ∈ actions, action.isPassive = true) ∧ m'.Calm := by
  induction signals generalizing m a with
  | nil =>
    refine ⟨[], m, rfl, nofun, fun i b there => ?_⟩
    by_cases own : i = k
    · subst own
      cases here.symm.trans there
      rw [Activity.IsCalm, leaving]
      exact ⟨rfl, something⟩
    · exact others i b there own
  | cons signal rest ih =>
    obtain ⟨sleeper, next, step, there, calm⟩ := exists_signal here leaving others
    obtain ⟨actions, m', run, passive, calmAfter⟩ := ih there rfl calm
    refine ⟨.signal k sleeper :: actions, m', Steps.run?_cons_iff.mpr ⟨next, step, run⟩, ?_,
      calmAfter⟩
    intro action listed
    rcases List.mem_cons.mp listed with rfl | later
    · rfl
    · exact passive action later

/-! ### A turn -/

/-- A call that has not come to anything can be brought to its next turn. -/
theorem Calm.exists_ready (calm : m.Calm) (here : m.calls[k]? = some a)
    (unsettled : a.result? = none) :
    ∃ actions m', m.run? actions = some m' ∧ (∀ action ∈ actions, action.isPassive = true) ∧
      m'.Calm ∧ m'.calls[k]? = some { a with phase := .ready false } := by
  have isCalm := calm k a here
  unfold Activity.IsCalm at isCalm
  cases phase : a.phase with
  | ready expired =>
    rw [phase] at isCalm
    cases isCalm
    exact ⟨[], m, rfl, nofun, calm, by rw [here, ← phase]⟩
  | asleep c =>
    refine ⟨[.stir k], m.setPhase k a (.ready false), ?_, by simp [Action.isPassive], ?_,
      getElem?_setPhase_self here⟩
    · refine Steps.run?_singleton_iff.mpr ?_
      simp only [step?, here, phase, Option.bind_eq_bind, Option.bind_some]
      rfl
    · intro i b there
      rcases getElem?_setPhase there with ⟨-, rfl⟩ | ⟨-, stood⟩
      · exact rfl
      · exact calm i b stood
  | leaving signals result => simp [Activity.result?, phase] at unsettled

/-- **From calm to calm, with a turn between** that comes to something. -/
theorem Calm.exists_turn (calm : m.Calm) (here : m.calls[k]? = some a)
    (unsettled : a.result? = none) (comes : (m.queue.turn a.call.turn).1 ≠ .waits) :
    ∃ before m₁ m₂ after m₃, m.run? before = some m₁ ∧
      (∀ action ∈ before, action.isPassive = true) ∧
      m₁.calls[k]? = some { a with phase := .ready false } ∧ m₁.step? (.enter k) = some m₂ ∧
      m₂.run? after = some m₃ ∧ (∀ action ∈ after, action.isPassive = true) ∧ m₃.Calm := by
  obtain ⟨before, m₁, run, passive, calm₁, ready⟩ := calm.exists_ready here unsettled
  obtain ⟨queue, -⟩ := passive_run passive run
  have step : m₁.step? (.enter k) = some (m₁.enter k { a with phase := .ready false } false) := by
    simp [step?, ready]
  have now : (m₁.enter k { a with phase := .ready false } false).calls[k]? =
      some { a with phase := a.call.after false (m.queue.turn a.call.turn).1 } := by
    rw [enter, getElem?_setPhase_self (by rwa [record_calls]), queue]
  have others : (m₁.enter k { a with phase := .ready false } false).CalmBut k := by
    intro i b there other
    rw [enter, getElem?_setPhase_other (Ne.symm other), record_calls] at there
    exact calm₁ i b there
  have leaving : ∃ signals result, a.call.after false (m.queue.turn a.call.turn).1 =
      .leaving signals result ∧ result ≠ .fetched none := by
    cases outcome : (m.queue.turn a.call.turn).1 with
    | waits => exact absurd outcome comes
    | _ => exact ⟨_, _, rfl, by simp⟩
  obtain ⟨signals, result, phase, something⟩ := leaving
  obtain ⟨after, m₃, runAfter, passiveAfter, calm₃⟩ := exists_flush now phase something others
  exact ⟨before, m₁, _, after, m₃, run, passive, ready, step, runAfter, passiveAfter, calm₃⟩

end Outbox.Queue.Monitor
