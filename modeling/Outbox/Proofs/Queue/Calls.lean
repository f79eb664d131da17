import Outbox.Proofs.Queue.Monitor

/-!
# One call among all others

Seen from a single call at a queue, most steps are those of others, and they do nothing to it but
wake it up. What it does itself is take its turn and send the signals that it owes. `Moved` lists
these cases, so what a call goes through from some moment on is an induction over four of them, not
over everything that threads can do.

## Main Definitions

* `Monitor.Moved` — what a step makes of one call
* `Monitor.Stepped.moved` — every step does one of these to each call
-/

namespace Outbox.Queue.Monitor

/-- **What a step makes of one call.** -/
inductive Moved (q q' : Queue) (n : Nat) (a : Activity) : Action → Activity → Prop where
  /-- It is the step of another call. -/
  | still {action : Action} (notTurn : action ≠ .enter n)
    (notSignal : ∀ sleeper, action ≠ .signal n sleeper) : Moved q q' n a action a
  /-- The call is woken in the step of another, by its deadline, or for no reason. -/
  | woken {action : Action} {c : Condition} {expired : Bool} (notTurn : action ≠ .enter n)
    (notSignal : ∀ sleeper, action ≠ .signal n sleeper) (asleep : a.phase = .asleep c) :
    Moved q q' n a action { a with phase := .ready expired }
  /-- The call takes its turn. -/
  | entered {expired : Bool} {outcome : Outcome} (ready : a.phase = .ready expired)
    (turned : q.Turned a.call.turn outcome q') :
    Moved q q' n a (.enter n) { a with phase := a.call.after expired outcome }
  /-- The call sends a signal. -/
  | signalled {sleeper : Option Nat} {signal : Signal} {rest : List Signal} {result : Result}
    (owes : a.phase = .leaving (signal :: rest) result) :
    Moved q q' n a (.signal n sleeper) { a with phase := .leaving rest result }

variable {m m' : Monitor} {n k : Nat} {a b : Activity} {action : Action}

theorem Moved.thread_eq {q q' : Queue} (h : Moved q q' n a action b) : b.thread = a.thread := by
  cases h <;> rfl

theorem Moved.call_eq {q q' : Queue} (h : Moved q q' n a action b) : b.call = a.call := by
  cases h <;> rfl

/-- A call that has returned takes no more part. -/
theorem Moved.eq_of_returned {q q' : Queue} (h : Moved q q' n a action b)
    (returned : a.hasReturned = true) : b = a := by
  obtain ⟨result, phase⟩ := Activity.hasReturned_iff.mp returned
  cases h with
  | still => rfl
  | woken _ _ asleep => rw [phase] at asleep; cases asleep
  | entered ready => rw [phase] at ready; cases ready
  | signalled owes => rw [phase] at owes; cases owes

theorem getElem?_setPhase_self {phase : Phase} (here : m.calls[n]? = some a) :
    (m.setPhase n b phase).calls[n]? = some { b with phase := phase } := by
  have inside := (List.getElem?_eq_some_iff.mp here).1
  simp [setPhase, inside]

theorem getElem?_setPhase_other {phase : Phase} (other : n ≠ k) :
    (m.setPhase n b phase).calls[k]? = m.calls[k]? :=
  List.getElem?_set_ne other

/-- What is seen behind a call put in another phase is that call, or another that stood there. -/
theorem getElem?_setPhase {phase : Phase} (there : (m.setPhase n a phase).calls[k]? = some b) :
    (k = n ∧ b = { a with phase := phase }) ∨ (k ≠ n ∧ m.calls[k]? = some b) := by
  by_cases own : n = k
  · subst own
    have inside := (List.getElem?_eq_some_iff.mp there).1
    rw [setPhase, List.length_set] at inside
    rw [setPhase, List.getElem?_set_self inside, Option.some.injEq] at there
    exact Or.inl ⟨rfl, there.symm⟩
  · rw [getElem?_setPhase_other own] at there
    exact Or.inr ⟨Ne.symm own, there⟩

/-- When one call is put in another phase, every other stands as it stood. -/
theorem setPhase_cases {phase : Phase} (here : m.calls[n]? = some a)
    (there : m.calls[k]? = some b) :
    (n = k ∧ a = b ∧ (m.setPhase n a phase).calls[k]? = some { b with phase := phase }) ∨
      (n ≠ k ∧ (m.setPhase n a phase).calls[k]? = some b) := by
  by_cases own : n = k
  · subst own
    cases here.symm.trans there
    exact Or.inl ⟨rfl, rfl, getElem?_setPhase_self here⟩
  · exact Or.inr ⟨own, (getElem?_setPhase_other own).trans there⟩

theorem getElem?_wakeAll (there : m.calls[k]? = some b) (c : Condition) :
    (m.wakeAll c).calls[k]? = some (if b.sleepsOn c then b.woken else b) := by
  simp [wakeAll, there]

/-- **Every step does one of these to each call.** -/
theorem Stepped.moved (h : m.Stepped action m') (there : m.calls[k]? = some b) :
    ∃ b', m'.calls[k]? = some b' ∧ Moved m.queue m'.queue k b action b' := by
  cases h with
  | began idle =>
    refine ⟨b, ?_, .still (by simp) (by simp)⟩
    rw [List.getElem?_append_left (List.getElem?_eq_some_iff.mp there).1, there]
  | @entered n a expired outcome q here ready turned =>
    have kept : ({ m with queue := q }.record n a.call outcome).calls = m.calls := by simp
    rw [← kept] at here there
    rcases setPhase_cases here there with ⟨rfl, rfl, set⟩ | ⟨own, stood⟩
    · exact ⟨_, set, .entered ready (by simpa [setPhase] using turned)⟩
    · exact ⟨b, stood, .still (by simp [own]) (by simp)⟩
  | unheard here owes nobody =>
    rcases setPhase_cases here there with ⟨rfl, rfl, set⟩ | ⟨own, stood⟩
    · exact ⟨_, set, .signalled owes⟩
    · exact ⟨b, stood, .still (by simp) (by simp [own])⟩
  | heard here owes sleeper asleep =>
    rcases setPhase_cases here there with ⟨rfl, rfl, set⟩ | ⟨own, stood⟩
    · rcases setPhase_cases sleeper set with ⟨rfl, rfl, -⟩ | ⟨-, set⟩
      · -- the call that sends the signal does not sleep, so it is not the one that is woken
        cases asleep
      · exact ⟨_, set, .signalled owes⟩
    · rcases setPhase_cases sleeper stood with ⟨rfl, rfl, woken⟩ | ⟨-, stood⟩
      · exact ⟨_, woken, .woken (by simp) (by simp [own]) asleep⟩
      · exact ⟨b, stood, .still (by simp) (by simp [own])⟩
  | @heardByAll n a c rest result here owes =>
    rcases setPhase_cases here there with ⟨rfl, rfl, set⟩ | ⟨own, stood⟩
    · refine ⟨_, getElem?_wakeAll set c, ?_⟩
      rw [if_neg (by simp [Activity.sleepsOn])]
      exact .signalled owes
    · refine ⟨_, getElem?_wakeAll stood c, ?_⟩
      by_cases sleeps : b.sleepsOn c = true
      · rw [if_pos sleeps]
        exact .woken (by simp) (by simp [own]) (Activity.sleepsOn_iff.mp sleeps)
      · rw [if_neg sleeps]
        exact .still (by simp) (by simp [own])
  | expired here timed asleep =>
    rcases setPhase_cases here there with ⟨rfl, rfl, set⟩ | ⟨-, stood⟩
    · exact ⟨_, set, .woken (by simp) (by simp) asleep⟩
    · exact ⟨b, stood, .still (by simp) (by simp)⟩
  | stirred here asleep =>
    rcases setPhase_cases here there with ⟨rfl, rfl, set⟩ | ⟨-, stood⟩
    · exact ⟨_, set, .woken (by simp) (by simp) asleep⟩
    · exact ⟨b, stood, .still (by simp) (by simp)⟩

end Outbox.Queue.Monitor
