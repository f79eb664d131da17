/-!
# Runs of a machine

A machine is given by what each of its actions does to a state, where the action is possible at all.
A run is a list of actions that are possible one behind the other. The monitors, the exchanges and
the scanner of this library are such machines; what holds of their runs for no other reason than
that they are runs is said here, once.

An invariant is shown by what a step can do, which each machine says in a relation of its own. So
the rule for invariants asks for that relation and not for the function behind it.

## Main Definitions

* `Steps.run?` — any number of steps, where they are possible
* `Steps.Reachable` — the states that some run leads to
* `Steps.run_invariant` — what all steps keep holds in all runs
-/

namespace Outbox.Steps

variable {σ α : Type} {step? : σ → α → Option σ} {s s' : σ} {a : α} {actions : List α}

/-- **Any number of steps**, where they are possible. -/
def run? (step? : σ → α → Option σ) (s : σ) (actions : List α) : Option σ :=
  actions.foldlM step? s

/-- **The states of all runs** from a state. -/
def Reachable (step? : σ → α → Option σ) (s s' : σ) : Prop :=
  ∃ actions, run? step? s actions = some s'

@[simp]
theorem run?_nil (s : σ) : run? step? s [] = some s := rfl

theorem run?_cons (s : σ) (a : α) (actions : List α) :
    run? step? s (a :: actions) = (step? s a).bind (run? step? · actions) := rfl

theorem run?_append (s : σ) (first second : List α) :
    run? step? s (first ++ second) = (run? step? s first).bind (run? step? · second) := by
  simp [run?, List.foldlM_append, Option.bind_eq_bind]

/-- A run that begins with an action is its step and a run from there. -/
theorem run?_cons_iff :
    run? step? s (a :: actions) = some s' ↔
      ∃ next, step? s a = some next ∧ run? step? next actions = some s' :=
  Option.bind_eq_some_iff

/-- A run is cut in two at a state in between. -/
theorem run?_append_iff {first second : List α} :
    run? step? s (first ++ second) = some s' ↔
      ∃ middle, run? step? s first = some middle ∧ run? step? middle second = some s' := by
  rw [run?_append, Option.bind_eq_some_iff]

theorem run?_singleton_iff : run? step? s [a] = some s' ↔ step? s a = some s' := by
  simp [run?_cons_iff]

/-- **What every step keeps holds in every run** from a state of which it holds. -/
theorem run_invariant {Stepped : σ → α → σ → Prop}
    (stepped : ∀ {s s' : σ} {a : α}, step? s a = some s' → Stepped s a s') {P : σ → Prop}
    (keeps : ∀ {s s' : σ} {a : α}, P s → Stepped s a s' → P s') (first : P s)
    (run : run? step? s actions = some s') : P s' := by
  induction actions generalizing s with
  | nil =>
    cases run
    exact first
  | cons a actions ih =>
    obtain ⟨next, step, rest⟩ := run?_cons_iff.mp run
    exact ih (keeps first (stepped step)) rest

namespace Reachable

variable {start : σ}

theorem refl (s : σ) : Reachable step? s s := ⟨[], rfl⟩

theorem run (h : Reachable step? start s) (run : run? step? s actions = some s') :
    Reachable step? start s' := by
  obtain ⟨before, here⟩ := h
  exact ⟨before ++ actions, run?_append_iff.mpr ⟨s, here, run⟩⟩

theorem step (h : Reachable step? start s) (step : step? s a = some s') :
    Reachable step? start s' :=
  h.run (run?_singleton_iff.mpr step)

/-- **What holds at the start and is kept by every step holds of all that is reachable.** -/
theorem invariant (h : Reachable step? start s) {Stepped : σ → α → σ → Prop}
    (stepped : ∀ {s s' : σ} {a : α}, step? s a = some s' → Stepped s a s') {P : σ → Prop}
    (keeps : ∀ {s s' : σ} {a : α}, P s → Stepped s a s' → P s') (first : P start) : P s := by
  obtain ⟨actions, run⟩ := h
  exact run_invariant stepped keeps first run

end Reachable

end Outbox.Steps
