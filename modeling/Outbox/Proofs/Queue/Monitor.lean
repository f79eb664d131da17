import Outbox.Proofs.Queue.Turn
import Outbox.Queue.Monitor

/-!
# What a step of a monitor can do

`Monitor.Stepped` lists what one step of the threads at a queue can come to, each with the state it
needs and the state it leaves. It is the one place where the step function is opened: an invariant
of all runs is a property that holds of a queue nobody has called and that each of the seven cases
keeps.

Only two of the cases matter to most properties. A call begins, and a call takes its turn; the rest
sends signals and wakes sleepers, which changes how far calls have got and nothing else.

## Main Definitions

* `Monitor.Stepped` — a step, and the monitor it leaves
* `Monitor.stepped` — every step is one of them
-/

namespace Outbox.Queue.Monitor

attribute [simp] Call.onStored Call.onWait Call.after

/-- **What a step can do**, and the monitor it leaves. -/
inductive Stepped (m : Monitor) : Action → Monitor → Prop where
  /-- A call begins on a thread that has no other under way. -/
  | began {thread : Nat} {call : Call} (idle : m.isBusy thread = false) :
    Stepped m (.begin thread call) { m with calls := m.calls ++ [⟨thread, call, .ready false⟩] }
  /-- A call takes its turn. -/
  | entered {n : Nat} {a : Activity} {expired : Bool} {outcome : Outcome} {q : Queue}
    (here : m.calls[n]? = some a) (ready : a.phase = .ready expired)
    (turned : m.queue.Turned a.call.turn outcome q) :
    Stepped m (.enter n)
      (({ m with queue := q }.record n a.call outcome).setPhase n a (a.call.after expired outcome))
  /-- A signal wakes nobody, since nobody sleeps on its condition. -/
  | unheard {n : Nat} {a : Activity} {c : Condition} {rest : List Signal} {result : Result}
    (here : m.calls[n]? = some a) (owes : a.phase = .leaving (.one c :: rest) result)
    (nobody : ∀ b ∈ (m.setPhase n a (.leaving rest result)).calls, b.phase ≠ .asleep c) :
    Stepped m (.signal n none) (m.setPhase n a (.leaving rest result))
  /-- A signal wakes one sleeper. -/
  | heard {n s : Nat} {a b : Activity} {c : Condition} {rest : List Signal} {result : Result}
    (here : m.calls[n]? = some a) (owes : a.phase = .leaving (.one c :: rest) result)
    (there : (m.setPhase n a (.leaving rest result)).calls[s]? = some b)
    (asleep : b.phase = .asleep c) :
    Stepped m (.signal n (some s))
      ((m.setPhase n a (.leaving rest result)).setPhase s b (.ready false))
  /-- A signal wakes all sleepers. -/
  | heardByAll {n : Nat} {a : Activity} {c : Condition} {rest : List Signal} {result : Result}
    (here : m.calls[n]? = some a) (owes : a.phase = .leaving (.all c :: rest) result) :
    Stepped m (.signal n none) ((m.setPhase n a (.leaving rest result)).wakeAll c)
  /-- A sleeper is woken by its deadline. -/
  | expired {n : Nat} {a : Activity} (here : m.calls[n]? = some a) (timed : a.call = .dequeue true)
    (asleep : a.phase = .asleep .message) :
    Stepped m (.expire n) (m.setPhase n a (.ready true))
  /-- A sleeper wakes for no reason. -/
  | stirred {n : Nat} {a : Activity} {c : Condition} (here : m.calls[n]? = some a)
    (asleep : a.phase = .asleep c) :
    Stepped m (.stir n) (m.setPhase n a (.ready false))

/-- Where a call stands among all others. -/
theorem exists_split {α : Type} {l : List α} {n : Nat} {a : α} (h : l[n]? = some a) :
    ∃ before after, l = before ++ a :: after ∧ before.length = n := by
  obtain ⟨inside, rfl⟩ := List.getElem?_eq_some_iff.mp h
  refine ⟨l.take n, l.drop (n + 1), by simp, ?_⟩
  rw [List.length_take]
  omega

/-- What stands in a list with one more element is in the list, or is the one more. -/
theorem getElem?_snoc {α : Type} {l : List α} {last a : α} {n : Nat}
    (h : (l ++ [last])[n]? = some a) : l[n]? = some a ∨ n = l.length ∧ a = last := by
  rcases Nat.lt_trichotomy n l.length with early | rfl | late
  · rw [List.getElem?_append_left early] at h
    exact Or.inl h
  · rw [List.getElem?_concat_length, Option.some.injEq] at h
    exact Or.inr ⟨rfl, h.symm⟩
  · have outside : (l ++ [last]).length ≤ n := by simpa using Nat.succ_le_of_lt late
    rw [List.getElem?_eq_none outside] at h
    cases h

/-- What stands in one place is not seen in another. -/
theorem getElem?_elsewhere {α : Type} {before after : List α} (old new : α) {k : Nat}
    (other : k ≠ before.length) : (before ++ new :: after)[k]? = (before ++ old :: after)[k]? := by
  rcases Nat.lt_or_gt_of_ne other with early | late
  · rw [List.getElem?_append_left early, List.getElem?_append_left early]
  · obtain ⟨i, rfl⟩ := Nat.exists_eq_add_of_lt late
    simp [List.getElem?_append_right, Nat.add_assoc]

@[simp]
theorem record_queue (m : Monitor) (n : Nat) (call : Call) (outcome : Outcome) :
    (m.record n call outcome).queue = m.queue := by
  unfold record
  split <;> try rfl
  split <;> rfl

@[simp]
theorem record_calls (m : Monitor) (n : Nat) (call : Call) (outcome : Outcome) :
    (m.record n call outcome).calls = m.calls := by
  unfold record
  split <;> try rfl
  split <;> rfl

theorem Activity.sleepsOn_iff {a : Activity} {c : Condition} :
    a.sleepsOn c = true ↔ a.phase = .asleep c := by
  simp [sleepsOn]

theorem Activity.hasReturned_iff {a : Activity} :
    a.hasReturned = true ↔ ∃ result, a.phase = .leaving [] result := by
  unfold hasReturned
  split <;> simp_all

theorem Activity.hasReturned_eq_false {a : Activity} (noResult : a.result? = none) :
    a.hasReturned = false := by
  rw [← Bool.not_eq_true]
  intro returned
  obtain ⟨result, done⟩ := hasReturned_iff.mp returned
  simp [result?, done] at noResult

/-- **Every step does one of these.** -/
theorem stepped {m m' : Monitor} {action : Action} (h : m.step? action = some m') :
    m.Stepped action m' := by
  cases action with
  | begin thread call =>
    simp only [step?, Option.ite_none_left_eq_some, Option.some.injEq] at h
    obtain ⟨idle, rfl⟩ := h
    exact .began (by simpa using idle)
  | enter n =>
    simp only [step?, Option.bind_eq_bind, Option.bind_eq_some_iff] at h
    obtain ⟨a, here, h⟩ := h
    split at h
    · next ready =>
      cases h
      exact .entered here ready (m.queue.turned a.call.turn)
    · cases h
  | signal n sleeper =>
    simp only [step?, Option.bind_eq_bind, Option.bind_eq_some_iff] at h
    obtain ⟨a, here, h⟩ := h
    split at h
    · next owes =>
      cases sleeper with
      | none =>
        simp only [wakeOne?, Option.ite_none_left_eq_some, Option.some.injEq, List.any_eq_true,
          Activity.sleepsOn_iff, not_exists, not_and] at h
        obtain ⟨nobody, rfl⟩ := h
        exact .unheard here owes nobody
      | some s =>
        simp only [wakeOne?, Option.bind_eq_bind, Option.bind_eq_some_iff,
          Option.ite_none_right_eq_some, Option.some.injEq, Activity.sleepsOn_iff] at h
        obtain ⟨b, there, asleep, rfl⟩ := h
        exact .heard here owes there asleep
    · next owes =>
      cases sleeper with
      | none =>
        cases h
        exact .heardByAll here owes
      | some s => cases h
    · cases h
  | expire n =>
    simp only [step?, Option.bind_eq_bind, Option.bind_eq_some_iff,
      Option.ite_none_right_eq_some, Option.some.injEq, Activity.sleepsOn_iff] at h
    obtain ⟨a, here, ⟨timed, asleep⟩, rfl⟩ := h
    exact .expired here timed asleep
  | stir n =>
    simp only [step?, Option.bind_eq_bind, Option.bind_eq_some_iff] at h
    obtain ⟨a, here, h⟩ := h
    split at h
    · next asleep =>
      cases h
      exact .stirred here asleep
    · cases h

theorem Stepped.capacity_eq {m m' : Monitor} {action : Action} (h : m.Stepped action m') :
    m'.queue.capacity = m.queue.capacity := by
  cases h with
  | entered _ _ turned => simpa [setPhase] using turned.capacity_eq
  | began => rfl
  | unheard => rfl
  | heard => rfl
  | heardByAll => rfl
  | expired => rfl
  | stirred => rfl

end Outbox.Queue.Monitor
