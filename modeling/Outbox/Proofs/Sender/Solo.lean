import Outbox.Proofs.Sender.View

/-!
# The stream waits alone

Where nobody takes messages past the stream, every wait that has not come to anything yet is that of
the pull under way, at the sender as well as at the queue. So when a pull is over, and when its wait
has run out, nobody waits; and what a wait takes out of the queue is what the pull will answer.

## Main Definitions

* `Exchange.Solo` — the stream waits alone; every step that takes no messages past it keeps this
* `Exchange.Rested` — nobody waits
* `Monitor.Threaded` — a call that has reached the queue is on the same thread there
-/

namespace Outbox

namespace Sender.Monitor

variable {m m' : Monitor} {n : Nat} {a : Activity}

/-- A call that has reached the queue is on the same thread there. -/
def Threaded (m : Monitor) : Prop :=
  ∀ (n : Nat) (a : Activity) (k : Nat), m.calls[n]? = some a → a.phase = .queued k →
    ∃ b, m.queue.calls[k]? = some b ∧ b.thread = a.thread

theorem Threaded.of_queue {inner : Queue.Monitor.Action} {q : Queue.Monitor} (t : m.Threaded)
    (step : m.queue.step? inner = some q) : Threaded { m with queue := q } := by
  intro n a k here queued
  obtain ⟨b, there, same⟩ := t n a k here queued
  obtain ⟨b', after, moved⟩ := (Queue.Monitor.stepped step).moved there
  exact ⟨b', after, moved.thread_eq.trans same⟩

theorem Stepped.threaded {action : Action} (h : m.Stepped action m') (t : m.Threaded) :
    m'.Threaded := by
  intro n a k here queued
  rcases h.queued_origin here queued with before | ⟨rfl, call, -, step⟩
  · obtain ⟨b, there, same⟩ := t n a k before queued
    rcases h.queue_stepped with stays | ⟨inner, step⟩
    · exact ⟨b, by rw [stays, there], same⟩
    · obtain ⟨b', after, moved⟩ := (Queue.Monitor.stepped step).moved there
      exact ⟨b', after, moved.thread_eq.trans same⟩
  · generalize m'.queue = q at step
    cases Queue.Monitor.stepped step with
    | began => exact ⟨_, List.getElem?_concat_length, rfl⟩

end Sender.Monitor

namespace Sender.Exchange

open Monitor (Activity Phase)
open Queue.Monitor (Record)

variable {e e' : Exchange} {action : Action} {m : Monitor}

/-- **The stream waits alone**: every wait that has not come to anything is that of the pull under
way. -/
structure Solo (e : Exchange) : Prop where
  atSender : ∀ (n : Nat) (a : Activity), e.monitor.calls[n]? = some a → a.call.isWait = true →
    (a.phase = .calling ∧ e.pull = some ⟨a.thread, n⟩) ∨ ∃ k, a.phase = .queued k
  atQueue : ∀ (k : Nat) (r : Record), e.monitor.queue.records[k]? = some r →
    r.call.isWait = true → r.result = none →
      ∃ n a, e.pull = some ⟨r.thread, n⟩ ∧ e.monitor.calls[n]? = some a ∧ a.phase = .queued k

/-- **Nobody waits**: every wait has come to something. -/
structure Rested (e : Exchange) : Prop where
  atSender : ∀ (n : Nat) (a : Activity), e.monitor.calls[n]? = some a → a.call.isWait = true →
    ∃ k, a.phase = .queued k
  atQueue : ∀ (k : Nat) (r : Record), e.monitor.queue.records[k]? = some r →
    r.call.isWait = true → r.result ≠ none

theorem Rested.solo (r : e.Rested) : e.Solo :=
  ⟨fun n a here wait => Or.inr (r.atSender n a here wait),
    fun k rec there wait none => absurd none (r.atQueue k rec there wait)⟩

theorem Solo.rested_of_alone (s : e.Solo) (alone : e.pull = none) : e.Rested := by
  constructor
  · intro n a here wait
    rcases s.atSender n a here wait with ⟨-, pulling⟩ | queued
    · rw [alone] at pulling
      cases pulling
    · exact queued
  · intro k r there wait unsettled
    obtain ⟨n, a, pulling, -⟩ := s.atQueue k r there wait unsettled
    rw [alone] at pulling
    cases pulling

theorem onRecord?_of_waited {p : Pull} {result : Queue.Monitor.Result}
    (waited : e.waited? p = some result) :
    ∃ a k r, e.monitor.calls[p.wait]? = some a ∧ a.phase = .queued k ∧
      e.monitor.queue.records[k]? = some r ∧ r.result = some result := by
  obtain ⟨a, k, b, here, queued, there, done⟩ := waited?_eq_some_iff.mp waited
  refine ⟨a, k, b.record, here, queued, Queue.Monitor.record_of_call there, ?_⟩
  simp [Queue.Monitor.Activity.record, Queue.Monitor.Activity.result?, done]

theorem Solo.rested_of_waited (s : e.Solo) {p : Pull} {result : Queue.Monitor.Result}
    (pulling : e.pull = some p) (waited : e.waited? p = some result) : e.Rested := by
  obtain ⟨b, i, r', here', queued', there', settled⟩ := onRecord?_of_waited waited
  constructor
  · intro n a here wait
    rcases s.atSender n a here wait with ⟨calling, own⟩ | queued
    · cases pulling.symm.trans own
      cases here.symm.trans here'
      rw [calling] at queued'
      cases queued'
    · exact queued
  · intro k r there wait unsettled
    obtain ⟨n, a, own, here, queued⟩ := s.atQueue k r there wait unsettled
    cases pulling.symm.trans own
    cases here.symm.trans here'
    cases queued.symm.trans queued'
    cases there.symm.trans there'
    rw [settled] at unsettled
    cases unsettled

/-- From rest a wait may begin. -/
theorem Rested.waits (r : e.Rested) {thread : Nat} {timed : Bool}
    (step : e.monitor.step? (.begin thread (.take timed)) = some m) :
    ({ e with monitor := m, pull := some ⟨thread, e.monitor.calls.length⟩ } : Exchange).Solo := by
  cases Monitor.stepped step with
  | began =>
    refine ⟨fun n a here wait => ?_, fun k rec there wait unsettled => ?_⟩
    · rcases Queue.Monitor.getElem?_snoc here with old | ⟨rfl, rfl⟩
      · exact Or.inr (r.atSender n a old wait)
      · exact Or.inl ⟨rfl, rfl⟩
    · exact absurd unsettled (r.atQueue k rec there wait)

/-- A rested exchange stays so when its pull is over. -/
theorem Rested.pull_over (r : e.Rested) {hasNext : Bool} {answers : List Answer} :
    (⟨e.monitor, hasNext, none, answers⟩ : Exchange).Rested :=
  ⟨r.atSender, r.atQueue⟩

/-- A turn at the queue leaves those waits unsettled that come to nothing. -/
theorem Solo.of_queue (s : e.Solo) {inner : Queue.Monitor.Action} {q : Queue.Monitor}
    (h : e.monitor.queue.Recorded inner q)
    (begun : ∀ thread call, inner = .begin thread call → call.isWait = false) :
    (e.withMonitor { e.monitor with queue := q }).Solo := by
  refine ⟨s.atSender, fun k r there wait unsettled => ?_⟩
  replace there : q.records[k]? = some r := there
  cases h with
  | began _ _ _ _ records =>
    rcases Queue.Monitor.getElem?_snoc (records ▸ there) with old | ⟨-, rfl⟩
    · exact s.atQueue k r old wait unsettled
    · rw [begun _ _ rfl] at wait
      cases wait
  | @entered _ n thread call expired outcome before after was number turned _ _ _ records =>
    by_cases own : k = n
    · subst own number
      rw [records] at there
      simp only [List.getElem?_append_right (Nat.le_refl _), Nat.sub_self, List.getElem?_cons_zero,
        Option.some.injEq] at there
      subst there
      exact s.atQueue before.length ⟨thread, call, none⟩ (by simp [was]) wait rfl
    · rw [records, Queue.Monitor.getElem?_elsewhere ⟨thread, call, none⟩ _ (number ▸ own), ← was]
        at there
      exact s.atQueue k r there wait unsettled
  | kept _ _ _ _ _ records =>
    rw [records] at there
    exact s.atQueue k r there wait unsettled

/-- What a call asks of the queue is a wait exactly if the call is one. -/
theorem isWait_of_asks {call : Monitor.Call} {asked : Queue.Monitor.Call}
    (asks : call.onQueue? = some asked) : asked.isWait = call.isWait := by
  cases call <;> cases asks <;> rfl

/-- A call that looks at a flag of the sender's is no wait. -/
theorem Solo.not_wait (s : e.Solo) {n : Nat} {a : Activity} (here : e.monitor.calls[n]? = some a)
    (notCalling : a.phase ≠ .calling) (notQueued : ∀ k, a.phase ≠ .queued k) :
    a.call.isWait = false := by
  rw [← Bool.not_eq_true]
  intro wait
  rcases s.atSender n a here wait with ⟨calling, -⟩ | ⟨k, queued⟩
  · exact notCalling calling
  · exact notQueued k queued

/-- A wait that is about to call the queue is that of the pull. -/
theorem Solo.pull_of_calling (s : e.Solo) {n : Nat} {a : Activity}
    (here : e.monitor.calls[n]? = some a) (calling : a.phase = .calling)
    (wait : a.call.isWait = true) : e.pull = some ⟨a.thread, n⟩ := by
  rcases s.atSender n a here wait with ⟨-, pulling⟩ | ⟨k, queued⟩
  · exact pulling
  · rw [calling] at queued
    cases queued

/-- Another call than a wait gets further at the sender. -/
theorem Solo.of_setPhase (s : e.Solo) {n : Nat} {a : Activity} {phase : Phase}
    (here : e.monitor.calls[n]? = some a) (other : a.call.isWait = false)
    (notQueued : ∀ k, a.phase ≠ .queued k)
    (calls : m.calls = e.monitor.calls.set n { a with phase := phase })
    (queue : m.queue = e.monitor.queue) : (e.withMonitor m).Solo := by
  have inside := (List.getElem?_eq_some_iff.mp here).1
  constructor
  · intro i b there wait
    replace there : m.calls[i]? = some b := there
    rw [calls] at there
    by_cases own : n = i
    · subst own
      rw [List.getElem?_set_self inside, Option.some.injEq] at there
      rw [← there] at wait
      exact absurd wait (by simp [other])
    · rw [List.getElem?_set_ne own] at there
      exact s.atSender i b there wait
  · intro k r there wait unsettled
    replace there : m.queue.records[k]? = some r := there
    rw [queue] at there
    obtain ⟨i, b, pulling, stands, queued⟩ := s.atQueue k r there wait unsettled
    have away : n ≠ i := by
      rintro rfl
      cases here.symm.trans stands
      exact notQueued k queued
    refine ⟨i, b, pulling, ?_, queued⟩
    show m.calls[i]? = some b
    rw [calls, List.getElem?_set_ne away, stands]

/-- A call takes a step of its own at the sender: with the flags there, or by calling the queue. -/
theorem act_cases {n : Nat} (h : e.monitor.Stepped (.act n) m) :
    (∃ a phase, e.monitor.calls[n]? = some a ∧ a.phase ≠ .calling ∧ (∀ k, a.phase ≠ .queued k) ∧
      m.calls = e.monitor.calls.set n { a with phase := phase } ∧ m.queue = e.monitor.queue) ∨
    ∃ a call q, e.monitor.calls[n]? = some a ∧ a.phase = .calling ∧ a.call.onQueue? = some call ∧
      e.monitor.queue.Recorded (.begin a.thread call) q ∧
        m = { e.monitor.setPhase n a (.queued e.monitor.queue.calls.length) with queue := q } := by
  cases h with
  | foundClosed here looking =>
    exact Or.inl ⟨_, _, here, by simp [looking], by simp [looking], rfl, rfl⟩
  | foundOpen here looking =>
    exact Or.inl ⟨_, _, here, by simp [looking], by simp [looking], rfl, rfl⟩
  | looksAgain here looking =>
    exact Or.inl ⟨_, _, here, by simp [looking], by simp [looking], rfl, rfl⟩
  | closes here closing =>
    exact Or.inl ⟨_, _, here, by simp [closing], by simp [closing], rfl, rfl⟩
  | closesLate here closing =>
    exact Or.inl ⟨_, _, here, by simp [closing], by simp [closing], rfl, rfl⟩
  | claims here claiming =>
    exact Or.inl ⟨_, _, here, by simp [claiming], by simp [claiming], rfl, rfl⟩
  | claimsLate here claiming =>
    exact Or.inl ⟨_, _, here, by simp [claiming], by simp [claiming], rfl, rfl⟩
  | reached here calling asks step =>
    exact Or.inr ⟨_, _, _, here, calling, asks, (Queue.Monitor.stepped step).recorded, rfl⟩

/-- The wait of the pull reaches the queue. -/
theorem Solo.of_reached (s : e.Solo) {n : Nat} {a : Activity} {call : Queue.Monitor.Call}
    {q : Queue.Monitor} (here : e.monitor.calls[n]? = some a) (calling : a.phase = .calling)
    (wait : a.call.isWait = true)
    (h : e.monitor.queue.Recorded (.begin a.thread call) q) :
    (e.withMonitor { e.monitor.setPhase n a (.queued e.monitor.queue.calls.length) with
      queue := q }).Solo := by
  have inside := (List.getElem?_eq_some_iff.mp here).1
  have pulling := s.pull_of_calling here calling wait
  have now : (e.monitor.calls.set n { a with phase := .queued e.monitor.queue.calls.length })[n]? =
      some { a with phase := .queued e.monitor.queue.calls.length } :=
    List.getElem?_set_self inside
  constructor
  · intro i b there wait'
    replace there : (e.monitor.calls.set n _)[i]? = some b := there
    by_cases own : n = i
    · subst own
      cases now.symm.trans there
      exact Or.inr ⟨_, rfl⟩
    · rw [List.getElem?_set_ne own] at there
      exact s.atSender i b there wait'
  · intro k r there wait' unsettled
    replace there : q.records[k]? = some r := there
    cases h with
    | began _ _ _ _ records =>
      rcases Queue.Monitor.getElem?_snoc (records ▸ there) with old | ⟨newest, rfl⟩
      · -- no other wait is unsettled, since that of the pull has only come now
        obtain ⟨i, b, own, stands, queued⟩ := s.atQueue k r old wait' unsettled
        have same : i = n := (Pull.mk.inj (Option.some.inj (own.symm.trans pulling))).2
        subst same
        cases here.symm.trans stands
        rw [calling] at queued
        cases queued
      · have number : k = e.monitor.queue.calls.length := by
          simpa [Queue.Monitor.records] using newest
        exact ⟨n, _, pulling, now, by rw [number]⟩
    | kept begun => exact absurd rfl (begun _ _)

/-- A call takes a step of its own at the sender. -/
theorem Solo.of_act (s : e.Solo) {n : Nat} (h : e.monitor.Stepped (.act n) m) :
    (e.withMonitor m).Solo := by
  rcases act_cases h with ⟨a, phase, here, notCalling, notQueued, calls, queue⟩ |
    ⟨a, call, q, here, calling, asks, recorded, rfl⟩
  · exact s.of_setPhase here (s.not_wait here notCalling notQueued) notQueued calls queue
  · cases wait : a.call.isWait with
    | true => exact s.of_reached here calling wait recorded
    | false =>
      have moved : (e.withMonitor (e.monitor.setPhase n a
          (.queued e.monitor.queue.calls.length))).Solo :=
        s.of_setPhase here wait (by simp [calling]) rfl rfl
      refine moved.of_queue recorded ?_
      rintro thread call ⟨⟩
      rw [isWait_of_asks asks, wait]

/-- **Every step that takes no messages past the stream keeps this.** -/
theorem Stepped.solo (h : e.Stepped action e') (s : e.Solo) (own : action.intrudes = false) :
    e'.Solo := by
  cases h with
  | @acted inner m _ step =>
    have inside := Monitor.stepped step
    cases inner with
    | begin thread call =>
      cases inside with
      | began =>
        constructor
        · intro i b there wait
          replace there : (e.monitor.calls ++ [_])[i]? = some b := there
          rcases Queue.Monitor.getElem?_snoc there with old | ⟨-, rfl⟩
          · exact s.atSender i b old wait
          · exact absurd wait (by simpa [Action.intrudes] using own)
        · intro k r there wait unsettled
          obtain ⟨i, b, pulling, stands, queued⟩ := s.atQueue k r there wait unsettled
          refine ⟨i, b, pulling, ?_, queued⟩
          exact (List.getElem?_append_left (List.getElem?_eq_some_iff.mp stands).1).trans stands
    | act n => exact s.of_act inside
    | queue inner =>
      cases inside with
      | queueStepped outside atQueue =>
        exact s.of_queue (Queue.Monitor.stepped atQueue).recorded
          fun thread call begins => absurd begins (outside thread call)
  | called _ step =>
    refine s.of_queue (Queue.Monitor.stepped step).recorded ?_
    rintro thread call ⟨⟩
    exact own
  | pulled _ alone _ step => exact (s.rested_of_alone alone).waits step
  | ended => exact ⟨s.atSender, s.atQueue⟩
  | handedOut pulling waited => exact (s.rested_of_waited pulling waited).pull_over.solo
  | waitsOn pulling waited step => exact (s.rested_of_waited pulling waited).waits step
  | refused pulling waited => exact (s.rested_of_waited pulling waited).pull_over.solo

theorem Stepped.threaded (h : e.Stepped action e') (t : e.monitor.Threaded) :
    e'.monitor.Threaded := by
  rcases h.monitor_cases with same | ⟨inner, step⟩ | ⟨thread, call, q, step, same⟩
  · rwa [same]
  · exact (Monitor.stepped step).threaded t
  · rw [same]
    exact t.of_queue step

end Sender.Exchange

end Outbox
