import Outbox.Proofs.Queue.Fifo

/-!
# Nothing goes in behind the last message

A queue that holds its last message is ended and refuses all others, so the entry of a call that
brings the last message is at the end of the log. This is the queue's own doing: it rests on what a
turn finds under the lock, and not on who calls.

## Main Definitions

* `Monitor.asked` — what all calls ask for
* `Monitor.LastBehind` — the last message is behind all others; every run keeps it
-/

namespace Outbox.Queue.Monitor

/-! ### What is asked of a queue -/

/-- What all calls ask for, in the order in which they began. -/
def asked (m : Monitor) : List Call := m.records.map Record.call

/-- Whether a call brings the last message. -/
def IsLastCall (m : Monitor) (n : Nat) : Prop := ∃ msg, m.asked[n]? = some (.enqueueLast msg)

theorem length_asked (m : Monitor) : m.asked.length = m.calls.length := by
  simp [asked, records]

/-- The call that begins in a step, if one does. -/
def Action.begun? : Action → Option Call
  | .begin _ call => some call
  | _ => none

theorem Recorded.asked_eq {m m' : Monitor} {action : Action} (h : m.Recorded action m') :
    m'.asked = m.asked ++ action.begun?.toList := by
  unfold asked
  cases h with
  | began _ _ _ _ records => rw [records, List.map_append]; rfl
  | entered was _ _ _ _ _ records =>
    rw [records, was]
    simp [Call.recordAfter, Activity.record, Action.begun?]
  | kept begun _ _ _ _ records =>
    cases action with
    | begin thread call => exact absurd rfl (begun thread call)
    | _ => simp [records, Action.begun?]

theorem Recorded.isLastCall_iff {m m' : Monitor} {action : Action} (h : m.Recorded action m')
    {n : Nat} (begun : n < m.records.length) : m'.IsLastCall n ↔ m.IsLastCall n := by
  have before : n < m.asked.length := by simpa [asked] using begun
  rw [IsLastCall, h.asked_eq, List.getElem?_append_left before, IsLastCall]

/-- An accepted message is what its call was to put in. -/
theorem asked_of_accepted {m : Monitor} (logs : Logs Record.stored? m.records m.accepted)
    {e : Nat × Message} (inLog : e ∈ m.accepted) :
    ∃ call, m.asked[e.1]? = some call ∧ call.message? = some e.2 := by
  obtain ⟨r, there, stored⟩ := Option.bind_eq_some_iff.mp ((logs.exact e.1 e.2).mp inLog)
  refine ⟨r.call, by simp [asked, there], ?_⟩
  rw [Record.stored?, Option.ite_none_right_eq_some] at stored
  exact stored.2

/-! ### The last message -/

/-- A turn that puts a message in finds the queue not ended, and ends it if it brings the last. -/
theorem stored_cases {q q' : Queue} {call : Call} {outcome : Outcome}
    (turned : q.Turned call.turn outcome q') (n : Nat) :
    ((Section.mk n call outcome).stored? = none ∧ q'.terminated = q.terminated) ∨
      ∃ msg, (Section.mk n call outcome).stored? = some (n, msg) ∧ q.terminated = false ∧
        (q'.terminated = false → ∀ msg, call ≠ .enqueueLast msg) := by
  cases call <;> cases turned <;>
    simp_all [Section.stored?, Call.message?, refusal?_eq_none_iff, push, Queue.interrupt]

/-- **The last message is behind all others**, and as long as the queue is not ended it is not
there. -/
structure LastBehind (m : Monitor) : Prop where
  notYet : m.queue.terminated = false → ∀ e ∈ m.accepted, ¬ m.IsLastCall e.1
  behind : ∀ e ∈ m.accepted.dropLast, ¬ m.IsLastCall e.1

theorem Recorded.lastBehind {m m' : Monitor} {action : Action} (h : m.Recorded action m')
    (logs : Logs Record.stored? m.records m.accepted) (l : m.LastBehind) : m'.LastBehind := by
  have still : ∀ e ∈ m.accepted, ¬ m.IsLastCall e.1 → ¬ m'.IsLastCall e.1 := by
    intro e inLog notLast
    rwa [h.isLastCall_iff (logs.begun inLog)]
  have unchanged : m'.queue.terminated = m.queue.terminated → m'.accepted = m.accepted →
      m'.LastBehind := by
    intro terminated accepted
    refine ⟨?_, ?_⟩ <;> rw [accepted]
    · rw [terminated]
      exact fun unended e inLog => still e inLog (l.notYet unended e inLog)
    · exact fun e inLog => still e ((List.dropLast_subset _) inLog) (l.behind e inLog)
  cases h with
  | began _ queue accepted _ _ => exact unchanged (by rw [queue]) accepted
  | kept _ _ queue accepted _ _ => exact unchanged (by rw [queue]) accepted
  | @entered _ n thread call expired outcome before after was number turned _ accepted _ records =>
    rcases stored_cases turned n with ⟨noEntry, terminated⟩ | ⟨msg, entry, unended, ends⟩
    · exact unchanged terminated (by rw [accepted, noEntry]; exact List.append_nil _)
    · -- the queue took a message, so it was not ended and no earlier entry is the last
      have old : ∀ e ∈ m.accepted, ¬ m'.IsLastCall e.1 :=
        fun e inLog => still e inLog (l.notYet unended e inLog)
      rw [entry, Option.toList_some] at accepted
      refine ⟨?_, ?_⟩ <;> rw [accepted]
      · intro unendedStill e inLog
        rcases List.mem_append.mp inLog with earlier | new
        · exact old e earlier
        · rw [List.mem_singleton.mp new]
          rintro ⟨msg, last⟩
          refine ends unendedStill msg ?_
          simpa [asked, records, ← number, Call.recordAfter, Activity.record] using last
      · rw [List.dropLast_concat]
        exact old

theorem lastBehind_of_reachable {capacity : Nat} {overflow : Overflow} {m : Monitor}
    (h : Reachable (.make capacity overflow) m) : m.LastBehind := by
  refine (h.invariant stepped (P := fun m => m.Orderly capacity ∧ m.LastBehind) ?_ ?_).2
  · intro m m' action inv step
    exact ⟨step.recorded.orderly inv.1, step.recorded.lastBehind inv.1.accepted inv.2⟩
  · refine ⟨orderly_start capacity overflow, ?_, ?_⟩
    · rintro - e ⟨⟩
    · rintro e ⟨⟩

end Outbox.Queue.Monitor
