import Outbox.Proofs.Queue.Calls
import Outbox.Proofs.Queue.Last
import Outbox.Proofs.Queue.Waking

/-!
# A queue that has ended

Once a queue holds its last message, nothing goes in any more, and what is in it only comes out. It
was ended by a call that stored the last message, so such a call is refused by a queue that was not
interrupted only if another one came first. That call also owes all sleeping producers a signal, and
is the only one that can owe it.

## Main Definitions

* `Monitor.EndedBy` — the call that has put in the last message
* `Monitor.Settled` — what came of the calls that bring a last message; every step keeps it
* `Monitor.Owed` — who owes all producers a signal; every step keeps it
-/

namespace Outbox.Queue.Monitor

variable {m m' : Monitor} {n : Nat} {action : Action}

/-! ### The flags in a step -/

/-- A step leaves the queue alone, or is a turn. -/
theorem Recorded.queue_turned (h : m.Recorded action m') :
    m'.queue = m.queue ∨ ∃ t outcome, m.queue.Turned t outcome m'.queue := by
  cases h with
  | began _ queue => exact Or.inl queue
  | entered _ _ turned => exact Or.inr ⟨_, _, turned⟩
  | kept _ _ queue => exact Or.inl queue

theorem Recorded.interrupted (h : m.Recorded action m') (before : m.queue.interrupted = true) :
    m'.queue.interrupted = true := by
  rcases h.queue_turned with same | ⟨t, outcome, turned⟩
  · rw [same, before]
  · exact turned.interrupted_iff.mpr (Or.inl before)

theorem Recorded.terminated (h : m.Recorded action m') (before : m.queue.terminated = true) :
    m'.queue.terminated = true := by
  rcases h.queue_turned with same | ⟨t, outcome, turned⟩
  · rw [same, before]
  · exact turned.terminated_iff.mpr (Or.inl before)

/-! ### Calls that bring a last message -/

/-- A call has put in the last message. -/
def EndedBy (m : Monitor) (n : Nat) : Prop :=
  ∃ thread msg, m.records[n]? = some ⟨thread, .enqueueLast msg, some .stored⟩

/-- **What came of the calls that bring a last message**: one of them has ended the queue if it is
ended, and one that has its result has ended the queue, was too late, or was interrupted. -/
structure Settled (m : Monitor) : Prop where
  endedBy : m.queue.terminated = true → ∃ n, m.EndedBy n
  results : ∀ n thread msg result,
    m.records[n]? = some ⟨thread, .enqueueLast msg, some result⟩ → m.queue.interrupted = false →
      m.queue.terminated = true ∧ (result = .stored ∨ ∃ n' ≠ n, m.EndedBy n')

/-- A result is there to stay. -/
theorem Recorded.result_stays (h : m.Recorded action m') {r : Record}
    (onRecord : m.records[n]? = some r) (done : r.result ≠ none) : m'.records[n]? = some r := by
  cases h with
  | began _ _ _ _ records =>
    rw [records, List.getElem?_append_left (List.getElem?_eq_some_iff.mp onRecord).1, onRecord]
  | @entered _ k thread call expired outcome before after was _ _ _ _ _ records =>
    have other : n ≠ before.length := by
      rintro rfl
      have noResult : m.records[before.length]? = some ⟨thread, call, none⟩ := by simp [was]
      rw [onRecord, Option.some.injEq] at noResult
      exact done (by rw [noResult])
    rw [records, getElem?_elsewhere _ _ other, ← was, onRecord]
  | kept _ _ _ _ _ records => rw [records, onRecord]

theorem Recorded.endedBy_stays (h : m.Recorded action m') (ended : m.EndedBy n) :
    m'.EndedBy n := by
  obtain ⟨thread, msg, onRecord⟩ := ended
  exact ⟨thread, msg, h.result_stays onRecord (Option.some_ne_none _)⟩

/-- A queue that goes on being live was live before. -/
theorem Recorded.live (h : m.Recorded action m') (live : m'.queue.interrupted = false) :
    m.queue.interrupted = false := by
  rw [← Bool.not_eq_true] at live ⊢
  exact fun interrupted => live (h.interrupted interrupted)

/-- A turn of a call that brings the last message ends the queue or finds it ended, unless it finds
it interrupted. -/
theorem result_of_last {q q' : Queue} {msg : Message} {outcome : Outcome}
    (turned : q.Turned (.offerLast msg) outcome q') (live : q.interrupted = false) :
    (outcome = .stored ∧ q'.terminated = true) ∨
      (outcome = .refused .queueTerminated ∧ q.terminated = true ∧ q' = q) := by
  cases turned with
  | storedLast isOpen => exact Or.inl ⟨rfl, rfl⟩
  | refusedLast reason =>
    rw [refusal?, live, if_neg Bool.false_ne_true, Option.ite_none_right_eq_some] at reason
    obtain ⟨terminated, same⟩ := reason
    cases same
    exact Or.inr ⟨rfl, terminated, rfl⟩

/-- What came of a call that has its result is there to stay. -/
theorem Recorded.results_stay (h : m.Recorded action m') (s : m.Settled) {thread : Nat}
    {msg : Message} {result : Result}
    (onRecord : m.records[n]? = some ⟨thread, .enqueueLast msg, some result⟩)
    (live : m'.queue.interrupted = false) :
    m'.queue.terminated = true ∧ (result = .stored ∨ ∃ n' ≠ n, m'.EndedBy n') := by
  obtain ⟨terminated, result⟩ := s.results n thread msg result onRecord (h.live live)
  refine ⟨h.terminated terminated, result.imp_right ?_⟩
  rintro ⟨n', other, ended⟩
  exact ⟨n', other, h.endedBy_stays ended⟩

/-- A turn that ends the queue is that of a call which has ended it. -/
theorem Recorded.ends (h : m.Recorded action m') (unended : m.queue.terminated ≠ true)
    (terminated : m'.queue.terminated = true) : ∃ n, m'.EndedBy n := by
  cases h with
  | began _ queue => exact absurd (queue ▸ terminated) unended
  | kept _ _ queue => exact absurd (queue ▸ terminated) unended
  | @entered _ k thread call expired outcome before after _ _ turned _ _ _ records =>
    rcases turned.terminated_iff.mp terminated with earlier | ⟨⟨msg, isLast⟩, rfl⟩
    · exact absurd earlier unended
    · refine ⟨before.length, thread, msg, ?_⟩
      cases call <;> cases isLast
      simp [records, Call.recordAfter, Activity.record, Activity.result?]

/-- A result was there before, or is what a turn has come to that the call has just taken. -/
theorem Recorded.result_origin (h : m.Recorded action m') {r : Record}
    (onRecord : m'.records[n]? = some r) (done : r.result ≠ none) :
    m.records[n]? = some r ∨
      ∃ thread call expired outcome, m.records[n]? = some ⟨thread, call, none⟩ ∧
        m.queue.Turned call.turn outcome m'.queue ∧
        r = call.recordAfter thread expired outcome := by
  cases h with
  | began _ _ _ _ records =>
    rw [records] at onRecord
    rcases getElem?_snoc onRecord with old | ⟨-, rfl⟩
    · exact Or.inl old
    · exact absurd rfl done
  | kept _ _ _ _ _ records => exact Or.inl (records ▸ onRecord)
  | @entered _ k thread call expired outcome before after was _ turned _ _ _ records =>
    rw [records] at onRecord
    by_cases own : n = before.length
    · subst own
      have now : r = call.recordAfter thread expired outcome := by simpa using onRecord.symm
      exact Or.inr ⟨thread, call, expired, outcome, by simp [was], turned, now⟩
    · rw [getElem?_elsewhere ⟨thread, call, none⟩ _ own, ← was] at onRecord
      exact Or.inl onRecord

theorem Recorded.settled (h : m.Recorded action m') (s : m.Settled) : m'.Settled := by
  constructor
  · intro terminated
    by_cases earlier : m.queue.terminated = true
    · obtain ⟨n, ended⟩ := s.endedBy earlier
      exact ⟨n, h.endedBy_stays ended⟩
    · exact h.ends earlier terminated
  · intro n thread msg result onRecord live
    rcases h.result_origin onRecord (Option.some_ne_none _) with
      old | ⟨thread', call, expired, outcome, was, turned, is⟩
    · exact h.results_stay s old live
    · rw [Call.recordAfter, Activity.record, Record.mk.injEq] at is
      obtain ⟨-, rfl, outcomeIs⟩ := is
      rcases result_of_last turned (h.live live) with ⟨rfl, terminated⟩ | ⟨-, terminated, same⟩
      · exact ⟨terminated, Or.inl (Option.some.inj outcomeIs)⟩
      · -- another call has ended the queue, and this one had no result until now
        obtain ⟨n', ended⟩ := s.endedBy terminated
        have other : n' ≠ n := by
          rintro rfl
          obtain ⟨_, _, there⟩ := ended
          simp [was] at there
        exact ⟨same ▸ terminated, Or.inr ⟨n', other, h.endedBy_stays ended⟩⟩

theorem settled_of_reachable {capacity : Nat} {overflow : Overflow}
    (h : Reachable (.make capacity overflow) m) : m.Settled := by
  refine h.invariant stepped (fun s step => step.recorded.settled s) ⟨?_, ?_⟩
  · rintro ⟨⟩
  · rintro n thread msg result ⟨⟩

/-! ### Nothing goes in any more -/

/-- An ended queue accepts nothing. -/
theorem Recorded.accepted_of_terminated (h : m.Recorded action m')
    (terminated : m.queue.terminated = true) : m'.accepted = m.accepted := by
  cases h with
  | began _ _ accepted => exact accepted
  | kept _ _ _ accepted => exact accepted
  | @entered _ n thread call expired outcome before after was number turned _ accepted =>
    rcases stored_cases turned n with ⟨noEntry, -⟩ | ⟨_, _, unended, -⟩
    · rw [accepted, noEntry, Option.toList_none, List.append_nil]
    · rw [terminated] at unended
      cases unended

theorem Recorded.handed_prefix (h : m.Recorded action m') : m.handed <+: m'.handed := by
  rw [h.logs_eq.2]
  exact List.prefix_append _ _

/-! ### The signal to all producers -/

theorem Stepped.length_calls (h : m.Stepped action m') :
    m'.calls.length = m.calls.length + action.begun?.toList.length := by
  have asked := congrArg List.length h.recorded.asked_eq
  rwa [List.length_append, length_asked, length_asked] at asked

/-- A call stood in the same place before the step, or began in it. -/
theorem Stepped.origin {a : Activity} (h : m.Stepped action m') (here : m'.calls[n]? = some a) :
    (∃ b, m.calls[n]? = some b ∧ Moved m.queue m'.queue n b action a) ∨
      n = m.calls.length ∧ a.phase = .ready false ∧ action = .begin a.thread a.call := by
  by_cases old : n < m.calls.length
  · obtain ⟨a', here', moved⟩ := h.moved (List.getElem?_eq_getElem old)
    cases here.symm.trans here'
    exact Or.inl ⟨_, List.getElem?_eq_getElem old, moved⟩
  · have inside := (List.getElem?_eq_some_iff.mp here).1
    have grown := h.length_calls
    cases action with
    | begin thread call =>
      cases h with
      | began idle =>
        have newest : n = m.calls.length := by
          rw [List.length_append, List.length_singleton] at inside
          exact Nat.le_antisymm (Nat.le_of_lt_succ inside) (Nat.le_of_not_lt old)
        subst newest
        rw [List.getElem?_concat_length, Option.some.injEq] at here
        subst here
        exact Or.inr ⟨rfl, rfl, rfl⟩
    | _ =>
      rw [grown] at inside
      exact absurd inside old

/-- **Only the call that ends a queue owes all producers a signal**, and one that interrupts it. -/
def Owed (m : Monitor) : Prop :=
  ∀ (n : Nat) (a : Activity), m.calls[n]? = some a → a.owesAll .room = true →
    (∃ msg, a.call = .enqueueLast msg) ∨ m.queue.interrupted = true

/-- A turn that leaves its call to wake all producers has ended the queue or interrupted it. -/
theorem ends_of_owesAll {q q' : Queue} {thread : Nat} {call : Call} {expired : Bool}
    {outcome : Outcome} (turned : q.Turned call.turn outcome q')
    (owes : (Activity.mk thread call (call.after expired outcome)).owesAll .room = true) :
    (∃ msg, call = .enqueueLast msg) ∨ q'.interrupted = true := by
  cases call with
  | enqueueLast msg => exact Or.inl ⟨msg, rfl⟩
  | interrupt =>
    cases turned with
    | interrupted => exact Or.inr rfl
  | enqueue msg =>
    -- a producer owes a consumer a signal, or none
    cases turned <;> simp [Activity.owesAll, Call.after, Call.onStored, Call.onWait] at owes
  | dequeue timed =>
    cases turned <;> cases expired <;> simp [Activity.owesAll, Call.after, Call.onWait] at owes

theorem Stepped.owed (h : m.Stepped action m') (owed : m.Owed) : m'.Owed := by
  intro n a here owes
  rcases h.origin here with ⟨b, there, moved⟩ | ⟨-, fresh, -⟩
  · have before : b.owesAll .room = true →
        (∃ msg, b.call = .enqueueLast msg) ∨ m'.queue.interrupted = true :=
      fun owes => (owed n b there owes).imp_right h.recorded.interrupted
    cases moved with
    | still => exact before owes
    | woken => simp [Activity.owesAll] at owes
    | signalled leaving =>
      refine before ?_
      simp only [Activity.owesAll, leaving, List.contains_cons] at owes ⊢
      rw [owes, Bool.or_true]
    | entered ready turned => exact ends_of_owesAll turned owes
  · simp [Activity.owesAll, fresh] at owes

theorem owed_of_reachable {q : Queue} (h : Reachable q m) : m.Owed := by
  refine h.invariant stepped (fun owed step => step.owed owed) ?_
  rintro n a ⟨⟩

end Outbox.Queue.Monitor
