import Outbox.Proofs.Sender.Solo

/-!
# Waiting changes nothing that can be seen

A step of an exchange is a deed and does to the view what the deed does, or it does nothing to the
view at all: a wait that begins, reaches the queue, falls asleep, wakes up, finds nothing or runs
out, and the pull that goes on with another one. So the log of a run, which says what can be seen
after each deed, is told by the deeds alone, and with it all answers, all results and the queue.

## Main Definitions

* `Exchange.view_eq` — what a step does to the view
* `Timed.log`, `Timed.deeds` — the log of a run under a clock, and its deeds
* `Timed.Orderly.log_eq_trace` — the log is told by the deeds
-/

namespace Outbox

namespace Sender.Exchange

open Monitor (Activity Phase)
open Queue.Monitor (Record)

variable {e e' : Exchange} {action : Action} {m : Monitor}

/-! ### Steps that leave the waits alone -/

/-- The waits are as they were, at the sender and at the queue. -/
structure KeepsWaits (e : Exchange) (m : Monitor) : Prop where
  atSender : ∀ (n : Nat) (a : Activity), e.monitor.calls[n]? = some a → a.call.isWait = true →
    m.calls[n]? = some a
  atQueue : ∀ (k : Nat) (r : Record), e.monitor.queue.records[k]? = some r →
    r.call.isWait = true → m.queue.records[k]? = some r

/-- What is on record of the wait of a pull does not change with what is on record of others. -/
theorem KeepsWaits.onRecord?_eq (h : e.KeepsWaits m) (l : e.Lawful) {p : Pull}
    (pulling : e.pull = some p) : (e.withMonitor m).onRecord? p = e.onRecord? p := by
  obtain ⟨-, a, timed, here, -, takes, -⟩ := l.pulling p pulling
  have wait : a.call.isWait = true := by
    rw [takes]
    rfl
  simp only [onRecord?, withMonitor, here, h.atSender p.wait a here wait, Option.bind_some]
  split
  · next k queued =>
    obtain ⟨b, there, asks⟩ := l.known p.wait a k here queued
    have stood := Queue.Monitor.record_of_call there
    rw [stood, h.atQueue k _ stood ((isWait_of_asks asks).trans wait)]
  · rfl

/-- The view over another state of the sender, as long as the waits are as they were. -/
theorem KeepsWaits.view_eq (h : e.KeepsWaits m) (l : e.Lawful) :
    (e.withMonitor m).view = { e.view with
      closed := m.closed
      streamTaken := m.streamTaken
      queue := m.queue.queue
      calls := m.others
      records := m.queue.others } := by
  have pull : (e.withMonitor m).view.pull = e.view.pull := by
    cases pulling : e.pull with
    | none => simp [view, withMonitor, pulling]
    | some p =>
      have still : (e.withMonitor m).pull = some p := pulling
      rw [view_pull, view_pull, still, pulling, Option.map_some, Option.map_some, found?, found?,
        h.onRecord?_eq l pulling]
  exact View.ext rfl rfl rfl rfl rfl rfl pull rfl

/-- The waits are as they were when another call gets further. -/
theorem keepsWaits_of_set {n : Nat} {a : Activity} {phase : Phase}
    (here : e.monitor.calls[n]? = some a) (other : a.call.isWait = false)
    (calls : m.calls = e.monitor.calls.set n { a with phase := phase })
    (queue : ∀ (k : Nat) (r : Record), e.monitor.queue.records[k]? = some r →
      r.call.isWait = true → m.queue.records[k]? = some r) : e.KeepsWaits m := by
  refine ⟨fun i b there wait => ?_, queue⟩
  have away : n ≠ i := by
    rintro rfl
    cases here.symm.trans there
    exact absurd wait (by simp [other])
  rw [calls, List.getElem?_set_ne away, there]

/-- Another call than a wait gets further at the sender. -/
theorem view_of_set (l : e.Lawful) {n : Nat} {a : Activity} {phase : Phase}
    (here : e.monitor.calls[n]? = some a) (other : a.call.isWait = false)
    (calls : m.calls = e.monitor.calls.set n { a with phase := phase })
    (queue : m.queue = e.monitor.queue) :
    (e.withMonitor m).view =
      { e.view.setPhase (e.monitor.placeOf n) a (phase.renumber e.monitor.queue.placeOf) with
        closed := m.closed
        streamTaken := m.streamTaken } := by
  have kept : e.KeepsWaits m := by
    refine keepsWaits_of_set here other calls fun k r there _ => ?_
    rwa [queue]
  have moved : m.others = (e.monitor.setPhase n a phase).others := by
    rw [Monitor.others, calls, queue]
    rfl
  rw [kept.view_eq l, moved, Monitor.others_setPhase here other phase, queue]
  rfl

theorem renumber_start (call : Monitor.Call) (f : Nat → Nat) :
    call.start.renumber f = call.start := by
  cases call <;> rfl

theorem renumber_onClosed (call : Monitor.Call) (f : Nat → Nat) :
    call.onClosed.renumber f = call.onClosed := by
  cases call <;> rfl

theorem renumber_onOpen (call : Monitor.Call) (f : Nat → Nat) :
    call.onOpen.renumber f = call.onOpen := by
  cases call <;> rfl

theorem renumber_eq {a : Activity} (notQueued : ∀ k, a.phase ≠ .queued k) (f : Nat → Nat) :
    a.renumber f = a := by
  unfold Monitor.Activity.renumber Monitor.Phase.renumber
  split
  · next k queued => exact absurd queued (notQueued k)
  · rfl

/-- A call begins at the sender. -/
theorem view_of_began (l : e.Lawful) {thread : Nat} {call : Monitor.Call}
    (h : e.monitor.Stepped (.begin thread call) m) (other : call.isWait = false) :
    (e.withMonitor m).view = e.view.next (.begins thread call) := by
  cases h with
  | began =>
    have kept : e.KeepsWaits { e.monitor with
        calls := e.monitor.calls ++ [⟨thread, call, call.start⟩] } :=
      ⟨fun n a here _ =>
          (List.getElem?_append_left (List.getElem?_eq_some_iff.mp here).1).trans here,
        fun k r there _ => there⟩
    have calls : Monitor.others { e.monitor with
        calls := e.monitor.calls ++ [⟨thread, call, call.start⟩] } =
          e.monitor.others ++ [⟨thread, call, call.start⟩] := by
      simp [Monitor.others, other, Monitor.Activity.renumber, renumber_start]
    rw [kept.view_eq l, calls]
    rfl

/-- Such a step is one of the call that is seen. -/
theorem next_acts {n : Nat} {a : Activity} (here : e.monitor.calls[n]? = some a)
    (other : a.call.isWait = false) (notQueued : ∀ k, a.phase ≠ .queued k) :
    e.view.next (.acts (e.monitor.placeOf n)) = e.view.act (e.monitor.placeOf n) a := by
  rw [View.next, view_calls, Monitor.getElem?_others here other, renumber_eq notQueued]
  rfl

/-- Another call than a wait reaches the queue. -/
theorem view_of_reached (l : e.Lawful) {n : Nat} {a : Activity} {call : Queue.Monitor.Call}
    {q : Queue.Monitor} (here : e.monitor.calls[n]? = some a) (calling : a.phase = .calling)
    (other : a.call.isWait = false) (asks : a.call.onQueue? = some call)
    (recorded : e.monitor.queue.Recorded (.begin a.thread call) q) :
    (e.withMonitor { e.monitor.setPhase n a (.queued e.monitor.queue.calls.length) with
      queue := q }).view = e.view.act (e.monitor.placeOf n) a := by
  obtain ⟨queue, others⟩ := recorded.others_of_begin
  rw [isWait_of_asks asks, other, if_neg Bool.false_ne_true] at others
  have kept : e.KeepsWaits { e.monitor.setPhase n a (.queued e.monitor.queue.calls.length) with
      queue := q } :=
    keepsWaits_of_set here other rfl fun k r there _ => recorded.kept_of_begin there
  have number : q.placeOf e.monitor.queue.calls.length = e.monitor.queue.others.length := by
    rw [recorded.placeOf_eq (Nat.le_refl _), Queue.Monitor.placeOf_length]
  have calls : Monitor.others { e.monitor.setPhase n a (.queued e.monitor.queue.calls.length) with
      queue := q } =
        e.monitor.others.set (e.monitor.placeOf n)
          { a with phase := .queued e.monitor.queue.others.length } := by
    have moved := Monitor.others_setPhase (m := { e.monitor with queue := q }) here other
      (.queued e.monitor.queue.calls.length)
    rw [Monitor.others_withQueue l.known fun k old => recorded.placeOf_eq (Nat.le_of_lt old),
      Monitor.Phase.renumber, number] at moved
    exact moved
  rw [kept.view_eq l, calls, others, queue, View.act, calling, asks]
  rfl

/-- Another call than a wait takes a step of its own at the sender. -/
theorem view_of_act (l : e.Lawful) {n : Nat} {a : Activity} (h : e.monitor.Stepped (.act n) m)
    (here : e.monitor.calls[n]? = some a) (other : a.call.isWait = false) :
    (e.withMonitor m).view = e.view.next (.acts (e.monitor.placeOf n)) := by
  cases h with
  | foundClosed there looking closed =>
    cases here.symm.trans there
    refine Eq.trans (view_of_set l here other rfl rfl) ?_
    rw [next_acts here other (by simp [looking]), View.act, looking, renumber_onClosed]
    simp [closed]
    rfl
  | foundOpen there looking isOpen =>
    cases here.symm.trans there
    refine Eq.trans (view_of_set l here other rfl rfl) ?_
    rw [next_acts here other (by simp [looking]), View.act, looking, renumber_onOpen]
    simp [isOpen]
    rfl
  | looksAgain there looking isOpen =>
    cases here.symm.trans there
    refine Eq.trans (view_of_set l here other rfl rfl) ?_
    rw [next_acts here other (by simp [looking]), View.act, looking]
    simp [isOpen]
    rfl
  | closes there closing isOpen =>
    cases here.symm.trans there
    refine Eq.trans (view_of_set l here other rfl rfl) ?_
    rw [next_acts here other (by simp [closing]), View.act, closing, view_closed, isOpen]
    rfl
  | closesLate there closing closed =>
    cases here.symm.trans there
    refine Eq.trans (view_of_set l here other rfl rfl) ?_
    rw [next_acts here other (by simp [closing]), View.act, closing]
    simp [closed]
    rfl
  | claims there claiming free =>
    cases here.symm.trans there
    refine Eq.trans (view_of_set l here other rfl rfl) ?_
    rw [next_acts here other (by simp [claiming]), View.act, claiming, view_streamTaken, free]
    rfl
  | claimsLate there claiming taken =>
    cases here.symm.trans there
    refine Eq.trans (view_of_set l here other rfl rfl) ?_
    rw [next_acts here other (by simp [claiming]), View.act, claiming]
    simp [taken]
    rfl
  | reached there calling asks step =>
    cases here.symm.trans there
    rw [next_acts here other (by simp [calling])]
    exact view_of_reached l here calling other asks (Queue.Monitor.stepped step).recorded

/-- The wait of the pull reaches the queue, and nothing is seen of it. -/
theorem view_of_wait_act (l : e.Lawful) (s : e.Solo) {n : Nat} {a : Activity}
    (h : e.monitor.Stepped (.act n) m) (here : e.monitor.calls[n]? = some a)
    (wait : a.call.isWait = true) : (e.withMonitor m).view = e.view := by
  rcases act_cases h with ⟨b, phase, there, notCalling, notQueued, -, -⟩ |
    ⟨b, call, q, there, calling, asks, recorded, rfl⟩
  · cases here.symm.trans there
    exact absurd wait (by simp [s.not_wait here notCalling notQueued])
  · cases here.symm.trans there
    have inside := (List.getElem?_eq_some_iff.mp here).1
    have pulling := s.pull_of_calling here calling wait
    obtain ⟨queue, others⟩ := recorded.others_of_begin
    rw [isWait_of_asks asks, wait, if_pos rfl, List.append_nil] at others
    have calls : Monitor.others { e.monitor.setPhase n a (.queued e.monitor.queue.calls.length) with
        queue := q } = e.monitor.others := by
      have moved := Monitor.others_setPhase_of_wait (m := { e.monitor with queue := q }) here wait
        (.queued e.monitor.queue.calls.length)
      rwa [Monitor.others_withQueue l.known fun k old => recorded.placeOf_eq (Nat.le_of_lt old)]
        at moved
    have newest : q.records[e.monitor.queue.calls.length]? = some ⟨a.thread, call, none⟩ := by
      cases recorded with
      | began _ _ _ _ records => rw [records]; simp [Queue.Monitor.records]
      | kept begun => exact absurd rfl (begun _ _)
    have before : e.found? ⟨a.thread, n⟩ = none := by
      simp [found?, onRecord?, here, calling]
    have after : (e.withMonitor { e.monitor.setPhase n a (.queued e.monitor.queue.calls.length) with
        queue := q }).found? ⟨a.thread, n⟩ = none := by
      simp [found?, onRecord?, withMonitor, Monitor.setPhase, inside, newest]
    refine View.ext rfl rfl queue calls others rfl ?_ rfl
    rw [view_pull, view_pull, pulling, Option.map_some, before]
    exact congrArg (Option.map _) pulling |>.trans (by rw [Option.map_some, after])

/-- A step at the queue after which the queue and the records are as they were. -/
theorem view_of_same {q : Queue.Monitor} (l : e.Lawful)
    (queue : q.queue = e.monitor.queue.queue) (records : q.records = e.monitor.queue.records) :
    (e.withMonitor { e.monitor with queue := q }).view = e.view := by
  have kept : e.KeepsWaits { e.monitor with queue := q } :=
    ⟨fun _ _ here _ => here, fun k r there _ => by rwa [records]⟩
  have number (k : Nat) : q.placeOf k = e.monitor.queue.placeOf k := by
    rw [Queue.Monitor.placeOf_eq, Queue.Monitor.placeOf_eq, records]
  rw [kept.view_eq l, Monitor.others_withQueue l.known fun k _ => number k, queue,
    Queue.Monitor.others, records]
  rfl

/-- The wait of the pull takes its turn at the queue. One that comes to nothing, in time or out of
it, shows nothing either. -/
theorem view_of_wait_turn {q : Queue.Monitor} (l : e.Lawful) (s : e.Solo) {thread : Nat}
    {call : Queue.Monitor.Call} {expired : Bool} {outcome : Queue.Outcome}
    {before after : List Record} (wait : call.isWait = true)
    (was : e.monitor.queue.records = before ++ ⟨thread, call, none⟩ :: after)
    (now : q.records = before ++ call.recordAfter thread expired outcome :: after) :
    e.view.pull = some (thread, none) ∧
      (e.withMonitor { e.monitor with queue := q }).view = { e.view with
        queue := q.queue
        pull := some (thread, Queue.Monitor.resultAfter outcome) } := by
  obtain ⟨i, a, pulling, here, queued⟩ :=
    s.atQueue before.length ⟨thread, call, none⟩ (by simp [was]) wait rfl
  have unsettled : e.found? ⟨thread, i⟩ = none := by
    simp [found?, onRecord?, here, queued, was]
  have settled : (e.withMonitor { e.monitor with queue := q }).found? ⟨thread, i⟩ =
      Queue.Monitor.resultAfter outcome := by
    have result : (call.recordAfter thread expired outcome).result.filter (· ≠ .fetched none) =
        Queue.Monitor.resultAfter outcome := by
      cases call <;> cases outcome <;> cases expired <;> rfl
    simpa [found?, onRecord?, withMonitor, here, queued, now] using result
  have placed (k : Nat) : q.placeOf k = e.monitor.queue.placeOf k := by
    simp [Queue.Monitor.placeOf, Queue.Monitor.asked, was, now, Queue.Monitor.Call.recordAfter,
      Queue.Monitor.Activity.record]
  have others : q.others = e.monitor.queue.others :=
    Queue.Monitor.others_of_wait was now wait rfl
  refine ⟨by rw [view_pull, pulling, Option.map_some, unsettled], ?_⟩
  refine View.ext rfl rfl rfl ?_ others rfl ?_ rfl
  · exact Monitor.others_withQueue l.known fun k _ => placed k
  · exact congrArg (Option.map _) pulling |>.trans (by rw [Option.map_some, settled])

/-- Another call than a wait takes its turn at the queue. -/
theorem view_of_turn {q : Queue.Monitor} (l : e.Lawful) {thread : Nat}
    {call : Queue.Monitor.Call} {outcome : Queue.Outcome} {before after : List Record}
    (other : call.isWait = false)
    (was : e.monitor.queue.records = before ++ ⟨thread, call, none⟩ :: after)
    (turn : e.monitor.queue.queue.turn call.turn = (outcome, q.queue))
    (now : q.records = before ++ ⟨thread, call, Queue.Monitor.resultAfter outcome⟩ :: after) :
    (e.withMonitor { e.monitor with queue := q }).view =
      e.view.next (.enters (e.monitor.queue.placeOf before.length)) := by
  obtain ⟨stands, others⟩ := Queue.Monitor.others_of_turn was now other rfl
  have kept : e.KeepsWaits { e.monitor with queue := q } := by
    refine ⟨fun _ _ here _ => here, fun k r there isWait => ?_⟩
    have away : k ≠ before.length := by
      rintro rfl
      simp only [was, List.getElem?_append_right (Nat.le_refl _), Nat.sub_self,
        List.getElem?_cons_zero, Option.some.injEq] at there
      rw [← there, other] at isWait
      cases isWait
    rw [now, Queue.Monitor.getElem?_elsewhere ⟨thread, call, none⟩ _ away, ← was, there]
  have placed (k : Nat) : q.placeOf k = e.monitor.queue.placeOf k := by
    simp [Queue.Monitor.placeOf, Queue.Monitor.asked, was, now]
  rw [kept.view_eq l, Monitor.others_withQueue l.known fun k _ => placed k, others, View.next,
    view_records, stands, Option.elim_some, View.turn, view_queue, turn]
  rfl

/-- A call takes its turn at the queue. -/
theorem view_of_entered {q : Queue.Monitor} (l : e.Lawful) (s : e.Solo) {n : Nat}
    (step : e.monitor.queue.step? (.enter n) = some q) :
    (e.withMonitor { e.monitor with queue := q }).view =
      (e.turnDeed? n).elim e.view e.view.next := by
  have recorded := (Queue.Monitor.stepped step).recorded
  cases recorded with
  | kept _ unlocked =>
    cases Queue.Monitor.stepped step with
    | entered here => simp [Queue.Monitor.section?, here] at unlocked
  | @entered _ _ thread call expired outcome before after was number turned locked _ _ records =>
    obtain ⟨a, here, same⟩ := Option.map_eq_some_iff.mp locked
    obtain ⟨-, rfl, comes⟩ := Queue.Monitor.Section.mk.inj same
    have turn := Queue.turned_iff.mp turned
    have still (nothing : outcome = .waits) : q.queue = e.monitor.queue.queue := by
      have unchanged := Queue.turn_unchanged (Or.inr (comes.trans nothing))
      rwa [turn] at unchanged
    have deed : e.turnDeed? n =
        if outcome = .waits then none
        else if a.call.isWait then some .fetches
        else some (.enters (e.monitor.queue.placeOf n)) := by
      simp [turnDeed?, here, comes]
    cases wait : a.call.isWait with
    | true =>
      obtain ⟨pulling, view⟩ := view_of_wait_turn l s wait was records
      have take := Queue.Monitor.Call.turn_of_isWait wait
      rw [view, deed, wait]
      by_cases nothing : outcome = .waits
      · rw [if_pos nothing, still nothing, nothing]
        exact View.ext rfl rfl rfl rfl rfl rfl pulling.symm rfl
      · rw [take] at turn
        rw [if_neg nothing, if_pos rfl, Option.elim_some, View.next, view_queue, turn, pulling]
        rfl
    | false =>
      have record : a.call.recordAfter thread expired outcome =
          ⟨thread, a.call, Queue.Monitor.resultAfter outcome⟩ :=
        Queue.Monitor.recordAfter_eq (Or.inl wait) thread expired
      rw [record] at records
      by_cases nothing : outcome = .waits
      · rw [deed, if_pos nothing, Option.elim_none]
        refine view_of_same l (still nothing) ?_
        rw [records, was, nothing]
        rfl
      · rw [deed, wait, if_neg nothing, if_neg Bool.false_ne_true, Option.elim_some, ← number]
        exact view_of_turn l wait was turn records

/-- What the wait of a pull has returned is what it has come to. -/
theorem found?_of_waited {p : Pull} {result : Queue.Monitor.Result}
    (waited : e.waited? p = some result) (something : result ≠ .fetched none) :
    e.found? p = some result := by
  obtain ⟨a, k, r, here, queued, there, settled⟩ := onRecord?_of_waited waited
  simp [found?, onRecord?, here, queued, there, settled, something]

/-- A wait that has run out has come to nothing. -/
theorem found?_of_vain {p : Pull} (waited : e.waited? p = some (.fetched none)) :
    e.found? p = none := by
  obtain ⟨a, k, r, here, queued, there, settled⟩ := onRecord?_of_waited waited
  simp [found?, onRecord?, here, queued, there, settled]

/-- Telling the consumer is a deed. -/
theorem deed?_of_found {p : Pull} {result : Queue.Monitor.Result} (pulling : e.pull = some p)
    (found : e.found? p = some result) (timed : Bool) :
    e.deed? (.resume timed) = some .answers := by
  simp [deed?, pulling, found]

/-- Going on to wait is none. -/
theorem deed?_of_vain {p : Pull} (pulling : e.pull = some p) (vain : e.found? p = none)
    (timed : Bool) : e.deed? (.resume timed) = none := by
  simp [deed?, pulling, vain]

/-- The consumer is told what its wait has come to. -/
theorem next_answers {p : Pull} {result : Queue.Monitor.Result} (pulling : e.pull = some p)
    (found : e.found? p = some result) : e.view.next .answers = e.view.tell result := by
  rw [View.next, view_pull, pulling, Option.map_some, Option.bind_some, found, Option.elim_some]

/-- The wait of a pull begins. -/
theorem view_of_wait_begun {thread : Nat} {timed : Bool}
    (step : e.monitor.step? (.begin thread (.take timed)) = some m) :
    ({ e with monitor := m, pull := some ⟨thread, e.monitor.calls.length⟩ } : Exchange).view =
      { e.view with pull := some (thread, none) } := by
  cases Monitor.stepped step with
  | began =>
    have calls : Monitor.others { e.monitor with
        calls := e.monitor.calls ++ [⟨thread, .take timed, .calling⟩] } = e.monitor.others := by
      simp [Monitor.others, Monitor.Call.isWait]
    refine View.ext rfl rfl rfl calls rfl rfl ?_ rfl
    simp [view_pull, found?, onRecord?, Monitor.Call.start]

/-- A thread calls the queue past the sender. -/
theorem view_of_called (l : e.Lawful) {thread : Nat} {call : Queue.Monitor.Call}
    {q : Queue.Monitor} (step : e.monitor.queue.step? (.begin thread call) = some q)
    (other : call.isWait = false) :
    (e.withMonitor { e.monitor with queue := q }).view = e.view.next (.calls thread call) := by
  have recorded := (Queue.Monitor.stepped step).recorded
  obtain ⟨queue, others⟩ := recorded.others_of_begin
  rw [other, if_neg Bool.false_ne_true] at others
  have kept : e.KeepsWaits { e.monitor with queue := q } :=
    ⟨fun _ _ here _ => here, fun k r there _ => recorded.kept_of_begin there⟩
  rw [kept.view_eq l, Monitor.others_withQueue l.known fun k old =>
    recorded.placeOf_eq (Nat.le_of_lt old), queue, others]
  rfl

/-- **A step is a deed and does to the view what the deed does, or does nothing to it.** -/
theorem view_eq (l : e.Lawful) (s : e.Solo) (step : e.step? action = some e')
    (own : action.intrudes = false) : e'.view = (e.deed? action).elim e.view e.view.next := by
  cases stepped step with
  | @acted inner m _ inside =>
    cases inner with
    | begin thread call => exact view_of_began l (Monitor.stepped inside) own
    | act n =>
      obtain ⟨a, phase, here, -, -⟩ := (Monitor.stepped inside).act_moves
      cases wait : a.call.isWait with
      | true =>
        rw [view_of_wait_act l s (Monitor.stepped inside) here wait]
        simp [deed?, here, wait]
      | false =>
        rw [view_of_act l (Monitor.stepped inside) here wait]
        simp [deed?, here, wait]
    | queue inner =>
      cases Monitor.stepped inside with
      | queueStepped outside atQueue =>
        have recorded := (Queue.Monitor.stepped atQueue).recorded
        cases inner with
        | begin thread call => exact absurd rfl (outside thread call)
        | enter n => exact view_of_entered l s atQueue
        | _ =>
          cases recorded with
          | kept _ _ queue _ _ records => exact view_of_same l queue records
  | called _ atQueue => exact view_of_called l atQueue own
  | pulled _ _ more inside =>
    rw [view_of_wait_begun inside]
    simp [deed?, View.next, more]
  | ended _ finished =>
    rw [deed?, Option.elim_some, View.next, if_neg (by simp [finished])]
    rfl
  | handedOut pulling waited =>
    have found := found?_of_waited waited (by simp)
    rw [deed?_of_found pulling found, Option.elim_some, next_answers pulling found]
    rfl
  | waitsOn pulling waited inside =>
    have vain := found?_of_vain waited
    rw [view_of_wait_begun inside, deed?_of_vain pulling vain, Option.elim_none]
    refine View.ext rfl rfl rfl rfl rfl rfl ?_ rfl
    rw [view_pull, pulling, Option.map_some, vain]
  | refused pulling waited =>
    have found := found?_of_waited waited (by simp)
    rw [deed?_of_found pulling found, Option.elim_some, next_answers pulling found]
    rfl

end Sender.Exchange

namespace Sender

open Exchange (View Deed)

namespace Exchange.View

/-- What a series of deeds makes of a view, deed by deed. -/
def trace (v : View) : List Deed → List (Deed × View)
  | [] => []
  | d :: ds => (d, v.next d) :: (v.next d).trace ds

end Exchange.View

namespace Timed

variable {t t' u u' : Timed} {action : Action} {actions : List Action}

/-- The deed of a step, if it is one. -/
def deed? (t : Timed) : Action → Option Deed
  | .act action => t.exchange.deed? action
  | .elapse _ => none

/-- **The log of a run**: its deeds in order, and what can be seen after each of them. -/
def log (t : Timed) : List Action → List (Deed × View)
  | [] => []
  | action :: actions =>
    match t.step? action with
    | none => []
    | some t' => ((t.deed? action).map fun d => (d, t'.exchange.view)).toList ++ t'.log actions

/-- **The deeds of a run**, in order. -/
def deeds (t : Timed) (actions : List Action) : List Deed := (t.log actions).map Prod.fst

theorem log_cons (step : t.step? action = some t') :
    t.log (action :: actions) =
      ((t.deed? action).map fun d => (d, t'.exchange.view)).toList ++ t'.log actions := by
  rw [log, step]

theorem deeds_cons (step : t.step? action = some t') :
    t.deeds (action :: actions) = (t.deed? action).toList ++ t'.deeds actions := by
  rw [deeds, log_cons step, List.map_append]
  cases t.deed? action <;> rfl

theorem deeds_append {first second : List Action} (run : t.run? first = some t') :
    t.deeds (first ++ second) = t.deeds first ++ t'.deeds second := by
  induction first generalizing t with
  | nil =>
    cases run
    rfl
  | cons action first ih =>
    obtain ⟨next, step, run⟩ := Steps.run?_cons_iff.mp run
    rw [List.cons_append, deeds_cons step, deeds_cons step, ih run, List.append_assoc]

/-! ### All runs -/

/-- **What holds of every exchange under a clock.** -/
structure Orderly (t : Timed) : Prop where
  lawful : t.exchange.Lawful
  solo : t.exchange.Solo
  threaded : t.exchange.monitor.Threaded

theorem step_cases (step : t.step? action = some t') :
    (∃ duration, action = .elapse duration ∧ t'.exchange = t.exchange) ∨
      ∃ inner, action = .act inner ∧ t.allows inner = true ∧
        t.exchange.step? inner = some t'.exchange := by
  cases action with
  | elapse duration =>
    cases step
    exact Or.inl ⟨duration, rfl, rfl⟩
  | act inner =>
    simp only [step?, Option.ite_none_right_eq_some, Option.map_eq_some_iff] at step
    obtain ⟨allowed, e, inside, rfl⟩ := step
    exact Or.inr ⟨inner, rfl, allowed, inside⟩

/-- Nobody takes messages past the stream. -/
theorem not_intrudes {inner : Exchange.Action} (allowed : t.allows inner = true) :
    inner.intrudes = false := by
  unfold allows at allowed
  split at allowed
  · rfl
  · rfl
  · rfl
  · simpa using allowed

theorem orderly_start (q : Queue) (interval now horizon : Nanoseconds) :
    (start q interval now horizon).Orderly where
  lawful := ⟨nofun, by rintro thread n n' (⟨a, ⟨⟩, -⟩ | ⟨⟨⟩⟩), nofun, nofun⟩
  solo := ⟨nofun, nofun⟩
  threaded := nofun

theorem Orderly.step (o : t.Orderly) (step : t.step? action = some t') : t'.Orderly := by
  rcases step_cases step with ⟨duration, -, same⟩ | ⟨inner, -, allowed, inside⟩
  · exact ⟨same ▸ o.lawful, same ▸ o.solo, same ▸ o.threaded⟩
  · have h := Exchange.stepped inside
    exact ⟨h.lawful o.lawful, h.solo o.solo (not_intrudes allowed), h.threaded o.threaded⟩

theorem Orderly.run (o : t.Orderly) (run : t.run? actions = some t') : t'.Orderly := by
  induction actions generalizing t with
  | nil =>
    cases run
    exact o
  | cons action actions ih =>
    obtain ⟨next, step, run⟩ := Steps.run?_cons_iff.mp run
    exact ih (o.step step) run

/-- **A step does to the view what its deed does, or nothing.** -/
theorem Orderly.view_eq (o : t.Orderly) (step : t.step? action = some t') :
    t'.exchange.view = (t.deed? action).elim t.exchange.view t.exchange.view.next := by
  rcases step_cases step with ⟨duration, rfl, same⟩ | ⟨inner, rfl, allowed, inside⟩
  · rw [same]
    rfl
  · exact Exchange.view_eq o.lawful o.solo inside (not_intrudes allowed)

/-- **The log of a run is told by its deeds**, and so is the view in its end. -/
theorem Orderly.log_eq_trace (o : t.Orderly) (run : t.run? actions = some t') :
    t.log actions = t.exchange.view.trace (t.deeds actions) ∧
      t'.exchange.view = (t.deeds actions).foldl View.next t.exchange.view := by
  induction actions generalizing t with
  | nil =>
    cases run
    exact ⟨rfl, rfl⟩
  | cons action actions ih =>
    obtain ⟨next, step, run⟩ := Steps.run?_cons_iff.mp run
    obtain ⟨log, view⟩ := ih (o.step step) run
    have after := o.view_eq step
    rw [log_cons step, deeds_cons step, log, view]
    cases deed : t.deed? action with
    | none =>
      rw [deed, Option.elim_none] at after
      rw [after]
      exact ⟨rfl, rfl⟩
    | some d =>
      rw [deed, Option.elim_some] at after
      rw [after]
      exact ⟨rfl, rfl⟩

end Timed

end Sender

end Outbox
