import Outbox.Proofs.Queue.Calm
import Outbox.Proofs.Sender.Timeless

/-!
# Whatever is done can be done without delay

Whatever deeds a run does under its clock, a run under any other clock can do as well, and no wait
runs out in it. It keeps its queue calm: after each deed the signals that are owed are sent, and a
call that is to take its turn is woken if it sleeps. Whoever has nothing under way in the one run
has nothing under way in the other, since what a calm queue has under way can be seen.

## Main Definitions

* `Exchange.idle_of_view` — threads with nothing under way, told by the view
* `Timed.Follows` — a deed can be done without a wait that runs out
* `Timed.Matches.follow` — whatever is a deed in one of two that look the same follows in the other
* `Timed.exists_run` — a run that does the deeds of another
-/

namespace Outbox.Sender

open Exchange (View Deed)
open Queue.Monitor (record_of_call call_of_record)

/-! ### Threads with nothing under way -/

namespace Exchange

open Monitor (Activity Phase)
open Queue.Monitor (Record)

variable {e u : Exchange} {thread : Nat}

/-- Phases that are the same when the queue's calls are numbered anew. -/
theorem renumber_cases {first second : Phase} {f g : Nat → Nat}
    (same : first.renumber f = second.renumber g) :
    first = second ∧ (∀ k, first ≠ .queued k) ∨
      ∃ k k', first = .queued k ∧ second = .queued k' ∧ f k = g k' := by
  cases first <;> cases second <;> simp_all [Monitor.Phase.renumber]

/-- A pull under way is seen, with its thread. -/
theorem pull_of_view (same : u.view = e.view) {p : Pull} (pulling : u.pull = some p) :
    ∃ p', e.pull = some p' ∧ p'.thread = p.thread ∧ e.found? p' = u.found? p := by
  have pulls : e.view.pull = some (p.thread, u.found? p) := by
    rw [← same, view_pull, pulling, Option.map_some]
  obtain ⟨p', pulling', shown⟩ := Option.map_eq_some_iff.mp pulls
  exact ⟨p', pulling', congrArg Prod.fst shown, congrArg Prod.snd shown⟩

/-- Another call than a wait is seen at the sender. -/
theorem call_of_view (same : u.view = e.view) {n : Nat} {a : Activity}
    (here : u.monitor.calls[n]? = some a) (other : a.call.isWait = false) :
    ∃ n' a', e.monitor.calls[n']? = some a' ∧ a'.call.isWait = false ∧
      e.monitor.placeOf n' = u.monitor.placeOf n ∧
        a'.renumber e.monitor.queue.placeOf = a.renumber u.monitor.queue.placeOf := by
  have seen : e.monitor.others[u.monitor.placeOf n]? =
      some (a.renumber u.monitor.queue.placeOf) := by
    rw [← view_calls, ← same, view_calls, Monitor.getElem?_others here other]
  rw [Monitor.others, List.getElem?_map, Option.map_eq_some_iff] at seen
  obtain ⟨a', there, renumbered⟩ := seen
  obtain ⟨n', here', kept, number⟩ := exists_of_filter there
  exact ⟨n', a', here', by simpa using kept, number, renumbered⟩

/-- What is on record of another call than a wait is seen at the queue. -/
theorem record_of_view (same : u.view = e.view) {k : Nat} {r : Record}
    (there : u.monitor.queue.records[k]? = some r) (other : r.call.isWait = false) :
    ∃ k', e.monitor.queue.records[k']? = some r ∧
      e.monitor.queue.placeOf k' = u.monitor.queue.placeOf k := by
  have seen : e.monitor.queue.others[u.monitor.queue.placeOf k]? = some r := by
    rw [← view_records, ← same, view_records, Queue.Monitor.getElem?_others there other]
  obtain ⟨k', there', -, number⟩ := exists_of_filter seen
  exact ⟨k', there', by rw [Queue.Monitor.placeOf_eq, number]⟩

/-- The wait that has not come to anything is that of the pull, on its thread. -/
theorem Solo.thread_of_wait (s : u.Solo) (same : u.view = e.view) {k : Nat}
    {b : Queue.Monitor.Activity} (there : u.monitor.queue.calls[k]? = some b)
    (wait : b.call.isWait = true) (unsettled : b.result? = none) :
    ∃ p, e.pull = some p ∧ p.thread = b.thread := by
  obtain ⟨n, a, pulling, -⟩ := s.atQueue k b.record (record_of_call there) wait unsettled
  obtain ⟨p, pulling', onThread, -⟩ := pull_of_view same pulling
  exact ⟨p, pulling', onThread⟩

/-- A thread with nothing under way has nothing under way at a calm queue that looks the same. -/
theorem free_at_queue (s : u.Solo) (calm : u.monitor.queue.Calm) (same : u.view = e.view)
    (idle : e.isBusy thread = false) : u.monitor.queue.isBusy thread = false := by
  obtain ⟨-, free, notPulling⟩ := isBusy_eq_false_iff.mp idle
  rw [← Bool.not_eq_true]
  intro busy
  obtain ⟨b, listed, going⟩ := List.any_eq_true.mp busy
  simp only [Bool.and_eq_true, beq_iff_eq, Bool.not_eq_true'] at going
  obtain ⟨k, there⟩ := List.getElem?_of_mem listed
  have unsettled := calm.result?_eq_none there going.2
  cases wait : b.call.isWait with
  | true =>
    obtain ⟨p, pulling, onThread⟩ := s.thread_of_wait same there wait unsettled
    exact notPulling p pulling (onThread.trans going.1)
  | false =>
    obtain ⟨k', onRecord, -⟩ := record_of_view same (record_of_call there) wait
    obtain ⟨b', there', shown⟩ := call_of_record onRecord
    obtain ⟨onThread, -, result⟩ := Record.mk.inj shown
    refine thread_ne_of_free free there' ?_ (onThread.trans going.1)
    exact Queue.Monitor.Activity.hasReturned_eq_false (result.trans unsettled)

/-- Another call than a wait that has returned in the one has returned in a calm one that looks the
same. -/
theorem hasReturned_of_view (k : e.monitor.Known) (k' : u.monitor.Known)
    (calm : u.monitor.queue.Calm) (same : u.view = e.view) {n n' : Nat} {a a' : Activity}
    (here : u.monitor.calls[n]? = some a) (here' : e.monitor.calls[n']? = some a')
    (other : a.call.isWait = false) (other' : a'.call.isWait = false)
    (alike : a'.renumber e.monitor.queue.placeOf = a.renumber u.monitor.queue.placeOf)
    (returned : e.monitor.hasReturned a' = true) : u.monitor.hasReturned a = true := by
  obtain ⟨-, -, phases⟩ := Activity.mk.inj alike
  rcases renumber_cases phases with ⟨samePhase, notQueued⟩ | ⟨i, j, queued, queued', number⟩
  · rw [← returned]
    unfold Monitor.hasReturned
    rw [← samePhase]
    cases phase : a'.phase with
    | queued k => exact absurd phase (notQueued k)
    | _ => rfl
  · obtain ⟨b, there, asks⟩ := k n' a' i here' queued
    obtain ⟨b', there', asks'⟩ := k' n a j here queued'
    have first := Queue.Monitor.getElem?_others (record_of_call there)
      ((isWait_of_asks asks).trans other')
    have second := Queue.Monitor.getElem?_others (record_of_call there')
      ((isWait_of_asks asks').trans other)
    rw [← view_records, same, view_records, ← number, first, Option.some.injEq] at second
    obtain ⟨-, -, result⟩ := Record.mk.inj second
    rw [Monitor.hasReturned_of_queued queued' there']
    cases going : b'.hasReturned with
    | true => rfl
    | false =>
      have unsettled := result.trans (calm.result?_eq_none there' going)
      rw [Monitor.hasReturned_of_queued queued there,
        Queue.Monitor.Activity.hasReturned_eq_false unsettled] at returned
      cases returned

/-- And it has nothing under way at the sender. -/
theorem free_at_sender (k : e.monitor.Known) (k' : u.monitor.Known) (s : u.Solo)
    (t : u.monitor.Threaded) (calm : u.monitor.queue.Calm) (same : u.view = e.view)
    (idle : e.isBusy thread = false) : u.monitor.isBusy thread = false := by
  obtain ⟨free, -, notPulling⟩ := isBusy_eq_false_iff.mp idle
  rw [← Bool.not_eq_true]
  intro busy
  obtain ⟨a, listed, going⟩ := List.any_eq_true.mp busy
  simp only [Bool.and_eq_true, beq_iff_eq, Bool.not_eq_true'] at going
  obtain ⟨n, here⟩ := List.getElem?_of_mem listed
  cases wait : a.call.isWait with
  | true =>
    rcases s.atSender n a here wait with ⟨-, pulling⟩ | ⟨k, queued⟩
    · obtain ⟨p, pulling', onThread, -⟩ := pull_of_view same pulling
      exact notPulling p pulling' (onThread.trans going.1)
    · obtain ⟨b, there, sameThread⟩ := t n a k here queued
      obtain ⟨b', there', asks⟩ := k' n a k here queued
      cases there.symm.trans there'
      have going' : b.hasReturned = false := by
        rw [← Monitor.hasReturned_of_queued queued there, going.2]
      obtain ⟨p, pulling, onThread⟩ := s.thread_of_wait same there
        ((isWait_of_asks asks).trans wait) (calm.result?_eq_none there going')
      exact notPulling p pulling (onThread.trans (sameThread.trans going.1))
  | false =>
    obtain ⟨n', a', here', other, -, alike⟩ := call_of_view same here wait
    obtain ⟨onThread, -, -⟩ := Activity.mk.inj alike
    have returned := hasReturned_of_view k k' calm same here here' wait other alike
      (Monitor.returned_of_idle free here' (onThread.trans going.1))
    rw [returned] at going
    cases going.2

/-- **A thread with nothing under way has nothing under way in a calm exchange that looks the
same.** -/
theorem idle_of_view (k : e.monitor.Known) (k' : u.monitor.Known) (s : u.Solo)
    (t : u.monitor.Threaded) (calm : u.monitor.queue.Calm) (same : u.view = e.view)
    (idle : e.isBusy thread = false) : u.isBusy thread = false := by
  refine isBusy_eq_false_iff.mpr
    ⟨free_at_sender k k' s t calm same idle, free_at_queue s calm same idle, fun p pulling => ?_⟩
  obtain ⟨p', pulling', onThread, -⟩ := pull_of_view same pulling
  rw [← onThread]
  exact (isBusy_eq_false_iff.mp idle).2.2 p' pulling'

end Exchange

/-! ### The same deeds, without a wait that runs out -/

namespace Timed

open Exchange (Asking Answer Pull)
open Monitor (Activity Phase)

variable {e e' : Exchange} {t t' u u' : Timed} {d : Deed} {thread : Nat} {actions : List Action}

/-- No wait runs out in these steps. -/
def IsPatient (actions : List Action) : Prop :=
  ∀ n, Action.act (.sender (.queue (.expire n))) ∉ actions

/-- **A deed can be done**, and nothing else with it, without a wait that runs out; and nobody owes
a signal afterwards. -/
def Follows (u : Timed) (d : Deed) : Prop :=
  ∃ actions u', u.run? actions = some u' ∧ u.deeds actions = [d] ∧
    u'.exchange.monitor.queue.Calm ∧ IsPatient actions

theorem follows_of_step {action : Action} (step : u.step? action = some u')
    (deed : u.deed? action = some d) (calm : u'.exchange.monitor.queue.Calm)
    (patient : IsPatient [action]) : u.Follows d := by
  refine ⟨[action], u', Steps.run?_singleton_iff.mpr step, ?_, calm, patient⟩
  rw [deeds_cons step, deed]
  rfl

/-- It may take steps first that are no deeds. -/
theorem Follows.after (run : u.run? actions = some u') (none : u.deeds actions = [])
    (patient : IsPatient actions) (follows : u'.Follows d) : u.Follows d := by
  obtain ⟨later, last, runLater, deeds, calm, patientLater⟩ := follows
  refine ⟨actions ++ later, last, Steps.run?_append_iff.mpr ⟨u', run, runLater⟩, ?_, calm, ?_⟩
  · rw [deeds_append run, none, deeds]
    rfl
  · intro n listed
    rcases List.mem_append.mp listed with early | late
    · exact patient n early
    · exact patientLater n late

/-! ### At the queue -/

/-- The same over another state of the queue. -/
def withQueue (u : Timed) (q : Queue.Monitor) : Timed :=
  { u with exchange := u.exchange.withMonitor { u.exchange.monitor with queue := q } }

/-- A step of a call at the queue. -/
def atQueue (inner : Queue.Monitor.Action) : Action := .act (.sender (.queue inner))

/-- The clock does not keep a call from a step at the queue, unless its time would run out. -/
theorem step?_atQueue {inner : Queue.Monitor.Action} {q : Queue.Monitor}
    (begins : ∀ thread call, inner ≠ .begin thread call) (expires : ∀ n, inner ≠ .expire n)
    (step : u.exchange.monitor.queue.step? inner = some q) :
    u.step? (atQueue inner) = some (u.withQueue q) := by
  have inside : u.exchange.monitor.step? (.queue inner) =
      some { u.exchange.monitor with queue := q } := by
    cases inner with
    | begin thread call => exact absurd rfl (begins thread call)
    | _ => simp [Monitor.step?, step]
  have allowed : u.allows (.sender (.queue inner)) = true := by
    cases inner with
    | expire n => exact absurd rfl (expires n)
    | _ => rfl
  simp [atQueue, Timed.step?, allowed, Exchange.step?, inside, withQueue, waitAfter]

/-- Passive steps are no deeds, and no wait runs out in them. -/
theorem run_passive {inner : List Queue.Monitor.Action} {q : Queue.Monitor}
    (passive : ∀ action ∈ inner, action.isPassive = true)
    (run : u.exchange.monitor.queue.run? inner = some q) :
    u.run? (inner.map atQueue) = some (u.withQueue q) ∧ u.deeds (inner.map atQueue) = [] ∧
      IsPatient (inner.map atQueue) := by
  induction inner generalizing u with
  | nil =>
    cases run
    exact ⟨rfl, rfl, nofun⟩
  | cons action inner ih =>
    obtain ⟨next, step, run⟩ := Steps.run?_cons_iff.mp run
    have isPassive := passive action (by simp)
    have here : u.step? (atQueue action) = some (u.withQueue next) :=
      step?_atQueue (by rintro thread call rfl; cases isPassive) (by rintro n rfl; cases isPassive)
        step
    have noDeed : u.deed? (atQueue action) = none := by
      cases action <;> first | rfl | cases isPassive
    obtain ⟨runs, deeds, patient⟩ := ih (u := u.withQueue next)
      (fun other listed => passive other (by simp [listed])) run
    refine ⟨Steps.run?_cons_iff.mpr ⟨_, here, runs⟩, ?_, ?_⟩
    · rw [List.map_cons, deeds_cons here, noDeed, deeds]
      rfl
    · intro n listed
      rcases List.mem_cons.mp listed with own | later
      · cases action <;> cases own
        cases isPassive
      · exact patient n later

/-- **A turn at the queue can be taken**, if it comes to something. -/
theorem follows_turn (calm : u.exchange.monitor.queue.Calm) {k : Nat} {b : Queue.Monitor.Activity}
    (there : u.exchange.monitor.queue.calls[k]? = some b) (unsettled : b.result? = none)
    (comes : (u.exchange.monitor.queue.queue.turn b.call.turn).1 ≠ .waits) :
    u.Follows
      (if b.call.isWait then .fetches else .enters (u.exchange.monitor.queue.placeOf k)) := by
  obtain ⟨before, q₁, q₂, after, q₃, runBefore, passiveBefore, ready, step, runAfter, passiveAfter,
    calm₃⟩ := calm.exists_turn there unsettled comes
  obtain ⟨run, none, patient⟩ := run_passive passiveBefore runBefore
  obtain ⟨queue, records⟩ := Queue.Monitor.passive_run passiveBefore runBefore
  refine .after run none patient ?_
  have here : (u.withQueue q₁).step? (atQueue (.enter k)) = some (u.withQueue q₂) :=
    step?_atQueue (u := u.withQueue q₁) (by simp) (by simp) step
  obtain ⟨runLater, noneLater, patientLater⟩ :=
    run_passive (u := u.withQueue q₂) passiveAfter runAfter
  have deed : (u.withQueue q₁).deed? (atQueue (.enter k)) =
      some (if b.call.isWait then .fetches else .enters (u.exchange.monitor.queue.placeOf k)) := by
    have placed : q₁.placeOf k = u.exchange.monitor.queue.placeOf k := by
      rw [Queue.Monitor.placeOf_eq, Queue.Monitor.placeOf_eq, records]
    simp only [deed?, atQueue, Exchange.deed?, Exchange.turnDeed?, withQueue, Exchange.withMonitor,
      ready, Option.bind_eq_bind, Option.bind_some, queue, placed]
    rw [if_neg comes]
    split <;> rfl
  refine ⟨atQueue (.enter k) :: after.map atQueue, u.withQueue q₃, ?_, ?_, calm₃, ?_⟩
  · exact Steps.run?_cons_iff.mpr ⟨_, here, runLater⟩
  · rw [deeds_cons here, deed, noneLater]
    rfl
  · intro n listed
    rcases List.mem_cons.mp listed with own | later
    · cases own
    · exact patientLater n later

/-! ### Deed by deed -/

/-- **The two look the same**, and nobody owes a signal in the one that is to follow. -/
structure Matches (u : Timed) (e : Exchange) : Prop where
  orderly : u.Orderly
  calm : u.exchange.monitor.queue.Calm
  lawful : e.Lawful
  solo : e.Solo
  same : u.exchange.view = e.view

/-- Who has nothing under way in the one has nothing under way in the other. -/
theorem Matches.idle (h : u.Matches e) (idle : e.isBusy thread = false) :
    u.exchange.isBusy thread = false :=
  Exchange.idle_of_view h.lawful.known h.orderly.lawful.known h.orderly.solo h.orderly.threaded
    h.calm h.same idle

theorem Matches.queue_eq (h : u.Matches e) :
    u.exchange.monitor.queue.queue = e.monitor.queue.queue := by
  rw [← Exchange.view_queue, h.same, Exchange.view_queue]

/-- A call begins at the sender. -/
theorem Matches.begins (h : u.Matches e) (idle : e.isBusy thread = false) {call : Monitor.Call}
    (other : call.isWait = false) : u.Follows (.begins thread call) := by
  have idle' := h.idle idle
  have free := (Exchange.isBusy_eq_false_iff.mp idle').1
  have step : u.step? (.act (.sender (.begin thread call))) = some { u with
      exchange := u.exchange.withMonitor { u.exchange.monitor with
        calls := u.exchange.monitor.calls ++ [⟨thread, call, call.start⟩] } } := by
    simp [Timed.step?, allows, Exchange.Action.intrudes, other, Exchange.step?, idle',
      Monitor.step?, free, waitAfter]
  exact follows_of_step step rfl h.calm (by simp [IsPatient])

/-- A call begins at the queue, past the sender. -/
theorem Matches.calls (h : u.Matches e) (idle : e.isBusy thread = false)
    {call : Queue.Monitor.Call} (other : call.isWait = false) : u.Follows (.calls thread call) := by
  have idle' := h.idle idle
  have free := (Exchange.isBusy_eq_false_iff.mp idle').2.1
  have step : u.step? (.act (.direct thread call)) = some { u with
      exchange := u.exchange.withMonitor { u.exchange.monitor with
        queue := { u.exchange.monitor.queue with
          calls := u.exchange.monitor.queue.calls ++ [⟨thread, call, .ready false⟩] } } } := by
    simp [Timed.step?, allows, Exchange.Action.intrudes, other, Exchange.step?, idle',
      Queue.Monitor.step?, free, waitAfter]
  exact follows_of_step step rfl h.calm.snoc (by simp [IsPatient])

/-- A step of a call at the sender leaves the queue calm. -/
theorem calm_of_act {n : Nat} {m : Monitor} (h : e.monitor.Stepped (.act n) m)
    (calm : e.monitor.queue.Calm) : m.queue.Calm := by
  cases h with
  | reached here calling asks step =>
    cases Queue.Monitor.stepped step with
    | began => exact calm.snoc
  | _ => exact calm

/-- A call other than a wait takes its next step at the sender. -/
theorem Matches.acts (h : u.Matches e) {n : Nat} {a : Activity} {m : Monitor}
    (stepped : e.monitor.Stepped (.act n) m) (here : e.monitor.calls[n]? = some a)
    (other : a.call.isWait = false) : u.Follows (.acts (e.monitor.placeOf n)) := by
  obtain ⟨n', a', here', other', number, renumbered⟩ :=
    Exchange.call_of_view h.same.symm here other
  obtain ⟨-, sameCall, phases⟩ := Activity.mk.inj renumbered
  obtain ⟨b, phase, there, going, -⟩ := stepped.act_moves
  cases here.symm.trans there
  have shape : (∀ k, a.phase ≠ .queued k) ∧
      (a.phase = .calling → ∃ asked, a.call.onQueue? = some asked) := by
    rcases Exchange.act_cases stepped with ⟨b, -, there, notCalling, notQueued, -⟩ |
      ⟨b, asked, -, there, calling, asks, -⟩
    · cases here.symm.trans there
      exact ⟨notQueued, fun calling => absurd calling notCalling⟩
    · cases here.symm.trans there
      exact ⟨by simp [calling], fun _ => ⟨asked, asks⟩⟩
  have samePhase : a'.phase = a.phase := by
    rcases Exchange.renumber_cases phases with ⟨same, -⟩ | ⟨-, k, -, queued, -⟩
    · exact same
    · exact absurd queued (shape.1 k)
  have possible : (u.exchange.monitor.act? n' a').isSome = true := by
    cases phase : a.phase with
    | looking more => simp [Monitor.act?, samePhase, phase]
    | closing => simp only [Monitor.act?, samePhase, phase]; split <;> rfl
    | claiming => simp only [Monitor.act?, samePhase, phase]; split <;> rfl
    | calling =>
      obtain ⟨asked, asks⟩ := shape.2 phase
      exact Exchange.reaches_queue h.orderly.lawful here' (samePhase.trans phase)
        (sameCall ▸ asks)
    | queued k => exact absurd phase (shape.1 k)
    | returned refusal => simp [Monitor.hasReturned, phase] at going
  obtain ⟨m', acts⟩ := Option.isSome_iff_exists.mp possible
  have inside : u.exchange.monitor.step? (.act n') = some m' := by
    rw [Monitor.step?, here', Option.bind_some, acts]
  have step : u.step? (.act (.sender (.act n'))) =
      some { u with exchange := u.exchange.withMonitor m' } := by
    simp [Timed.step?, allows, Exchange.Action.intrudes, Exchange.step?, inside, waitAfter]
  refine follows_of_step step ?_ (calm_of_act (Monitor.stepped inside) h.calm) (by simp [IsPatient])
  simp [deed?, Exchange.deed?, here', other', number]

/-- A turn of another call than a wait. -/
theorem Matches.enters (h : u.Matches e) {k : Nat} {b : Queue.Monitor.Activity}
    (there : e.monitor.queue.calls[k]? = some b) (unsettled : b.result? = none)
    (comes : (e.monitor.queue.queue.turn b.call.turn).1 ≠ .waits) (other : b.call.isWait = false) :
    u.Follows (.enters (e.monitor.queue.placeOf k)) := by
  obtain ⟨k', onRecord, number⟩ :=
    Exchange.record_of_view h.same.symm (record_of_call there) other
  obtain ⟨b', there', shown⟩ := call_of_record onRecord
  obtain ⟨-, sameCall, result⟩ := Queue.Monitor.Record.mk.inj shown
  have follows := follows_turn h.calm there' (result.trans unsettled)
    (by rwa [h.queue_eq, sameCall])
  rwa [sameCall, other, if_neg Bool.false_ne_true, number] at follows

/-- The wait of the pull under way, once it has reached the queue. -/
theorem follows_fetch (calm : u.exchange.monitor.queue.Calm) {k : Nat}
    {b : Queue.Monitor.Activity} (there : u.exchange.monitor.queue.calls[k]? = some b)
    (wait : b.call.isWait = true) (unsettled : b.result? = none)
    (comes : (u.exchange.monitor.queue.queue.turn .take).1 ≠ .waits) : u.Follows .fetches := by
  have follows := follows_turn calm there unsettled
    (by rwa [Queue.Monitor.Call.turn_of_isWait wait])
  rwa [wait, if_pos rfl] at follows

/-- The same where it has not reached the queue: it calls the queue first, of which nothing is
seen. -/
theorem follows_fetch_of_calling (o : u.Orderly) (calm : u.exchange.monitor.queue.Calm) {n : Nat}
    {a : Activity} {timed : Bool} (here : u.exchange.monitor.calls[n]? = some a)
    (calling : a.phase = .calling) (takes : a.call = .take timed)
    (comes : (u.exchange.monitor.queue.queue.turn .take).1 ≠ .waits) : u.Follows .fetches := by
  have idle := o.lawful.idle_at_queue here calling
  let q : Queue.Monitor := { u.exchange.monitor.queue with
    calls := u.exchange.monitor.queue.calls ++ [⟨a.thread, .dequeue timed, .ready false⟩] }
  let m : Monitor := { u.exchange.monitor.setPhase n a
    (.queued u.exchange.monitor.queue.calls.length) with queue := q }
  have inside : u.exchange.monitor.step? (.act n) = some m := by
    have asks : a.call.onQueue? = some (.dequeue timed) := by rw [takes, Monitor.Call.onQueue?]
    rw [Monitor.step?, here, Option.bind_some, Monitor.act?_of_calling n calling asks idle]
  have step : u.step? (.act (.sender (.act n))) =
      some { u with exchange := u.exchange.withMonitor m } := by
    simp [Timed.step?, allows, Exchange.Action.intrudes, Exchange.step?, inside, waitAfter]
  have noDeed : u.deed? (.act (.sender (.act n))) = none := by
    simp [deed?, Exchange.deed?, here, takes, Monitor.Call.isWait]
  have run : u.run? [.act (.sender (.act n))] =
      some { u with exchange := u.exchange.withMonitor m } :=
    Steps.run?_singleton_iff.mpr step
  refine .after run (by rw [deeds_cons step, noDeed]; rfl) (by simp [IsPatient]) ?_
  exact follows_fetch (u := { u with exchange := u.exchange.withMonitor m }) calm.snoc
    (k := u.exchange.monitor.queue.calls.length) List.getElem?_concat_length rfl rfl comes

/-- A turn of the wait of the pull. -/
theorem Matches.fetches (h : u.Matches e) {p : Pull} (pulling : e.pull = some p)
    (unsettled : e.found? p = none)
    (comes : (e.monitor.queue.queue.turn .take).1 ≠ .waits) : u.Follows .fetches := by
  obtain ⟨p', pulling', -, found⟩ := Exchange.pull_of_view h.same.symm pulling
  rw [unsettled] at found
  obtain ⟨-, a, timed, here, -, takes, phase⟩ := h.orderly.lawful.pulling p' pulling'
  rw [← h.queue_eq] at comes
  rcases phase with calling | ⟨k, queued⟩
  · exact follows_fetch_of_calling h.orderly h.calm here calling takes comes
  · obtain ⟨b, there, asks⟩ := h.orderly.lawful.known p'.wait a k here queued
    have wait : b.call.isWait = true := by
      rw [Exchange.isWait_of_asks asks, takes]
      rfl
    have none : b.result? = none := by
      have notVain := h.calm.not_vain there
      simp only [Exchange.found?, Exchange.onRecord?, here, Option.bind_some, queued,
        record_of_call there] at found
      cases result : b.result? with
      | none => rfl
      | some result' =>
        rw [result] at notVain
        simp [Queue.Monitor.Activity.record, result] at found
        exact absurd (congrArg some found) notVain
    exact follows_fetch h.calm there wait none comes

/-- A pull begins on a thread with nothing under way, with no other pull and with the stream taken.
-/
theorem pull_allowed {timed : Bool} {asking : Asking}
    (step : e.step? (.pull thread timed asking) = some e') :
    e.isBusy thread = false ∧ e.pull = none ∧ e.monitor.streamTaken = true := by
  simp only [Exchange.step?, Option.ite_none_left_eq_some, Bool.not_eq_true, Bool.or_eq_false_iff,
    Option.isSome_eq_false_iff, Option.isNone_iff_eq_none, Bool.not_eq_false'] at step
  exact ⟨step.1.1.1, step.1.1.2, step.1.2⟩

/-- The consumer asks for the next chunk. -/
theorem Matches.pulls (h : u.Matches e) (idle : e.isBusy thread = false) (alone : e.pull = none)
    (taken : e.monitor.streamTaken = true) (asking : Asking) :
    u.Follows (.pulls thread asking) := by
  have idle' := h.idle idle
  have free := (Exchange.isBusy_eq_false_iff.mp idle').1
  have alone' : u.exchange.pull = none := by
    cases pulling : u.exchange.pull with
    | none => rfl
    | some p =>
      obtain ⟨p', pulling', -⟩ := Exchange.pull_of_view h.same pulling
      rw [alone] at pulling'
      cases pulling'
  have taken' : u.exchange.monitor.streamTaken = true := by
    rw [← Exchange.view_streamTaken, h.same, Exchange.view_streamTaken, taken]
  have possible : ∃ e'', u.exchange.step? (.pull thread u.nextWait.isTimed asking) = some e'' ∧
      e''.monitor.queue = u.exchange.monitor.queue := by
    simp only [Exchange.step?, idle', alone', taken', Option.isSome_none, Bool.or_self,
      Bool.not_true, Bool.false_eq_true, if_false]
    split
    · simp [Exchange.wait?, Monitor.step?, free]
    · exact ⟨_, rfl, rfl⟩
  obtain ⟨e'', inside, queue⟩ := possible
  have step : u.step? (.act (.pull thread u.nextWait.isTimed asking)) = some { u with
      exchange := e'', wait := u.waitAfter (.pull thread u.nextWait.isTimed asking) e'' } := by
    simp [Timed.step?, allows, inside]
  refine follows_of_step step rfl ?_ (by simp [IsPatient])
  rw [queue]
  exact h.calm

/-- In a calm exchange a wait that has come to something has returned. -/
theorem waited?_of_found (calm : e.monitor.queue.Calm) {p : Pull} {result : Queue.Monitor.Result}
    (found : e.found? p = some result) : e.waited? p = some result := by
  obtain ⟨found, -⟩ := Option.filter_eq_some_iff.mp found
  obtain ⟨r, onRecord, settled⟩ := Option.bind_eq_some_iff.mp found
  obtain ⟨a, here, onRecord⟩ := Option.bind_eq_some_iff.mp onRecord
  split at onRecord
  · next k queued =>
    obtain ⟨b, there, rfl⟩ := call_of_record onRecord
    have settled : b.result? = some result := settled
    have returned : b.hasReturned = true := by
      cases going : b.hasReturned with
      | true => rfl
      | false =>
        rw [calm.result?_eq_none there going] at settled
        cases settled
    obtain ⟨result', done⟩ := Queue.Monitor.Activity.hasReturned_iff.mp returned
    simp only [Queue.Monitor.Activity.result?, done, Option.some.injEq] at settled
    subst settled
    exact Exchange.waited?_eq_some_iff.mpr ⟨a, k, b, here, queued, there, done⟩
  · cases onRecord

/-- The consumer is told what its wait has come to. -/
theorem Matches.answers (h : u.Matches e) {p : Pull} {result : Queue.Monitor.Result}
    (pulling : e.pull = some p) (found : e.found? p = some result)
    (tells : (∃ msg, result = .fetched (some msg)) ∨ ∃ error, result = .refused error) :
    u.Follows .answers := by
  obtain ⟨p', pulling', -, found'⟩ := Exchange.pull_of_view h.same.symm pulling
  rw [found] at found'
  have waited := waited?_of_found h.calm found'
  have goes : ∃ e'', u.exchange.goOn? p' u.nextWait.isTimed result = some e'' ∧
      e''.monitor.queue = u.exchange.monitor.queue := by
    rcases tells with ⟨msg, rfl⟩ | ⟨error, rfl⟩ <;> exact ⟨_, rfl, rfl⟩
  obtain ⟨e'', goes, queue⟩ := goes
  have inside : u.exchange.step? (.resume u.nextWait.isTimed) = some e'' := by
    simp [Exchange.step?, pulling', waited, goes]
  have step : u.step? (.act (.resume u.nextWait.isTimed)) = some { u with
      exchange := e'', wait := u.waitAfter (.resume u.nextWait.isTimed) e'' } := by
    simp [Timed.step?, allows, inside]
  refine follows_of_step step (Exchange.deed?_of_found pulling' found' u.nextWait.isTimed) ?_
    (by simp [IsPatient])
  rw [queue]
  exact h.calm

/-- A call takes a turn at the queue that comes to something. -/
theorem Matches.turns (h : u.Matches e) {n : Nat} {q : Queue.Monitor}
    (step : e.monitor.queue.step? (.enter n) = some q) (deed : e.turnDeed? n = some d) :
    u.Follows d := by
  cases Queue.Monitor.stepped step with
  | @entered k b expired outcome q here ready turned =>
    have unsettled : b.result? = none := by
      simp [Queue.Monitor.Activity.result?, ready]
    simp only [Exchange.turnDeed?, here, Option.bind_eq_bind, Option.bind_some,
      Option.ite_none_left_eq_some] at deed
    obtain ⟨comes, deed⟩ := deed
    cases wait : b.call.isWait with
    | true =>
      rw [wait, if_pos rfl] at deed
      cases deed
      have take := Queue.Monitor.Call.turn_of_isWait wait
      obtain ⟨i, a, pulling, there, queued⟩ :=
        h.solo.atQueue n b.record (record_of_call here) wait unsettled
      refine h.fetches pulling ?_ (take ▸ comes)
      simp [Exchange.found?, Exchange.onRecord?, there, queued, record_of_call here,
        Queue.Monitor.Activity.record, unsettled]
    | false =>
      rw [wait, if_neg Bool.false_ne_true] at deed
      cases deed
      exact h.enters here unsettled comes wait

/-- **Whatever is a deed in one of them can be done in the other.** -/
theorem Matches.follow (h : u.Matches e) {action : Exchange.Action}
    (step : e.step? action = some e') (own : action.intrudes = false)
    (deed : e.deed? action = some d) : u.Follows d := by
  cases Exchange.stepped step with
  | @acted inner m idle inside =>
    cases inner with
    | begin thread call =>
      cases deed
      exact h.begins (idle thread call rfl) own
    | act n =>
      have stepped := Monitor.stepped inside
      obtain ⟨a, -, here, -, -⟩ := stepped.act_moves
      simp only [Exchange.deed?, here, Option.any_some] at deed
      split at deed
      · cases deed
      · next other =>
        cases deed
        exact h.acts stepped here (by simpa using other)
    | queue inner =>
      cases Monitor.stepped inside with
      | queueStepped _ atQueue =>
        cases inner with
        | enter n => exact h.turns atQueue deed
        | _ => cases deed
  | called idle _ =>
    cases deed
    exact h.calls idle own
  | pulled =>
    cases deed
    obtain ⟨idle, alone, taken⟩ := pull_allowed step
    exact h.pulls idle alone taken _
  | ended =>
    cases deed
    obtain ⟨idle, alone, taken⟩ := pull_allowed step
    exact h.pulls idle alone taken _
  | handedOut pulling waited =>
    have found := Exchange.found?_of_waited waited (by simp)
    cases (Exchange.deed?_of_found pulling found _).symm.trans deed
    exact h.answers pulling found (Or.inl ⟨_, rfl⟩)
  | waitsOn pulling waited _ =>
    cases (Exchange.deed?_of_vain pulling (Exchange.found?_of_vain waited) _).symm.trans deed
  | refused pulling waited =>
    have found := Exchange.found?_of_waited waited (by simp)
    cases (Exchange.deed?_of_found pulling found _).symm.trans deed
    exact h.answers pulling found (Or.inr ⟨_, rfl⟩)

/-! ### Runs -/

/-- **A run that looks the same can follow any other**, deed by deed. -/
theorem exists_run {actions : List Action} {t t' : Timed} (o : t.Orderly) (o' : u.Orderly)
    (calm : u.exchange.monitor.queue.Calm) (same : u.exchange.view = t.exchange.view)
    (run : t.run? actions = some t') :
    ∃ followed u', u.run? followed = some u' ∧ u.deeds followed = t.deeds actions ∧
      IsPatient followed := by
  induction actions generalizing t u with
  | nil => exact ⟨[], u, rfl, rfl, nofun⟩
  | cons action actions ih =>
    obtain ⟨next, step, run⟩ := Steps.run?_cons_iff.mp run
    have after := o.view_eq step
    cases deed : t.deed? action with
    | none =>
      rw [deed, Option.elim_none] at after
      obtain ⟨followed, u', runs, deeds, patient⟩ :=
        ih (o.step step) o' calm (same.trans after.symm) run
      exact ⟨followed, u', runs, by rw [deeds, deeds_cons step, deed]; rfl, patient⟩
    | some d =>
      rw [deed, Option.elim_some] at after
      have follows : u.Follows d := by
        rcases step_cases step with ⟨duration, rfl, -⟩ | ⟨inner, rfl, allowed, inside⟩
        · cases deed
        · exact Matches.follow ⟨o', calm, o.lawful, o.solo, same⟩ inside (not_intrudes allowed) deed
      obtain ⟨first, u₁, runs, deeds, calm₁, patient⟩ := follows
      have sameAfter : u₁.exchange.view = next.exchange.view := by
        rw [(o'.log_eq_trace runs).2, deeds, after, same]
        rfl
      obtain ⟨later, u', runsLater, deedsLater, patientLater⟩ :=
        ih (o.step step) (o'.run runs) calm₁ sameAfter run
      refine ⟨first ++ later, u', Steps.run?_append_iff.mpr ⟨u₁, runs, runsLater⟩, ?_, ?_⟩
      · rw [deeds_append runs, deeds, deedsLater, deeds_cons step, deed]
        rfl
      · intro n listed
        rcases List.mem_append.mp listed with early | late
        · exact patient n early
        · exact patientLater n late

end Timed

end Outbox.Sender
