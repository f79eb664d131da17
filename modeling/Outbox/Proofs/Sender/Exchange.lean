import Outbox.Proofs.Queue.Interrupted
import Outbox.Proofs.Sender.Calls
import Outbox.Sender.Exchange

/-!
# What a step of an exchange can do

`Exchange.Stepped` lists what one step at a sender, its stream and its queue can come to. In all
runs each thread does one thing at a time, although a pull is a series of calls and a queue may be
called past its sender: whoever is under way at the queue on a thread stands behind the one call
that holds the thread. So a call that is about to reach the queue finds its thread free there, and a
pull whose wait has returned can go on.

## Main Definitions

* `Exchange.Stepped` — a step, and the exchange it leaves
* `Exchange.Lawful` — each thread does one thing at a time; every step keeps it
* `Exchange.goOn?_of_pull` — a pull is a turn at the queue and what the stream makes of its result
-/

namespace Outbox.Sender.Exchange

open Monitor (Activity Phase)

/-! ### Steps -/

/-- **What a step can do**, and the exchange it leaves. -/
inductive Stepped (e : Exchange) : Action → Exchange → Prop where
  /-- Somebody takes a step at the sender; one who calls it has nothing else under way. -/
  | acted {action : Monitor.Action} {m : Monitor}
    (idle : ∀ thread call, action = .begin thread call → e.isBusy thread = false)
    (step : e.monitor.step? action = some m) :
    Stepped e (.sender action) (e.withMonitor m)
  /-- A thread calls the queue past the sender. -/
  | called {thread : Nat} {call : Queue.Monitor.Call} {q : Queue.Monitor}
    (idle : e.isBusy thread = false) (step : e.monitor.queue.step? (.begin thread call) = some q) :
    Stepped e (.direct thread call) (e.withMonitor { e.monitor with queue := q })
  /-- A pull begins to wait. -/
  | pulled {thread : Nat} {timed : Bool} {asking : Asking} {m : Monitor}
    (idle : e.isBusy thread = false) (alone : e.pull = none) (more : e.hasNext = true)
    (step : e.monitor.step? (.begin thread (.take timed)) = some m) :
    Stepped e (.pull thread timed asking)
      { e with monitor := m, pull := some ⟨thread, e.monitor.calls.length⟩ }
  /-- The stream has ended. -/
  | ended {thread : Nat} {timed : Bool} {asking : Asking} (alone : e.pull = none)
    (finished : e.hasNext = false) :
    Stepped e (.pull thread timed asking) (e.tell asking.onEnded)
  /-- A pull hands out a message. -/
  | handedOut {timed : Bool} {p : Pull} {msg : Message} (pulling : e.pull = some p)
    (waited : e.waited? p = some (.fetched (some msg))) :
    Stepped e (.resume timed)
      ({ e with hasNext := !msg.isLast, pull := none }.tell (.chunk msg))
  /-- A pull has waited in vain and waits once more. -/
  | waitsOn {timed : Bool} {p : Pull} {m : Monitor} (pulling : e.pull = some p)
    (waited : e.waited? p = some (.fetched none))
    (step : e.monitor.step? (.begin p.thread (.take timed)) = some m) :
    Stepped e (.resume timed)
      { e with monitor := m, pull := some ⟨p.thread, e.monitor.calls.length⟩ }
  /-- A pull is refused. -/
  | refused {timed : Bool} {p : Pull} {error : CallError} (pulling : e.pull = some p)
    (waited : e.waited? p = some (.refused error)) :
    Stepped e (.resume timed)
      ({ e with hasNext := false, pull := none }.tell (.refused error))

theorem wait?_eq_some_iff {e e' : Exchange} {thread : Nat} {timed : Bool} :
    e.wait? thread timed = some e' ↔
      ∃ m, e.monitor.step? (.begin thread (.take timed)) = some m ∧
        e' = { e with monitor := m, pull := some ⟨thread, e.monitor.calls.length⟩ } := by
  simp only [wait?, Option.bind_eq_bind, Option.bind_eq_some_iff]
  simp [eq_comm]

/-- **Every step does one of these.** -/
theorem stepped {e e' : Exchange} {action : Action} (h : e.step? action = some e') :
    e.Stepped action e' := by
  cases action with
  | sender action =>
    have atSender : (∀ thread call, action = .begin thread call → e.isBusy thread = false) ∧
        (e.monitor.step? action).map e.withMonitor = some e' := by
      cases action with
      | begin thread call =>
        simp only [step?, Option.ite_none_left_eq_some, Bool.not_eq_true] at h
        exact ⟨fun _ _ same => by cases same; exact h.1, h.2⟩
      | act n => exact ⟨by simp, h⟩
      | queue inner => exact ⟨by simp, h⟩
    obtain ⟨m, step, rfl⟩ := Option.map_eq_some_iff.mp atSender.2
    exact .acted atSender.1 step
  | direct thread call =>
    simp only [step?, Option.ite_none_left_eq_some, Bool.not_eq_true, Option.map_eq_some_iff] at h
    obtain ⟨idle, q, step, rfl⟩ := h
    exact .called idle step
  | pull thread timed asking =>
    simp only [step?, Option.ite_none_left_eq_some, Bool.not_eq_true, Bool.or_eq_false_iff,
      Option.isSome_eq_false_iff, Option.isNone_iff_eq_none] at h
    obtain ⟨⟨⟨idle, alone⟩, -⟩, h⟩ := h
    split at h
    · next more =>
      obtain ⟨m, step, rfl⟩ := wait?_eq_some_iff.mp h
      exact .pulled idle alone more step
    · next finished =>
      cases h
      exact .ended alone (by simpa using finished)
  | resume timed =>
    simp only [step?, Option.bind_eq_bind, Option.bind_eq_some_iff] at h
    obtain ⟨p, pulling, result, waited, h⟩ := h
    unfold goOn? at h
    split at h
    · cases h
      exact .handedOut pulling waited
    · obtain ⟨m, step, rfl⟩ := wait?_eq_some_iff.mp h
      exact .waitsOn pulling waited step
    · cases h
      exact .refused pulling waited
    · cases h
    · cases h

/-- **A pull is a turn at the queue and what the stream makes of its result.** Done in one go, the
two come to what a pull of the stream does. -/
theorem goOn?_of_pull {stream : Stream} (more : stream.hasNext = true) (q : Queue) (e : Exchange)
    (p : Pull) (timed : Bool) :
    match stream.pull q with
    | .chunk msg after q' => q.turn .take = (.taken msg, q') ∧
        e.goOn? p timed (.fetched (some msg)) =
          some ({ e with hasNext := after.hasNext, pull := none }.tell (.chunk msg))
    | .refused error after => q.turn .take = (.refused error, q) ∧
        e.goOn? p timed (.refused error) =
          some ({ e with hasNext := after.hasNext, pull := none }.tell (.refused error))
    | .waits => q.turn .take = (.waits, q) := by
  rw [Stream.pull, if_pos more, Queue.turn]
  cases q.take <;> simp [goOn?]

/-- **A step leaves the sender alone, is a step there, or calls the queue past it.** -/
theorem Stepped.monitor_cases {e e' : Exchange} {action : Action} (h : e.Stepped action e') :
    e'.monitor = e.monitor ∨ (∃ inner, e.monitor.step? inner = some e'.monitor) ∨
      ∃ thread call q, e.monitor.queue.step? (.begin thread call) = some q ∧
        e'.monitor = { e.monitor with queue := q } := by
  cases h with
  | acted _ step => exact Or.inr (Or.inl ⟨_, step⟩)
  | called _ step => exact Or.inr (Or.inr ⟨_, _, _, step, rfl⟩)
  | pulled _ _ _ step => exact Or.inr (Or.inl ⟨_, step⟩)
  | ended => exact Or.inl rfl
  | handedOut => exact Or.inl rfl
  | waitsOn _ _ step => exact Or.inr (Or.inl ⟨_, step⟩)
  | refused => exact Or.inl rfl

/-- A step leaves the queue alone, or is one of the queue's own. -/
theorem Stepped.queue_stepped {e e' : Exchange} {action : Action} (h : e.Stepped action e') :
    e'.monitor.queue = e.monitor.queue ∨
      ∃ inner, e.monitor.queue.step? inner = some e'.monitor.queue := by
  rcases h.monitor_cases with same | ⟨inner, step⟩ | ⟨thread, call, q, step, same⟩
  · exact Or.inl (by rw [same])
  · exact (Monitor.stepped step).queue_stepped
  · exact Or.inr ⟨_, by rw [same]; exact step⟩

/-- A call goes on on its thread, and asks for the same. -/
theorem Stepped.call_stays {e e' : Exchange} {action : Action} {n : Nat} {a : Activity}
    (h : e.Stepped action e') (here : e.monitor.calls[n]? = some a) :
    ∃ a', e'.monitor.calls[n]? = some a' ∧ a'.thread = a.thread ∧ a'.call = a.call := by
  rcases h.monitor_cases with same | ⟨inner, step⟩ | ⟨thread, asked, q, -, same⟩
  · exact ⟨a, by rw [same, here], rfl, rfl⟩
  · exact (Monitor.stepped step).call_stays here
  · exact ⟨a, by rw [same, here], rfl, rfl⟩

/-- **A run of the exchange is a run of its queue.** -/
theorem Reachable.queue {capacity : Nat} {overflow : Overflow} {e : Exchange}
    (h : Reachable capacity overflow e) :
    Queue.Monitor.Reachable (.make capacity overflow) e.monitor.queue := by
  refine h.invariant stepped
    (P := fun e => Queue.Monitor.Reachable (.make capacity overflow) e.monitor.queue) ?_ ⟨[], rfl⟩
  intro e e' action reachable h
  rcases h.queue_stepped with same | ⟨inner, step⟩
  · rwa [same]
  · exact reachable.step step

/-! ### One thing at a time -/

variable {e e' : Exchange} {m : Monitor} {n k thread : Nat} {a : Activity} {action : Action}

/-- **A call holds a thread**: one that has not returned, or the wait of the pull under way, which
may have returned. -/
def Holds (e : Exchange) (thread n : Nat) : Prop :=
  (∃ a, e.monitor.calls[n]? = some a ∧ a.thread = thread ∧ e.monitor.hasReturned a = false) ∨
    e.pull = some ⟨thread, n⟩

/-- **Each thread does one thing at a time.** -/
structure Lawful (e : Exchange) : Prop where
  known : e.monitor.Known
  /-- One call at most holds a thread. -/
  oneEach : ∀ thread n n', e.Holds thread n → e.Holds thread n' → n = n'
  /-- Who is under way at the queue stands behind the call that holds the thread, if one does. -/
  behind : ∀ k b n, e.monitor.queue.calls[k]? = some b → b.hasReturned = false →
    e.Holds b.thread n → ∃ a, e.monitor.calls[n]? = some a ∧ a.phase = .queued k
  /-- A pull is under way only while a chunk is to come, and waits for a message. -/
  pulling : ∀ p, e.pull = some p → e.hasNext = true ∧ ∃ a timed,
    e.monitor.calls[p.wait]? = some a ∧ a.thread = p.thread ∧ a.call = .take timed ∧
      (a.phase = .calling ∨ ∃ k, a.phase = .queued k)

/-! ### Idle threads -/

theorem isBusy_eq_false_iff :
    e.isBusy thread = false ↔
      e.monitor.isBusy thread = false ∧ e.monitor.queue.isBusy thread = false ∧
        ∀ p, e.pull = some p → p.thread ≠ thread := by
  cases pulling : e.pull <;> simp [isBusy, pulling, and_assoc]

/-- Nothing holds an idle thread. -/
theorem not_holds_of_idle (idle : e.isBusy thread = false) : ¬ e.Holds thread n := by
  obtain ⟨atSender, -, notPulling⟩ := isBusy_eq_false_iff.mp idle
  rintro (⟨a, here, same, going⟩ | pulling)
  · rw [Monitor.returned_of_idle atSender here same] at going
    cases going
  · exact notPulling _ pulling rfl

/-- Nobody is under way at the queue on a thread that is free there. -/
theorem thread_ne_of_free (free : e.monitor.queue.isBusy thread = false)
    {b : Queue.Monitor.Activity} (there : e.monitor.queue.calls[k]? = some b)
    (going : b.hasReturned = false) : b.thread ≠ thread := by
  rintro rfl
  have all := List.any_eq_false.mp free b (List.mem_of_getElem? there)
  simp [going] at all

theorem thread_ne_of_idle (idle : e.isBusy thread = false) {b : Queue.Monitor.Activity}
    (there : e.monitor.queue.calls[k]? = some b) (going : b.hasReturned = false) :
    b.thread ≠ thread := by
  obtain ⟨-, atQueue, -⟩ := isBusy_eq_false_iff.mp idle
  exact thread_ne_of_free atQueue there going

/-! ### All runs -/

/-- What the wait of a pull has returned is what the call at the queue has returned. -/
theorem waited?_eq_some_iff {p : Pull} {result : Queue.Monitor.Result} :
    e.waited? p = some result ↔
      ∃ a k b, e.monitor.calls[p.wait]? = some a ∧ a.phase = .queued k ∧
        e.monitor.queue.calls[k]? = some b ∧ b.phase = .leaving [] result := by
  have returned : ∀ b : Queue.Monitor.Activity,
      b.returned? = some result ↔ b.phase = .leaving [] result := by
    intro b
    unfold Queue.Monitor.Activity.returned?
    split <;> simp_all
  simp only [waited?, Option.bind_eq_bind, Option.bind_eq_some_iff]
  constructor
  · rintro ⟨a, here, waited⟩
    split at waited
    · next k queued =>
      obtain ⟨b, there, done⟩ := Option.bind_eq_some_iff.mp waited
      exact ⟨a, k, b, here, queued, there, (returned b).mp done⟩
    · cases waited
  · rintro ⟨a, k, b, here, queued, there, done⟩
    exact ⟨a, here, by simp [queued, there, (returned b).mpr done]⟩

/-- Who holds a thread after a step at the sender held it before, or has just begun on it. -/
theorem Holds.origin {inner : Monitor.Action} (holds : (e.withMonitor m).Holds thread n)
    (h : e.monitor.Stepped inner m) (known : e.monitor.Known) :
    e.Holds thread n ∨ n = e.monitor.calls.length ∧ ∃ call, inner = .begin thread call := by
  rcases holds with ⟨a, here, rfl, going⟩ | pulling
  · rcases h.going_origin known here going with ⟨b, there, same, wasGoing⟩ | ⟨newest, -, begins⟩
    · exact Or.inl (Or.inl ⟨b, there, same, wasGoing⟩)
    · exact Or.inr ⟨newest, _, begins⟩
  · exact Or.inl (Or.inr pulling)

/-- Who is under way at the queue after a step at the sender was so before, or has just reached it
from there. -/
theorem going_at_queue {inner : Monitor.Action} (h : e.monitor.Stepped inner m)
    {b : Queue.Monitor.Activity} (there : m.queue.calls[k]? = some b)
    (going : b.hasReturned = false) :
    (∃ b', e.monitor.queue.calls[k]? = some b' ∧ b'.thread = b.thread ∧ b'.hasReturned = false) ∨
      ∃ i a, inner = .act i ∧ e.monitor.calls[i]? = some a ∧ a.phase = .calling ∧
        a.thread = b.thread ∧ m.calls[i]? = some { a with phase := .queued k } := by
  cases h with
  | @reached i a call q here calling asks step =>
    cases Queue.Monitor.stepped step with
    | began =>
      rw [List.getElem?_append] at there
      split at there
      · exact Or.inl ⟨b, there, rfl, going⟩
      · next outside =>
        rw [List.getElem?_singleton, Option.ite_none_right_eq_some, Option.some.injEq] at there
        obtain ⟨newest, rfl⟩ := there
        have number : k = e.monitor.queue.calls.length := by omega
        subst number
        exact Or.inr ⟨i, a, rfl, here, calling, rfl, Monitor.getElem?_setPhase_self here⟩
  | queueStepped inside step =>
    rcases (Queue.Monitor.stepped step).origin there with ⟨b', before, moved⟩ | ⟨-, -, begins⟩
    · refine Or.inl ⟨b', before, moved.thread_eq.symm, ?_⟩
      rw [← Bool.not_eq_true]
      intro returned
      rw [moved.eq_of_returned returned, returned] at going
      cases going
    · exact absurd begins (inside _ _)
  | _ => exact Or.inl ⟨b, there, rfl, going⟩

theorem Lawful.acted {inner : Monitor.Action} (l : e.Lawful)
    (idle : ∀ thread call, inner = .begin thread call → e.isBusy thread = false)
    (h : e.monitor.Stepped inner m) : (e.withMonitor m).Lawful := by
  refine { known := h.known l.known, oneEach := ?_, behind := ?_, pulling := ?_ }
  · intro thread n n' holds holds'
    rcases holds.origin h l.known with old | ⟨newest, call, begins⟩ <;>
      rcases holds'.origin h l.known with old' | ⟨newest', call', begins'⟩
    · exact l.oneEach thread n n' old old'
    · exact absurd old (not_holds_of_idle (idle _ _ begins'))
    · exact absurd old' (not_holds_of_idle (idle _ _ begins))
    · rw [newest, newest']
  · intro k b n there going holds
    have origin := holds.origin h l.known
    rcases going_at_queue h there going with
      ⟨b', before, same, wasGoing⟩ | ⟨i, a, rfl, here, calling, same, now⟩
    · rcases origin with old | ⟨-, call, begins⟩
      · obtain ⟨a, here, queued⟩ := l.behind k b' n before wasGoing (same ▸ old)
        exact ⟨a, h.queued_stays here queued, queued⟩
      · exact absurd same (thread_ne_of_idle (idle _ _ begins) before wasGoing)
    · -- who has just reached the queue held the thread before
      have held : e.Holds b.thread i :=
        Or.inl ⟨a, here, same, by simp [Monitor.hasReturned, calling]⟩
      rcases origin with old | ⟨-, call, begins⟩
      · obtain rfl := l.oneEach _ _ _ old held
        exact ⟨_, now, rfl⟩
      · cases begins
  · intro p pulling
    obtain ⟨more, a, timed, here, same, takes, phase⟩ := l.pulling p pulling
    refine ⟨more, ?_⟩
    rcases phase with calling | ⟨k, queued⟩
    · rcases h.calling_moves here calling with stays | reached
      · exact ⟨a, timed, stays, same, takes, Or.inl calling⟩
      · exact ⟨_, timed, reached, same, takes, Or.inr ⟨_, rfl⟩⟩
    · exact ⟨a, timed, h.queued_stays here queued, same, takes, Or.inr ⟨k, queued⟩⟩

/-- A pull may begin to wait on a thread with nothing under way. -/
theorem Lawful.waits {timed : Bool} (l : e.Lawful) (more : e.hasNext = true)
    (free : e.monitor.isBusy thread = false) (freeAtQueue : e.monitor.queue.isBusy thread = false)
    (step : e.monitor.step? (.begin thread (.take timed)) = some m) :
    ({ e with monitor := m, pull := some ⟨thread, e.monitor.calls.length⟩ } : Exchange).Lawful := by
  have h := Monitor.stepped step
  have origin : ∀ {thread' n : Nat},
      ({ e with monitor := m, pull := some ⟨thread, e.monitor.calls.length⟩ } : Exchange).Holds
          thread' n →
        (thread' ≠ thread ∧ e.Holds thread' n) ∨
          thread' = thread ∧ n = e.monitor.calls.length := by
    rintro thread' n (⟨a, here, rfl, going⟩ | pulling)
    · rcases h.going_origin l.known here going with
        ⟨b, there, same, wasGoing⟩ | ⟨newest, -, begins⟩
      · refine Or.inl ⟨?_, Or.inl ⟨b, there, same, wasGoing⟩⟩
        intro onThread
        rw [Monitor.returned_of_idle free there (same.trans onThread)] at wasGoing
        cases wasGoing
      · exact Or.inr ⟨(Monitor.Action.begin.inj begins).1.symm, newest⟩
    · cases pulling
      exact Or.inr ⟨rfl, rfl⟩
  have kept : m.queue = e.monitor.queue := by
    cases h with
    | began => rfl
  refine { known := h.known l.known, oneEach := ?_, behind := ?_, pulling := ?_ }
  · intro thread' n n' holds holds'
    rcases origin holds with ⟨other, old⟩ | ⟨here, newest⟩ <;>
      rcases origin holds' with ⟨other', old'⟩ | ⟨here', newest'⟩
    · exact l.oneEach thread' n n' old old'
    · exact absurd here' other
    · exact absurd here other'
    · rw [newest, newest']
  · intro k b n there going holds
    replace there : e.monitor.queue.calls[k]? = some b := kept ▸ there
    rcases origin holds with ⟨-, old⟩ | ⟨same, -⟩
    · obtain ⟨a, here, queued⟩ := l.behind k b n there going old
      exact ⟨a, h.queued_stays here queued, queued⟩
    · exact absurd same (thread_ne_of_free freeAtQueue there going)
  · rintro p ⟨⟩
    refine ⟨more, ⟨thread, .take timed, .calling⟩, timed, ?_, rfl, rfl, Or.inl rfl⟩
    cases h with
    | began => exact List.getElem?_concat_length

theorem Lawful.called {call : Queue.Monitor.Call} {q : Queue.Monitor} (l : e.Lawful)
    (idle : e.isBusy thread = false)
    (step : e.monitor.queue.step? (.begin thread call) = some q) :
    (e.withMonitor { e.monitor with queue := q }).Lawful := by
  cases Queue.Monitor.stepped step with
  | began =>
    have kept : ∀ {k : Nat} {b : Queue.Monitor.Activity}, e.monitor.queue.calls[k]? = some b →
        (e.monitor.queue.calls ++ [⟨thread, call, .ready false⟩])[k]? = some b := by
      intro k b there
      rw [List.getElem?_append_left (List.getElem?_eq_some_iff.mp there).1, there]
    have origin : ∀ {thread' n : Nat}, (e.withMonitor { e.monitor with queue :=
        { e.monitor.queue with
          calls := e.monitor.queue.calls ++ [⟨thread, call, .ready false⟩] } }).Holds thread' n →
        e.Holds thread' n := by
      rintro thread' n (⟨a, here, same, going⟩ | pulling)
      · refine Or.inl ⟨a, here, same, ?_⟩
        cases phase : a.phase with
        | queued k =>
          obtain ⟨b, there, -⟩ := l.known n a k here phase
          rw [Monitor.hasReturned_of_queued phase there]
          rwa [Monitor.hasReturned_of_queued phase (kept there)] at going
        | returned refusal => simp [Monitor.hasReturned, phase] at going
        | _ => simp [Monitor.hasReturned, phase]
      · exact Or.inr pulling
    refine { known := ?_, oneEach := ?_, behind := ?_, pulling := l.pulling }
    · intro n a k here queued
      obtain ⟨b, there, asks⟩ := l.known n a k here queued
      exact ⟨b, kept there, asks⟩
    · exact fun thread' n n' holds holds' => l.oneEach thread' n n' (origin holds) (origin holds')
    · intro k b n there going holds
      simp only [withMonitor, List.getElem?_append] at there
      split at there
      · exact l.behind k b n there going (origin holds)
      · rw [List.getElem?_singleton, Option.ite_none_right_eq_some, Option.some.injEq] at there
        obtain ⟨-, rfl⟩ := there
        exact absurd (origin holds) (not_holds_of_idle idle)

/-- A pull that is over leaves its thread free. -/
theorem Lawful.pull_over {hasNext : Bool} {answers : List Answer} (l : e.Lawful) :
    (⟨e.monitor, hasNext, none, answers⟩ : Exchange).Lawful := by
  have origin : ∀ {thread n : Nat},
      (⟨e.monitor, hasNext, none, answers⟩ : Exchange).Holds thread n → e.Holds thread n := by
    rintro thread n (going | ⟨⟨⟩⟩)
    exact Or.inl going
  exact {
    known := l.known
    oneEach := fun thread n n' holds holds' => l.oneEach thread n n' (origin holds) (origin holds')
    behind := fun k b n there going holds => l.behind k b n there going (origin holds)
    pulling := by rintro p ⟨⟩ }

/-- A pull whose wait has returned finds its thread free, at the sender and at the queue. -/
theorem Lawful.free_of_waited {p : Pull} {result : Queue.Monitor.Result} (l : e.Lawful)
    (pulling : e.pull = some p) (waited : e.waited? p = some result) :
    e.monitor.isBusy p.thread = false ∧ e.monitor.queue.isBusy p.thread = false := by
  obtain ⟨a, k, b, here, queued, there, done⟩ := waited?_eq_some_iff.mp waited
  have returned : b.hasReturned = true := Queue.Monitor.Activity.hasReturned_iff.mpr ⟨_, done⟩
  constructor <;> rw [← Bool.not_eq_true] <;> intro busy <;>
    obtain ⟨c, listed, going⟩ := List.any_eq_true.mp busy <;>
    obtain ⟨i, there'⟩ := List.getElem?_of_mem listed <;>
    simp only [Bool.and_eq_true, beq_iff_eq, Bool.not_eq_true'] at going
  · -- only the wait holds the thread of a pull
    obtain rfl := l.oneEach p.thread i p.wait (Or.inl ⟨c, there', going⟩) (Or.inr pulling)
    cases here.symm.trans there'
    rw [Monitor.hasReturned_of_queued queued there, returned] at going
    cases going.2
  · obtain ⟨a', here', queued'⟩ := l.behind i c p.wait there' going.2 (going.1 ▸ Or.inr pulling)
    cases here.symm.trans here'
    cases queued.symm.trans queued'
    cases there.symm.trans there'
    rw [returned] at going
    cases going.2

theorem Stepped.lawful (h : e.Stepped action e') (l : e.Lawful) : e'.Lawful := by
  cases h with
  | acted idle step => exact l.acted idle (Monitor.stepped step)
  | called idle step => exact l.called idle step
  | pulled idle _ more step =>
    obtain ⟨free, freeAtQueue, -⟩ := isBusy_eq_false_iff.mp idle
    exact l.waits more free freeAtQueue step
  | ended =>
    exact { known := l.known, oneEach := l.oneEach, behind := l.behind, pulling := l.pulling }
  | handedOut => exact l.pull_over
  | waitsOn pulling waited step =>
    obtain ⟨free, freeAtQueue⟩ := l.free_of_waited pulling waited
    exact l.waits (l.pulling _ pulling).1 free freeAtQueue step
  | refused => exact l.pull_over

theorem lawful_of_reachable {capacity : Nat} {overflow : Overflow}
    (h : Reachable capacity overflow e) : e.Lawful := by
  refine h.invariant stepped (fun l step => step.lawful l) ⟨?_, ?_, ?_, ?_⟩
  · rintro n a k ⟨⟩
  · rintro thread n n' (⟨a, ⟨⟩, -⟩ | ⟨⟨⟩⟩)
  · rintro k b n ⟨⟩
  · rintro p ⟨⟩

/-- **A call about to reach the queue finds its thread free there.** -/
theorem Lawful.idle_at_queue (l : e.Lawful) (here : e.monitor.calls[n]? = some a)
    (calling : a.phase = .calling) : e.monitor.queue.isBusy a.thread = false := by
  rw [← Bool.not_eq_true]
  intro busy
  obtain ⟨b, listed, going⟩ := List.any_eq_true.mp busy
  simp only [Bool.and_eq_true, beq_iff_eq, Bool.not_eq_true'] at going
  obtain ⟨k, there⟩ := List.getElem?_of_mem listed
  have holds : e.Holds b.thread n :=
    Or.inl ⟨a, here, going.1.symm, by simp [Monitor.hasReturned, calling]⟩
  obtain ⟨a', here', queued⟩ := l.behind k b n there going.2 holds
  cases here.symm.trans here'
  rw [calling] at queued
  cases queued

/-! ### Behind an interruption -/

variable {capacity : Nat} {overflow : Overflow} {actions : List Action}

/-- From an interruption on the queue is halted. -/
theorem Stepped.halts (h : e.Stepped action e')
    (interrupted : e.monitor.queue.queue.interrupted = true) :
    e.monitor.queue.Halted e'.monitor.queue := by
  rcases h.queue_stepped with same | ⟨inner, step⟩
  · rw [same]
    exact .refl _
  · exact (Queue.Monitor.Halted.refl _).step interrupted (Queue.Monitor.stepped step)

theorem Stepped.interrupted (h : e.Stepped action e')
    (interrupted : e.monitor.queue.queue.interrupted = true) :
    e'.monitor.queue.queue.interrupted = true := by
  rw [(h.halts interrupted).queue, interrupted]

theorem halted_of_run (interrupted : e.monitor.queue.queue.interrupted = true)
    (run : e.run? actions = some e') : e.monitor.queue.Halted e'.monitor.queue := by
  refine Steps.run_invariant stepped (P := fun e' => e.monitor.queue.Halted e'.monitor.queue) ?_
    (.refl _) run
  intro e' e'' action halted h
  rcases h.queue_stepped with same | ⟨inner, step⟩
  · rwa [same]
  · exact halted.step interrupted (Queue.Monitor.stepped step)

/-- A call sleeps at the queue, and somebody is still to wake all who sleep on the same. -/
def IsOwedWaking (e : Exchange) (n : Nat) : Prop :=
  ∃ a k b c, e.monitor.calls[n]? = some a ∧ a.phase = .queued k ∧
    e.monitor.queue.calls[k]? = some b ∧ b.phase = .asleep c ∧ e.monitor.queue.OwesAll c

/-- A call at the queue that has not returned has a step to take, or sleeps and will be woken. -/
theorem goes_at_queue (reachable : Reachable capacity overflow e)
    (interrupted : e.monitor.queue.queue.interrupted = true)
    (here : e.monitor.calls[n]? = some a) (queued : a.phase = .queued k)
    {b : Queue.Monitor.Activity} (there : e.monitor.queue.calls[k]? = some b)
    (going : b.hasReturned = false) :
    e.IsOwedWaking n ∨
      ∃ action, e.monitor.isOwn n action = true ∧ (e.monitor.step? action).isSome = true := by
  by_cases asleep : ∃ c, b.phase = .asleep c
  · obtain ⟨c, asleep⟩ := asleep
    exact Or.inl ⟨a, k, b, c, here, queued, there, asleep,
      Queue.Monitor.owesAll_of_asleep reachable.queue interrupted there asleep⟩
  · exact Or.inr (Monitor.exists_own_step here queued there going (not_exists.mp asleep))

/-- A call that is about to reach the queue can do so. -/
theorem reaches_queue (l : e.Lawful) (here : e.monitor.calls[n]? = some a)
    (calling : a.phase = .calling) {asked : Queue.Monitor.Call}
    (asks : a.call.onQueue? = some asked) : (e.monitor.act? n a).isSome = true := by
  rw [Monitor.act?_of_calling n calling asks (l.idle_at_queue here calling)]
  rfl

end Outbox.Sender.Exchange
