import Outbox.Proofs.Sender.Exchange

/-!
# The last answers of a stream

A pull that is under way when the queue is interrupted may have taken a message already, and hands
it out afterwards. Any other pull is refused, and the refusal ends the stream like the last chunk
does. So from an interruption on it is settled what the stream has to answer until it has ended: the
chunk in hand, if there is one, and once that it was interrupted, unless that chunk is the last.
Every step gives the next of these answers or leaves them as they are.

## Main Definitions

* `Exchange.lastAnswers` — what an interruption leaves the stream to answer
* `Exchange.Answered` — what a step makes of these answers
* `Exchange.Concludes` — the answers between two moments; every run gives them
-/

namespace Outbox.Sender

namespace Exchange

open Monitor (Activity)

variable {capacity : Nat} {overflow : Overflow} {e e' : Exchange} {n k : Nat} {a : Activity}
  {action : Action} {actions : List Action}

/-! ### What is left of the stream -/

/-- The message that the pull under way has taken and not handed out yet. -/
def inHand (e : Exchange) : Option Message := do
  let p ← e.pull
  let a ← e.monitor.calls[p.wait]?
  match a.phase with
  | .queued k => (e.monitor.queue.resultOf k).bind Queue.Monitor.Result.message?
  | _ => none

/-- **What an interruption leaves the stream to answer** before it has ended: the chunk in hand, and
that it was interrupted, unless it has ended or ends with that chunk. -/
def lastAnswers (e : Exchange) : List Answer :=
  match e.inHand with
  | some msg => .chunk msg :: if msg.isLast then [] else [.refused .interrupted]
  | none => if e.hasNext then [.refused .interrupted] else []

theorem inHand_of_pull {p : Pull} (pulling : e.pull = some p)
    (here : e.monitor.calls[p.wait]? = some a) :
    (a.phase = .calling → e.inHand = none) ∧
      ∀ k, a.phase = .queued k →
        e.inHand = (e.monitor.queue.resultOf k).bind Queue.Monitor.Result.message? := by
  constructor
  · intro calling
    simp [inHand, pulling, here, calling]
  · intro k queued
    simp [inHand, pulling, here, queued]

/-- The stream has something left to answer exactly if another chunk was to come. -/
theorem Lawful.hasNext_iff (l : e.Lawful) : e.hasNext = true ↔ e.lastAnswers ≠ [] := by
  unfold lastAnswers
  cases hand : e.inHand with
  | none => cases e.hasNext <;> simp
  | some msg =>
    obtain ⟨p, pulling, -⟩ := Option.bind_eq_some_iff.mp hand
    simp [(l.pulling p pulling).1]

/-- **What a step makes of the stream's answers** after an interruption. -/
inductive Answered (e e' : Exchange) : Prop where
  | nothing (answers : e'.answers = e.answers) (left : e'.lastAnswers = e.lastAnswers)
  /-- It gives the next of the answers that are left. -/
  | next {answer : Answer} (answers : e'.answers = e.answers ++ [answer])
    (left : e.lastAnswers = answer :: e'.lastAnswers)
  /-- It says that it has ended. -/
  | ended {asking : Asking} (answers : e'.answers = e.answers ++ [asking.onEnded])
    (nothingLeft : e.lastAnswers = []) (stillNothing : e'.lastAnswers = [])

theorem inHand_of_pull_eq_none (alone : e.pull = none) : e.inHand = none := by
  simp [inHand, alone]

theorem lastAnswers_of_inHand_eq_none (nothing : e.inHand = none) :
    e.lastAnswers = if e.hasNext then [.refused .interrupted] else [] := by
  rw [lastAnswers, nothing]

theorem lastAnswers_of_pull_eq_none (alone : e.pull = none) :
    e.lastAnswers = if e.hasNext then [.refused .interrupted] else [] :=
  lastAnswers_of_inHand_eq_none (inHand_of_pull_eq_none alone)

/-- A wait that has just begun has taken nothing. -/
theorem inHand_of_begun {thread : Nat} {timed : Bool} {m : Monitor}
    (step : e.monitor.step? (.begin thread (.take timed)) = some m) :
    ({ e with monitor := m, pull := some ⟨thread, e.monitor.calls.length⟩ } : Exchange).inHand =
      none := by
  cases Monitor.stepped step with
  | began => exact (inHand_of_pull rfl List.getElem?_concat_length).1 rfl

/-- What the pull under way has taken, it has taken before the interruption. -/
theorem inHand_eq (l : e.Lawful) (l' : e'.Lawful)
    (halted : e.monitor.queue.Halted e'.monitor.queue) (same : e'.pull = e.pull)
    (moved : ∀ (n : Nat) (a : Activity), e.monitor.calls[n]? = some a →
      (a.phase = .calling ∨ ∃ k, a.phase = .queued k) →
        e'.monitor.calls[n]? = some a ∨ a.phase = .calling ∧
          e'.monitor.calls[n]? = some { a with phase := .queued e.monitor.queue.calls.length }) :
    e'.inHand = e.inHand := by
  cases pulling : e.pull with
  | none => rw [inHand_of_pull_eq_none pulling, inHand_of_pull_eq_none (same.trans pulling)]
  | some p => ?_
  have stillPulling := same.trans pulling
  obtain ⟨-, a, -, here, -, -, phase⟩ := l.pulling p pulling
  obtain ⟨-, a', timed, here', -, takes, -⟩ := l'.pulling p stillPulling
  obtain ⟨callingBefore, queuedBefore⟩ := inHand_of_pull pulling here
  obtain ⟨callingNow, queuedNow⟩ := inHand_of_pull stillPulling here'
  -- what stands behind the wait at the queue asks for a message
  have message : ∀ k, a'.phase = .queued k → e'.inHand =
      (e.monitor.queue.resultOf k).bind Queue.Monitor.Result.message? := by
    intro k queued
    obtain ⟨b, there, asks⟩ := l'.known p.wait a' k here' queued
    rw [takes] at asks
    have dequeues : b.call ≠ .interrupt := by
      rw [← Option.some.inj asks]
      exact nofun
    rw [queuedNow k queued, halted.message_eq there dequeues]
  rcases moved p.wait a here phase with stays | ⟨calling, reached⟩
  · cases here'.symm.trans stays
    rcases phase with calling | ⟨k, queued⟩
    · rw [callingNow calling, callingBefore calling]
    · rw [message k queued, queuedBefore k queued]
  · cases here'.symm.trans reached
    rw [message _ rfl, callingBefore calling]
    simp [Queue.Monitor.resultOf, Queue.Monitor.records]

/-- A wait is refused only as interrupted, and has a message in hand only if it returns one. -/
theorem result_of_waited (reachable : Reachable capacity overflow e) {p : Pull}
    (pulling : e.pull = some p) {result : Queue.Monitor.Result}
    (waited : e.waited? p = some result) :
    e.inHand = result.message? ∧ ∀ timed, (Queue.Monitor.Call.dequeue timed).CanReturn result := by
  have l := lawful_of_reachable reachable
  obtain ⟨a, k, b, here, queued, there, done⟩ := waited?_eq_some_iff.mp waited
  have result? : b.result? = some result := by simp [Queue.Monitor.Activity.result?, done]
  obtain ⟨-, a', timed, here', -, takes, -⟩ := l.pulling p pulling
  cases here.symm.trans here'
  obtain ⟨b', there', asks⟩ := l.known p.wait a k here queued
  cases there.symm.trans there'
  rw [takes] at asks
  constructor
  · rw [(inHand_of_pull pulling here).2 k queued, Queue.Monitor.resultOf_eq there, result?]
    rfl
  · have can := (Queue.Monitor.fitting_of_reachable reachable.queue).canReturn there result?
    rw [← Option.some.inj asks] at can
    intro timed'
    cases result <;> exact can

theorem Stepped.answered (h : e.Stepped action e') (reachable : Reachable capacity overflow e)
    (interrupted : e.monitor.queue.queue.interrupted = true) : Answered e e' := by
  have l := lawful_of_reachable reachable
  have l' := h.lawful l
  have halted := h.halts interrupted
  have left : e'.inHand = e.inHand → e'.hasNext = e.hasNext → e'.lastAnswers = e.lastAnswers := by
    intro hand next
    rw [lastAnswers, lastAnswers, hand, next]
  cases h with
  | acted idle step =>
    refine .nothing rfl (left (inHand_eq l l' halted rfl ?_) rfl)
    rintro n a here (calling | ⟨k, queued⟩)
    · exact ((Monitor.stepped step).calling_moves here calling).imp_right fun now => ⟨calling, now⟩
    · exact Or.inl ((Monitor.stepped step).queued_stays here queued)
  | called =>
    exact .nothing rfl (left (inHand_eq l l' halted rfl fun _ _ here _ => Or.inl here) rfl)
  | pulled idle alone more step =>
    refine .nothing rfl (left ?_ rfl)
    rw [inHand_of_pull_eq_none alone]
    exact inHand_of_begun step
  | ended alone finished =>
    have before := lastAnswers_of_pull_eq_none alone
    rw [finished, if_neg Bool.false_ne_true] at before
    exact .ended rfl before before
  | @handedOut timed p msg pulling waited =>
    obtain ⟨hand, -⟩ := result_of_waited reachable pulling waited
    refine .next rfl ?_
    have after : ({ e with hasNext := !msg.isLast, pull := none }.tell (.chunk msg)).lastAnswers =
        if !msg.isLast then [.refused .interrupted] else [] := lastAnswers_of_pull_eq_none rfl
    rw [after, lastAnswers, hand]
    cases last : msg.isLast <;> simp [last, Queue.Monitor.Result.message?]
  | waitsOn pulling waited step =>
    obtain ⟨hand, -⟩ := result_of_waited reachable pulling waited
    refine .nothing rfl (left ?_ rfl)
    rw [hand]
    exact inHand_of_begun step
  | @refused timed p error pulling waited =>
    obtain ⟨hand, can⟩ := result_of_waited reachable pulling waited
    obtain rfl : error = .interrupted := can timed
    refine .next rfl ?_
    rw [lastAnswers_of_inHand_eq_none hand, (l.pulling p pulling).1]
    rfl

/-- **The stream's answers between two moments** after an interruption: first those that were left
to it, and once none is left, that it has ended. -/
def Concludes (e e' : Exchange) : Prop :=
  ∃ given idle : List Answer, e'.answers = e.answers ++ given ++ idle ∧
    e.lastAnswers = given ++ e'.lastAnswers ∧
      (idle ≠ [] → e'.lastAnswers = []) ∧
      ∀ answer ∈ idle, ∃ asking : Asking, answer = asking.onEnded

theorem concludes_of_run (reachable : Reachable capacity overflow e)
    (interrupted : e.monitor.queue.queue.interrupted = true) (run : e.run? actions = some e') :
    e.Concludes e' := by
  induction actions generalizing e with
  | nil =>
    cases run
    exact ⟨[], [], by simp, rfl, by simp, by simp⟩
  | cons action actions ih =>
    obtain ⟨next, hstep, rest⟩ := Steps.run?_cons_iff.mp run
    have h := stepped hstep
    obtain ⟨given, idle, answers, left, onlyThen, ended⟩ :=
      ih (reachable.step hstep) (h.interrupted interrupted) rest
    cases h.answered reachable interrupted with
    | nothing same sameLeft =>
      exact ⟨given, idle, by rw [answers, same], by rw [← sameLeft, left], onlyThen, ended⟩
    | @next answer now nowLeft =>
      refine ⟨answer :: given, idle, ?_, by rw [nowLeft, left]; rfl, onlyThen, ended⟩
      rw [answers, now]
      simp
    | @ended asking now before after =>
      -- nothing is left, so all that follows is that the stream has ended
      rw [after] at left
      obtain ⟨rfl, nothingLeft⟩ := List.append_eq_nil_iff.mp left.symm
      refine ⟨[], asking.onEnded :: idle, ?_, by rw [before, nothingLeft]; rfl,
        fun _ => nothingLeft, ?_⟩
      · rw [answers, now]
        simp
      · intro answer listed
        rcases List.mem_cons.mp listed with rfl | later
        · exact ⟨asking, rfl⟩
        · exact ended answer later

/-- **A pull under way is not stuck**: its wait has returned and it can go on, or the wait has a
step to take, or sleeps and will be woken. -/
theorem pull_goes (reachable : Reachable capacity overflow e)
    (interrupted : e.monitor.queue.queue.interrupted = true) {p : Pull}
    (pulling : e.pull = some p) :
    (∀ timed, (e.step? (.resume timed)).isSome = true) ∨ e.IsOwedWaking p.wait ∨
      ∃ action, e.monitor.isOwn p.wait action = true ∧ (e.monitor.step? action).isSome = true := by
  have l := lawful_of_reachable reachable
  obtain ⟨-, a, timed, here, onThread, takes, phase⟩ := l.pulling p pulling
  rcases phase with calling | ⟨k, queued⟩
  · refine Or.inr (Or.inr ⟨.act p.wait, by simp [Monitor.isOwn], ?_⟩)
    rw [Monitor.step?, here, Option.bind_some]
    have asks : a.call.onQueue? = some (.dequeue timed) := by
      rw [takes]
      rfl
    exact reaches_queue l here calling asks
  · obtain ⟨b, there, -⟩ := l.known p.wait a k here queued
    cases going : b.hasReturned with
    | false => exact Or.inr (goes_at_queue reachable interrupted here queued there going)
    | true =>
      obtain ⟨result, done⟩ := Queue.Monitor.Activity.hasReturned_iff.mp going
      have waited := waited?_eq_some_iff.mpr ⟨a, k, b, here, queued, there, done⟩
      obtain ⟨-, can⟩ := result_of_waited reachable pulling waited
      refine Or.inl fun again => ?_
      simp only [step?, pulling, waited, Option.bind_eq_bind, Option.bind_some]
      cases result with
      | fetched msg =>
        cases msg with
        | some msg => rfl
        | none =>
          have free := (l.free_of_waited pulling waited).1
          simp [goOn?, wait?, Monitor.step?, free]
      | refused error => rfl
      | stored => exact absurd (can timed) id
      | interrupted => exact absurd (can timed) id

end Exchange

end Outbox.Sender
