import Outbox.Proofs.Queue.Ended
import Outbox.Proofs.Sender.Ending

/-!
# One call at a sender among all others

A call has steps of its own, first at the sender and then at the queue, and all other steps are
those of others, which do nothing to it but wake it up there. How often it still has to act, and
whether it can, is then a matter of a few cases. A thread has one call under way, at the queue as
well as at the sender, so a call that is about to call the queue finds its thread free there.

## Main Definitions

* `Monitor.isOwn`, `Monitor.ownSteps` — the steps of one call, and their number in a run
* `Monitor.Progress` — what a step is to one call
* `Monitor.Serial` — a thread has one call under way; every step keeps it
* `Monitor.Goes`, `Monitor.Finishes` — a call that returns after a bounded number of its own steps
-/

namespace Outbox.Sender.Monitor

variable {m m' : Monitor} {n k : Nat} {a : Activity} {action : Action}

/-! ### Steps of one call -/

/-- Whether a step is one of a call's own, at the sender or at the queue. -/
def isOwn (m : Monitor) (n : Nat) : Action → Bool
  | .act i => i = n
  | .queue (.enter k) => m.calls[n]?.any (·.phase = .queued k)
  | .queue (.signal k _) => m.calls[n]?.any (·.phase = .queued k)
  | _ => false

/-- **How many steps of a run are a call's own.** -/
def ownSteps (m : Monitor) (n : Nat) : List Action → Nat
  | [] => 0
  | action :: actions =>
    (m.isOwn n action).toNat + ((m.step? action).map (·.ownSteps n actions)).getD 0

/-- **What a step is to one call.** -/
inductive Progress (m m' : Monitor) (n : Nat) (a : Activity) (action : Action) : Prop where
  /-- It is the step of another call, and may wake this one up. -/
  | others (notOwn : m.isOwn n action = false) (here : m'.calls[n]? = some a)
    (queued : ∀ k b, a.phase = .queued k → m.queue.calls[k]? = some b →
      ∃ b', m'.queue.calls[k]? = some b' ∧
        (b' = b ∨ ∃ c expired, b.phase = .asleep c ∧ b' = { b with phase := .ready expired }))
  /-- The call takes a step at the sender. -/
  | acts (own : action = .act n)
  /-- The call takes its turn at the queue. -/
  | enters {k : Nat} {b : Queue.Monitor.Activity} {expired : Bool} {outcome : Queue.Outcome}
    (here : m'.calls[n]? = some a) (queued : a.phase = .queued k)
    (there : m.queue.calls[k]? = some b) (ready : b.phase = .ready expired)
    (turned : m.queue.queue.Turned b.call.turn outcome m'.queue.queue)
    (after : m'.queue.calls[k]? = some { b with phase := b.call.after expired outcome })
  /-- The call sends a signal. -/
  | signals {k : Nat} {b : Queue.Monitor.Activity} {signal : Queue.Monitor.Signal}
    {rest : List Queue.Monitor.Signal} {result : Queue.Monitor.Result}
    (here : m'.calls[n]? = some a) (queued : a.phase = .queued k)
    (there : m.queue.calls[k]? = some b) (owes : b.phase = .leaving (signal :: rest) result)
    (after : m'.queue.calls[k]? = some { b with phase := .leaving rest result })

/-- A call that takes a step at the sender has not returned yet. -/
theorem Stepped.act_moves {i : Nat} (h : m.Stepped (.act i) m') :
    ∃ b phase, m.calls[i]? = some b ∧ m.hasReturned b = false ∧
      m'.calls = m.calls.set i { b with phase := phase } := by
  cases h with
  | foundClosed there looking => exact ⟨_, _, there, by simp [hasReturned, looking], rfl⟩
  | foundOpen there looking => exact ⟨_, _, there, by simp [hasReturned, looking], rfl⟩
  | looksAgain there looking => exact ⟨_, _, there, by simp [hasReturned, looking], rfl⟩
  | closes there closing => exact ⟨_, _, there, by simp [hasReturned, closing], rfl⟩
  | closesLate there closing => exact ⟨_, _, there, by simp [hasReturned, closing], rfl⟩
  | claims there claiming => exact ⟨_, _, there, by simp [hasReturned, claiming], rfl⟩
  | claimsLate there claiming => exact ⟨_, _, there, by simp [hasReturned, claiming], rfl⟩
  | reached there calling => exact ⟨_, _, there, by simp [hasReturned, calling], rfl⟩

/-- A call at the sender gets further only in a step of its own there. -/
theorem Stepped.call_kept (h : m.Stepped action m') (here : m.calls[n]? = some a)
    (other : action ≠ .act n) : m'.calls[n]? = some a := by
  cases action with
  | begin thread call =>
    cases h with
    | began =>
      have inside := (List.getElem?_eq_some_iff.mp here).1
      rw [List.getElem?_append_left inside, here]
  | act i =>
    obtain ⟨b, phase, -, -, calls⟩ := h.act_moves
    have away : i ≠ n := fun same => other (congrArg Action.act same)
    rw [calls, List.getElem?_set_ne away, here]
  | queue inner =>
    cases h with
    | queueStepped => exact here

/-- A call that has reached the queue takes no more steps at the sender. -/
theorem Stepped.queued_stays (h : m.Stepped action m') (here : m.calls[n]? = some a)
    (queued : a.phase = .queued k) : m'.calls[n]? = some a := by
  refine h.call_kept here ?_
  rintro rfl
  cases h <;> simp_all

/-- A call that is about to call the queue stays so, or reaches it. -/
theorem Stepped.calling_moves (h : m.Stepped action m') (here : m.calls[n]? = some a)
    (calling : a.phase = .calling) :
    m'.calls[n]? = some a ∨
      m'.calls[n]? = some { a with phase := .queued m.queue.calls.length } := by
  by_cases own : action = .act n
  · subst own
    have inside := (List.getElem?_eq_some_iff.mp here).1
    cases h with
    | reached there =>
      cases here.symm.trans there
      exact Or.inr (by rw [setPhase, List.getElem?_set_self inside])
    | _ => simp_all
  · exact Or.inl (h.call_kept here own)

/-- A call at the queue gets further only in a step there. -/
theorem Stepped.queue_call_kept (h : m.Stepped action m') {b : Queue.Monitor.Activity}
    (there : m.queue.calls[k]? = some b) (outside : ∀ inner, action ≠ .queue inner) :
    m'.queue.calls[k]? = some b := by
  cases h with
  | queueStepped => exact absurd rfl (outside _)
  | @reached n a call q here calling asks step =>
    cases Queue.Monitor.stepped step with
    | began =>
      have inside := (List.getElem?_eq_some_iff.mp there).1
      rw [List.getElem?_append_left inside, there]
  | _ => exact there

theorem isOwn_queue_eq_false {inner : Queue.Monitor.Action} (here : m.calls[n]? = some a)
    (away : ∀ k, a.phase = .queued k →
      inner ≠ .enter k ∧ ∀ sleeper, inner ≠ .signal k sleeper) :
    m.isOwn n (.queue inner) = false := by
  cases inner with
  | enter i =>
    simp only [isOwn, here, Option.any_some, decide_eq_false_iff_not]
    exact fun queued => (away i queued).1 rfl
  | signal i sleeper =>
    simp only [isOwn, here, Option.any_some, decide_eq_false_iff_not]
    exact fun queued => (away i queued).2 sleeper rfl
  | _ => rfl

/-- **Every step is one of these to each call** that is at the sender or stands at the queue. -/
theorem Stepped.progress (h : m.Stepped action m') (here : m.calls[n]? = some a)
    (known : ∀ k, a.phase = .queued k → ∃ b, m.queue.calls[k]? = some b) :
    Progress m m' n a action := by
  by_cases own : action = .act n
  · exact .acts own
  have stays := h.call_kept here own
  by_cases inner : ∃ inner, action = .queue inner
  · obtain ⟨inner, rfl⟩ := inner
    -- a step at the queue is its own if it is taken by the call that it stands behind there
    by_cases queued : ∃ k, a.phase = .queued k
    · obtain ⟨k, queued⟩ := queued
      obtain ⟨b, there⟩ := known k queued
      cases h with
      | queueStepped inside step =>
        obtain ⟨b', after, moved⟩ := (Queue.Monitor.stepped step).moved there
        cases moved with
        | entered ready turned => exact .enters stays queued there ready turned after
        | signalled owes => exact .signals stays queued there owes after
        | still notTurn notSignal =>
          refine .others (isOwn_queue_eq_false here fun k' queued' => ?_) stays ?_
          · cases queued.symm.trans queued'
            exact ⟨notTurn, notSignal⟩
          · intro k' c queued' there'
            cases queued.symm.trans queued'
            exact ⟨_, after, Or.inl (Option.some.inj (there.symm.trans there'))⟩
        | woken notTurn notSignal asleep =>
          refine .others (isOwn_queue_eq_false here fun k' queued' => ?_) stays ?_
          · cases queued.symm.trans queued'
            exact ⟨notTurn, notSignal⟩
          · intro k' c queued' there'
            cases queued.symm.trans queued'
            cases there.symm.trans there'
            exact ⟨_, after, Or.inr ⟨_, _, asleep, rfl⟩⟩
    · refine .others (isOwn_queue_eq_false here fun k isQueued => ?_) stays ?_
      · exact absurd ⟨k, isQueued⟩ queued
      · exact fun k b isQueued _ => absurd ⟨k, isQueued⟩ queued
  · refine .others ?_ stays ?_
    · cases action with
      | begin => rfl
      | act i =>
        have other : i ≠ n := fun same => own (congrArg Action.act same)
        simpa [isOwn] using other
      | queue inside => exact absurd ⟨inside, rfl⟩ inner
    · intro k b _ there
      exact ⟨b, h.queue_call_kept there fun inside same => inner ⟨inside, same⟩, Or.inl rfl⟩

/-! ### One call of a thread at a time -/

/-- The call at the queue behind which a call stands, and what it asks for. -/
theorem Linked.known (l : m.Linked) (here : m.calls[n]? = some a) (queued : a.phase = .queued k) :
    ∃ b, m.queue.calls[k]? = some b ∧ a.call.onQueue? = some b.call := by
  obtain ⟨asked, asks, there⟩ := l.asks n a.call k ⟨a, here, rfl, queued⟩
  rw [Queue.Monitor.asked, Queue.Monitor.records, List.map_map, List.getElem?_map,
    Option.map_eq_some_iff] at there
  obtain ⟨b, there, rfl⟩ := there
  exact ⟨b, there, asks⟩

/-- Every call that has reached the queue stands behind one there that does what it asks for. -/
def Known (m : Monitor) : Prop :=
  ∀ (n : Nat) (a : Activity) (k : Nat), m.calls[n]? = some a → a.phase = .queued k →
    ∃ b, m.queue.calls[k]? = some b ∧ a.call.onQueue? = some b.call

theorem Linked.allKnown (l : m.Linked) : m.Known := fun _ _ _ here queued => l.known here queued

theorem Known.exists_at_queue (known : m.Known) (here : m.calls[n]? = some a) :
    ∀ k, a.phase = .queued k → ∃ b, m.queue.calls[k]? = some b := by
  intro k queued
  obtain ⟨b, there, -⟩ := known n a k here queued
  exact ⟨b, there⟩

theorem Linked.exists_at_queue (l : m.Linked) (here : m.calls[n]? = some a) :
    ∀ k, a.phase = .queued k → ∃ b, m.queue.calls[k]? = some b :=
  l.allKnown.exists_at_queue here

theorem hasReturned_of_queued {b : Queue.Monitor.Activity} (queued : a.phase = .queued k)
    (there : m.queue.calls[k]? = some b) : m.hasReturned a = b.hasReturned := by
  simp [hasReturned, queued, there]

/-- A call stays on its thread and goes on asking for the same. -/
theorem Stepped.call_stays (h : m.Stepped action m') (here : m.calls[n]? = some a) :
    ∃ a', m'.calls[n]? = some a' ∧ a'.thread = a.thread ∧ a'.call = a.call := by
  by_cases own : action = .act n
  · subst own
    obtain ⟨b, phase, there, -, calls⟩ := h.act_moves
    cases here.symm.trans there
    have inside := (List.getElem?_eq_some_iff.mp here).1
    exact ⟨{ a with phase := phase }, by rw [calls, List.getElem?_set_self inside], rfl, rfl⟩
  · exact ⟨a, h.call_kept here own, rfl, rfl⟩

/-- A call that has returned takes no more part. -/
theorem Stepped.returned_stays (h : m.Stepped action m') (known : m.Known)
    (here : m.calls[n]? = some a) (returned : m.hasReturned a = true) :
    m'.calls[n]? = some a ∧ m'.hasReturned a = true := by
  have known := known.exists_at_queue here
  cases h.progress here known with
  | acts own =>
    subst own
    obtain ⟨b, -, there, going, -⟩ := h.act_moves
    cases here.symm.trans there
    rw [going] at returned
    cases returned
  | enters _ queued there ready =>
    rw [hasReturned_of_queued queued there] at returned
    simp [Queue.Monitor.Activity.hasReturned, ready] at returned
  | signals _ queued there owes =>
    rw [hasReturned_of_queued queued there] at returned
    simp [Queue.Monitor.Activity.hasReturned, owes] at returned
  | others _ stays atQueue =>
    refine ⟨stays, ?_⟩
    by_cases queued : ∃ k, a.phase = .queued k
    · obtain ⟨k, queued⟩ := queued
      obtain ⟨b, there⟩ := known k queued
      obtain ⟨b', after, same | ⟨c, expired, asleep, -⟩⟩ := atQueue k b queued there
      · rw [hasReturned_of_queued queued after, same, ← hasReturned_of_queued queued there,
          returned]
      · rw [hasReturned_of_queued queued there] at returned
        simp [Queue.Monitor.Activity.hasReturned, asleep] at returned
    · unfold hasReturned at returned ⊢
      split at returned
      · rfl
      · next k isQueued => exact absurd ⟨k, isQueued⟩ queued
      · cases returned

/-- **A thread has one call under way**, and the same one at the queue. -/
structure Serial (m : Monitor) : Prop where
  oneEach : ∀ (n n' : Nat) (a a' : Activity), m.calls[n]? = some a → m.calls[n']? = some a' →
    a.thread = a'.thread → m.hasReturned a = false → m.hasReturned a' = false → n = n'
  sameThread : ∀ (n : Nat) (a : Activity) (k : Nat) (b : Queue.Monitor.Activity),
    m.calls[n]? = some a → a.phase = .queued k → m.queue.calls[k]? = some b →
      b.thread = a.thread

/-- A call stood in the same place before a step, or begins in it on an idle thread. -/
theorem Stepped.origin (h : m.Stepped action m') (here : m'.calls[n]? = some a) :
    (∃ b, m.calls[n]? = some b) ∨
      n = m.calls.length ∧ m.isBusy a.thread = false ∧ a.phase = a.call.start ∧
        action = .begin a.thread a.call := by
  by_cases old : n < m.calls.length
  · exact Or.inl ⟨_, List.getElem?_eq_getElem old⟩
  · have inside := (List.getElem?_eq_some_iff.mp here).1
    cases action with
    | begin thread call =>
      cases h with
      | began idle =>
        have newest : n = m.calls.length := by
          rw [List.length_append, List.length_singleton] at inside
          exact Nat.le_antisymm (Nat.le_of_lt_succ inside) (Nat.le_of_not_lt old)
        subst newest
        rw [List.getElem?_concat_length, Option.some.injEq] at here
        subst here
        exact Or.inr ⟨rfl, idle, rfl, rfl⟩
    | act i =>
      obtain ⟨b, phase, -, -, calls⟩ := h.act_moves
      rw [calls, List.length_set] at inside
      exact absurd inside old
    | queue inner =>
      cases h with
      | queueStepped => exact absurd inside old

/-- A call that has not returned was under way before the step, or begins in it. -/
theorem Stepped.going_origin (h : m.Stepped action m') (known : m.Known)
    (here : m'.calls[n]? = some a) (going : m'.hasReturned a = false) :
    (∃ b, m.calls[n]? = some b ∧ b.thread = a.thread ∧ m.hasReturned b = false) ∨
      n = m.calls.length ∧ m.isBusy a.thread = false ∧ action = .begin a.thread a.call := by
  rcases h.origin here with ⟨b, there⟩ | ⟨newest, idle, -, begins⟩
  · obtain ⟨a', here', thread, -⟩ := h.call_stays there
    cases here.symm.trans here'
    refine Or.inl ⟨b, there, thread.symm, ?_⟩
    rw [← Bool.not_eq_true]
    intro returned
    obtain ⟨stays, stillReturned⟩ := h.returned_stays known there returned
    cases here.symm.trans stays
    rw [going] at stillReturned
    cases stillReturned
  · exact Or.inr ⟨newest, idle, begins⟩

/-- On a thread that is not busy every call has returned. -/
theorem returned_of_idle {thread : Nat} (idle : m.isBusy thread = false)
    (here : m.calls[n]? = some a) (same : a.thread = thread) : m.hasReturned a = true := by
  have all := List.any_eq_false.mp idle a (List.mem_of_getElem? here)
  simpa [same] using all

/-- A call that stands at the queue stood there before the step, or has just reached it. -/
theorem Stepped.queued_origin (h : m.Stepped action m') (here : m'.calls[n]? = some a)
    (queued : a.phase = .queued k) :
    m.calls[n]? = some a ∨
      k = m.queue.calls.length ∧ ∃ call, a.call.onQueue? = some call ∧
        m.queue.step? (.begin a.thread call) = some m'.queue := by
  by_cases own : action = .act n
  · subst own
    have set : ∀ {b : Activity} {phase : Phase}, m.calls[n]? = some b →
        (m.setPhase n b phase).calls[n]? = some a →
          phase = .queued k ∧ a.thread = b.thread ∧ a.call = b.call := by
      intro b phase there now
      have inside := (List.getElem?_eq_some_iff.mp there).1
      rw [setPhase, List.getElem?_set_self inside, Option.some.injEq] at now
      subst now
      exact ⟨queued, rfl, rfl⟩
    cases h with
    | reached there calling asks step =>
      obtain ⟨number, thread, call⟩ := set there here
      cases number
      exact Or.inr ⟨rfl, _, call ▸ asks, thread ▸ step⟩
    | @foundClosed _ b _ there =>
      have impossible := (set there here).1
      cases call : b.call <;> simp [call, Call.onClosed] at impossible
    | @foundOpen _ b there =>
      have impossible := (set there here).1
      cases call : b.call <;> simp [call, Call.onOpen] at impossible
    | looksAgain there => cases (set there here).1
    | closes there => cases (set there here).1
    | closesLate there => cases (set there here).1
    | claims there => cases (set there here).1
    | claimsLate there => cases (set there here).1
  · rcases h.origin here with ⟨b, there⟩ | ⟨-, -, start, -⟩
    · exact Or.inl (there.trans ((h.call_kept there own).symm.trans here))
    · rw [start] at queued
      cases call : a.call <;> simp [call, Call.start] at queued

/-- A call that stands at the queue goes on asking for the same there, and stays returned once it
has. -/
theorem Stepped.queue_call_stays (h : m.Stepped action m') {b : Queue.Monitor.Activity}
    (there : m.queue.calls[k]? = some b) :
    ∃ b', m'.queue.calls[k]? = some b' ∧ b'.call = b.call ∧
      (b.hasReturned = true → b' = b) := by
  rcases h.queue_stepped with same | ⟨inner, step⟩
  · exact ⟨b, by rw [same, there], rfl, fun _ => rfl⟩
  · obtain ⟨b', after, moved⟩ := (Queue.Monitor.stepped step).moved there
    exact ⟨b', after, moved.call_eq, moved.eq_of_returned⟩

theorem Stepped.known (h : m.Stepped action m') (known : m.Known) : m'.Known := by
  intro n a k here queued
  rcases h.queued_origin here queued with before | ⟨newest, call, asks, step⟩
  · obtain ⟨b, there, asks⟩ := known n a k before queued
    obtain ⟨b', after, same, -⟩ := h.queue_call_stays there
    exact ⟨b', after, same ▸ asks⟩
  · subst newest
    generalize m'.queue = q at step
    cases Queue.Monitor.stepped step with
    | began => exact ⟨_, List.getElem?_concat_length, asks⟩

theorem Stepped.serial (h : m.Stepped action m') (l : m.Linked) (s : m.Serial) : m'.Serial := by
  constructor
  · intro n n' a a' here here' same going going'
    -- a call begins only on an idle thread, so two that are under way are both old or both new
    rcases h.going_origin l.allKnown here going with
      ⟨b, there, thread, wasGoing⟩ | ⟨newest, idle, -⟩ <;>
      rcases h.going_origin l.allKnown here' going' with
        ⟨b', there', thread', wasGoing'⟩ | ⟨newest', idle', -⟩
    · exact s.oneEach n n' b b' there there' (thread.trans (same.trans thread'.symm)) wasGoing
        wasGoing'
    · rw [returned_of_idle idle' there (thread.trans same)] at wasGoing
      cases wasGoing
    · rw [returned_of_idle idle there' (thread'.trans same.symm)] at wasGoing'
      cases wasGoing'
    · rw [newest, newest']
  · intro n a k b' here queued there'
    rcases h.queued_origin here queued with before | ⟨newest, call, -, step⟩
    · obtain ⟨b, there, -⟩ := l.known before queued
      rw [← s.sameThread n a k b before queued there]
      rcases h.queue_stepped with same | ⟨inner, step⟩
      · rw [same, there, Option.some.injEq] at there'
        rw [there']
      · obtain ⟨c, after, moved⟩ := (Queue.Monitor.stepped step).moved there
        cases there'.symm.trans after
        exact moved.thread_eq
    · subst newest
      generalize m'.queue = q at step there'
      cases Queue.Monitor.stepped step with
      | began idle =>
        rw [List.getElem?_concat_length, Option.some.injEq] at there'
        rw [← there']

theorem serial_of_run {q : Queue} {actions : List Action} (run : (start q).run? actions = some m) :
    m.Linked ∧ m.Serial := by
  refine Steps.run_invariant stepped (P := fun m => m.Linked ∧ m.Serial) ?_ ?_ run
  · intro m m' action both step
    exact ⟨step.linked both.1, step.serial both.1 both.2⟩
  · have linked : (start q).Linked := linked_of_run (Steps.run?_nil _)
    refine ⟨linked, ?_, ?_⟩
    · rintro n n' a a' ⟨⟩
    · rintro n a k b ⟨⟩

/-- **A thread about to call the queue is free there.** -/
theorem Serial.idle_at_queue (s : m.Serial) (l : m.Linked) (here : m.calls[n]? = some a)
    (calling : a.phase = .calling) : m.queue.isBusy a.thread = false := by
  rw [← Bool.not_eq_true]
  intro busy
  obtain ⟨b, listed, going⟩ := List.any_eq_true.mp busy
  simp only [Bool.and_eq_true, beq_iff_eq, Bool.not_eq_true'] at going
  obtain ⟨k, there⟩ := List.getElem?_of_mem listed
  have inside : k < m.queue.asked.length := by
    rw [Queue.Monitor.length_asked]
    exact (List.getElem?_eq_some_iff.mp there).1
  -- the call that stands behind it is on the same thread, and has not returned either
  obtain ⟨n', call, a', here', -, queued⟩ := l.behind k inside
  have sameThread := s.sameThread n' a' k b here' queued there
  have going' : m.hasReturned a' = false := by rw [hasReturned_of_queued queued there, going.2]
  have same := s.oneEach n n' a a' here here' (going.1.symm.trans sameThread)
    (by simp [hasReturned, calling]) going'
  subst same
  cases here.symm.trans here'
  rw [calling] at queued
  cases queued

/-! ### Calls that return -/

/-- **A call goes its way**: when it has returned, it has this refusal or none; until then it has a
step of its own to take, or the excuse. -/
def Goes (m : Monitor) (n : Nat) (refusal : Option CallError) (excuse : Prop) : Prop :=
  ∃ a, m.calls[n]? = some a ∧
    (m.hasReturned a = true → m.refusal? a = refusal) ∧
    (m.hasReturned a = false →
      excuse ∨ ∃ action, m.isOwn n action = true ∧ (m.step? action).isSome = true)

/-- **A call finishes**: whatever others do, if nobody interrupts the queue, it takes no more than
so many steps of its own and goes its way until it has returned. -/
def Finishes (m : Monitor) (n bound : Nat) (refusal : Option CallError)
    (excuse : Monitor → Prop) : Prop :=
  ∀ actions m', m.run? actions = some m' → m'.queue.queue.interrupted = false →
    m.ownSteps n actions ≤ bound ∧ m'.Goes n refusal (excuse m')

theorem Finishes.mono {refusal : Option CallError} {excuse : Monitor → Prop} {bound bound' : Nat}
    (h : m.Finishes n bound refusal excuse) (le : bound ≤ bound') :
    m.Finishes n bound' refusal excuse := by
  intro actions m' run live
  obtain ⟨few, goes⟩ := h actions m' run live
  exact ⟨Nat.le_trans few le, goes⟩

theorem known_of_queued {b : Queue.Monitor.Activity} (queued : a.phase = .queued k)
    (there : m.queue.calls[k]? = some b) :
    ∀ k', a.phase = .queued k' → ∃ b, m.queue.calls[k']? = some b := by
  intro k' queued'
  cases queued.symm.trans queued'
  exact ⟨b, there⟩

/-- A call can begin on every thread that is free. -/
theorem exists_begin {thread : Nat} (call : Call) (idle : m.isBusy thread = false) :
    ∃ m', m.step? (.begin thread call) = some m' ∧ m'.closed = m.closed ∧
      m'.calls[m.calls.length]? = some ⟨thread, call, call.start⟩ :=
  ⟨{ m with calls := m.calls ++ [⟨thread, call, call.start⟩] }, by simp [step?, idle], rfl,
    List.getElem?_concat_length⟩

/-- A call at the queue that neither sleeps nor has returned has a step to take. -/
theorem exists_own_step {b : Queue.Monitor.Activity} (here : m.calls[n]? = some a)
    (queued : a.phase = .queued k) (there : m.queue.calls[k]? = some b)
    (going : b.hasReturned = false) (awake : ∀ c, b.phase ≠ .asleep c) :
    ∃ action, m.isOwn n action = true ∧ (m.step? action).isSome = true := by
  rcases Queue.Monitor.exists_step there going awake with turn | ⟨sleeper, signal⟩
  · refine ⟨.queue (.enter k), by simp [isOwn, here, queued], ?_⟩
    simpa [step?, Option.isSome_iff_ne_none] using turn
  · refine ⟨.queue (.signal k sleeper), by simp [isOwn, here, queued], ?_⟩
    simpa [step?, Option.isSome_iff_ne_none] using signal

theorem act?_of_step (here : m.calls[n]? = some a) (step : m.step? (.act n) = some m') :
    m.act? n a = some m' := by
  rwa [step?, here, Option.bind_some] at step

/-- A call that has reached the queue is not the one that takes a step at the sender. -/
theorem ne_act_of_queued (step : m.step? action = some m') (here : m.calls[n]? = some a)
    (queued : a.phase = .queued k) : action ≠ .act n := by
  rintro rfl
  have acted := act?_of_step here step
  rw [act?, queued] at acted
  cases acted

theorem getElem?_setPhase_self {phase : Phase} (here : m.calls[n]? = some a) :
    (m.setPhase n a phase).calls[n]? = some { a with phase := phase } := by
  have inside := (List.getElem?_eq_some_iff.mp here).1
  rw [setPhase, List.getElem?_set_self inside]

theorem Goes.of_returned {refusal : Option CallError} {excuse : Prop}
    (here : m.calls[n]? = some a) (returned : m.hasReturned a = true)
    (answer : m.refusal? a = refusal) : m.Goes n refusal excuse :=
  ⟨a, here, fun _ => answer, fun going => absurd going (by simp [returned])⟩

theorem Goes.of_going {refusal : Option CallError} {excuse : Prop} (here : m.calls[n]? = some a)
    (going : m.hasReturned a = false)
    (next : excuse ∨ ∃ action, m.isOwn n action = true ∧ (m.step? action).isSome = true) :
    m.Goes n refusal excuse :=
  ⟨a, here, fun returned => absurd returned (by simp [going]), fun _ => next⟩

/-- A call that has a step to take at the sender goes its way. -/
theorem Goes.of_act {refusal : Option CallError} {excuse : Prop} (here : m.calls[n]? = some a)
    (going : m.hasReturned a = false) (step : (m.act? n a).isSome = true) :
    m.Goes n refusal excuse := by
  refine .of_going here going (Or.inr ⟨.act n, by simp [isOwn], ?_⟩)
  rwa [step?, here, Option.bind_some]

/-- What is live after a step was live before it. -/
theorem Stepped.live (h : m.Stepped action m') (live : m'.queue.queue.interrupted = false) :
    m.queue.queue.interrupted = false := by
  rcases h.queue_stepped with same | ⟨inner, step⟩
  · rwa [same] at live
  · exact (Queue.Monitor.stepped step).recorded.live live

theorem live_of_run {actions : List Action} (run : m.run? actions = some m')
    (live : m'.queue.queue.interrupted = false) : m.queue.queue.interrupted = false := by
  induction actions generalizing m with
  | nil =>
    cases run
    exact live
  | cons action actions ih =>
    obtain ⟨next, step, rest⟩ := Steps.run?_cons_iff.mp run
    exact (stepped step).live (ih rest)

/-- **A rank that own steps lower and others leave bounds the own steps of a call.** -/
theorem finishes_of_rank {refusal : Option CallError} {excuse : Monitor → Prop}
    {R : Monitor → Nat → Prop}
    (goes : ∀ {m : Monitor} {r : Nat}, R m r → m.queue.queue.interrupted = false →
      m.Goes n refusal (excuse m))
    (step : ∀ {m m' : Monitor} {action : Action} {r : Nat}, R m r → m.step? action = some m' →
      m'.queue.queue.interrupted = false →
        ∃ r', R m' r' ∧ (m.isOwn n action).toNat + r' ≤ r)
    {r : Nat} (first : R m r) : m.Finishes n r refusal excuse := by
  intro actions m' run live
  -- what is live at the end of the run was live all along
  induction actions generalizing m r with
  | nil =>
    cases run
    exact ⟨Nat.zero_le _, goes first live⟩
  | cons action actions ih =>
    obtain ⟨next, hstep, rest⟩ := Steps.run?_cons_iff.mp run
    obtain ⟨r', ranked, lower⟩ := step first hstep (live_of_run rest live)
    obtain ⟨bound, goesOn⟩ := ih ranked rest
    refine ⟨?_, goesOn⟩
    rw [ownSteps, hstep, Option.map_some, Option.getD_some]
    exact Nat.le_trans (Nat.add_le_add_left bound _) lower

end Outbox.Sender.Monitor
