import Outbox.Proofs.Sender.Failing

/-!
# What a submission does on its way

A submission takes a few steps of its own, between which others act. Each of them is kept here with
what all calls share, as the step found it and as it left it: looks at the closed flag, turns under
the queue's lock, and the steps that do neither. So what a call did can be told apart from what
happened meanwhile.

What carries the argument is a case for each place where a submission can stand, with what its moves
have been until then. On its way it has changed nothing; what it comes to is decided by one move,
the last turn that it takes, or a look that finds the sender closed; and all that it does afterwards
changes nothing again.

## Main Definitions

* `Exchange.Shared` — what all calls share
* `Exchange.Move`, `Exchange.moves` — a step of one call, and those that it takes in a run
* `Queue.ruling` — what a turn of a submission comes to, one reason before the other
* `Exchange.Course` — how far a submission has got, and its moves until then
-/

namespace Outbox

/-! ### The ruling of a queue -/

namespace Queue

variable {q q' : Queue} {t : Turn} {outcome : Outcome} {error : CallError}

/-- **Why a queue refuses a message, if it does**: an interruption comes first, then the end of the
stream, then the want of room, if the queue does not wait for it. -/
def ruling (q : Queue) : Option CallError :=
  if q.interrupted then some .interrupted
  else if q.terminated then some .queueTerminated
  else if q.overflow = .failFast ∧ q.capacity ≤ q.size then some (.queueFull q.capacity)
  else none

theorem ruling_of_refusal? (closed : q.refusal? = some error) : q.ruling = some error := by
  unfold refusal? at closed
  unfold ruling
  split at closed
  · next interrupted => rw [if_pos interrupted, closed]
  · next live =>
    rw [if_neg live]
    split at closed
    · next ended => rw [if_pos ended, closed]
    · cases closed

/-- An open queue refuses a message only for want of room. -/
theorem ruling_of_open (isOpen : q.refusal? = none) :
    q.ruling = if q.overflow = .failFast ∧ q.hasRoom = false then some (.queueFull q.capacity)
      else none := by
  obtain ⟨live, unended⟩ := refusal?_eq_none_iff.mp isOpen
  have noRoom : q.hasRoom = false ↔ q.capacity ≤ q.size := by
    rw [← Bool.not_eq_true, hasRoom_iff, Nat.not_lt]
  simp only [ruling, live, unended, noRoom, Bool.false_eq_true, if_false]

/-- A queue that has no reason to refuse a message takes it, or lets it wait for room. -/
theorem offer_eq (q : Queue) (m : Message) :
    q.offer m = match q.ruling with
      | some error => .refused error
      | none => if q.hasRoom then .accepted (q.push m) else .waits := by
  cases closed : q.refusal? with
  | some error =>
    rw [ruling_of_refusal? closed, offer, closed]
  | none =>
    rw [ruling_of_open closed, offer, closed]
    cases q.hasRoom <;> cases q.overflow <;> rfl

/-- Only want of room is told as a full queue. -/
theorem full_of_ruling {told : Nat} (ruled : q.ruling = some (.queueFull told)) :
    told = q.capacity ∧ q.overflow = .failFast := by
  unfold ruling at ruled
  split at ruled
  · cases ruled
  · split at ruled
    · cases ruled
    · split at ruled
      · next full =>
        cases ruled
        exact ⟨rfl, full.1⟩
      · cases ruled

theorem Turned.overflow_eq (h : q.Turned t outcome q') : q'.overflow = q.overflow := by
  cases h <;> rfl

theorem Monitor.Stepped.overflow_eq {m m' : Monitor} {action : Monitor.Action}
    (h : m.Stepped action m') : m'.queue.overflow = m.queue.overflow := by
  cases h with
  | entered _ _ turned => simpa [setPhase] using turned.overflow_eq
  | _ => rfl

/-- After its turn a call sleeps, or its last turn is over. -/
theorem Monitor.Call.after_ne_ready (call : Monitor.Call) (expired again : Bool)
    (outcome : Outcome) : call.after expired outcome ≠ .ready again := by
  cases outcome with
  | waits => cases call <;> cases expired <;> simp
  | _ => simp

/-- Only a turn does anything to a queue. -/
theorem Monitor.Stepped.queue_eq_of_signal {m m' : Monitor} {n : Nat} {sleeper : Option Nat}
    (h : m.Stepped (.signal n sleeper) m') : m'.queue = m.queue := by
  cases h <;> rfl

end Queue

namespace Sender

/-- A call at the queue that gets further takes its turn there, or sends a signal. -/
theorem Monitor.Stepped.own_at_queue {m m' : Monitor} {action : Monitor.Action} {k : Nat}
    {b b' : Queue.Monitor.Activity} (h : m.Stepped action m') (there : m.queue.calls[k]? = some b)
    (after : m'.queue.calls[k]? = some b') (awake : ∀ c, b.phase ≠ .asleep c) (further : b' ≠ b) :
    (action = .queue (.enter k) ∧ ∃ expired, b.phase = .ready expired) ∨
      ∃ sleeper, action = .queue (.signal k sleeper) ∧ m'.queue.queue = m.queue.queue ∧
        ∃ signals result, b.phase = .leaving signals result := by
  cases action with
  | queue inner =>
    cases h with
    | queueStepped inside step =>
      have stepped := Queue.Monitor.stepped step
      obtain ⟨c, after', moved⟩ := stepped.moved there
      cases after.symm.trans after'
      cases moved with
      | still => exact absurd rfl further
      | woken _ _ asleep => exact absurd asleep (awake _)
      | entered ready => exact Or.inl ⟨rfl, _, ready⟩
      | signalled owes => exact Or.inr ⟨_, rfl, stepped.queue_eq_of_signal, _, _, owes⟩
  | begin | act =>
    have kept := h.queue_call_kept there (by simp)
    exact absurd (Option.some.inj (after.symm.trans kept)) further

namespace Exchange

open Monitor (Activity Phase Call)

variable {capacity : Nat} {overflow : Overflow} {e e' : Exchange} {n k : Nat} {a : Activity}
  {action : Action} {actions : List Action} {what : Submission}

/-! ### Moves -/

/-- **What all calls share**: the sender's two flags, the queue with its own, and what the stream
keeps. -/
structure Shared where
  closed : Bool
  streamTaken : Bool
  queue : Queue
  hasNext : Bool
  pull : Option Pull
  answers : List Answer
deriving DecidableEq, Repr

def shared (e : Exchange) : Shared :=
  ⟨e.monitor.closed, e.monitor.streamTaken, e.monitor.queue.queue, e.hasNext, e.pull, e.answers⟩

/-- What kind of step a call takes. -/
inductive Move.Kind where
  /-- It looks at the closed flag. -/
  | look
  /-- It has the queue's lock. -/
  | turn
  | other
deriving DecidableEq, Repr

/-- **A step of a call**: what it found, and what it left. -/
structure Move where
  kind : Move.Kind
  found : Shared
  left : Shared
deriving DecidableEq, Repr

/-- What kind of step a call takes, if the step is its own. -/
def kind (e : Exchange) (n : Nat) : Action → Move.Kind
  | .sender (.act _) =>
    match e.monitor.calls[n]? with
    | some ⟨_, _, .looking _⟩ => .look
    | _ => .other
  | .sender (.queue (.enter _)) => .turn
  | _ => .other

/-- The move that a call makes in a step, if the step is its own. -/
def move (e : Exchange) (n : Nat) (action : Action) (e' : Exchange) : List Move :=
  if e.isOwn n action then [⟨e.kind n action, e.shared, e'.shared⟩] else []

/-- **The moves of a call in a run**, in their order. -/
def moves (e : Exchange) (n : Nat) : List Action → List Move
  | [] => []
  | action :: actions =>
    match e.step? action with
    | none => []
    | some next => e.move n action next ++ next.moves n actions

namespace Move

/-- Moves that change nothing of what all calls share. -/
def Idle (ds : List Move) : Prop := ∀ d ∈ ds, d.left = d.found

/-- **Moves of a submission on its way**: they change nothing, its looks find the sender open, and
there was one at least. -/
structure OnWay (ds : List Move) : Prop where
  idle : Idle ds
  looked : ∃ d ∈ ds, d.kind = .look
  foundOpen : ∀ d ∈ ds, d.kind = .look → d.found.closed = false

/-- **The move that decides about a submission**: a turn that puts its message in, or one in which
the queue refuses it. -/
structure Decides (what : Submission) (d : Move) (refusal : Option CallError) : Prop where
  turn : d.kind = .turn
  ruled : refusal = d.found.queue.ruling
  accepted : refusal = none → d.found.queue.size < d.found.queue.capacity ∧
    d.left = { d.found with queue := d.found.queue.push what.message }
  refused : refusal ≠ none → d.left = d.found

/-- A move that is no look and changes nothing leaves a submission on its way. -/
theorem OnWay.snoc {ds : List Move} {d : Move} (w : OnWay ds) (noLook : d.kind ≠ .look)
    (idle : d.left = d.found) : OnWay (ds ++ [d]) := by
  obtain ⟨look, listed, isLook⟩ := w.looked
  refine ⟨?_, ⟨look, List.mem_append_left _ listed, isLook⟩, ?_⟩
  · exact List.forall_mem_append.mpr ⟨w.idle, List.forall_mem_singleton.mpr idle⟩
  · exact List.forall_mem_append.mpr
      ⟨w.foundOpen, List.forall_mem_singleton.mpr fun isLook => absurd isLook noLook⟩

end Move

/-! ### The course of a submission -/

/-- The refusal in a result at the queue, if it is one. -/
def refusalIn : Queue.Monitor.Result → Option CallError
  | .refused error => some error
  | _ => none

/-- **How far a submission has got**, and its moves until then. -/
inductive Course (what : Submission) (e : Exchange) (n : Nat) (ds : List Move) : Prop where
  | looking {a : Activity} {more : Nat} (here : e.monitor.calls[n]? = some a)
    (same : a.call = .submit what) (looking : a.phase = .looking more)
    (isOpen : ∀ d ∈ ds, d.kind = .look ∧ d.found.closed = false ∧ d.left = d.found)
  | calling {a : Activity} (here : e.monitor.calls[n]? = some a) (same : a.call = .submit what)
    (calling : a.phase = .calling) (onWay : Move.OnWay ds)
  /-- It has reached the queue and has no result yet. -/
  | waiting {a : Activity} {k : Nat} {b : Queue.Monitor.Activity}
    (here : e.monitor.calls[n]? = some a) (same : a.call = .submit what)
    (queued : a.phase = .queued k) (there : e.monitor.queue.calls[k]? = some b)
    (noResult : b.result? = none) (onWay : Move.OnWay ds)
  /-- It has its result from the queue, and signals to send or none. -/
  | decided {a : Activity} {k : Nat} {b : Queue.Monitor.Activity}
    {signals : List Queue.Monitor.Signal} {result : Queue.Monitor.Result} {before after : List Move}
    {d : Move} (here : e.monitor.calls[n]? = some a) (same : a.call = .submit what)
    (queued : a.phase = .queued k) (there : e.monitor.queue.calls[k]? = some b)
    (leaving : b.phase = .leaving signals result) (split : ds = before ++ d :: after)
    (onWay : Move.OnWay before) (decides : d.Decides what (refusalIn result))
    (done : ∀ d ∈ after, d.kind = .other ∧ d.left = d.found)
  /-- It has found the sender closed. -/
  | turnedAway {a : Activity} (here : e.monitor.calls[n]? = some a) (same : a.call = .submit what)
    (returned : a.phase = .returned (some .senderClosed)) (idle : Move.Idle ds)
    (looks : ∀ d ∈ ds, d.kind = .look) (closed : ∃ d ∈ ds, d.found.closed = true)

namespace Course

variable {ds : List Move} {m : Monitor}

/-- **Steps of others leave a submission where it stands.** -/
theorem others (c : Course what e n ds) (here : e.monitor.calls[n]? = some a)
    (stays : e'.monitor.calls[n]? = some a)
    (atQueue : ∀ k b, a.phase = .queued k → e.monitor.queue.calls[k]? = some b →
      ∃ b', e'.monitor.queue.calls[k]? = some b' ∧
        (b' = b ∨ ∃ c expired, b.phase = .asleep c ∧ b' = { b with phase := .ready expired })) :
    Course what e' n ds := by
  cases c with
  | looking there same looking isOpen =>
    cases here.symm.trans there
    exact .looking stays same looking isOpen
  | calling there same calling onWay =>
    cases here.symm.trans there
    exact .calling stays same calling onWay
  | turnedAway there same returned idle looks closed =>
    cases here.symm.trans there
    exact .turnedAway stays same returned idle looks closed
  | waiting there same queued inQueue noResult onWay =>
    cases here.symm.trans there
    obtain ⟨b', after, rfl | ⟨c, expired, -, rfl⟩⟩ := atQueue _ _ queued inQueue
    · exact .waiting stays same queued after noResult onWay
    · exact .waiting stays same queued after rfl onWay
  | decided there same queued inQueue leaving split onWay decides done =>
    cases here.symm.trans there
    obtain ⟨b', after, rfl | ⟨c, expired, asleep, -⟩⟩ := atQueue _ _ queued inQueue
    · exact .decided stays same queued after leaving split onWay decides done
    · rw [leaving] at asleep
      cases asleep

/-- **A look at the closed flag** finds the sender closed or open. -/
theorem looks {more : Nat} (here : e.monitor.calls[n]? = some a) (same : a.call = .submit what)
    (looking : a.phase = .looking more)
    (isOpen : ∀ d ∈ ds, d.kind = .look ∧ d.found.closed = false ∧ d.left = d.found)
    (step : e.monitor.act? n a = some m) :
    Course what (e.withMonitor m) n
      (ds ++ [⟨e.kind n (.sender (.act n)), e.shared, (e.withMonitor m).shared⟩]) := by
  have look : e.kind n (.sender (.act n)) = .look := by
    obtain ⟨thread, call, phase⟩ := a
    cases looking
    simp [kind, here]
  rw [Monitor.act?, looking] at step
  cases step
  have now : ∀ phase, (e.monitor.setPhase n a phase).calls[n]? =
      some { a with phase := phase } := fun _ => Monitor.getElem?_setPhase_self here
  have idle : ∀ d ∈ ds ++ [⟨e.kind n (.sender (.act n)), e.shared, e.shared⟩],
      d.kind = .look ∧ d.left = d.found := List.forall_mem_append.mpr
    ⟨fun d old => ⟨(isOpen d old).1, (isOpen d old).2.2⟩,
      List.forall_mem_singleton.mpr ⟨look, rfl⟩⟩
  cases closed : e.monitor.closed with
  | true =>
    refine .turnedAway (now _) same ?_ (fun d listed => (idle d listed).2)
      (fun d listed => (idle d listed).1) ?_
    · rw [if_pos rfl, same]
      rfl
    · exact ⟨_, List.mem_append_right ds List.mem_cons_self, closed⟩
  | false =>
    have stillOpen : ∀ d ∈ ds ++ [⟨e.kind n (.sender (.act n)), e.shared, e.shared⟩],
        d.kind = .look ∧ d.found.closed = false ∧ d.left = d.found :=
      List.forall_mem_append.mpr ⟨isOpen, List.forall_mem_singleton.mpr ⟨look, closed, rfl⟩⟩
    cases more with
    | succ more => exact .looking (now _) same rfl stillOpen
    | zero =>
      refine .calling (now _) same ?_ ⟨fun d listed => (idle d listed).2, ?_, ?_⟩
      · rw [same]
        rfl
      · exact ⟨_, List.mem_append_right ds List.mem_cons_self, look⟩
      · exact fun d listed _ => (stillOpen d listed).2.1

/-- **A step at the sender.** It is a look, or the call reaches the queue and changes nothing of
what is shared. -/
theorem acts (c : Course what e n ds) (here : e.monitor.calls[n]? = some a)
    (step : e.monitor.act? n a = some m) :
    Course what (e.withMonitor m) n (ds ++ e.move n (.sender (.act n)) (e.withMonitor m)) := by
  have own : e.isOwn n (.sender (.act n)) = true := by simp [isOwn, Monitor.isOwn]
  rw [move, if_pos own]
  cases c with
  | looking there same looking isOpen =>
    cases here.symm.trans there
    exact looks here same looking isOpen step
  | calling there same calling onWay =>
    cases here.symm.trans there
    have other : e.kind n (.sender (.act n)) = .other := by
      obtain ⟨thread, call, phase⟩ := a
      cases calling
      simp [kind, here]
    obtain ⟨asked, -, rfl⟩ := Monitor.reached_of_calling calling step
    refine .waiting (Monitor.getElem?_setPhase_self here) same rfl List.getElem?_concat_length rfl
      (onWay.snoc ?_ rfl)
    simp [other]
  | waiting there _ phase | decided there _ phase | turnedAway there _ phase =>
    cases here.symm.trans there
    rw [Monitor.act?, phase] at step
    cases step

/-- **A turn at the queue.** It decides about the submission, unless the queue lets it wait for
room. -/
theorem enters (c : Course what e n ds) (here : e.monitor.calls[n]? = some a)
    (queued : a.phase = .queued k) {b : Queue.Monitor.Activity}
    (there : e.monitor.queue.calls[k]? = some b) (asks : a.call.onQueue? = some b.call)
    {expired : Bool} (ready : b.phase = .ready expired) {outcome : Queue.Outcome}
    (turned : e.monitor.queue.queue.Turned b.call.turn outcome m.queue.queue)
    (stays : m.calls[n]? = some a)
    (after : m.queue.calls[k]? = some { b with phase := b.call.after expired outcome })
    (flags : m.closed = e.monitor.closed ∧ m.streamTaken = e.monitor.streamTaken) :
    Course what (e.withMonitor m) n
      (ds ++ e.move n (.sender (.queue (.enter k))) (e.withMonitor m)) := by
  have own : e.isOwn n (.sender (.queue (.enter k))) = true := by
    simp [isOwn, Monitor.isOwn, here, queued]
  rw [move, if_pos own]
  have onWay : a.call = .submit what ∧ Move.OnWay ds := by
    cases c with
    | waiting there' same _ _ _ onWay =>
      cases here.symm.trans there'
      exact ⟨same, onWay⟩
    | decided there' _ queued' there'' leaving =>
      cases here.symm.trans there'
      cases queued.symm.trans queued'
      cases there.symm.trans there''
      rw [ready] at leaving
      cases leaving
    | looking there' _ phase | calling there' _ phase | turnedAway there' _ phase =>
      cases here.symm.trans there'
      rw [queued] at phase
      cases phase
  obtain ⟨same, onWay⟩ := onWay
  have asked : b.call = .enqueue what.message := by
    rw [same] at asks
    exact (Option.some.inj asks).symm
  have left : (e.withMonitor m).shared = { e.shared with queue := m.queue.queue } := by
    simp [shared, withMonitor, flags]
  rw [asked] at turned after
  rw [left]
  change e.monitor.queue.queue.Turned (.offer what.message) outcome m.queue.queue at turned
  generalize m.queue.queue = q at turned
  cases turned with
  | stored isOpen room =>
    have decides : Move.Decides what ⟨.turn, e.shared,
        { e.shared with queue := e.monitor.queue.queue.push what.message }⟩ none := by
      refine ⟨rfl, ?_, fun _ => ⟨Queue.hasRoom_iff.mp room, rfl⟩, fun refused => absurd rfl refused⟩
      have rule := Queue.ruling_of_open isOpen
      rw [room, if_neg (by simp)] at rule
      exact rule.symm
    exact .decided stays same queued after rfl rfl onWay decides (List.forall_mem_nil _)
  | @refusedOffer _ error reason =>
    have decides : Move.Decides what ⟨.turn, e.shared, e.shared⟩ (some error) := by
      refine ⟨rfl, ?_, fun taken => absurd taken (Option.some_ne_none error), fun _ => rfl⟩
      rcases reason with reason | ⟨isOpen, noRoom, failFast, rfl⟩
      · exact (Queue.ruling_of_refusal? reason).symm
      · have rule := Queue.ruling_of_open isOpen
        rw [if_pos ⟨failFast, noRoom⟩] at rule
        exact rule.symm
    exact .decided stays same queued after rfl rfl onWay decides (List.forall_mem_nil _)
  | full => exact .waiting stays same queued after rfl (onWay.snoc (by simp [kind]) rfl)

/-- **A signal.** It changes nothing that is shared. -/
theorem signals (c : Course what e n ds) (here : e.monitor.calls[n]? = some a)
    (queued : a.phase = .queued k) {b : Queue.Monitor.Activity}
    (there : e.monitor.queue.calls[k]? = some b) {signal : Queue.Monitor.Signal}
    {rest : List Queue.Monitor.Signal} {result : Queue.Monitor.Result}
    (owes : b.phase = .leaving (signal :: rest) result) (stays : m.calls[n]? = some a)
    (after : m.queue.calls[k]? = some { b with phase := .leaving rest result })
    (same : (e.withMonitor m).shared = e.shared) (sleeper : Option Nat) :
    Course what (e.withMonitor m) n
      (ds ++ e.move n (.sender (.queue (.signal k sleeper))) (e.withMonitor m)) := by
  have own : e.isOwn n (.sender (.queue (.signal k sleeper))) = true := by
    simp [isOwn, Monitor.isOwn, here, queued]
  rw [move, if_pos own, same]
  cases c with
  | @decided _ _ _ _ _ before after' d there' asks queued' there'' leaving split onWay decides
      done =>
    cases here.symm.trans there'
    cases queued.symm.trans queued'
    cases there.symm.trans there''
    cases owes.symm.trans leaving
    have longer : ds ++ [⟨.other, e.shared, e.shared⟩] =
        before ++ d :: (after' ++ [⟨.other, e.shared, e.shared⟩]) := by
      rw [split, List.append_assoc, List.cons_append]
    exact .decided stays asks queued after rfl longer onWay decides
      (List.forall_mem_append.mpr ⟨done, List.forall_mem_singleton.mpr ⟨rfl, rfl⟩⟩)
  | waiting there' _ queued' there'' noResult =>
    cases here.symm.trans there'
    cases queued.symm.trans queued'
    cases there.symm.trans there''
    simp [Queue.Monitor.Activity.result?, owes] at noResult
  | looking there' _ phase | calling there' _ phase | turnedAway there' _ phase =>
    cases here.symm.trans there'
    rw [queued] at phase
    cases phase

end Course

/-- A step that is not a call's own is no move of it. -/
theorem move_eq_nil (notOwn : e.isOwn n action = false) : e.move n action e' = [] := by
  rw [move, notOwn, if_neg Bool.false_ne_true]

/-- A step that is not a submission's own leaves it where it stands, and is no move of it. -/
theorem Course.unmoved {ds : List Move} (c : Course what e' n ds)
    (notOwn : e.isOwn n action = false) : Course what e' n (ds ++ e.move n action e') := by
  rwa [move_eq_nil notOwn, List.append_nil]

theorem Course.exists_call {ds : List Move} (c : Course what e n ds) :
    ∃ a, e.monitor.calls[n]? = some a := by
  cases c with
  | looking here | calling here | waiting here | decided here | turnedAway here => exact ⟨_, here⟩

/-- **A step of a call at the sender or at the queue.** -/
theorem Course.acted {ds : List Move} {inner : Monitor.Action} {m : Monitor}
    (c : Course what e n ds) (known : e.monitor.Known) (step : e.monitor.step? inner = some m) :
    Course what (e.withMonitor m) n (ds ++ e.move n (.sender inner) (e.withMonitor m)) := by
  obtain ⟨a, here⟩ := c.exists_call
  have h := Monitor.stepped step
  have flags : ∀ {action : Queue.Monitor.Action}, inner = .queue action →
      m.closed = e.monitor.closed ∧ m.streamTaken = e.monitor.streamTaken := by
    rintro action rfl
    cases h with
    | queueStepped => exact ⟨rfl, rfl⟩
  cases h.progress here (known.exists_at_queue here) with
  | others notOwn stays atQueue => exact (c.others here stays atQueue).unmoved notOwn
  | acts own =>
    subst own
    exact c.acts here (Monitor.act?_of_step here step)
  | @enters k b expired outcome stays queued there ready turned after =>
    have awake : ∀ c, b.phase ≠ .asleep c := by simp [ready]
    have further : { b with phase := b.call.after expired outcome } ≠ b := fun still =>
      b.call.after_ne_ready expired expired outcome
        ((congrArg Queue.Monitor.Activity.phase still).trans ready)
    rcases h.own_at_queue there after awake further with
      ⟨rfl, -⟩ | ⟨sleeper, rfl, -, signals, result, leaving⟩
    · obtain ⟨b', there', asks⟩ := known n a k here queued
      cases there.symm.trans there'
      exact c.enters here queued there asks ready turned stays after (flags rfl)
    · rw [ready] at leaving
      cases leaving
  | @signals k b signal rest result stays queued there owes after =>
    have awake : ∀ c, b.phase ≠ .asleep c := by simp [owes]
    have further : { b with phase := .leaving rest result } ≠ b := by
      intro still
      have longer := (congrArg Queue.Monitor.Activity.phase still).trans owes
      simp at longer
    rcases h.own_at_queue there after awake further with
      ⟨rfl, expired, ready⟩ | ⟨sleeper, rfl, unturned, -⟩
    · rw [owes] at ready
      cases ready
    · refine c.signals here queued there owes stays after ?_ sleeper
      simp [shared, withMonitor, flags rfl, unturned]

/-- **A step takes a submission further, with the move that it is, or leaves it where it
stands.** -/
theorem Stepped.course {ds : List Move} (h : e.Stepped action e') (known : e.monitor.Known)
    (c : Course what e n ds) : Course what e' n (ds ++ e.move n action e') := by
  obtain ⟨a, here⟩ := c.exists_call
  have same : e'.monitor = e.monitor → Course what e' n ds := by
    intro same
    exact c.others here (by rw [same, here]) fun k b _ there =>
      ⟨b, by rw [same, there], Or.inl rfl⟩
  have begun : ∀ {thread : Nat} {call : Call},
      e.monitor.step? (.begin thread call) = some e'.monitor → Course what e' n ds := by
    intro thread call step
    have h := Monitor.stepped step
    exact c.others here (h.call_kept here nofun) fun k b _ there =>
      ⟨b, h.queue_call_kept there nofun, Or.inl rfl⟩
  cases h with
  | acted idle step => exact c.acted known step
  | called idle step =>
    refine Course.unmoved (c.others here here ?_) rfl
    refine fun k b _ there => ⟨b, ?_, Or.inl rfl⟩
    cases Queue.Monitor.stepped step with
    | began =>
      simp [withMonitor, List.getElem?_append_left (List.getElem?_eq_some_iff.mp there).1, there]
  | pulled _ _ _ step => exact (begun step).unmoved rfl
  | waitsOn _ _ step => exact (begun step).unmoved rfl
  | ended => exact (same rfl).unmoved rfl
  | handedOut => exact (same rfl).unmoved rfl
  | refused => exact (same rfl).unmoved rfl

/-! ### Runs -/

theorem moves_cons {next : Exchange} (step : e.step? action = some next) :
    e.moves n (action :: actions) = e.move n action next ++ next.moves n actions := by
  rw [moves, step]

/-- **A submission under way goes on through a run**, with the moves that it makes there. -/
theorem course_of_run {ds : List Move} (l : e.Lawful) (c : Course what e n ds)
    (run : e.run? actions = some e') : Course what e' n (ds ++ e.moves n actions) := by
  induction actions generalizing e ds with
  | nil =>
    cases run
    rwa [moves, List.append_nil]
  | cons action actions ih =>
    obtain ⟨next, step, rest⟩ := Steps.run?_cons_iff.mp run
    have h := stepped step
    rw [moves_cons step, ← List.append_assoc]
    exact ih (h.lawful l) (h.course l.known c) rest

/-- A call that a step begins stands at its start. -/
theorem Stepped.start_of_unbegun (h : e.Stepped action e') (unbegun : e.monitor.calls[n]? = none)
    (here : e'.monitor.calls[n]? = some a) : a.phase = a.call.start := by
  have kept : e'.monitor.calls = e.monitor.calls → a.phase = a.call.start := by
    intro same
    rw [same, unbegun] at here
    cases here
  rcases h.monitor_cases with same | ⟨inner, step⟩ | ⟨thread, asked, q, -, same⟩
  · exact kept (by rw [same])
  · rcases (Monitor.stepped step).origin here with ⟨b, there⟩ | ⟨-, -, start, -⟩
    · rw [unbegun] at there
      cases there
    · exact start
  · exact kept (by rw [same])

/-- **A submission that begins in a run goes its course there**, and all its moves are in the
run. -/
theorem course_of_unbegun (l : e.Lawful) (unbegun : e.monitor.calls[n]? = none)
    (run : e.run? actions = some e') (here : e'.monitor.calls[n]? = some a)
    (submits : a.call = .submit what) : Course what e' n (e.moves n actions) := by
  induction actions generalizing e with
  | nil =>
    cases run
    rw [unbegun] at here
    cases here
  | cons action actions ih =>
    obtain ⟨next, step, rest⟩ := Steps.run?_cons_iff.mp run
    have h := stepped step
    have l := h.lawful l
    rw [moves_cons step, move_eq_nil (h.unbegun unbegun).1, List.nil_append]
    cases begun : next.monitor.calls[n]? with
    | none => exact ih l begun rest
    | some b =>
      have same : b.call = .submit what := (call_of_run rest begun here).symm.trans submits
      have start := h.start_of_unbegun unbegun begun
      rw [same] at start
      have c : Course what next n [] := .looking begun same start (List.forall_mem_nil _)
      exact course_of_run l c rest

/-- A queue keeps its settings. -/
theorem Stepped.settings_eq (h : e.Stepped action e') :
    e'.monitor.queue.queue.capacity = e.monitor.queue.queue.capacity ∧
      e'.monitor.queue.queue.overflow = e.monitor.queue.queue.overflow := by
  rcases h.queue_stepped with same | ⟨inner, step⟩
  · rw [same]
    exact ⟨rfl, rfl⟩
  · have h := Queue.Monitor.stepped step
    exact ⟨h.capacity_eq, h.overflow_eq⟩

/-- Every move finds the queue with the settings it was made with. -/
theorem settings_of_moves {d : Move} (run : e.run? actions = some e')
    (listed : d ∈ e.moves n actions) :
    d.found.queue.capacity = e.monitor.queue.queue.capacity ∧
      d.found.queue.overflow = e.monitor.queue.queue.overflow := by
  induction actions generalizing e with
  | nil => cases listed
  | cons action actions ih =>
    obtain ⟨next, step, rest⟩ := Steps.run?_cons_iff.mp run
    obtain ⟨capacity, overflow⟩ := (stepped step).settings_eq
    rw [moves_cons step, List.mem_append] at listed
    rcases listed with now | later
    · rw [move] at now
      split at now
      · rw [List.mem_singleton.mp now]
        exact ⟨rfl, rfl⟩
      · cases now
    · rw [← capacity, ← overflow]
      exact ih rest later

end Exchange

end Sender

end Outbox
