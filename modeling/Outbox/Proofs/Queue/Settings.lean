import Outbox.Proofs.Queue.Ended

/-!
# Settings matter only to a full queue

A queue looks at its capacity and at its overflow policy in one place: when a message is offered
while it is open. With room enough only the comparison is made, and whoever compares with a greater
capacity finds room as well. So two queues with different settings go side by side for as long as
the smaller one is never found full: the same turns come to the same, what the queues hold stays the
same, and among threads the same steps are possible. Nothing else of the settings leaks out, neither
where the last message takes its reserved place nor where a queue has ended or was interrupted.

## Main Definitions

* `Queue.findsFull`, `Queue.fillsUp` — a turn that finds the queue full, and a history with one
* `Queue.log` — what the turns of a history come to, and what the queue holds after each
* `Queue.SideBySide`, `Queue.Monitor.SideBySide` — what two queues share, in a history of turns and
  in a run of threads
* `Queue.settings_matter_only_when_full` — settings matter only to a full queue
-/

namespace Outbox.Queue

variable {q : Queue} {t : Turn} {ts : List Turn} {capacity : Nat} {overflow : Overflow}

/-! ### Queues found full -/

/-- **Whether a turn finds the queue full**: a message is offered, the queue is open, and there is
no room. -/
def findsFull (q : Queue) : Turn → Bool
  | .offer _ => q.refusal?.isNone && !q.hasRoom
  | _ => false

/-- **Whether a turn of a history finds the queue full.** -/
def fillsUp (q : Queue) : List Turn → Bool
  | [] => false
  | t :: ts => q.findsFull t || (q.turn t).2.fillsUp ts

/-- What a turn comes to for which there is no room: it waits for some, or is told that the queue is
full. -/
def Outcome.IsOverflow (t : Turn) (outcome : Outcome) : Prop :=
  (∃ m, t = .offer m ∧ outcome = .waits) ∨ ∃ n, outcome = .refused (.queueFull n)

theorem refusal?_ne_queueFull {n : Nat} : q.refusal? ≠ some (.queueFull n) := by
  unfold refusal?
  split
  · simp
  · split <;> simp [CallError.queueTerminated]

/-- **Finding the queue full is what makes a turn wait for room or be told so.** -/
theorem findsFull_iff : q.findsFull t = true ↔ (q.turn t).1.IsOverflow t := by
  have listed := q.turned t
  generalize (q.turn t).1 = outcome at listed ⊢
  generalize (q.turn t).2 = q' at listed
  cases listed with
  | stored isOpen room => simp [findsFull, Outcome.IsOverflow, room]
  | storedLast => simp [findsFull, Outcome.IsOverflow]
  | taken => simp [findsFull, Outcome.IsOverflow]
  | interrupted => simp [findsFull, Outcome.IsOverflow]
  | refusedTake => simp [findsFull, Outcome.IsOverflow]
  | empty => simp [findsFull, Outcome.IsOverflow]
  | full isOpen noRoom => simp [findsFull, Outcome.IsOverflow, isOpen, noRoom]
  | @refusedLast m error reason =>
    have other : ∀ n, error ≠ .queueFull n := by
      rintro n rfl
      exact refusal?_ne_queueFull reason
    simpa [findsFull, Outcome.IsOverflow] using other
  | @refusedOffer m error reason =>
    rcases reason with reason | ⟨isOpen, noRoom, -, rfl⟩
    · have other : ∀ n, error ≠ .queueFull n := by
        rintro n rfl
        exact refusal?_ne_queueFull reason
      simpa [findsFull, Outcome.IsOverflow, reason] using other
    · simp [findsFull, Outcome.IsOverflow, isOpen, noRoom]

/-! ### Other settings -/

/-- The same queue with other settings. -/
def withSettings (q : Queue) (capacity : Nat) (overflow : Overflow) : Queue :=
  { q with capacity := capacity, overflow := overflow }

/-- Where there is room, there is with a greater capacity. -/
theorem hasRoom_withSettings (more : q.capacity ≤ capacity) (room : q.hasRoom = true) :
    (q.withSettings capacity overflow).hasRoom = true := by
  have fits := hasRoom_iff.mp room
  exact hasRoom_iff.mpr (Nat.lt_of_lt_of_le fits more)

theorem findsFull_withSettings (more : q.capacity ≤ capacity) (fits : q.findsFull t = false) :
    (q.withSettings capacity overflow).findsFull t = false := by
  cases t with
  | offer m =>
    show (q.refusal?.isNone && !(q.withSettings capacity overflow).hasRoom) = false
    cases room : q.hasRoom with
    | true => rw [hasRoom_withSettings more room, Bool.not_true, Bool.and_false]
    | false =>
      rw [findsFull, room, Bool.not_false, Bool.and_true] at fits
      rw [fits, Bool.false_and]
  | _ => rfl

/-- **A turn that does not find the queue full comes to the same with a greater capacity**, whatever
a full queue does. -/
theorem turn_withSettings (more : q.capacity ≤ capacity) (fits : q.findsFull t = false) :
    (q.withSettings capacity overflow).turn t =
      ((q.turn t).1, (q.turn t).2.withSettings capacity overflow) := by
  refine turned_iff.mp ?_
  have listed := q.turned t
  generalize (q.turn t).1 = outcome at listed ⊢
  generalize (q.turn t).2 = q' at listed ⊢
  cases listed with
  | stored isOpen room => exact .stored isOpen (hasRoom_withSettings more room)
  | storedLast isOpen => exact .storedLast isOpen
  | taken live oldest => exact .taken live oldest
  | interrupted => exact .interrupted
  | refusedLast reason => exact .refusedLast reason
  | refusedTake reason => exact .refusedTake reason
  | empty live noMessage => exact .empty live noMessage
  | refusedOffer reason =>
    rcases reason with reason | ⟨isOpen, noRoom, -⟩
    · exact .refusedOffer (Or.inl reason)
    · simp [findsFull, isOpen, noRoom] at fits
  | full isOpen noRoom => simp [findsFull, isOpen, noRoom] at fits

theorem capacity_turn (q : Queue) (t : Turn) : (q.turn t).2.capacity = q.capacity :=
  (q.turned t).capacity_eq

/-! ### Histories of turns -/

/-- **What a queue holds**, apart from its settings. -/
structure Contents where
  messages : List Message
  terminated : Bool
  interrupted : Bool
deriving DecidableEq, Repr

def contents (q : Queue) : Contents := ⟨q.messages, q.terminated, q.interrupted⟩

/-- **The log of a history**: what each turn comes to, and what the queue holds after it. -/
def log (q : Queue) : List Turn → List (Outcome × Contents)
  | [] => []
  | t :: ts => ((q.turn t).1, (q.turn t).2.contents) :: (q.turn t).2.log ts

theorem fillsUp_cons_eq_false :
    q.fillsUp (t :: ts) = false ↔ q.findsFull t = false ∧ (q.turn t).2.fillsUp ts = false :=
  Bool.or_eq_false_iff

/-- **A history that does not fill a queue up has the same log with a greater capacity.** -/
theorem log_withSettings (more : q.capacity ≤ capacity) (fits : q.fillsUp ts = false) :
    (q.withSettings capacity overflow).log ts = q.log ts := by
  induction ts generalizing q with
  | nil => rfl
  | cons t ts ih =>
    obtain ⟨first, rest⟩ := fillsUp_cons_eq_false.mp fits
    rw [log, log, turn_withSettings more first, ih (by rwa [capacity_turn]) rest]
    rfl

theorem fillsUp_withSettings (more : q.capacity ≤ capacity) (fits : q.fillsUp ts = false) :
    (q.withSettings capacity overflow).fillsUp ts = false := by
  induction ts generalizing q with
  | nil => rfl
  | cons t ts ih =>
    obtain ⟨first, rest⟩ := fillsUp_cons_eq_false.mp fits
    rw [fillsUp_cons_eq_false, turn_withSettings more first]
    exact ⟨findsFull_withSettings more first, ih (by rwa [capacity_turn]) rest⟩

/-- In a history that does not fill a queue up no turn waits for room or is told that there is
none. -/
theorem not_isOverflow_of_log (fits : q.fillsUp ts = false) :
    ∀ e ∈ ts.zip (q.log ts), ¬ e.2.1.IsOverflow e.1 := by
  induction ts generalizing q with
  | nil => nofun
  | cons t ts ih =>
    obtain ⟨first, rest⟩ := fillsUp_cons_eq_false.mp fits
    rw [log, List.zip_cons_cons, List.forall_mem_cons, ← findsFull_iff, Bool.not_eq_true]
    exact ⟨first, ih rest⟩

/-! ### Runs of threads -/

namespace Monitor

variable {m m' : Monitor} {action : Action} {actions before : List Action}

/-- Whether a step is a turn that finds the queue full. -/
def findsFull (m : Monitor) : Action → Bool
  | .enter n => m.calls[n]?.any fun a => m.queue.findsFull a.call.turn
  | _ => false

/-- **Whether a turn in a run finds the queue full.** -/
def fillsUp (m : Monitor) : List Action → Bool
  | [] => false
  | action :: actions =>
    m.findsFull action || ((m.step? action).map (·.fillsUp actions)).getD false

/-- The same calls at the queue with other settings. -/
def withSettings (m : Monitor) (capacity : Nat) (overflow : Overflow) : Monitor :=
  { m with queue := m.queue.withSettings capacity overflow }

theorem setPhase_withSettings (n : Nat) (a : Activity) (phase : Phase) :
    (m.withSettings capacity overflow).setPhase n a phase =
      (m.setPhase n a phase).withSettings capacity overflow := rfl

theorem wakeOne?_withSettings (c : Condition) (sleeper : Option Nat) :
    (m.withSettings capacity overflow).wakeOne? c sleeper =
      (m.wakeOne? c sleeper).map (·.withSettings capacity overflow) := by
  cases sleeper with
  | none => simp only [wakeOne?, apply_ite (Option.map _)]; rfl
  | some s =>
    simp only [wakeOne?, Option.bind_eq_bind, Option.map_bind, Function.comp_def,
      apply_ite (Option.map _)]
    rfl

theorem record_withSettings (n : Nat) (call : Call) (outcome : Outcome) :
    (m.withSettings capacity overflow).record n call outcome =
      (m.record n call outcome).withSettings capacity overflow := by
  cases outcome <;> cases call <;> rfl

/-- A call that does not find the queue full takes the same turn. -/
theorem enter_withSettings (more : m.queue.capacity ≤ capacity) {a : Activity}
    (fits : m.queue.findsFull a.call.turn = false) (n : Nat) (expired : Bool) :
    (m.withSettings capacity overflow).enter n a expired =
      (m.enter n a expired).withSettings capacity overflow := by
  have same : (m.withSettings capacity overflow).queue.turn a.call.turn = _ :=
    turn_withSettings more fits
  simp only [enter, same]
  rw [← setPhase_withSettings, ← record_withSettings]
  rfl

/-- **A step that does not find the queue full is possible with a greater capacity if and only if it
is possible without, and does the same.** -/
theorem step?_withSettings (overflow : Overflow) (more : m.queue.capacity ≤ capacity)
    (fits : m.findsFull action = false) :
    (m.withSettings capacity overflow).step? action =
      (m.step? action).map (·.withSettings capacity overflow) := by
  cases action with
  | begin thread call => simp only [step?, apply_ite (Option.map _)]; rfl
  | enter n =>
    show (m.calls[n]?.bind _) = (m.calls[n]?.bind _).map _
    cases here : m.calls[n]? with
    | none => rfl
    | some a =>
      rw [findsFull, here, Option.any_some] at fits
      simp only [Option.bind_some]
      split
      · rw [enter_withSettings more fits, Option.map_some]
      · rfl
  | signal n sleeper =>
    show (m.calls[n]?.bind _) = (m.calls[n]?.bind _).map _
    cases m.calls[n]? with
    | none => rfl
    | some a =>
      simp only [Option.bind_some]
      split
      · rw [setPhase_withSettings, wakeOne?_withSettings]
      · simp only [apply_ite (Option.map _)]
        rfl
      · rfl
  | expire n =>
    show (m.calls[n]?.bind _) = (m.calls[n]?.bind _).map _
    rw [Option.map_bind]
    refine Option.bind_congr fun a _ => ?_
    simp only [Function.comp_apply, apply_ite (Option.map _)]
    rfl
  | stir n =>
    show (m.calls[n]?.bind _) = (m.calls[n]?.bind _).map _
    cases m.calls[n]? with
    | none => rfl
    | some a =>
      simp only [Option.bind_some]
      split <;> rfl

theorem findsFull_withSettings (overflow : Overflow) (more : m.queue.capacity ≤ capacity)
    (fits : m.findsFull action = false) :
    (m.withSettings capacity overflow).findsFull action = false := by
  cases action with
  | enter n =>
    show m.calls[n]?.any _ = false
    cases here : m.calls[n]? with
    | none => rfl
    | some a =>
      rw [findsFull, here, Option.any_some] at fits
      exact Queue.findsFull_withSettings more fits
  | _ => rfl

theorem fillsUp_cons_eq_false (step : m.step? action = some m') :
    m.fillsUp (action :: actions) = false ↔
      m.findsFull action = false ∧ m'.fillsUp actions = false := by
  rw [fillsUp, step, Bool.or_eq_false_iff]
  rfl

/-- **A run in which the queue is never found full is a run with a greater capacity.** -/
theorem run?_withSettings (overflow : Overflow) (more : m.queue.capacity ≤ capacity)
    (fits : m.fillsUp actions = false) :
    (m.withSettings capacity overflow).run? actions =
        (m.run? actions).map (·.withSettings capacity overflow) ∧
      (m.withSettings capacity overflow).fillsUp actions = false := by
  induction actions generalizing m with
  | nil => exact ⟨rfl, rfl⟩
  | cons action actions ih =>
    have first : m.findsFull action = false := (Bool.or_eq_false_iff.mp fits).1
    have same := step?_withSettings overflow more first
    have fitsToo := findsFull_withSettings overflow more first
    rw [run?, run?, Steps.run?_cons, Steps.run?_cons, same]
    cases step : m.step? action with
    | none => exact ⟨rfl, by rw [fillsUp, fitsToo, same, step]; rfl⟩
    | some next =>
      have rest := ((fillsUp_cons_eq_false step).mp fits).2
      rw [← (stepped step).capacity_eq] at more
      obtain ⟨run, fitsRest⟩ := ih more rest
      rw [step, Option.map_some] at same
      exact ⟨run, (fillsUp_cons_eq_false same).mpr ⟨fitsToo, fitsRest⟩⟩

theorem fillsUp_of_prefix (fits : m.fillsUp actions = false) (earlier : before <+: actions) :
    m.fillsUp before = false := by
  obtain ⟨after, rfl⟩ := earlier
  induction before generalizing m with
  | nil => rfl
  | cons action before ih =>
    have first : m.findsFull action = false := (Bool.or_eq_false_iff.mp fits).1
    rw [fillsUp, first, Bool.false_or]
    cases step : m.step? action with
    | none => rfl
    | some next => exact ih ((fillsUp_cons_eq_false step).mp fits).2

/-! ### Nobody waits for room -/

/-- **Nobody waits for room or is told that there is none.** -/
def Unhindered (m : Monitor) : Prop :=
  ∀ a ∈ m.calls, a.phase ≠ .asleep .room ∧ ∀ n, a.result? ≠ some (.refused (.queueFull n))

/-- A turn that does not find the queue full neither sends its call to sleep for room nor has it
told that there is none. -/
theorem unhindered_after {q q' : Queue} {call : Call} {outcome : Outcome}
    (turned : q.Turned call.turn outcome q') (fits : q.findsFull call.turn = false) (thread : Nat)
    (expired : Bool) :
    call.after expired outcome ≠ .asleep .room ∧
      ∀ n, (Activity.mk thread call (call.after expired outcome)).result? ≠
        some (.refused (.queueFull n)) := by
  have noOverflow : ¬ outcome.IsOverflow call.turn := by
    have same : (q.turn call.turn).1 = outcome := congrArg Prod.fst (turned_iff.mp turned)
    rw [← same, ← findsFull_iff, Bool.not_eq_true]
    exact fits
  cases outcome with
  | refused error =>
    have other : ∀ n, error ≠ .queueFull n := fun n same => noOverflow (Or.inr ⟨n, by rw [same]⟩)
    simpa [Activity.result?] using other
  | waits =>
    cases call with
    | enqueue msg => exact absurd (Or.inl ⟨msg, rfl, rfl⟩) noOverflow
    | dequeue timed => cases expired <;> simp [Activity.result?]
    | enqueueLast msg => cases turned
    | interrupt => cases turned
  | _ => simp [Activity.result?]

/-- **A step that does not find the queue full hinders nobody.** -/
theorem Stepped.unhindered (h : m.Stepped action m') (fits : m.findsFull action = false)
    (u : m.Unhindered) : m'.Unhindered := by
  intro a listed
  obtain ⟨k, here⟩ := List.getElem?_of_mem listed
  rcases h.origin here with ⟨b, there, moved⟩ | ⟨-, fresh, -⟩
  · obtain ⟨awake, notFull⟩ := u b (List.mem_of_getElem? there)
    cases moved with
    | still => exact ⟨awake, notFull⟩
    | woken => simp [Activity.result?]
    | entered ready turned =>
      rw [findsFull, there, Option.any_some] at fits
      exact unhindered_after turned fits b.thread _
    | signalled owes =>
      rw [Activity.result?, owes] at notFull
      exact ⟨by simp, notFull⟩
  · simp [fresh, Activity.result?]

theorem unhindered_of_run (u : m.Unhindered) (fits : m.fillsUp actions = false)
    (run : m.run? actions = some m') : m'.Unhindered := by
  induction actions generalizing m with
  | nil =>
    cases run
    exact u
  | cons action actions ih =>
    obtain ⟨next, step, rest⟩ := Steps.run?_cons_iff.mp run
    obtain ⟨first, fitsRest⟩ := (fillsUp_cons_eq_false step).mp fits
    exact ih ((stepped step).unhindered first u) fitsRest rest

end Monitor

/-! ### Two queues side by side -/

/-- **What a queue shares with a smaller one** in a history of turns that does not fill the smaller
one up. -/
structure SideBySide (small large : Queue) (ts : List Turn) : Prop where
  /-- Every turn comes to the same, and after it they hold the same messages and flags. -/
  log : large.log ts = small.log ts
  /-- No message that is offered waits for room or is refused for want of it. -/
  unhindered : ∀ e ∈ ts.zip (large.log ts), ¬ e.2.1.IsOverflow e.1
  /-- The larger queue is never found full either. -/
  fits : large.fillsUp ts = false

/-- **What the threads at a queue share with those at a smaller one** in a run that does not fill
the smaller one up. -/
structure Monitor.SideBySide (small large : Queue) (actions : List Monitor.Action) : Prop where
  /-- As far as the one run goes, so does the other. Up to every moment they have taken the same
  turns: all calls have got as far, with the same results, the same messages went in and came out,
  and the queues hold the same and have the same flags. -/
  run : ∀ before, before <+: actions → (Monitor.start large).run? before =
    ((Monitor.start small).run? before).map (·.withSettings large.capacity large.overflow)
  /-- At no moment somebody sleeps because there is no room, or has been told so. -/
  unhindered : ∀ before m, before <+: actions → (Monitor.start large).run? before = some m →
    ∀ a ∈ m.calls, a.phase ≠ .asleep .room ∧ ∀ n, a.result? ≠ some (.refused (.queueFull n))
  /-- The larger queue is never found full either. -/
  fits : (Monitor.start large).fillsUp actions = false

/-- **Settings matter only to a full queue.** Two new queues with any overflow policies, the one
with the greater capacity or the same, go side by side for as long as the other is not found full:
through every history of turns, and through every run of any number of threads. -/
theorem settings_matter_only_when_full {capacity capacity' : Nat} (more : capacity ≤ capacity')
    (overflow overflow' : Overflow) :
    (∀ ts, (make capacity overflow).fillsUp ts = false →
      SideBySide (make capacity overflow) (make capacity' overflow') ts) ∧
    ∀ actions, (Monitor.start (make capacity overflow)).fillsUp actions = false →
      Monitor.SideBySide (make capacity overflow) (make capacity' overflow') actions := by
  constructor
  · intro ts fits
    have fitsToo : (make capacity' overflow').fillsUp ts = false :=
      fillsUp_withSettings (q := make capacity overflow) more fits
    exact ⟨log_withSettings (q := make capacity overflow) more fits, not_isOverflow_of_log fitsToo,
      fitsToo⟩
  · intro actions fits
    have sideBySide : ∀ before, before <+: actions → _ := fun before earlier =>
      Monitor.run?_withSettings (m := .start (make capacity overflow)) overflow' more
        (Monitor.fillsUp_of_prefix fits earlier)
    refine ⟨fun before earlier => (sideBySide before earlier).1, ?_,
      (sideBySide actions (List.prefix_refl _)).2⟩
    intro before m earlier run
    have none : (Monitor.start (make capacity' overflow')).Unhindered := nofun
    exact Monitor.unhindered_of_run none (sideBySide before earlier).2 run

/-- One message in a queue for one, another one after it was taken, and the last in its reserved
place; then a submission that comes too late, and an interruption. A queue for five that lets
producers wait goes side by side with it, also when a consumer waits for the first message. -/
theorem one_place_is_enough :
    let other : Message := ⟨[1], .empty⟩
    let ts : List Turn := [.take, .offer .ping, .take, .offer other, .offerLast .terminal,
      .offer .ping, .take, .interrupt, .take]
    let actions : List Monitor.Action := [.begin 0 (.dequeue true), .enter 0,
      .begin 1 (.enqueue .ping), .enter 1, .begin 2 (.enqueueLast .terminal), .enter 2,
      .signal 2 (some 0), .signal 1 none, .enter 0]
    (make 1 .failFast).fillsUp ts = false ∧
      SideBySide (make 1 .failFast) (make 5 .block) ts ∧
      (make 5 .block).turns ts = ([.waits, .stored, .taken .ping, .stored, .stored,
        .refused .queueTerminated, .taken other, .interrupted, .refused .interrupted],
        ⟨5, .block, [.terminal], true, true⟩) ∧
      (Monitor.start (make 1 .failFast)).fillsUp actions = false ∧
      Monitor.SideBySide (make 1 .failFast) (make 5 .block) actions ∧
      ((Monitor.start (make 5 .block)).run? actions).map (·.handed) = some [(0, .ping)] := by
  intro other ts actions
  obtain ⟨turns, runs⟩ := settings_matter_only_when_full (show 1 ≤ 5 by decide) .failFast .block
  exact ⟨rfl, turns ts rfl, rfl, rfl, runs actions rfl, rfl⟩

end Outbox.Queue
