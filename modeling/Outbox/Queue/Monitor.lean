import Outbox.Queue.Turn
import Outbox.Steps

/-!
# Threads at a queue

Any number of threads call a queue at once. A call is a sequence of steps between which others may
act: a turn under the lock, then the signals that the turn owes to those who wait, one at a time and
with the lock released. A turn that has to wait gives the lock back and falls asleep in the same
step; woken by a signal, by its deadline or for no reason, the call takes its turn anew, and what it
finds then may have been changed by anyone.

The monitor holds every call ever begun, under a number of its own, and lets one of them take one
step. Every order of steps is a run, so what holds in all runs holds under every schedule. Two logs
that no step reads say which messages went in and which came out, in the order of the turns that did
it.

## Main Definitions

* `Monitor.Call`, `Monitor.Phase` — what a thread asks for, and how far it has got
* `Monitor`, `Monitor.step?` — the queue with its calls, and one step of one of them
* `Monitor.Reachable`, `Monitor.Quiet` — the monitors of all runs, and those in which nobody can go
  on by itself
-/

namespace Outbox.Queue

namespace Monitor

/-! ### Calls -/

/-- **What a thread asks of the queue.** -/
inductive Call where
  | enqueue (message : Message)
  | enqueueLast (message : Message)
  /-- With a deadline or without one. -/
  | dequeue (timed : Bool)
  | interrupt
deriving DecidableEq, Repr

/-- What a call returns. -/
inductive Result where
  | stored
  /-- A message, or none because the time ran out. -/
  | fetched (message : Option Message)
  | interrupted
  | refused (error : CallError)
deriving DecidableEq, Repr

/-- What a sleeping call waits for. -/
inductive Condition where
  /-- Room in the queue. -/
  | room
  /-- A message in the queue. -/
  | message
deriving DecidableEq, Repr

/-- A signal to those who wait for a condition. -/
inductive Signal where
  | one (condition : Condition)
  | all (condition : Condition)
deriving DecidableEq, Repr

/-- **How far a call has got.** -/
inductive Phase where
  /-- It takes its turn next; `expired` tells that its deadline passed while it slept. -/
  | ready (expired : Bool)
  | asleep (condition : Condition)
  /-- Its last turn is over and these signals are still to be sent. With none left it has
  returned. -/
  | leaving (signals : List Signal) (result : Result)
deriving DecidableEq, Repr

/-- The turn that a call takes under the lock. -/
def Call.turn : Call → Turn
  | .enqueue m => .offer m
  | .enqueueLast m => .offerLast m
  | .dequeue _ => .take
  | .interrupt => .interrupt

/-- What a call that has to wait does: it falls asleep, unless its deadline has passed. -/
def Call.onWait (call : Call) (expired : Bool) : Phase :=
  match call with
  | .dequeue _ => if expired then .leaving [] (.fetched none) else .asleep .message
  | _ => .asleep .room

/-- What a call that stored a message owes: one consumer is woken, and the last message also wakes
every producer, since none of them can succeed any more. -/
def Call.onStored : Call → List Signal
  | .enqueueLast _ => [.one .message, .all .room]
  | _ => [.one .message]

/-- **What a turn makes of a call.** -/
def Call.after (call : Call) (expired : Bool) : Outcome → Phase
  | .stored => .leaving call.onStored .stored
  | .taken m => .leaving [.one .room] (.fetched (some m))
  | .interrupted => .leaving [.all .message, .all .room] .interrupted
  | .refused error => .leaving [] (.refused error)
  | .waits => call.onWait expired

/-- **A call**: the thread it is made on, what it asks for, and how far it has got. -/
structure Activity where
  thread : Nat
  call : Call
  phase : Phase
deriving DecidableEq, Repr

namespace Activity

/-- Whether the call has returned. -/
def hasReturned (a : Activity) : Bool :=
  match a.phase with
  | .leaving [] _ => true
  | _ => false

/-- What the call has returned, or will return without another turn. -/
def result? (a : Activity) : Option Result :=
  match a.phase with
  | .leaving _ result => some result
  | _ => none

/-- Whether the call sleeps on a condition. -/
def sleepsOn (a : Activity) (condition : Condition) : Bool :=
  a.phase = .asleep condition

/-- The call, woken before its deadline. -/
def woken (a : Activity) : Activity := { a with phase := .ready false }

end Activity

end Monitor

/-! ### Monitors -/

/-- **A queue with its calls**: a call's number is its place in the list. The logs hold the numbers
of the calls that put a message in or took one out, each with the message. -/
structure Monitor where
  queue : Queue
  calls : List Monitor.Activity
  accepted : List (Nat × Message)
  handed : List (Nat × Message)
deriving DecidableEq, Repr

namespace Monitor

/-- A queue that nobody has called. -/
def start (q : Queue) : Monitor := ⟨q, [], [], []⟩

/-- **A step.** -/
inductive Action where
  /-- A thread makes a call; it has no other under way. -/
  | begin (thread : Nat) (call : Call)
  /-- A call takes its turn. -/
  | enter (number : Nat)
  /-- A call sends its next signal; one that wakes a single sleeper says which. -/
  | signal (number : Nat) (sleeper : Option Nat)
  /-- A sleeping call with a deadline is woken by it. -/
  | expire (number : Nat)
  /-- A sleeping call wakes for no reason. -/
  | stir (number : Nat)
deriving DecidableEq, Repr

/-- The monitor with one call in another phase. -/
def setPhase (m : Monitor) (number : Nat) (a : Activity) (phase : Phase) : Monitor :=
  { m with calls := m.calls.set number { a with phase := phase } }

/-- Whether a thread has a call under way. -/
def isBusy (m : Monitor) (thread : Nat) : Bool :=
  m.calls.any fun a => a.thread == thread && !a.hasReturned

/-- The logs after a turn. -/
def record (m : Monitor) (number : Nat) (call : Call) : Outcome → Monitor
  | .stored =>
    match call with
    | .enqueue message => { m with accepted := m.accepted ++ [(number, message)] }
    | .enqueueLast message => { m with accepted := m.accepted ++ [(number, message)] }
    | _ => m
  | .taken message => { m with handed := m.handed ++ [(number, message)] }
  | _ => m

/-- A call takes its turn. -/
def enter (m : Monitor) (number : Nat) (a : Activity) (expired : Bool) : Monitor :=
  let outcome := (m.queue.turn a.call.turn).1
  let turned := { m with queue := (m.queue.turn a.call.turn).2 }
  (turned.record number a.call outcome).setPhase number a (a.call.after expired outcome)

/-- Wakes every call that sleeps on a condition. -/
def wakeAll (m : Monitor) (condition : Condition) : Monitor :=
  { m with calls := m.calls.map fun a => if a.sleepsOn condition then a.woken else a }

/-- Wakes one call that sleeps on a condition; nobody, exactly if nobody sleeps on it. -/
def wakeOne? (m : Monitor) (condition : Condition) : Option Nat → Option Monitor
  | none => if m.calls.any (·.sleepsOn condition) then none else some m
  | some sleeper => do
    let a ← m.calls[sleeper]?
    if a.sleepsOn condition then some { m with calls := m.calls.set sleeper a.woken } else none

/-- **One step**, where it is possible. -/
def step? (m : Monitor) : Action → Option Monitor
  | .begin thread call =>
    if m.isBusy thread then none
    else some { m with calls := m.calls ++ [⟨thread, call, .ready false⟩] }
  | .enter number => do
    let a ← m.calls[number]?
    match a.phase with
    | .ready expired => some (m.enter number a expired)
    | _ => none
  | .signal number sleeper => do
    let a ← m.calls[number]?
    match a.phase with
    | .leaving (.one condition :: rest) result =>
      (m.setPhase number a (.leaving rest result)).wakeOne? condition sleeper
    | .leaving (.all condition :: rest) result =>
      if sleeper.isSome then none
      else some ((m.setPhase number a (.leaving rest result)).wakeAll condition)
    | _ => none
  | .expire number => do
    let a ← m.calls[number]?
    if a.call = .dequeue true ∧ a.sleepsOn .message then some (m.setPhase number a (.ready true))
    else none
  | .stir number => do
    let a ← m.calls[number]?
    match a.phase with
    | .asleep _ => some { m with calls := m.calls.set number a.woken }
    | _ => none

/-- Any number of steps, where they are possible. -/
def run? (m : Monitor) (actions : List Action) : Option Monitor :=
  Steps.run? step? m actions

/-- **The monitors of all runs** from a queue that nobody has called. -/
def Reachable (q : Queue) (m : Monitor) : Prop :=
  Steps.Reachable step? (start q) m

/-- **Nobody can go on by itself**: every call has returned or sleeps. -/
def Quiet (m : Monitor) : Prop :=
  ∀ a ∈ m.calls, a.hasReturned = true ∨ ∃ condition, a.phase = .asleep condition

end Monitor

end Outbox.Queue
