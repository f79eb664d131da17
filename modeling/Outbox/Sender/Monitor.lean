import Outbox.Queue.Monitor
import Outbox.Sender

/-!
# Threads at a sender

A sender is shared by any number of threads, and the calls on it are not atomic. The closed flag is
the sender's own and lies outside the queue's lock: a submission looks at it and calls the queue in
steps of their own, and closing sets it and queues the last message in steps of their own. Between
two steps of a call others may act, so a submission can pass the flag while the sender is open and
reach the queue after the last message did. What is true of all runs is therefore carried by the
queue's refusals and not by the flag.

## Main Definitions

* `Monitor.Call`, `Monitor.Phase` — what a thread asks for, and how far it has got
* `Monitor`, `Monitor.step?` — the sender's flags, its queue and its calls, and one step
* `Monitor.Reachable` — the monitors of all runs
-/

namespace Outbox.Sender

namespace Monitor

/-! ### Calls -/

/-- **What a thread asks for.** -/
inductive Call where
  | submit (what : Submission)
  | close
  /-- Closing on the way out: nothing is done if the sender is closed already. -/
  | drop
  | obtainStream
  /-- Interrupting the queue through the stream's handle. -/
  | interrupt
  /-- One wait of the stream for a message. -/
  | take (timed : Bool)
deriving DecidableEq, Repr

/-- **How far a call has got.** -/
inductive Phase where
  /-- It looks at the closed flag next, and then this many times more. -/
  | looking (more : Nat)
  /-- It sets the closed flag next. -/
  | closing
  /-- It claims the stream next. -/
  | claiming
  /-- It calls the queue next. -/
  | calling
  /-- It has called the queue, under this number, and returns what the queue returns. -/
  | queued (number : Nat)
  /-- It has returned, with this refusal if it was refused. -/
  | returned (refusal : Option CallError)
deriving DecidableEq, Repr

/-- How often a submission looks at the closed flag. One that becomes a ping looks once for itself
and once for the ping. -/
def looks : Submission → Nat
  | .text content _ => if content.isEmpty then 2 else 1
  | .binary content _ => if content.isEmpty then 2 else 1
  | .ping => 1

/-- Where a call begins. -/
def Call.start : Call → Phase
  | .submit what => .looking (looks what - 1)
  | .close => .closing
  | .drop => .looking 0
  | .obtainStream => .claiming
  | .interrupt => .calling
  | .take _ => .calling

/-- What a call asks of the queue, if it has anything to ask. -/
def Call.onQueue? : Call → Option Queue.Monitor.Call
  | .submit what => some (.enqueue what.message)
  | .close => some (.enqueueLast .terminal)
  | .drop => some (.enqueueLast .terminal)
  | .obtainStream => none
  | .interrupt => some .interrupt
  | .take timed => some (.dequeue timed)

/-- What a call does after its last look at the flag of an open sender. -/
def Call.onOpen : Call → Phase
  | .drop => .closing
  | _ => .calling

/-- What a call does that finds the sender closed. -/
def Call.onClosed : Call → Phase
  | .submit _ => .returned (some .senderClosed)
  | _ => .returned none

/-- **A call**: the thread it is made on, what it asks for, and how far it has got. -/
structure Activity where
  thread : Nat
  call : Call
  phase : Phase
deriving DecidableEq, Repr

end Monitor

/-! ### Monitors -/

/-- **A sender with its calls**: the closed flag, whether the stream was given away, and the queue
with the calls that have reached it. -/
structure Monitor where
  closed : Bool
  streamTaken : Bool
  queue : Queue.Monitor
  calls : List Monitor.Activity
deriving DecidableEq, Repr

namespace Monitor

/-- A new sender that nobody has called. -/
def start (q : Queue) : Monitor := ⟨false, false, .start q, []⟩

/-- **A step.** -/
inductive Action where
  /-- A thread makes a call; it has no other under way. -/
  | begin (thread : Nat) (call : Call)
  /-- A call takes a step of its own. -/
  | act (number : Nat)
  /-- A call that has reached the queue takes a step there. -/
  | queue (action : Queue.Monitor.Action)
deriving DecidableEq, Repr

/-- Whether a call has returned. -/
def hasReturned (m : Monitor) (a : Activity) : Bool :=
  match a.phase with
  | .returned _ => true
  | .queued number => m.queue.calls[number]?.any (·.hasReturned)
  | _ => false

/-- Why a call was refused, if it was. -/
def refusal? (m : Monitor) (a : Activity) : Option CallError :=
  match a.phase with
  | .returned refusal => refusal
  | .queued number =>
    match m.queue.calls[number]?.bind (·.result?) with
    | some (.refused error) => some error
    | _ => none
  | _ => none

/-- Whether a thread has a call under way. -/
def isBusy (m : Monitor) (thread : Nat) : Bool :=
  m.calls.any fun a => a.thread == thread && !m.hasReturned a

/-- The monitor with one call in another phase. -/
def setPhase (m : Monitor) (number : Nat) (a : Activity) (phase : Phase) : Monitor :=
  { m with calls := m.calls.set number { a with phase := phase } }

/-- A call reaches the queue. -/
def reachQueue? (m : Monitor) (number : Nat) (a : Activity) : Option Monitor := do
  let call ← a.call.onQueue?
  let q ← m.queue.step? (.begin a.thread call)
  return { m.setPhase number a (.queued m.queue.calls.length) with queue := q }

/-- A call takes a step of its own. -/
def act? (m : Monitor) (number : Nat) (a : Activity) : Option Monitor :=
  match a.phase with
  | .looking more =>
    some (m.setPhase number a
      (if m.closed then a.call.onClosed
      else if more = 0 then a.call.onOpen
      else .looking (more - 1)))
  | .closing =>
    if m.closed then some (m.setPhase number a (.returned none))
    else some { m.setPhase number a .calling with closed := true }
  | .claiming =>
    if m.streamTaken then some (m.setPhase number a (.returned (some .streamTaken)))
    else some { m.setPhase number a (.returned none) with streamTaken := true }
  | .calling => m.reachQueue? number a
  | _ => none

/-- **One step**, where it is possible. -/
def step? (m : Monitor) : Action → Option Monitor
  | .begin thread call =>
    if m.isBusy thread then none
    else some { m with calls := m.calls ++ [⟨thread, call, call.start⟩] }
  | .act number => m.calls[number]?.bind (m.act? number)
  | .queue (.begin _ _) => none
  | .queue action => (m.queue.step? action).map fun q => { m with queue := q }

/-- Any number of steps, where they are possible. -/
def run? (m : Monitor) (actions : List Action) : Option Monitor :=
  Steps.run? step? m actions

/-- **The monitors of all runs** of a new sender over an empty queue. -/
def Reachable (capacity : Nat) (overflow : Overflow) (m : Monitor) : Prop :=
  Steps.Reachable step? (start (.make capacity overflow)) m

end Monitor

end Outbox.Sender
