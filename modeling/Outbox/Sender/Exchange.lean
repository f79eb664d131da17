import Outbox.Sender.Monitor

/-!
# A sender, its stream and its queue in use

Three objects act on one queue. The sender's calls and the steps they take are those of its monitor.
The queue may also be called past the sender, by whoever it belongs to. And the stream has one
consumer at a time: a pull is a series of waits at the queue, where a wait that ends without a
message is followed by another one, and whether a chunk is still to come is a flag of the stream's
own, which the thread that pulls sets after its wait has returned. Between the turn that takes a
message and the moment when the consumer has it, everybody else may act.

## Main Definitions

* `Exchange` — a sender with its calls, the stream's flag, the pull under way, and its answers
* `Exchange.step?` — one step of anybody
* `Exchange.Reachable` — the exchanges of all runs
-/

namespace Outbox

/-- What a call at a queue has returned, if it has. -/
def Queue.Monitor.Activity.returned? (a : Queue.Monitor.Activity) : Option Queue.Monitor.Result :=
  match a.phase with
  | .leaving [] result => some result
  | _ => none

namespace Sender

namespace Exchange

/-- How the next chunk is asked for. -/
inductive Asking where
  | nextChunk
  /-- As an iteration does, which ends once the stream has. -/
  | iteration
deriving DecidableEq, Repr

/-- **What the consumer is told.** -/
inductive Answer where
  | chunk (message : Message)
  | refused (error : CallError)
  /-- The iteration has ended. -/
  | ended
deriving DecidableEq, Repr

/-- What a stream that has ended answers. -/
def Asking.onEnded : Asking → Answer
  | .nextChunk => .refused .streamExhausted
  | .iteration => .ended

/-- **A pull under way**: the thread it is made on, and the number that its wait has among the
sender's calls. -/
structure Pull where
  thread : Nat
  wait : Nat
deriving DecidableEq, Repr

end Exchange

/-- **A sender, its stream and its queue in use.** -/
structure Exchange where
  monitor : Monitor
  /-- Whether the stream has another chunk to come. -/
  hasNext : Bool
  pull : Option Exchange.Pull
  answers : List Exchange.Answer
deriving DecidableEq, Repr

namespace Exchange

/-- A new sender that nobody has called. -/
def start (q : Queue) : Exchange := ⟨.start q, true, none, []⟩

/-- **A step.** -/
inductive Action where
  /-- A step of the sender's calls, or a new call there. -/
  | sender (action : Monitor.Action)
  /-- A thread calls the queue past the sender. -/
  | direct (thread : Nat) (call : Queue.Monitor.Call)
  /-- The consumer asks for the next chunk, and waits with a deadline or without one. -/
  | pull (thread : Nat) (timed : Bool) (asking : Asking)
  /-- The wait of the pull under way has returned, and the pull goes on. -/
  | resume (timed : Bool)
deriving DecidableEq, Repr

/-- Whether a thread has something under way. -/
def isBusy (e : Exchange) (thread : Nat) : Bool :=
  e.monitor.isBusy thread || e.monitor.queue.isBusy thread || e.pull.any (·.thread = thread)

/-- The exchange with its sender in another state. -/
def withMonitor (e : Exchange) (m : Monitor) : Exchange := { e with monitor := m }

/-- The consumer is told something. -/
def tell (e : Exchange) (answer : Answer) : Exchange :=
  { e with answers := e.answers ++ [answer] }

/-- The pull on a thread begins to wait. -/
def wait? (e : Exchange) (thread : Nat) (timed : Bool) : Option Exchange := do
  let m ← e.monitor.step? (.begin thread (.take timed))
  return { e with monitor := m, pull := some ⟨thread, e.monitor.calls.length⟩ }

/-- What the wait of a pull has returned, if it has. -/
def waited? (e : Exchange) (p : Pull) : Option Queue.Monitor.Result := do
  let a ← e.monitor.calls[p.wait]?
  match a.phase with
  | .queued number => e.monitor.queue.calls[number]?.bind (·.returned?)
  | _ => none

/-- **The pull goes on** with what its wait has returned. A message is handed out, and ends the
stream if it is the last; so does a refusal; and a wait without a message is followed by another. -/
def goOn? (e : Exchange) (p : Pull) (timed : Bool) : Queue.Monitor.Result → Option Exchange
  | .fetched (some m) => some ({ e with hasNext := !m.isLast, pull := none }.tell (.chunk m))
  | .fetched none => e.wait? p.thread timed
  | .refused error => some ({ e with hasNext := false, pull := none }.tell (.refused error))
  | .stored => none
  | .interrupted => none

/-- **One step**, where it is possible. A stream that has ended answers without a look at the
queue. -/
def step? (e : Exchange) : Action → Option Exchange
  | .sender (.begin thread call) =>
    if e.isBusy thread then none else (e.monitor.step? (.begin thread call)).map e.withMonitor
  | .sender action => (e.monitor.step? action).map e.withMonitor
  | .direct thread call =>
    if e.isBusy thread then none
    else (e.monitor.queue.step? (.begin thread call)).map fun q =>
      e.withMonitor { e.monitor with queue := q }
  | .pull thread timed asking =>
    if e.isBusy thread || e.pull.isSome || !e.monitor.streamTaken then none
    else if e.hasNext then e.wait? thread timed
    else some (e.tell asking.onEnded)
  | .resume timed => do
    let p ← e.pull
    let result ← e.waited? p
    e.goOn? p timed result

/-- Any number of steps, where they are possible. -/
def run? (e : Exchange) (actions : List Action) : Option Exchange :=
  Steps.run? step? e actions

/-- **The exchanges of all runs** of a new sender over an empty queue. -/
def Reachable (capacity : Nat) (overflow : Overflow) (e : Exchange) : Prop :=
  Steps.Reachable step? (start (.make capacity overflow)) e

end Exchange

end Sender

end Outbox
