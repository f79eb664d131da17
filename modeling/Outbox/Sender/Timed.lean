import Outbox.Sender.Exchange

/-!
# A sender, its stream and its queue under a clock

The stream waits at an idle queue in pieces of one poll interval. Each wait gets its deadline when
it begins, or none where the clock cannot express a moment that late; it can only run out once the
deadline has passed; and the next one begins behind it. What the threads do and when time passes are
steps of their own, in any order, so nothing is assumed about how long anything takes: a wait may
run out while messages arrive, while the sender is closed and while the queue is interrupted.

The stream is the queue's only consumer here. The queue may be called past the sender and by any
number of threads, but nobody else takes messages from it.

## Main Definitions

* `Wait`, `Wait.start` — the wait of a consumer, and the one that begins now
* `Timed` — an exchange, the poll interval, the clock, and the wait of the pull under way
* `Timed.step?` — one step of anybody, or of the clock
-/

namespace Outbox

/-- Whether a call at a queue waits for a message. -/
def Queue.Monitor.Call.isWait : Queue.Monitor.Call → Bool
  | .dequeue _ => true
  | _ => false

namespace Sender

/-- Whether a call at a sender is a wait of its stream. -/
def Monitor.Call.isWait : Monitor.Call → Bool
  | .take _ => true
  | _ => false

/-- Whether somebody begins to wait for a message who is not the stream. -/
def Exchange.Action.intrudes : Exchange.Action → Bool
  | .sender (.begin _ call) => call.isWait
  | .direct _ call => call.isWait
  | _ => false

/-- **The wait that a consumer is in.** -/
inductive Wait where
  /-- No pull is under way. -/
  | idle
  | timed (deadline : Nanoseconds)
  | untimed
deriving DecidableEq, Repr

/-- The wait that begins now, by a clock that goes up to its horizon. -/
def Wait.start (interval now horizon : Nanoseconds) : Wait :=
  if now + interval ≤ horizon then .timed (now + interval) else .untimed

/-- Whether a wait has a deadline. -/
def Wait.isTimed : Wait → Bool
  | .timed _ => true
  | _ => false

/-- Whether a wait has a deadline that has passed. -/
def Wait.isOver (wait : Wait) (now : Nanoseconds) : Bool :=
  match wait with
  | .timed deadline => deadline ≤ now
  | _ => false

/-- **An exchange under a clock.** -/
structure Timed where
  exchange : Exchange
  interval : Nanoseconds
  now : Nanoseconds
  /-- The last moment that the clock can express. -/
  horizon : Nanoseconds
  /-- The wait of the pull under way. -/
  wait : Wait
deriving DecidableEq, Repr

namespace Timed

/-- A new sender that nobody has called. -/
def start (q : Queue) (interval now horizon : Nanoseconds) : Timed :=
  ⟨.start q, interval, now, horizon, .idle⟩

/-- **A step.** -/
inductive Action where
  | act (action : Exchange.Action)
  /-- Time passes. -/
  | elapse (duration : Nanoseconds)
deriving DecidableEq, Repr

/-- The wait that begins now. -/
def nextWait (t : Timed) : Wait :=
  .start t.interval t.now t.horizon

/-- Whether the clock lets a step happen: a wait begins with the deadline that it should have, and
is woken by it when it has passed. -/
def allows (t : Timed) : Exchange.Action → Bool
  | .pull _ timed _ => timed = t.nextWait.isTimed
  | .resume timed => timed = t.nextWait.isTimed
  | .sender (.queue (.expire _)) => t.wait.isOver t.now
  | action => !action.intrudes

/-- The wait of the pull under way after a step that leads here. -/
def waitAfter (t : Timed) (action : Exchange.Action) (e : Exchange) : Wait :=
  match action with
  | .pull _ _ _ => if e.pull.isSome then t.nextWait else .idle
  | .resume _ => if e.pull.isSome then t.nextWait else .idle
  | _ => t.wait

/-- **One step**, where it is possible. -/
def step? (t : Timed) : Action → Option Timed
  | .act action =>
    if t.allows action then
      (t.exchange.step? action).map fun e =>
        { t with exchange := e, wait := t.waitAfter action e }
    else none
  | .elapse duration => some { t with now := t.now + duration }

/-- Any number of steps, where they are possible. -/
def run? (t : Timed) (actions : List Action) : Option Timed :=
  Steps.run? step? t actions

end Timed

end Sender

end Outbox
