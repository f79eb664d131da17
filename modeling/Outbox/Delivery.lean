import Outbox.Transfer

/-!
# Deliveries

A delivery is a sender whose stream is being transferred while its producers go on. Everything that
can happen to it is one of a few events, and its history is any list of them: what producers do
falls between two rounds of the transfer, a submission that has to wait is tried again later, and
the transfer may be given up at any point.

A log says which messages were accepted, in their order. That the body holds exactly those is what a
delivery is for.

## Main Definitions

* `Delivery` — a sender, the transfer of its stream, how that ended, and the log
* `Delivery.Event`, `Delivery.step`, `Delivery.run` — what can happen, and a history of it
-/

namespace Outbox

/-- **A sender whose stream is being transferred.** -/
structure Delivery where
  sender : Sender
  transfer : Transfer
  /-- How the transfer ended, if it has. -/
  outcome : Option Transfer.Outcome
  /-- The messages that were accepted, the last one included. -/
  accepted : List Message
deriving DecidableEq, Repr

namespace Delivery

/-- A delivery at its beginning: a new sender, and its stream about to be transferred into a
writer. -/
def start (sender : Sender) (w : Writer) : Delivery :=
  ⟨sender, .start w ⟨sender.pollInterval, true⟩, none, []⟩

/-- **What can happen to a delivery.** -/
inductive Event where
  | submit (what : Submission)
  /-- The sender is closed, or dropped. -/
  | close
  | interrupt
  /-- The transfer takes its next chunk, or finds that there is none yet. -/
  | round
  /-- The transfer is given up. -/
  | abandon
deriving DecidableEq, Repr

/-- The delivery over another state of its queue. -/
def withQueue (d : Delivery) (q : Queue) : Delivery :=
  { d with sender := d.sender.withQueue q }

/-- A message was accepted into the queue. -/
def accept (d : Delivery) (m : Message) (q : Queue) : Delivery :=
  { d.withQueue q with accepted := d.accepted ++ [m] }

/-- The sender is closed. -/
def close (d : Delivery) : Delivery :=
  if d.sender.closed then d
  else
    let closed := { d with sender := { d.sender with closed := true } }
    match d.sender.queue.offerLast .terminal with
    | .ok q => closed.accept .terminal q
    | .error _ => closed

/-- One round of the transfer. -/
def round (d : Delivery) : Delivery :=
  match d.transfer.round d.sender.queue with
  | .moved t q => { d.withQueue q with transfer := t }
  | .finished => { d with outcome := some (.completed d.transfer.chunks) }
  | .failed error w q =>
    { d.withQueue q with
      transfer := { d.transfer with writer := w }
      outcome := some (.failed error) }
  | .waits => d

/-- **One event.** A transfer that has ended takes no more rounds. -/
def step (d : Delivery) : Event → Delivery
  | .submit what =>
    match d.sender.submit what with
    | .accepted q => d.accept what.message q
    | _ => d
  | .close => d.close
  | .interrupt => d.withQueue d.sender.queue.interrupt
  | .round => if d.outcome.isSome then d else d.round
  | .abandon =>
    if d.outcome.isSome then d
    else { d.withQueue d.sender.queue.interrupt with outcome := some .abandoned }

/-- **A history of events.** -/
def run (d : Delivery) (events : List Event) : Delivery :=
  events.foldl step d

/-- The bytes that the transport has taken. -/
def taken (d : Delivery) : Bytes := d.transfer.writer.transport.taken

@[simp]
theorem run_nil (d : Delivery) : d.run [] = d := rfl

@[simp]
theorem run_cons (d : Delivery) (e : Event) (events : List Event) :
    d.run (e :: events) = (d.step e).run events := rfl

end Delivery

end Outbox
