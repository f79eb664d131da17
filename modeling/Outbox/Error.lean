/-!
# Failures

Two kinds of failure are kept apart by who sees them. A `CallError` answers a single call on a
sender, its queue or its stream; nothing has happened to the body. A `TransferError` ends the
transfer of a body: a chunk could not be framed, the transport failed, or pulling the next chunk
did. Each is an inductive type of causes, and its wording is one function beside it.

## Main Definitions

* `CallError`, `CallError.message` — why a call was refused
* `IoError`, `IoError.message` — what a transport reports
* `TransferError`, `TransferError.message` — why a body could not be completed
-/

namespace Outbox

/-! ### Refused calls -/

/-- **Why a call was refused.** -/
inductive CallError where
  /-- The object is in a state that does not allow the call. -/
  | invalidState (reason : String)
  /-- The queue holds as many messages as it may and does not wait for room. -/
  | queueFull (capacity : Nat)
  /-- The queue was interrupted; it stays so for good. -/
  | interrupted
  /-- The settings cannot be used. -/
  | invalidConfig (reason : String)
deriving DecidableEq, Repr

namespace CallError

/-- Sending after the sender was closed. -/
def senderClosed : CallError := .invalidState "Sender has been closed"

/-- Queueing behind the message that ends the stream. -/
def queueTerminated : CallError := .invalidState "message queue already holds the terminal message"

/-- Asking a sender for its stream a second time. -/
def streamTaken : CallError := .invalidState "Chunk stream was already returned"

/-- Pulling from a stream that has ended. -/
def streamExhausted : CallError := .invalidState "No more chunks are available"

/-- A queue that could never hold a message. -/
def zeroCapacity : CallError := .invalidConfig "capacity must be greater than zero"

/-- A consumer that would never wait. -/
def zeroPollInterval : CallError := .invalidConfig "poll interval must be greater than zero"

/-- The text shown for a refused call. -/
def message : CallError → String
  | .invalidState reason => s!"invalid state: {reason}"
  | .queueFull capacity => s!"message queue is full, capacity: {capacity}"
  | .interrupted => "waiting on the message queue was interrupted"
  | .invalidConfig reason => s!"invalid sender config: {reason}"

def isInvalidState : CallError → Bool
  | .invalidState _ => true
  | _ => false

def isQueueFull : CallError → Bool
  | .queueFull _ => true
  | _ => false

def isInterrupted : CallError → Bool
  | .interrupted => true
  | _ => false

end CallError

/-! ### Transport failures -/

/-- What kind of failure a transport reports. -/
inductive IoKind where
  | brokenPipe
  | connectionReset
  | connectionAborted
  | notConnected
  | timedOut
  | writeZero
  | interrupted
  | permissionDenied
  | unexpectedEof
  | other
deriving DecidableEq, Repr

/-- The text of a failure that carries none of its own. -/
def IoKind.message : IoKind → String
  | .brokenPipe => "broken pipe"
  | .connectionReset => "connection reset"
  | .connectionAborted => "connection aborted"
  | .notConnected => "not connected"
  | .timedOut => "timed out"
  | .writeZero => "write zero"
  | .interrupted => "operation interrupted"
  | .permissionDenied => "permission denied"
  | .unexpectedEof => "unexpected end of file"
  | .other => "other error"

/-- **A transport failure**: its kind, and a text of its own if it carries one. -/
structure IoError where
  kind : IoKind
  text : Option String
deriving DecidableEq, Repr

/-- The text shown for a transport failure. -/
def IoError.message (e : IoError) : String :=
  e.text.getD e.kind.message

/-! ### Transfers that end early -/

/-- **Why a body could not be completed.** -/
inductive TransferError where
  /-- Pulling the next chunk was refused. -/
  | stream (cause : CallError)
  /-- A chunk cannot be framed. -/
  | invalidBody (reason : String)
  /-- The transport failed. -/
  | io (cause : IoError)
deriving DecidableEq, Repr

/-- The text shown for a transfer that ended early. -/
def TransferError.message : TransferError → String
  | .stream cause => s!"chunk stream error: {cause.message}"
  | .invalidBody reason => s!"invalid body: {reason}"
  | .io cause => s!"io error: {cause.message}"

end Outbox
