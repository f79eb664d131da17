import Outbox.Queue

/-!
# Settings of a sender

A sender is set up with the capacity of its queue, what a full queue does, and how long an idle
consumer waits before it looks again. The three can be any values; `validate` refuses the two that
no sender could work with, the capacity first.
-/

namespace Outbox

/-- A span of time in nanoseconds. -/
abbrev Nanoseconds := Nat

/-- A span of whole milliseconds. -/
def milliseconds (n : Nat) : Nanoseconds := n * 1000000

/-- How long an idle consumer waits where nothing else is asked for: five minutes. -/
def defaultPollInterval : Nanoseconds := milliseconds 300000

/-- **The settings of a sender.** -/
structure Config where
  capacity : Nat
  overflow : Overflow
  pollInterval : Nanoseconds
deriving DecidableEq, Repr

namespace Config

/-- The settings used where none are given. -/
def standard : Config := ⟨Queue.defaultCapacity, .failFast, defaultPollInterval⟩

/-- Refuses settings that no sender could work with. -/
def validate (c : Config) : Except CallError Unit :=
  if c.capacity = 0 then .error .zeroCapacity
  else if c.pollInterval = 0 then .error .zeroPollInterval
  else .ok ()

/-- The queue that the settings describe. -/
def queue (c : Config) : Queue := .make c.capacity c.overflow

end Config

end Outbox
