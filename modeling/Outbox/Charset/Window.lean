import Outbox.Charset

/-!
# Encoding through a window

A coder that writes into a window of fixed size cannot put a long text into it at once: it stops
when the window may hold no more, and at every scalar that the charset does not have. Encoding is
then a loop of passes, each of which goes on where the last one stopped. Where a scalar was missing,
a question mark goes through the same coder in a pass of its own, of which the loop looks at nothing
but the bytes: that all of them are there is up to the coder and the size of the window.

Where a pass stops for want of room is left open, down to the two halves of a change of shift state,
because nothing may depend on it: all that is asked of a pass is that it writes something before it
does so, and that it does not do so while there is room in plenty.

## Main Definitions

* `Window`, `Pass` — a window, and what one pass of a coder leaves behind in it
* `MayPass` — the passes that a coder may make from a shift state and a text
* `Loop`, `Loop.MayTurn` — encoding under way, and one turn of it
-/

namespace Outbox.Charset

/-- **A window**: how many bytes it holds, and how many of them a coder may want to be free before
it writes on. With the change of shift state in front, no scalar takes more than five. -/
structure Window where
  room : Nat
  reserve : Nat
  enough : 5 ≤ reserve
  spare : reserve + 4 ≤ room

/-- The window that texts are encoded through. -/
def Window.standard : Window := ⟨1024, 5, by decide, by decide⟩

/-- Why a pass stopped. -/
inductive Stop where
  /-- All of the text is written, with the return to ASCII if nothing is to follow. -/
  | finished
  /-- The window may hold no more. -/
  | full
  /-- The charset does not have the scalar that was read last. -/
  | lacking
deriving DecidableEq, Repr

/-- **What a pass leaves behind**: the bytes in the window, the shift state, the text that was not
read, and why it stopped. -/
structure Pass where
  written : Bytes
  shift : Shift
  left : List Char
  stop : Stop
deriving DecidableEq, Repr

/-- The pass with more bytes written in front. -/
def Pass.after (p : Pass) (bytes : Bytes) : Pass :=
  { p with written := bytes ++ p.written }

/-- **The passes from a shift state and a text**, without regard to the window; `last` tells that
nothing is to follow the text. -/
inductive MayPass (cs : Charset) (last : Bool) : Shift → List Char → Pass → Prop where
  | finished (shift : Shift) :
    MayPass cs last shift []
      (if last then ⟨Iso2022Jp.finish shift, .ascii, [], .finished⟩ else ⟨[], shift, [], .finished⟩)
  | full (shift : Shift) (text : List Char) :
    MayPass cs last shift text ⟨[], shift, text, .full⟩
  | lacking (shift : Shift) (c : Char) (text : List Char) (missing : cs.step? shift c = none) :
    MayPass cs last shift (c :: text) ⟨[], shift, text, .lacking⟩
  | scalar (shift next : Shift) (c : Char) (text : List Char) (bytes : Bytes) (p : Pass)
      (put : cs.step? shift c = some (bytes, next)) (rest : MayPass cs last next text p) :
    MayPass cs last shift (c :: text) (p.after bytes)
  /-- A change of shift state that has to be written before a scalar, or before the question mark
  for a missing one, and may be all that fits. -/
  | escape (shift next : Shift) (c : Char) (text : List Char) (p : Pass)
      (stateful : cs = .iso2022Jp)
      (elsewhere : Iso2022Jp.written? shift (cs.standIn c) = none)
      (home : Iso2022Jp.home? (cs.standIn c) = some next)
      (rest : MayPass cs last next (c :: text) p) :
    MayPass cs last shift (c :: text) (p.after next.escape)

/-- **Whether a window holds what a pass wrote**, and the pass did not stop for want of room before
it wrote anything or while there was more room than the coder may want. -/
def Pass.Fits (p : Pass) (w : Window) : Prop :=
  p.written.length ≤ w.room ∧
    (p.stop = .full → p.written ≠ [] ∧ w.room < p.written.length + w.reserve)

instance (p : Pass) (w : Window) : Decidable (p.Fits w) :=
  inferInstanceAs (Decidable (p.written.length ≤ w.room ∧
    (p.stop = .full → p.written ≠ [] ∧ w.room < p.written.length + w.reserve)))

/-- **Encoding under way**: the bytes so far, the shift state, the text that was not read, and
whether that was all. -/
structure Loop where
  encoded : Bytes
  shift : Shift
  left : List Char
  finished : Bool
deriving DecidableEq, Repr

namespace Loop

/-- Encoding at the beginning of a text. -/
def start (text : List Char) : Loop := ⟨[], .ascii, text, false⟩

/-- The loop with the bytes of a pass taken out of the window. -/
def takeUp (l : Loop) (p : Pass) : Loop :=
  ⟨l.encoded ++ p.written, p.shift, p.left, p.stop = .finished⟩

/-- The loop with the bytes of a question mark behind those of a pass. -/
def replace (l : Loop) (p q : Pass) : Loop :=
  ⟨l.encoded ++ p.written ++ q.written, q.shift, p.left, false⟩

/-- **One turn of the loop**, with any passes that the window allows. -/
inductive MayTurn (cs : Charset) (w : Window) (l : Loop) : Loop → Prop where
  | takeUp (p : Pass) (unfinished : l.finished = false)
      (pass : MayPass cs true l.shift l.left p) (fits : p.Fits w) (stop : p.stop ≠ .lacking) :
    MayTurn cs w l (l.takeUp p)
  /-- Why the second pass stopped is not asked. -/
  | replace (p q : Pass) (unfinished : l.finished = false)
      (pass : MayPass cs true l.shift l.left p) (fits : p.Fits w) (stop : p.stop = .lacking)
      (second : MayPass cs false p.shift [replacement] q) (secondFits : q.Fits w) :
    MayTurn cs w l (l.replace p q)

/-- **A number of turns.** -/
inductive MayReach (cs : Charset) (w : Window) : Nat → Loop → Loop → Prop where
  | refl (l : Loop) : MayReach cs w 0 l l
  | step (n : Nat) (l m k : Loop) (turn : MayTurn cs w l m) (more : MayReach cs w n m k) :
    MayReach cs w (n + 1) l k

end Loop

end Outbox.Charset
