import Outbox.Proofs.Sender.Moves
import Outbox.Proofs.Sender.Recasting

/-!
# A submission happens as a whole or not at all

A submission that returns without an error has put its message behind all others and done nothing
else. One that is refused has done nothing whatever, however often it has waited in between. And why
it is refused does not depend on how it got there: whoever finds the sender closed is turned away,
and about anybody else the queue rules in the submission's last turn, the one reason before the
other.

This is read off the moves of the call. Where it has returned, its course is over, and there are two
ways in which it can be: decided by a turn at the queue, or turned away by a look at the flag.

## Main Definitions

* `Move.LastTurn` — the last turn among the moves of a call
* `Exchange.AllOrNothing` — what a submission that has returned did, and why it was refused
* `Exchange.LikePing` — a submission that nobody can tell from a ping
* `Exchange.submits_all_or_nothing`
-/

namespace Outbox.Sender

/-! ### In one go -/

/-- **Why a sender refuses a message, if it does**: because it is closed, or else because its queue
refuses it. -/
def ruling (s : Sender) : Option CallError :=
  if s.closed then some .senderClosed else s.queue.ruling

theorem submit_eq (s : Sender) (what : Submission) :
    s.submit what = match s.ruling with
      | some error => .refused error
      | none => if s.queue.hasRoom then .accepted (s.queue.push what.message) else .waits := by
  unfold submit ruling
  split
  · rfl
  · exact s.queue.offer_eq what.message

namespace Exchange

open Monitor (Activity)

variable {capacity : Nat} {overflow : Overflow} {e : Exchange} {n : Nat} {a : Activity}
  {actions : List Action} {what : Submission} {ds : List Move}

/-! ### In a run -/

namespace Move

/-- **The last turn** among the moves of a call, and the moves before and after it. -/
structure LastTurn (ds before : List Move) (d : Move) (after : List Move) : Prop where
  split : ds = before ++ d :: after
  turn : d.kind = .turn
  last : ∀ d ∈ after, d.kind ≠ .turn

/-- A call has looked at the closed flag and found it set. -/
def FoundClosed (ds : List Move) : Prop := ∃ d ∈ ds, d.kind = .look ∧ d.found.closed = true

end Move

/-- **A submission that has returned happened as a whole or not at all.** -/
structure AllOrNothing (capacity : Nat) (overflow : Overflow) (what : Submission) (ds : List Move)
    (refusal : Option CallError) : Prop where
  /-- One that is accepted puts its message behind all others in its last turn, and changes nothing
  else, then or before or after. -/
  accepted : refusal = none → ∃ before d after, Move.LastTurn ds before d after ∧
    d.left = { d.found with queue := d.found.queue.push what.message } ∧
    Move.Idle before ∧ Move.Idle after
  /-- One that is refused changes nothing. -/
  refused : refusal ≠ none → Move.Idle ds
  looked : ∃ d ∈ ds, d.kind = .look
  /-- One that finds the sender closed is refused for that, and never comes to the queue. -/
  turnedAway : Move.FoundClosed ds → refusal = some .senderClosed ∧ ∀ d ∈ ds, d.kind ≠ .turn
  /-- About any other one the queue rules in its last turn, and accepts it only where there is
  room. -/
  ruled : ¬ Move.FoundClosed ds → ∃ before d after, Move.LastTurn ds before d after ∧
    refusal = d.found.queue.ruling ∧ (refusal = none → d.found.queue.size < capacity)
  settings : ∀ d ∈ ds, d.found.queue.capacity = capacity ∧ d.found.queue.overflow = overflow
  /-- It is refused for want of room only where the queue does not wait for it, and is told the
  capacity. -/
  full : ∀ told, refusal = some (.queueFull told) → told = capacity ∧ overflow = .failFast

/-- A submission that a turn has decided about. -/
theorem allOrNothing_of_decides {before after : List Move} {d : Move} {refusal : Option CallError}
    (onWay : Move.OnWay before) (decides : d.Decides what refusal)
    (done : ∀ d ∈ after, d.kind = .other ∧ d.left = d.found)
    (settings : ∀ d' ∈ before ++ d :: after,
      d'.found.queue.capacity = capacity ∧ d'.found.queue.overflow = overflow) :
    AllOrNothing capacity overflow what (before ++ d :: after) refusal := by
  have here : d ∈ before ++ d :: after := List.mem_append_right _ List.mem_cons_self
  have idleAfter : Move.Idle after := fun d listed => (done d listed).2
  have lastTurn : Move.LastTurn (before ++ d :: after) before d after := by
    refine ⟨rfl, decides.turn, fun d listed => ?_⟩
    rw [(done d listed).1]
    nofun
  have foundOpen : ¬ Move.FoundClosed (before ++ d :: after) := by
    rintro ⟨d', listed, look, closed⟩
    rcases List.mem_append.mp listed with early | late
    · rw [onWay.foundOpen d' early look] at closed
      cases closed
    · rcases List.mem_cons.mp late with rfl | late
      · cases look.symm.trans decides.turn
      · cases look.symm.trans (done d' late).1
  refine
    { accepted := ?_, refused := ?_, looked := ?_, turnedAway := ?_, ruled := ?_,
      settings := settings, full := ?_ }
  · intro taken
    exact ⟨before, d, after, lastTurn, (decides.accepted taken).2, onWay.idle, idleAfter⟩
  · intro refused
    exact List.forall_mem_append.mpr
      ⟨onWay.idle, List.forall_mem_cons.mpr ⟨decides.refused refused, idleAfter⟩⟩
  · obtain ⟨d', listed, look⟩ := onWay.looked
    exact ⟨d', List.mem_append_left _ listed, look⟩
  · exact fun found => absurd found foundOpen
  · intro _
    refine ⟨before, d, after, lastTurn, decides.ruled, fun taken => ?_⟩
    rw [← (settings d here).1]
    exact (decides.accepted taken).1
  · intro told full
    obtain ⟨rfl, failFast⟩ := Queue.full_of_ruling (decides.ruled.symm.trans full)
    exact ⟨(settings d here).1, (settings d here).2 ▸ failFast⟩

/-- A submission that has found the sender closed. -/
theorem allOrNothing_of_turnedAway (idle : Move.Idle ds) (looks : ∀ d ∈ ds, d.kind = .look)
    (closed : ∃ d ∈ ds, d.found.closed = true)
    (settings : ∀ d ∈ ds,
      d.found.queue.capacity = capacity ∧ d.found.queue.overflow = overflow) :
    AllOrNothing capacity overflow what ds (some .senderClosed) := by
  obtain ⟨d, listed, closed⟩ := closed
  have found : Move.FoundClosed ds := ⟨d, listed, looks d listed, closed⟩
  refine
    { accepted := nofun, refused := fun _ => idle, looked := ⟨d, listed, looks d listed⟩,
      turnedAway := fun _ => ⟨rfl, ?_⟩, ruled := fun foundOpen => absurd found foundOpen,
      settings := settings, full := nofun }
  intro d listed
  rw [looks d listed]
  nofun

/-- **A submission whose course is over** happened as a whole or not at all. -/
theorem Course.allOrNothing (c : Course what e n ds) (here : e.monitor.calls[n]? = some a)
    (returned : e.monitor.hasReturned a = true)
    (settings : ∀ d ∈ ds,
      d.found.queue.capacity = capacity ∧ d.found.queue.overflow = overflow) :
    AllOrNothing capacity overflow what ds (e.monitor.refusal? a) := by
  cases c with
  | looking there _ phase | calling there _ phase =>
    cases here.symm.trans there
    simp [Monitor.hasReturned, phase] at returned
  | waiting there _ queued inQueue noResult =>
    cases here.symm.trans there
    rw [Monitor.hasReturned_of_queued queued inQueue,
      Queue.Monitor.Activity.hasReturned_eq_false noResult] at returned
    cases returned
  | @decided _ _ _ _ result _ _ _ there _ queued inQueue leaving split onWay decides done =>
    cases here.symm.trans there
    have refusal : e.monitor.refusal? a = refusalIn result := by
      simp only [Monitor.refusal?, queued, inQueue, Option.bind_some,
        Queue.Monitor.Activity.result?, leaving]
      cases result <;> rfl
    rw [refusal]
    subst split
    exact allOrNothing_of_decides onWay decides done settings
  | turnedAway there _ phase idle looks closed =>
    cases here.symm.trans there
    rw [Monitor.refusal?, phase]
    exact allOrNothing_of_turnedAway idle looks closed settings

/-! ### Pings -/

/-- **Nobody can tell a submission from a ping**: in one go it does the same to every sender, and in
a run of any exchange whatever comes of the one can come of the other. -/
structure LikePing (what : Submission) : Prop where
  inOneGo : ∀ s : Sender, s.submit what = s.submit .ping
  asPing : ActsAs what .ping
  pingAs : ActsAs .ping what

/-- What is a ping to the queue is one to everybody. -/
theorem likePing_of_message_eq (same : what.message = .ping) : LikePing what where
  inOneGo s := by rw [submit_eq, submit_eq, same]; rfl
  asPing := actsAs_of_message_eq same
  pingAs := actsAs_of_message_eq same.symm

/-- **Submissions happen as a whole or not at all**, whatever other threads do meanwhile, and empty
ones are pings. -/
theorem submits_all_or_nothing (capacity : Nat) (overflow : Overflow) :
    (∀ actions e n a what, (start (.make capacity overflow)).run? actions = some e →
      e.monitor.calls[n]? = some a → a.call = .submit what → e.monitor.hasReturned a = true →
      AllOrNothing capacity overflow what ((start (.make capacity overflow)).moves n actions)
        (e.monitor.refusal? a)) ∧
    (∀ (s : Sender) (what : Submission),
      s.submit what = match s.ruling with
        | some error => .refused error
        | none => if s.queue.hasRoom then .accepted (s.queue.push what.message) else .waits) ∧
    ∀ extensions, LikePing (.text "" extensions) ∧ LikePing (.binary [] extensions) := by
  refine ⟨?_, submit_eq, fun extensions => ⟨?_, ?_⟩⟩
  · intro actions e n a what run here submits returned
    have l := lawful_of_reachable (e := start (.make capacity overflow)) ⟨[], rfl⟩
    have c := course_of_unbegun l rfl run here submits
    exact c.allOrNothing here returned fun d listed => settings_of_moves run listed
  · exact likePing_of_message_eq rfl
  · exact likePing_of_message_eq rfl

/-- A message for a queue for one that is full: its producer waits for room, and puts it in once a
consumer has taken the other. A text without content passes the flag twice and waits as well; before
there is room the queue is interrupted. A ping comes after the sender was closed, which nobody has
told the queue yet. -/
theorem one_waits_for_room_another_in_vain :
    let actions : List Action := [
      .sender (.begin 0 (.submit .ping)), .sender (.act 0), .sender (.act 0),
      .sender (.queue (.enter 0)), .sender (.queue (.signal 0 none)),
      .sender (.begin 1 (.submit (.binary [7] .empty))), .sender (.act 1), .sender (.act 1),
      .sender (.queue (.enter 1)),
      .direct 2 (.dequeue false), .sender (.queue (.enter 2)),
      .sender (.queue (.signal 2 (some 1))),
      .sender (.queue (.enter 1)), .sender (.queue (.signal 1 none)),
      .sender (.begin 0 (.submit (.text "" .empty))), .sender (.act 2), .sender (.act 2),
      .sender (.act 2), .sender (.queue (.enter 3)),
      .direct 2 .interrupt, .sender (.queue (.enter 4)), .sender (.queue (.signal 4 none)),
      .sender (.queue (.signal 4 none)), .sender (.queue (.enter 3)),
      .sender (.begin 0 .close), .sender (.act 3),
      .sender (.begin 1 (.submit .ping)), .sender (.act 4)]
    let moves := fun n => (start (.make 1 .block)).moves n actions
    AllOrNothing 1 .block (.binary [7] .empty) (moves 1) none ∧
      (moves 1).map (·.kind) = [.look, .other, .turn, .turn, .other] ∧
      AllOrNothing 1 .block (.text "" .empty) (moves 2) (some .interrupted) ∧
      (moves 2).map (·.kind) = [.look, .look, .other, .turn, .turn] ∧
      AllOrNothing 1 .block .ping (moves 4) (some .senderClosed) := by
  intro actions moves
  have all := (submits_all_or_nothing 1 .block).1 actions
  exact ⟨all _ 1 _ _ rfl rfl rfl rfl, rfl, all _ 2 _ _ rfl rfl rfl rfl, rfl,
    all _ 4 _ _ rfl rfl rfl rfl⟩

end Exchange

end Outbox.Sender
