import Outbox.Delivery
import Outbox.Proofs.Framing
import Outbox.Proofs.Queue.Turn
import Outbox.Proofs.Submission
import Outbox.Proofs.Transport

/-!
# Deliveries arrive in full

A delivery whose sender is closed and whose transport is willing ends well, and what the transport
took is one complete chunked body: the accepted messages in the order of their calls, each with its
payload and its extensions, and the empty chunk behind them. This holds however the calls fall
between the rounds of the transfer, and whatever the capacity and the overflow policy are.

One invariant carries it, in two halves that meet in the log of accepted messages. On the sender's
side the log is what was sent, and the last message behind it once the sender is closed (`Ledger`).
On the transfer's side the log is what was moved, followed by what is still queued, and the frames
of what was moved are what the transport took (`Carried`). No message that is sent ends the stream,
so the transfer goes on up to the last one.

## Main Definitions

* `Delivery.sent` — the messages of the submissions that a history accepts
* `Delivery.Ledger`, `Transfer.Carried`, `Delivery.Sound` — the invariant
-/

namespace Outbox

/-! ### Calls on an open sender -/

/-- A submission is accepted by an open sender whose queue is open and has room. -/
theorem Sender.submit_eq_accepted_iff {s : Sender} {what : Submission} {q : Queue} :
    s.submit what = .accepted q ↔
      s.closed = false ∧ s.queue.refusal? = none ∧ s.queue.hasRoom = true ∧
        q = s.queue.push what.message := by
  rw [submit]
  cases s.closed <;> simp [Queue.offer_eq_accepted_iff]

/-- A sender made from settings is new: its queue is empty and nobody has closed it. -/
theorem Sender.eq_of_ofConfig {c : Config} {s : Sender} (h : ofConfig c = .ok s) :
    s = ⟨c.queue, c.pollInterval, false, false⟩ := by
  simp only [ofConfig, Config.validate, withPollInterval] at h
  split at h
  · cases h
  · split at h
    · cases h
    · cases h
      rfl

/-! ### The transfer's side -/

/-- A message with a frame is written to a willing transport, behind what was still buffered. -/
theorem Transfer.emit_of_willing {w : Writer} (willing : w.transport.Willing)
    (isOpen : w.body.ended = false) {m : Message} (framable : m.Framable) :
    ∃ w', emit w m = (.ok (), w') ∧ w'.transport.Willing ∧
      w'.transport.taken = w.transport.taken ++ w.buffer ++ m.frame ∧ w'.buffer = [] ∧
        w'.body.ended = m.isLast := by
  have added := Body.add_of_framable isOpen (Message.unframable?_eq_none_iff.mpr framable)
  obtain ⟨t, stays, taken, flushed⟩ := Writer.flush_of_willing
    (w := ⟨w.transport, w.buffer ++ m.frame, ⟨m.isLast, w.body.dataSize + m.payload.length⟩⟩)
    willing
  refine ⟨⟨t, [], ⟨m.isLast, w.body.dataSize + m.payload.length⟩⟩, ?_, stays, ?_, rfl, rfl⟩
  · simp only [emit, Writer.write, added]
    exact flushed
  · rw [taken, List.append_assoc]

/-- **What a transfer has carried**: the frames of the messages moved so far are what the transport
took beyond what was on it before, and nothing waits in the buffer. -/
structure Transfer.Carried (before : Bytes) (tr : Transfer) (moved : List Message) : Prop where
  willing : tr.writer.transport.Willing
  taken : tr.writer.transport.taken = before ++ moved.flatMap Message.frame
  buffer : tr.writer.buffer = []
  ended : tr.writer.body.ended = moved.any Message.isLast
  hasNext : tr.stream.hasNext = !moved.any Message.isLast
  chunks : tr.chunks = moved.length

namespace Transfer.Carried

variable {before : Bytes} {tr : Transfer} {moved : List Message} {q : Queue}

theorem start {t : Transport} (willing : t.Willing) (interval : Nanoseconds) :
    Carried t.taken (.start (.ofTransport t) ⟨interval, true⟩) [] where
  willing := willing
  taken := by simp [Transfer.start, Writer.ofTransport]
  buffer := rfl
  ended := rfl
  hasNext := rfl
  chunks := rfl

/-- **A round moves the oldest message**: it is pulled, framed and taken by the transport. -/
theorem round_moved (h : Carried before tr moved) (more : moved.any Message.isLast = false)
    (live : q.interrupted = false) {m : Message} {rest : List Message}
    (oldest : q.messages = m :: rest) (framable : m.Framable) :
    ∃ tr', tr.round q = .moved tr' { q with messages := rest } ∧
      Carried before tr' (moved ++ [m]) := by
  have pulled : tr.stream.pull q =
      .chunk m { tr.stream with hasNext := !m.isLast } { q with messages := rest } := by
    simp [Stream.pull, h.hasNext, more, Queue.take, live, oldest]
  obtain ⟨w, emitted, willing, taken, buffer, ended⟩ :=
    emit_of_willing h.willing (h.ended.trans more) framable
  refine ⟨⟨w, { tr.stream with hasNext := !m.isLast }, tr.chunks + 1⟩, ?_, ?_⟩
  · simp [round, h.hasNext, more, pulled, emitted]
  · exact {
      willing := willing
      taken := by simp [taken, h.taken, h.buffer]
      buffer := buffer
      ended := by simp [ended, more]
      hasNext := by simp [more]
      chunks := by simp [h.chunks] }

theorem round_waits (h : Carried before tr moved) (more : moved.any Message.isLast = false)
    (live : q.interrupted = false) (empty : q.messages = []) : tr.round q = .waits := by
  simp [round, h.hasNext, more, Stream.pull, Queue.take, live, empty]

theorem round_finished (h : Carried before tr moved) (last : moved.any Message.isLast = true) :
    tr.round q = .finished := by
  simp [round, h.hasNext, last]

end Transfer.Carried

/-! ### The sender's side -/

namespace Delivery

/-- The message that an event sends, if it is a submission that is accepted. -/
def sentBy (d : Delivery) : Event → List Message
  | .submit what =>
    match d.sender.submit what with
    | .accepted _ => [what.message]
    | _ => []
  | _ => []

/-- **The messages of the submissions that a history accepts**, in the order of the calls. -/
def sent (d : Delivery) : List Event → List Message
  | [] => []
  | e :: events => d.sentBy e ++ (d.step e).sent events

/-- What a sender leaves behind its messages: the last one, once it is closed. -/
def closing (d : Delivery) : List Message :=
  if d.sender.closed then [.terminal] else []

/-- **What a sender has logged**, while nothing interrupts its queue. -/
structure Ledger (d : Delivery) (sent : List Message) : Prop where
  live : d.sender.queue.interrupted = false
  terminated : d.sender.queue.terminated = d.sender.closed
  accepted : d.accepted = sent ++ d.closing
  goesOn : ∀ m ∈ sent, m.isLast = false

/-- Whatever is logged has a frame: the last message has one. -/
theorem framable_of_closing {d : Delivery} {sent : List Message}
    (framable : ∀ m ∈ sent, m.Framable) {m : Message} (hm : m ∈ sent ++ d.closing) :
    m.Framable := by
  rcases List.mem_append.mp hm with old | new
  · exact framable m old
  · unfold closing at new
    split at new
    · rw [List.mem_singleton.mp new]
      exact Message.framable_terminal
    · cases new

/-- **The two sides of a delivery**: the log holds what was sent, and what was moved and what is
still queued. -/
structure Sound (before : Bytes) (d : Delivery) (sent moved : List Message) : Prop where
  ledger : d.Ledger sent
  carried : d.transfer.Carried before moved
  order : d.accepted = moved ++ d.sender.queue.messages
  outcome : d.outcome = none ∨
    d.outcome = some (.completed moved.length) ∧ moved.any Message.isLast = true

theorem run_append (d : Delivery) (first second : List Event) :
    d.run (first ++ second) = (d.run first).run second := by
  simp [run]

/-- A transfer that has ended takes no more rounds. -/
theorem run_rounds_of_outcome {d : Delivery} {outcome : Transfer.Outcome}
    (h : d.outcome = some outcome) (rounds : Nat) : d.run (List.replicate rounds .round) = d := by
  have stays : d.step .round = d := by simp [step, h]
  induction rounds with
  | zero => rfl
  | succ rounds ih => rw [List.replicate_succ, run_cons, stays, ih]

namespace Sound

variable {before : Bytes} {d : Delivery} {sent moved : List Message}

theorem start {c : Config} {sender : Sender} (made : Sender.ofConfig c = .ok sender)
    {t : Transport} (willing : t.Willing) :
    Sound t.taken (.start sender (.ofTransport t)) [] [] := by
  rw [Sender.eq_of_ofConfig made]
  exact {
    ledger := ⟨rfl, rfl, rfl, by simp⟩
    carried := .start willing _
    order := rfl
    outcome := Or.inl rfl }

theorem submit (h : Sound before d sent moved) (what : Submission) :
    Sound before (d.step (.submit what)) (sent ++ d.sentBy (.submit what)) moved := by
  cases offered : d.sender.submit what with
  | refused error => simpa [step, sentBy, offered] using h
  | waits => simpa [step, sentBy, offered] using h
  | accepted q =>
    obtain ⟨isOpen, -, -, rfl⟩ := Sender.submit_eq_accepted_iff.mp offered
    have accepted : d.accepted = sent := by simpa [closing, isOpen] using h.ledger.accepted
    have goesOn : ∀ m ∈ sent ++ [what.message], m.isLast = false := by
      intro m hm
      rcases List.mem_append.mp hm with old | new
      · exact h.ledger.goesOn m old
      · rw [List.mem_singleton.mp new]
        exact what.isLast_message
    simp only [step, sentBy, offered]
    exact {
      ledger := {
        live := h.ledger.live
        terminated := h.ledger.terminated
        accepted := by simp [accept, withQueue, Sender.withQueue, closing, isOpen, accepted]
        goesOn := goesOn }
      carried := h.carried
      order := by simp [accept, withQueue, Sender.withQueue, h.order]
      outcome := h.outcome }

theorem close (h : Sound before d sent moved) : Sound before (d.step .close) sent moved := by
  by_cases closed : d.sender.closed = true
  · simpa [step, Delivery.close, closed] using h
  · have isOpen : d.sender.closed = false := by simpa using closed
    have refusal : d.sender.queue.refusal? = none :=
      Queue.refusal?_eq_none_iff.mpr ⟨h.ledger.live, h.ledger.terminated.trans isOpen⟩
    have accepted : d.accepted = sent := by simpa [closing, isOpen] using h.ledger.accepted
    simp only [step, Delivery.close, isOpen, Bool.false_eq_true, if_false,
      Queue.offerLast_of_open refusal]
    exact {
      ledger := {
        live := h.ledger.live
        terminated := rfl
        accepted := by simp [accept, withQueue, Sender.withQueue, closing, accepted]
        goesOn := h.ledger.goesOn }
      carried := h.carried
      order := by simp [accept, withQueue, Sender.withQueue, h.order]
      outcome := h.outcome }

/-- Behind the last message a round ends the transfer, or finds that it has ended. -/
theorem round_of_last (h : Sound before d sent moved) (last : moved.any Message.isLast = true) :
    d.step .round = { d with outcome := some (.completed moved.length) } := by
  rcases h.outcome with going | ⟨ended, -⟩
  · simp [step, going, Delivery.round, h.carried.round_finished last, h.carried.chunks]
  · have stays : d.step .round = d := by simp [step, ended]
    rw [stays, ← ended]

/-- Before that a round moves the oldest message. -/
theorem round_of_queued (h : Sound before d sent moved) (framable : ∀ m ∈ sent, m.Framable)
    (more : moved.any Message.isLast = false) {m : Message} {rest : List Message}
    (queued : d.sender.queue.messages = m :: rest) :
    ∃ tr, d.step .round =
        { d.withQueue { d.sender.queue with messages := rest } with transfer := tr } ∧
      Sound before (d.step .round) sent (moved ++ [m]) := by
  have going : d.outcome = none := h.outcome.resolve_right fun ended => by
    simp [more] at ended
  have hasFrame : m.Framable := by
    refine framable_of_closing (d := d) framable ?_
    rw [← h.ledger.accepted, h.order, queued]
    simp
  obtain ⟨tr, moves, carried⟩ := h.carried.round_moved more h.ledger.live queued hasFrame
  have moved_one : d.step .round =
      { d.withQueue { d.sender.queue with messages := rest } with transfer := tr } := by
    simp [step, going, Delivery.round, moves]
  refine ⟨tr, moved_one, ?_⟩
  rw [moved_one]
  exact {
    ledger := ⟨h.ledger.live, h.ledger.terminated, h.ledger.accepted, h.ledger.goesOn⟩
    carried := carried
    order := by simp [withQueue, Sender.withQueue, h.order, queued]
    outcome := Or.inl going }

/-- A round moves a message, waits for one, or ends the transfer. -/
theorem round (h : Sound before d sent moved) (framable : ∀ m ∈ sent, m.Framable) :
    ∃ moved', Sound before (d.step .round) sent moved' := by
  by_cases last : moved.any Message.isLast = true
  · refine ⟨moved, ?_⟩
    rw [h.round_of_last last]
    exact {
      ledger := ⟨h.ledger.live, h.ledger.terminated, h.ledger.accepted, h.ledger.goesOn⟩
      carried := h.carried
      order := h.order
      outcome := Or.inr ⟨rfl, last⟩ }
  · have more : moved.any Message.isLast = false := by simpa using last
    cases queued : d.sender.queue.messages with
    | nil =>
      have waits : d.step .round = d := by
        simp [step, Delivery.round, h.carried.round_waits more h.ledger.live queued]
      exact ⟨moved, waits.symm ▸ h⟩
    | cons m rest =>
      obtain ⟨tr, -, sound⟩ := h.round_of_queued framable more queued
      exact ⟨moved ++ [m], sound⟩

/-- **Every calm event keeps the two sides together.** -/
theorem step (h : Sound before d sent moved) {e : Event} (calm : e ≠ .interrupt ∧ e ≠ .abandon)
    (framable : ∀ m ∈ sent, m.Framable) :
    ∃ moved', Sound before (d.step e) (sent ++ d.sentBy e) moved' := by
  cases e with
  | submit what => exact ⟨moved, h.submit what⟩
  | close => exact ⟨moved, by simpa [sentBy] using h.close⟩
  | interrupt => exact absurd rfl calm.1
  | round => simpa [sentBy] using h.round framable
  | abandon => exact absurd rfl calm.2

theorem run {events : List Event} (h : Sound before d sent moved)
    (calm : ∀ e ∈ events, e ≠ .interrupt ∧ e ≠ .abandon)
    (framable : ∀ m ∈ sent ++ d.sent events, m.Framable) :
    ∃ moved', Sound before (d.run events) (sent ++ d.sent events) moved' := by
  induction events generalizing d sent moved with
  | nil => exact ⟨moved, by simpa [Delivery.sent] using h⟩
  | cons e events ih =>
    obtain ⟨moved', h'⟩ := h.step (calm e List.mem_cons_self) fun m hm =>
      framable m (List.mem_append_left _ hm)
    rw [Delivery.sent, ← List.append_assoc] at framable ⊢
    exact ih h' (fun e' he => calm e' (List.mem_cons_of_mem _ he)) framable

/-! ### The end of the transfer -/

theorem log_of_closed (h : Sound before d sent moved) (closed : d.sender.closed = true) :
    moved ++ d.sender.queue.messages = sent ++ [.terminal] := by
  rw [← h.order, h.ledger.accepted, closing, closed, if_pos rfl]

/-- Once the last message was moved, all that was sent was moved before it. -/
theorem moved_eq_of_last (h : Sound before d sent moved) (closed : d.sender.closed = true)
    (last : moved.any Message.isLast = true) : moved = sent ++ [.terminal] := by
  have log := h.log_of_closed closed
  rcases List.eq_nil_or_concat d.sender.queue.messages with none | ⟨rest, m, some⟩
  · simpa [none] using log
  · -- a message still queued would leave only messages that go on among those moved
    rw [some, List.concat_eq_append, ← List.append_assoc] at log
    have front : moved ++ rest = sent := (List.append_inj' log rfl).1
    obtain ⟨m', hm', isLast⟩ := List.any_eq_true.mp last
    have goesOn := h.ledger.goesOn m' (front ▸ List.mem_append_left _ hm')
    rw [goesOn] at isLast
    cases isLast

/-- Until then the transfer finds a message. -/
theorem queued_of_not_last (h : Sound before d sent moved) (closed : d.sender.closed = true)
    (more : moved.any Message.isLast = false) : d.sender.queue.messages ≠ [] := by
  intro none
  have log := h.log_of_closed closed
  rw [none, List.append_nil] at log
  simp [log] at more

/-- **A transfer from a closed sender ends well**, after as many rounds as there are messages
queued and one more. -/
theorem completes {rounds : Nat} (h : Sound before d sent moved) (closed : d.sender.closed = true)
    (framable : ∀ m ∈ sent, m.Framable) (enough : d.sender.queue.size < rounds) :
    let ended := d.run (List.replicate rounds .round)
    ended.outcome = some (.completed (sent.length + 1)) ∧
      ended.accepted = sent ++ [Message.terminal] ∧
        ended.taken = before ++ (sent ++ [Message.terminal]).flatMap Message.frame := by
  induction rounds generalizing d moved with
  | zero => exact absurd enough (Nat.not_lt_zero _)
  | succ rounds ih =>
    rw [List.replicate_succ, run_cons]
    by_cases last : moved.any Message.isLast = true
    · -- the round ends the transfer, and those behind it find it ended
      have all := h.moved_eq_of_last closed last
      rw [h.round_of_last last, run_rounds_of_outcome rfl]
      refine ⟨by simp [all], ?_, ?_⟩
      · rw [h.ledger.accepted, closing, closed, if_pos rfl]
      · rw [← all]
        exact h.carried.taken
    · have more : moved.any Message.isLast = false := by simpa using last
      obtain ⟨m, rest, queued⟩ :=
        List.exists_cons_of_ne_nil (h.queued_of_not_last closed more)
      obtain ⟨tr, moves, sound⟩ := h.round_of_queued framable more queued
      apply ih sound
      · rw [moves]
        exact closed
      · rw [moves]
        simp only [Queue.size, queued, List.length_cons] at enough
        exact Nat.lt_of_succ_lt_succ enough

end Sound

/-! ### Closing -/

theorem closed_step {d : Delivery} (h : d.sender.closed = true) (e : Event) :
    (d.step e).sender.closed = true := by
  cases e with
  | submit what => simp [step, Sender.submit, h]
  | close => simp [step, close, h]
  | interrupt => exact h
  | round =>
    simp only [step, round]
    split
    · exact h
    · split <;> exact h
  | abandon =>
    simp only [step]
    split <;> exact h

theorem closed_close (d : Delivery) : (d.step .close).sender.closed = true := by
  simp only [step, close]
  split
  · assumption
  · split <;> rfl

theorem closed_run {d : Delivery} {events : List Event}
    (h : d.sender.closed = true ∨ .close ∈ events) : (d.run events).sender.closed = true := by
  induction events generalizing d with
  | nil => simpa using h
  | cons e events ih =>
    apply ih
    rcases h with closed | closes
    · exact Or.inl (closed_step closed e)
    · rcases List.mem_cons.mp closes with rfl | later
      · exact Or.inl d.closed_close
      · exact Or.inr later

/-! ### End to end -/

/-- **A delivery arrives in full.** Take any settings that make a sender, any history of submissions
and rounds in which the sender is closed, and any willing transport. If every message that is
accepted has a frame, the transfer ends well and reports one chunk more than was accepted; and what
the transport took is one complete body, of the accepted messages in the order of their calls and an
empty chunk behind them. -/
theorem arrives_in_full {c : Config} {sender : Sender} (made : Sender.ofConfig c = .ok sender)
    {t : Transport} (willing : t.Willing) {events : List Event}
    (calm : ∀ e ∈ events, e ≠ .interrupt ∧ e ≠ .abandon) (closes : .close ∈ events)
    (framable : ∀ m ∈ (start sender (.ofTransport t)).sent events, m.Framable) :
    let sent := (start sender (.ofTransport t)).sent events
    ∃ rounds body,
      let ended := (start sender (.ofTransport t)).run (events ++ List.replicate rounds .round)
      ended.accepted = sent ++ [Message.terminal] ∧
        ended.outcome = some (.completed (sent.length + 1)) ∧
        ended.taken = t.taken ++ body ∧
        Receiver.body? body = some (sent.map Message.chunk ++ [⟨[], []⟩]) := by
  intro sent
  let closed := (start sender (.ofTransport t)).run events
  obtain ⟨moved, sound⟩ : ∃ moved, Sound t.taken closed sent moved := by
    simpa using (Sound.start made willing).run calm framable
  have isClosed : closed.sender.closed = true := closed_run (Or.inr closes)
  obtain ⟨outcome, accepted, taken⟩ :=
    sound.completes isClosed framable (Nat.lt_succ_self closed.sender.queue.size)
  have received : Receiver.body? ((sent ++ [Message.terminal]).flatMap Message.frame) =
      some ((sent ++ [Message.terminal]).map Message.chunk) := by
    refine Receiver.body?_frames ?_ sound.ledger.goesOn rfl
    intro m hm
    rw [← show closed.closing = [Message.terminal] from if_pos isClosed] at hm
    exact Message.unframable?_eq_none_iff.mpr (framable_of_closing framable hm)
  refine ⟨closed.sender.queue.size + 1, (sent ++ [Message.terminal]).flatMap Message.frame, ?_⟩
  rw [run_append]
  refine ⟨accepted, outcome, taken, ?_⟩
  rw [received, List.map_append]
  rfl

/-- A queue of one, a submission that finds it full and is tried again after a round, and a
transport that takes its bytes in pieces and makes its caller wait. -/
theorem two_arrive_in_full :
    let d := start ⟨.make 1 .block, 1, false, false⟩
      (.ofTransport (.scripted [.upTo 1, .pending, .upTo 3] [.pending]))
    let events := [.submit (.text "é" ⟨[("charset", "latin1"), ("Id", "a \"b\"")]⟩),
      .submit (.binary [0x30, 0x0D, 0x0A] .empty), .round,
      .submit (.binary [0x30, 0x0D, 0x0A] .empty), .close]
    d.sent events =
        [⟨[0xE9], ⟨[("Id", "a \"b\""), ("Content-Type", "text/plain"),
            ("Charset", "windows-1252")]⟩⟩,
          ⟨[0x30, 0x0D, 0x0A], .empty⟩] ∧
      ∃ rounds body,
        let ended := d.run (events ++ List.replicate rounds .round)
        ended.accepted = d.sent events ++ [Message.terminal] ∧
          ended.outcome = some (.completed ((d.sent events).length + 1)) ∧
          ended.taken = [] ++ body ∧
          Receiver.body? body = some ((d.sent events).map Message.chunk ++ [⟨[], []⟩]) := by
  intro d events
  have sent : d.sent events =
      [⟨[0xE9], ⟨[("Id", "a \"b\""), ("Content-Type", "text/plain"),
          ("Charset", "windows-1252")]⟩⟩,
        ⟨[0x30, 0x0D, 0x0A], .empty⟩] := by
    decide +kernel
  have framable : ∀ m ∈ d.sent events, m.Framable := by
    rw [sent]
    decide +kernel
  have made : Sender.ofConfig ⟨1, .block, 1⟩ = .ok ⟨.make 1 .block, 1, false, false⟩ := rfl
  have willing : (Transport.scripted [.upTo 1, .pending, .upTo 3] [.pending]).Willing :=
    ⟨by simp [Transport.scripted], by simp [Transport.scripted]⟩
  exact ⟨sent, arrives_in_full made willing (by decide) (by decide) framable⟩

end Delivery

end Outbox
