import Outbox.Proofs.Framing
import Outbox.Proofs.Sender.Ending
import Outbox.Proofs.Submission
import Outbox.Proofs.Transfer.Calls

/-!
# Which accepted messages can be framed

A sender takes a message without a look at its extensions, and only the writer looks at them. So a
message with an extension that cannot be written is accepted like any other, and it fails the
transfer that pulls it: the queue is interrupted, and what other threads have queued behind it is
lost. Whether an accepted message can be framed is decided by what its submission carries, and a
transfer fails over a message only if some submission carried what cannot be written.

The content type and the charset of a text are set by the sender. They take over what the
application put under these two names and can always be written, so an entry of these names does no
harm.

## Main Definitions

* `Submission.carried` — the extensions of a submission that go out as they are
* `Submission.WireReady` — all of them can be written
* `Monitor.accepted_wire_ready` — which accepted messages every open body takes
-/

namespace Outbox

/-! ### What goes out with a submission -/

/-- **The extensions of a submission that go out as they are.** A ping has none, whatever came with
it, and a text has its own content type and charset. -/
def Submission.carried : Submission → List (String × String)
  | .text content extensions =>
    if content.isEmpty then []
    else extensions.entries.filter fun entry =>
      !Text.sameName contentTypeName entry.1 && !Text.sameName charsetName entry.1
  | .binary content extensions => if content.isEmpty then [] else extensions.entries
  | .ping => []

/-- **Everything that a submission carries can be written.** -/
def Submission.WireReady (what : Submission) : Prop :=
  ∀ entry ∈ what.carried, Body.entryFault? entry = none

instance (what : Submission) : Decidable what.WireReady :=
  inferInstanceAs (Decidable (∀ entry ∈ what.carried, Body.entryFault? entry = none))

theorem Charset.entryFault?_name (charset : Charset) :
    Body.entryFault? (charsetName, charset.name) = none := by
  cases charset with
  | utf16 order => cases order <;> decide +kernel
  | codePage page => cases page <;> decide +kernel
  | _ => decide +kernel

theorem Message.framable_iff {m : Message} :
    m.Framable ↔ ∀ entry ∈ m.extensions.entries, Body.entryFault? entry = none := by
  simp only [Framable, Body.entryFault?_eq_none_iff]

/-- **A submission's message has a frame exactly if all that it carries can be written.** -/
theorem Submission.framable_message_iff (what : Submission) :
    what.message.Framable ↔ what.WireReady := by
  have ping : Message.ping.Framable := by decide
  rw [WireReady]
  cases what with
  | ping => simpa [message, carried] using ping
  | binary content extensions =>
    by_cases empty : content.isEmpty = true
    · simpa [message, carried, empty] using ping
    · simp [message, carried, empty, Message.framable_iff]
  | text content extensions =>
    by_cases empty : content.isEmpty = true
    · simpa [message, carried, empty] using ping
    · have contentType : Body.entryFault? (contentTypeName, textContentType) = none := by
        decide +kernel
      rw [message, if_neg empty, carried, if_neg empty, Message.framable_iff, Message.ofText_eq]
      simp [Message.textEntries, or_imp, forall_and, contentType, Charset.entryFault?_name]

/-- A message has a frame exactly if every open body takes it. -/
theorem Message.framable_iff_taken {m : Message} :
    m.Framable ↔ ∀ body : Body, body.ended = false → ∃ written, body.add m = .ok written := by
  rw [← unframable?_eq_none_iff]
  constructor
  · intro hasFrame body isOpen
    exact ⟨_, Body.add_of_framable isOpen hasFrame⟩
  · intro taken
    obtain ⟨written, added⟩ := taken .start rfl
    cases reason : m.unframable? with
    | none => rfl
    | some fault =>
      rw [Body.add_of_unframable rfl reason] at added
      cases added

/-! ### Transfers that fail over a message -/

/-- What is queued after a turn was queued before it, or was brought by it. -/
theorem Queue.Turned.mem_messages {q q' : Queue} {t : Turn} {outcome : Outcome}
    (h : q.Turned t outcome q') {m : Message} (queued : m ∈ q'.messages) :
    m ∈ q.messages ∨ t = .offer m ∨ t = .offerLast m := by
  cases h with
  | stored isOpen room =>
    rcases List.mem_append.mp queued with old | new
    · exact Or.inl old
    · rw [List.mem_singleton.mp new]
      exact Or.inr (Or.inl rfl)
  | storedLast isOpen =>
    rcases List.mem_append.mp queued with old | new
    · exact Or.inl old
    · rw [List.mem_singleton.mp new]
      exact Or.inr (Or.inr rfl)
  | taken live oldest =>
    rw [oldest]
    exact Or.inl (List.mem_cons_of_mem _ queued)
  | _ => exact Or.inl queued

namespace Transfer.Task

/-- **A task with nothing before it that has no frame**, in its hands or in the queue. -/
structure Untroubled (k : Task) : Prop where
  queued : ∀ m ∈ k.queue.messages, m.Framable
  inHand : ∀ m, k.stage = .pulled m → m.Framable
  outcome : ∀ reason, k.stage ≠ .ended (.failed (.invalidBody reason))

theorem Untroubled.advanced {k k' : Task} (h : k.Untroubled) (call : k.Advanced k') :
    k'.Untroubled := by
  have queued := h.queued
  cases call with
  | pull stage call =>
    cases call with
    | waits => exact h
    | @takes m rest more live oldest =>
      rw [oldest] at queued
      refine ⟨fun m' hm => queued m' (List.mem_cons_of_mem _ hm), ?_, by simp⟩
      rintro m' ⟨⟩
      exact queued m List.mem_cons_self
    | refused => exact ⟨queued, nofun, nofun⟩
    | completes => exact ⟨queued, nofun, nofun⟩
  | frame stage call =>
    cases call with
    | unframable _ reason =>
      have hasFrame := Message.unframable?_eq_none_iff.mpr (h.inHand _ stage)
      rw [hasFrame] at reason
      cases reason
    | fills => exact ⟨queued, nofun, nofun⟩
    | skipped => exact ⟨queued, nofun, nofun⟩
  | handOver _ call => cases call <;> exact ⟨queued, nofun, nofun⟩
  | settle _ call =>
    cases call with
    | flushes => exact ⟨queued, nofun, nofun⟩
    | waits => exact ⟨queued, h.inHand, h.outcome⟩
    | fails => exact ⟨queued, nofun, nofun⟩
  | isOver => exact h

theorem Untroubled.stepped {k k' : Task} {e : Event} (h : k.Untroubled)
    (brought : ∀ m, e = .turn (.offer m) ∨ e = .turn (.offerLast m) → m.Framable)
    (step : k.Stepped e k') : k'.Untroubled := by
  cases step with
  | advanced call => exact h.advanced call
  | dropped => exact ⟨h.queued, nofun, nofun⟩
  | gone => exact h
  | turned turn =>
    refine ⟨fun m queued => ?_, h.inHand, h.outcome⟩
    rcases (k.queue.turned turn).mem_messages queued with old | rfl | rfl
    · exact h.queued m old
    · exact brought m (Or.inl rfl)
    · exact brought m (Or.inr rfl)

/-- **A transfer does not fail over a message** if all that is queued, and all that others bring
while it is under way, has a frame. -/
theorem untroubled_run (w : Writer) (s : Stream) {q : Queue} {events : List Event}
    (queued : ∀ m ∈ q.messages, m.Framable)
    (brought : ∀ m, .turn (.offer m) ∈ events ∨ .turn (.offerLast m) ∈ events → m.Framable) :
    ((start w s q).run events).Untroubled := by
  refine run_invariant (P := Untroubled) ?_ ⟨queued, nofun, nofun⟩
  intro k k' e listed h step
  refine h.stepped (fun m brings => brought m ?_) step
  rcases brings with rfl | rfl
  · exact Or.inl listed
  · exact Or.inr listed

end Transfer.Task

/-! ### Accepted messages -/

namespace Sender.Monitor

variable {m : Monitor} {capacity : Nat} {overflow : Overflow}

/-- A submission that the queue has accepted: its call returns without a refusal, or has done so. -/
def Accepts (m : Monitor) (n : Nat) (what : Submission) : Prop :=
  ∃ k, m.Reached n (.submit what) k ∧ m.queue.resultOf k = some .stored

/-- What a submission puts in is its message, with the number of its call at the queue. -/
theorem Linked.logged_at {n k : Nat} {what : Submission} (l : m.Linked) (logs : m.Logged)
    (reached : m.Reached n (.submit what) k) (stored : m.queue.resultOf k = some .stored) :
    (k, what.message) ∈ m.queue.accepted := by
  obtain ⟨asked, asks, there⟩ := l.asks n _ k reached
  cases asks
  obtain ⟨r, onRecord, stored⟩ := Option.bind_eq_some_iff.mp stored
  have call : r.call = .enqueue what.message := by
    rw [Queue.Monitor.asked, List.getElem?_map, onRecord] at there
    exact Option.some.inj there
  rw [logs.exact]
  simp [onRecord, Queue.Monitor.Record.stored?, stored, call, Queue.Monitor.Call.message?]

/-- What is accepted of a submission is its message. -/
theorem Linked.logged {n : Nat} {what : Submission} (l : m.Linked) (logs : m.Logged)
    (accepts : m.Accepts n what) : ∃ e ∈ m.queue.accepted, e.2 = what.message := by
  obtain ⟨k, reached, stored⟩ := accepts
  exact ⟨_, l.logged_at logs reached stored, rfl⟩

/-- Behind an accepted message that is not the last stands a submission that was accepted. -/
theorem Linked.accepts (l : m.Linked) (logs : m.Logged) {e : Nat × Message}
    (inLog : e ∈ m.queue.accepted) :
    e.2 = .terminal ∨ ∃ n what, m.Accepts n what ∧ e.2 = what.message := by
  have shown := (logs.exact e.1 e.2).mp inLog
  obtain ⟨r, onRecord, stored⟩ := Option.bind_eq_some_iff.mp shown
  rw [Queue.Monitor.Record.stored?, Option.ite_none_right_eq_some] at stored
  obtain ⟨n, call, reached, ⟨what, rfl, message⟩ | ⟨closes, -⟩⟩ := l.accepted_cases logs inLog
  · exact Or.inr ⟨n, what, ⟨e.1, reached, by simp [Queue.Monitor.resultOf, onRecord, stored]⟩,
      message⟩
  · obtain ⟨asked, asks, there⟩ := l.asks n call e.1 reached
    rw [Queue.Monitor.asked, List.getElem?_map, onRecord, Option.map_some, Option.some.injEq]
      at there
    rw [there] at stored
    rcases closes with rfl | rfl <;> cases asks <;> exact Or.inl (Option.some.inj stored.2).symm

/-- **Accepted messages can be framed if their submissions carry what can be written.** At every
moment of every run of the threads at a sender:

* a submission that is accepted has put its message in, whatever its extensions are, and every open
  body takes this message exactly if the submission is wire-ready; and
* if all accepted submissions are wire-ready, then no accepted message fails a transfer: from that
  moment on, a transfer of the sender's stream into any writer does not fail over a message unless
  others bring one that has no frame. -/
theorem accepted_wire_ready (reachable : m.Reachable capacity overflow) :
    (∀ n what, m.Accepts n what →
      (∃ e ∈ m.queue.accepted, e.2 = what.message) ∧
        (what.WireReady ↔
          ∀ body : Body, body.ended = false → ∃ written, body.add what.message = .ok written)) ∧
    ((∀ n what, m.Accepts n what → what.WireReady) →
      ∀ (w : Writer) (s : Stream) (events : List Transfer.Task.Event) (reason : String),
        (∀ msg, .turn (.offer msg) ∈ events ∨ .turn (.offerLast msg) ∈ events → msg.Framable) →
        ((Transfer.Task.start w s m.queue.queue).run events).stage ≠
          .ended (.failed (.invalidBody reason))) := by
  obtain ⟨actions, run⟩ := reachable
  have linked := linked_of_run run
  have orderly := Queue.Monitor.orderly_of_reachable (queue_reachable run)
  constructor
  · intro n what accepts
    refine ⟨linked.logged orderly.accepted accepts, ?_⟩
    rw [← what.framable_message_iff, Message.framable_iff_taken]
  · intro ready w s events reason brought
    refine (Transfer.Task.untroubled_run w s (fun msg queued => ?_) brought).outcome reason
    have accepted : msg ∈ m.queue.accepted.map Prod.snd := by
      rw [← orderly.conserved]
      exact List.mem_append_right _ queued
    obtain ⟨e, inLog, rfl⟩ := List.mem_map.mp accepted
    rcases linked.accepts orderly.accepted inLog with last | ⟨n, what, accepts, message⟩
    · rw [last]
      exact Message.framable_terminal
    · rw [message]
      exact what.framable_message_iff.mpr (ready n what accepts)

/-- A text whose charset entry nobody could write, and an extension that needs quotes. -/
theorem odd_charset_wire_ready :
    let what : Submission := .text "é" ⟨[("charset", "no\nsuch"), ("Id", "a \"b\"")]⟩
    let actions : List Action := [.begin 0 (.submit what), .act 0, .act 0, .queue (.enter 0)]
    ∃ m, (start (.make 1 .block)).run? actions = some m ∧ m.Accepts 0 what ∧ what.WireReady ∧
      ∀ body : Body, body.ended = false → ∃ written, body.add what.message = .ok written := by
  intro what actions
  obtain ⟨m, run, accepts⟩ :
      ∃ m, (start (.make 1 .block)).run? actions = some m ∧ m.Accepts 0 what :=
    ⟨_, rfl, 0, ⟨_, rfl, rfl, rfl⟩, rfl⟩
  have ready : what.WireReady := by decide +kernel
  exact ⟨m, run, accepts, ready,
    ((accepted_wire_ready ⟨actions, run⟩).1 0 what accepts).2.mp ready⟩

/-- Three threads submit, and the second one's extension has a name that is not a token. All three
are accepted; the transfer writes the first message, fails over the second, and leaves the third one
in an interrupted queue. -/
theorem bad_extension_loses_later_message :
    let first : Submission := .binary [0x61] .empty
    let bad : Submission := .binary [0x62] ⟨[("bad name", "v")]⟩
    let last : Submission := .binary [0x63] .empty
    let actions : List Action := [.begin 0 (.submit first), .act 0, .act 0, .queue (.enter 0),
      .begin 1 (.submit bad), .act 1, .act 1, .queue (.enter 1),
      .begin 2 (.submit last), .act 2, .act 2, .queue (.enter 2)]
    ∃ m, (start (.make 3 .failFast)).run? actions = some m ∧
      m.Accepts 0 first ∧ m.Accepts 1 bad ∧ m.Accepts 2 last ∧
        let k := (Transfer.Task.start (.ofTransport (.scripted [] [])) ⟨1, true⟩ m.queue.queue).run
          (List.replicate 6 .advance)
        k.stage = .ended (.failed (.invalidBody "invalid chunk extension name: \"bad name\"")) ∧
          k.taken = first.message.frame ∧ k.queue.messages = [last.message] ∧
            k.queue.interrupted = true := by
  intro first bad last actions
  refine ⟨_, rfl, ⟨0, ⟨_, rfl, rfl, rfl⟩, rfl⟩, ⟨1, ⟨_, rfl, rfl, rfl⟩, rfl⟩,
    ⟨2, ⟨_, rfl, rfl, rfl⟩, rfl⟩, ?_⟩
  decide +kernel

end Sender.Monitor

end Outbox
