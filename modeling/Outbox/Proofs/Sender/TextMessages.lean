import Outbox.Proofs.Sender.WireReady

/-!
# Accepted texts are in normal form

A text reaches the queue as a message whose extensions are settled: what the application gave, less
everything under the two names that the sender sets, and behind it the content type and the charset,
once each. The normal form is stable. An application that takes the extensions of a queued message
and submits its text with them, at this sender or at any other, queues the very same message.

## Main Definitions

* `Monitor.text_in_normal_form` — the message that an accepted text has put in
-/

namespace Outbox.Sender.Monitor

variable {m : Monitor} {capacity : Nat} {overflow : Overflow}

/-- An accepted text has put its message in, and nothing else. -/
theorem logged_ofText (reachable : m.Reachable capacity overflow) {text : String}
    (nonempty : text ≠ "") {e : Extensions} {n : Nat} (accepts : m.Accepts n (.text text e)) :
    ∃ k, m.Reached n (.submit (.text text e)) k ∧
      ∀ msg, (k, msg) ∈ m.queue.accepted ↔ msg = .ofText text e := by
  obtain ⟨actions, run⟩ := reachable
  have linked := linked_of_run run
  have orderly := Queue.Monitor.orderly_of_reachable (queue_reachable run)
  obtain ⟨k, reached, stored⟩ := accepts
  have message : (Submission.text text e).message = .ofText text e := by
    simp [Submission.message, nonempty]
  refine ⟨k, reached, fun msg => ⟨fun inLog => ?_, ?_⟩⟩
  · exact (linked.eq_message orderly.accepted reached inLog).trans message
  · rintro rfl
    rw [← message]
    exact linked.logged_at orderly.accepted reached stored

/-- **Accepted texts are in normal form.** At every moment of every run of the threads at a sender,
an accepted text that is not empty has put in one message, whatever extensions came with it:

* its extensions are those given, without every entry named like the content type or the charset and
  otherwise in their order, and behind them the content type and the name of the charset, where
* the charset is that of the first charset entry given, or UTF-8 if there is none or its label is
  not that of a charset one can write;
* its payload is the text in this charset, and its own charset entry resolves to this charset; and
* wherever the same text is accepted with this message's extensions, what is queued is the same
  message again. -/
theorem text_in_normal_form (reachable : m.Reachable capacity overflow) {text : String}
    (nonempty : text ≠ "") {e : Extensions} {n : Nat} (accepts : m.Accepts n (.text text e)) :
    let charset : Charset :=
      match e.entries.find? fun entry => Text.sameName entry.1 "Charset" with
      | none => .utf8
      | some entry => (Charset.forLabel? entry.2).getD .utf8
    ∃ k msg, m.Reached n (.submit (.text text e)) k ∧
      (∀ other, (k, other) ∈ m.queue.accepted ↔ other = msg) ∧
      msg.extensions.entries =
        (e.entries.filter fun entry =>
          !Text.sameName "Content-Type" entry.1 && !Text.sameName "Charset" entry.1) ++
          [("Content-Type", "text/plain"), ("Charset", charset.name)] ∧
      msg.payload = charset.encode text ∧
      Charset.resolve (msg.extensions.getFirst? "Charset") = charset ∧
      ∀ {capacity' : Nat} {overflow' : Overflow} {m' : Monitor} {n' : Nat},
        m'.Reachable capacity' overflow' → m'.Accepts n' (.text text msg.extensions) →
          ∃ k', m'.Reached n' (.submit (.text text msg.extensions)) k' ∧
            ∀ other, (k', other) ∈ m'.queue.accepted ↔ other = msg := by
  intro charset
  have asked : e.requestedCharset = charset := e.requestedCharset_eq
  obtain ⟨k, reached, logged⟩ := logged_ofText reachable nonempty accepts
  have form := Message.ofText_eq text e
  rw [asked] at form
  refine ⟨k, .ofText text e, reached, logged, ?_, ?_, ?_, ?_⟩
  · rw [form]
    rfl
  · rw [form]
  · rw [form]
    exact Message.requestedCharset_textEntries e.entries charset
  · intro capacity' overflow' m' n' reachable' accepts'
    obtain ⟨k', reached', logged'⟩ := logged_ofText reachable' nonempty accepts'
    rw [Message.ofText_self] at logged'
    exact ⟨k', reached', logged'⟩

/-- Labels in any spelling, twice over and in disorder. The text is written in the first charset,
under its canonical name, and a second thread submits it with the extensions that it got. -/
theorem latin_text_queued_twice :
    let given : Extensions := ⟨[("id", "1"), ("CHARSET", " Latin1 "), ("content-type", "x/y"),
      ("Charset", "utf-8"), ("Id", "2"), ("Content-Type", "z")]⟩
    let settled : Extensions := ⟨[("id", "1"), ("Id", "2"), ("Content-Type", "text/plain"),
      ("Charset", "windows-1252")]⟩
    let actions : List Action :=
      [.begin 0 (.submit (.text "é" given)), .act 0, .act 0, .queue (.enter 0),
        .begin 1 (.submit (.text "é" settled)), .act 1, .act 1, .queue (.enter 1)]
    ∃ m, (start (.make 2 .block)).run? actions = some m ∧ m.Accepts 0 (.text "é" given) ∧
      m.Accepts 1 (.text "é" settled) ∧
        ∃ k k' msg, m.Reached 0 (.submit (.text "é" given)) k ∧ (k, msg) ∈ m.queue.accepted ∧
          msg = ⟨[0xE9], settled⟩ ∧
          m.Reached 1 (.submit (.text "é" settled)) k' ∧ (k', msg) ∈ m.queue.accepted := by
  intro given settled actions
  obtain ⟨m, run, accepts, accepts'⟩ :
      ∃ m, (start (.make 2 .block)).run? actions = some m ∧ m.Accepts 0 (.text "é" given) ∧
        m.Accepts 1 (.text "é" settled) :=
    ⟨_, rfl, ⟨0, ⟨_, rfl, rfl, rfl⟩, rfl⟩, ⟨1, ⟨_, rfl, rfl, rfl⟩, rfl⟩⟩
  have reachable : m.Reachable 2 .block := ⟨actions, run⟩
  obtain ⟨k, msg, reached, logged, entries, payload, -, again⟩ :=
    text_in_normal_form reachable (by decide) accepts
  have same : msg = ⟨[0xE9], settled⟩ := by
    obtain ⟨bytes, ⟨listed⟩⟩ := msg
    have listed : listed = settled.entries := entries.trans (by decide +kernel)
    have bytes : bytes = [0xE9] := payload.trans (by decide +kernel)
    rw [listed, bytes]
  subst same
  obtain ⟨k', reached', logged'⟩ := again reachable accepts'
  exact ⟨m, run, accepts, accepts', k, k', _, reached, (logged _).mpr rfl, rfl, reached',
    (logged' _).mpr rfl⟩

end Outbox.Sender.Monitor
