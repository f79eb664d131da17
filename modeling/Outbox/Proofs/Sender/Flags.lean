import Outbox.Proofs.Sender.Monitor

/-!
# A flag is won once

A sender has two flags, each of them set once and never taken back: that it is closed, and that its
stream was given away. A call that wants to be the first swaps the flag, and the one whose swap
finds it unset has won it. In every run a flag is won once at most. What only the winner does is
therefore done once: bringing the last message to the queue, and returning the stream.

## Main Definitions

* `Monitor.Flag`, `Monitor.winners` — the flags, and the calls whose swap found one unset
* `Monitor.Won` — a flag is won once, and whoever acts on it has won it
* `Monitor.won_of_run` — so it is in every run
-/

namespace Outbox.Sender.Monitor

/-! ### Flags -/

/-- **A flag that calls swap.** -/
inductive Flag where
  /-- That the sender is closed. -/
  | closed
  /-- That the stream was given away. -/
  | stream
deriving DecidableEq, Repr

/-- Whether a flag is set. -/
def isSet (m : Monitor) : Flag → Bool
  | .closed => m.closed
  | .stream => m.streamTaken

/-- How far a call has got that swaps a flag next. -/
def Flag.swap : Flag → Phase
  | .closed => .closing
  | .stream => .claiming

/-- The call that swaps a flag in a step and finds it unset, if there is one. -/
def winner? (m : Monitor) (f : Flag) : Action → Option Nat
  | .act n => if m.calls[n]?.any (·.phase = f.swap) && !m.isSet f then some n else none
  | _ => none

/-- **The calls of a run whose swap found a flag unset**, in their order. -/
def winners (m : Monitor) (f : Flag) : List Action → List Nat
  | [] => []
  | action :: actions =>
    (m.winner? f action).toList ++ ((m.step? action).map (·.winners f actions)).getD []

@[simp]
theorem isSet_setPhase (m : Monitor) (n : Nat) (a : Activity) (phase : Phase) (f : Flag) :
    (m.setPhase n a phase).isSet f = m.isSet f := by
  cases f <;> rfl

@[simp]
theorem looking_ne_swap (more : Nat) (f : Flag) : Phase.looking more ≠ f.swap := by
  cases f <;> simp [Flag.swap]

@[simp]
theorem calling_ne_swap (f : Flag) : Phase.calling ≠ f.swap := by
  cases f <;> simp [Flag.swap]

namespace Activity

/-- How far a call has got that found a flag unset: one that closes the sender carries the last
message to the queue, one that claims the stream has returned it. -/
def HasWon (a : Activity) : Flag → Prop
  | .closed => (a.call = .close ∨ a.call = .drop) ∧ (a.phase = .calling ∨ ∃ k, a.phase = .queued k)
  | .stream => a.call = .obtainStream ∧ a.phase = .returned none

/-- Calls look at the closed flag or swap a flag only where that is a part of them. -/
def Fits (a : Activity) : Prop :=
  match a.phase with
  | .looking _ => a.call = .drop ∨ ∃ what, a.call = .submit what
  | .closing => a.call = .close ∨ a.call = .drop
  | .claiming => a.call = .obtainStream
  | _ => True

/-- Looking at the closed flag wins none. -/
theorem Fits.not_hasWon_of_looking {a : Activity} (fits : a.Fits) {more : Nat}
    (looking : a.phase = .looking more) {phase : Phase}
    (next : phase = a.call.onClosed ∨ phase = a.call.onOpen) (f : Flag) :
    ¬ { a with phase := phase : Activity }.HasWon f := by
  rw [Fits, looking] at fits
  rcases fits with drop | ⟨what, submit⟩ <;> rcases next with rfl | rfl <;> cases f <;>
    simp_all [HasWon, Call.onClosed, Call.onOpen]

end Activity

/-- **A flag is won once**, and whoever acts on it has won it. -/
structure Won (m : Monitor) (f : Flag) (won : List Nat) : Prop where
  unset : m.isSet f = false → won = []
  once : won.length ≤ 1
  holders : ∀ n a, m.calls[n]? = some a → a.HasWon f → n ∈ won

variable {m m' : Monitor} {f : Flag} {n : Nat} {a : Activity} {won : List Nat}

theorem Won.unique (w : m.Won f won) {n' : Nat} (first : n ∈ won) (second : n' ∈ won) : n = n' := by
  obtain ⟨winner, rfl⟩ := List.length_eq_one_iff.mp
    (Nat.le_antisymm w.once (List.length_pos_of_mem first))
  rw [List.mem_singleton.mp first, List.mem_singleton.mp second]

theorem getElem?_setPhase {phase : Phase} {k : Nat} {b : Activity}
    (h : (m.setPhase n a phase).calls[k]? = some b) :
    (k = n ∧ b = { a with phase := phase }) ∨ (k ≠ n ∧ m.calls[k]? = some b) := by
  rw [setPhase, List.getElem?_set] at h
  split at h
  · next same =>
    rw [Option.ite_none_right_eq_some, Option.some.injEq] at h
    exact Or.inl ⟨same.symm, h.2.symm⟩
  · next other => exact Or.inr ⟨Ne.symm other, h⟩

/-- A step in which nobody wins a flag. -/
theorem Won.kept (w : m.Won f won) (flag : m'.isSet f = m.isSet f)
    (holders : ∀ (k : Nat) (b : Activity), m'.calls[k]? = some b → b.HasWon f →
      ∃ a : Activity, m.calls[k]? = some a ∧ a.HasWon f) :
    m'.Won f won where
  unset := by
    rw [flag]
    exact w.unset
  once := w.once
  holders := by
    intro k b there has
    obtain ⟨a, was, had⟩ := holders k b there has
    exact w.holders k a was had

/-- A step in which a call gets further without winning a flag. -/
theorem Won.passed {phase : Phase} (w : m.Won f won) (here : m.calls[n]? = some a)
    (elsewhere : a.phase ≠ f.swap ∨ m.isSet f = true) (flag : m'.isSet f = m.isSet f)
    (calls : m'.calls = (m.setPhase n a phase).calls)
    (had : { a with phase := phase : Activity }.HasWon f → a.HasWon f) :
    m'.Won f (won ++ (m.winner? f (.act n)).toList) := by
  have nobody : m.winner? f (.act n) = none := by
    rcases elsewhere with other | isSet
    · simp [winner?, here, other]
    · simp [winner?, isSet]
  rw [nobody, Option.toList_none, List.append_nil]
  refine w.kept flag ?_
  intro k b there has
  rw [calls] at there
  rcases getElem?_setPhase there with ⟨rfl, rfl⟩ | ⟨-, old⟩
  · exact ⟨a, here, had has⟩
  · exact ⟨b, old, has⟩

/-- A step in which a call wins a flag. -/
theorem Won.swapped {phase : Phase} (w : m.Won f won) (here : m.calls[n]? = some a)
    (swaps : a.phase = f.swap) (unset : m.isSet f = false) (isSet : m'.isSet f = true)
    (calls : m'.calls = (m.setPhase n a phase).calls) :
    m'.Won f (won ++ (m.winner? f (.act n)).toList) := by
  -- the flag was unset, so nobody has won it before
  have first := w.unset unset
  subst first
  have wins : m.winner? f (.act n) = some n := by simp [winner?, here, swaps, unset]
  rw [wins]
  refine ⟨?_, Nat.le_refl _, ?_⟩
  · rw [isSet]
    exact fun unset => absurd unset (by decide)
  · intro k b there has
    rw [calls] at there
    rcases getElem?_setPhase there with ⟨rfl, rfl⟩ | ⟨-, old⟩
    · exact List.mem_singleton.mpr rfl
    · exact absurd (w.holders k b old has) List.not_mem_nil

/-! ### Steps and runs -/

/-- All calls of a sender are where they can be. -/
def WellPlaced (m : Monitor) : Prop := ∀ a ∈ m.calls, a.Fits

theorem WellPlaced.setPhase {phase : Phase} (w : m.WellPlaced)
    (calls : m'.calls = (m.setPhase n a phase).calls)
    (fits : { a with phase := phase : Activity }.Fits) : m'.WellPlaced := by
  intro b there
  rw [calls] at there
  rcases List.mem_or_eq_of_mem_set there with old | rfl
  · exact w b old
  · exact fits

theorem Stepped.wellPlaced {action : Action} (h : m.Stepped action m') (w : m.WellPlaced) :
    m'.WellPlaced := by
  cases h with
  | @began thread call idle =>
    intro b there
    rcases List.mem_append.mp there with old | new
    · exact w b old
    · rw [List.mem_singleton.mp new]
      cases call <;> simp [Activity.Fits, Call.start]
  | @foundClosed n a _ here looking closed =>
    refine w.setPhase rfl ?_
    cases a.call <;> simp [Activity.Fits, Call.onClosed]
  | @foundOpen n a here looking isOpen =>
    refine w.setPhase rfl ?_
    cases a.call <;> simp [Activity.Fits, Call.onOpen]
  | looksAgain here looking isOpen =>
    have fits := w _ (List.mem_of_getElem? here)
    rw [Activity.Fits, looking] at fits
    exact w.setPhase rfl fits
  | closes => exact w.setPhase rfl trivial
  | closesLate => exact w.setPhase rfl trivial
  | claims => exact w.setPhase rfl trivial
  | claimsLate => exact w.setPhase rfl trivial
  | reached => exact w.setPhase rfl trivial
  | queueStepped => exact w

/-- **A step adds the call that wins a flag in it.** -/
theorem Stepped.won_step {action : Action} (h : m.Stepped action m') (placed : m.WellPlaced)
    (w : m.Won f won) : m'.Won f (won ++ (m.winner? f action).toList) := by
  cases h with
  | @began thread call idle =>
    rw [show m.winner? f (.begin thread call) = none from rfl, Option.toList_none, List.append_nil]
    refine w.kept (by cases f <;> rfl) ?_
    intro k b there has
    rw [List.getElem?_append] at there
    split at there
    · exact ⟨b, there, has⟩
    · rw [List.getElem?_singleton] at there
      split at there
      · cases there
        cases f <;> cases call <;> simp [Activity.HasWon, Call.start] at has
      · cases there
  | @foundClosed n a more here looking closed =>
    have fits := placed a (List.mem_of_getElem? here)
    refine w.passed here (Or.inl (by simp [looking])) (isSet_setPhase ..) rfl ?_
    exact fun has => absurd has (fits.not_hasWon_of_looking looking (Or.inl rfl) f)
  | @foundOpen n a here looking isOpen =>
    have fits := placed a (List.mem_of_getElem? here)
    refine w.passed here (Or.inl (by simp [looking])) (isSet_setPhase ..) rfl ?_
    exact fun has => absurd has (fits.not_hasWon_of_looking looking (Or.inr rfl) f)
  | looksAgain here looking isOpen =>
    refine w.passed here (Or.inl (by simp [looking])) (isSet_setPhase ..) rfl ?_
    cases f <;> simp [Activity.HasWon]
  | closes here closing isOpen =>
    cases f with
    | closed => exact w.swapped here closing isOpen rfl rfl
    | stream =>
      refine w.passed here (Or.inl (by simp [closing, Flag.swap])) rfl rfl ?_
      simp [Activity.HasWon]
  | @closesLate n a here closing closed =>
    cases f with
    | closed =>
      refine w.passed here (Or.inr closed) rfl rfl ?_
      simp [Activity.HasWon]
    | stream =>
      refine w.passed here (Or.inl (by simp [closing, Flag.swap])) rfl rfl ?_
      have fits := placed a (List.mem_of_getElem? here)
      simp only [Activity.Fits, closing] at fits
      rcases fits with close | drop
      · simp [Activity.HasWon, close]
      · simp [Activity.HasWon, drop]
  | claims here claiming free =>
    cases f with
    | closed =>
      refine w.passed here (Or.inl (by simp [claiming, Flag.swap])) rfl rfl ?_
      simp [Activity.HasWon]
    | stream => exact w.swapped here claiming free rfl rfl
  | claimsLate here claiming taken =>
    cases f with
    | closed =>
      refine w.passed here (Or.inl (by simp [claiming, Flag.swap])) rfl rfl ?_
      simp [Activity.HasWon]
    | stream =>
      refine w.passed here (Or.inr taken) rfl rfl ?_
      simp [Activity.HasWon]
  | reached here calling asks step =>
    refine w.passed here (Or.inl (by simp [calling])) (by cases f <;> rfl) rfl ?_
    cases f <;> simp_all [Activity.HasWon]
  | @queueStepped action q inside step =>
    rw [show m.winner? f (.queue action) = none from rfl, Option.toList_none, List.append_nil]
    exact w.kept (by cases f <;> rfl) fun k b there has => ⟨b, there, has⟩

theorem won_of_run {actions : List Action} (placed : m.WellPlaced) (w : m.Won f won)
    (run : m.run? actions = some m') : m'.Won f (won ++ m.winners f actions) := by
  induction actions generalizing m won with
  | nil =>
    cases run
    simpa [winners] using w
  | cons action actions ih =>
    obtain ⟨next, step, run⟩ := Steps.run?_cons_iff.mp run
    have later := ih ((stepped step).wellPlaced placed) ((stepped step).won_step placed w) run
    rw [List.append_assoc] at later
    simpa [winners, step] using later

/-- At a new sender nobody has won a flag yet. -/
theorem won_of_start {q : Queue} {actions : List Action} (f : Flag)
    (run : (start q).run? actions = some m) : m.Won f ((start q).winners f actions) := by
  have placed : (start q).WellPlaced := by rintro a ⟨⟩
  have nobody : (start q).Won f [] := ⟨fun _ => rfl, Nat.zero_le _, by rintro n a ⟨⟩⟩
  simpa using won_of_run placed nobody run

end Outbox.Sender.Monitor
