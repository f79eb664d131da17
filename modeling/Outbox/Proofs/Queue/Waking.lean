import Mathlib.Algebra.GroupWithZero.Nat
import Outbox.Proofs.Queue.Monitor

/-!
# No wake-up is lost

A signal wakes one sleeper at most, wakes nobody if nobody sleeps yet, and is sent after the lock
was given back; a woken thread may find that another was faster. That nobody sleeps on what is there
is nevertheless true, and counting shows it. What a condition has to offer, free places or messages,
is at most the number of calls that will see to it: those that take their turn next and want it, and
the signals that are still to be sent for it. A turn that adds to the offer owes a signal. A turn
that is taken in vain found nothing on offer. A signal that is sent either makes a sleeper one of
those who take their turn next, or there is no sleeper.

Once a condition can never come true again the count says nothing. Then a signal to all is owed
until it is sent, and after that nobody sleeps and nobody falls asleep.

## Main Definitions

* `Monitor.Activity.backs`, `Monitor.backing` — the calls and signals that see to a condition
* `Monitor.Attended` — whoever sleeps on a condition is seen to; every step keeps it
* `Monitor.no_lost_wakeup` — when nobody can go on by itself, nobody sleeps in vain
-/

namespace Outbox.Queue

open Monitor (Condition Signal Call Activity Phase)

/-! ### Conditions -/

/-- How often a condition could be met as the queue is now. -/
def offers (q : Queue) : Condition → Nat
  | .room => q.capacity - q.size
  | .message => q.size

/-- Whether waiting for a condition has become pointless. -/
def isOver (q : Queue) : Condition → Bool
  | .room => q.interrupted || q.terminated
  | .message => q.interrupted

namespace Monitor

/-- What a call may have to wait for. -/
def Call.awaits? : Call → Option Condition
  | .enqueue _ => some .room
  | .dequeue _ => some .message
  | _ => none

namespace Activity

/-- How much a call does for those who sleep on a condition: one if it takes its turn next and wants
the condition itself, and one for each signal that it is still to send. -/
def backs (a : Activity) (c : Condition) : Nat :=
  match a.phase with
  | .ready _ => if a.call.awaits? = some c then 1 else 0
  | .asleep _ => 0
  | .leaving signals _ => signals.count (.one c)

/-- Whether the call is still to wake all who sleep on a condition. -/
def owesAll (a : Activity) (c : Condition) : Bool :=
  match a.phase with
  | .leaving signals _ => signals.contains (.all c)
  | _ => false

end Activity

/-- The calls and signals that see to a condition. -/
def backing (m : Monitor) (c : Condition) : Nat := (m.calls.map (·.backs c)).sum

/-- Some call sleeps on a condition. -/
def HasSleeper (m : Monitor) (c : Condition) : Prop := ∃ a ∈ m.calls, a.phase = .asleep c

/-- Some call is still to wake all who sleep on a condition. -/
def OwesAll (m : Monitor) (c : Condition) : Prop := ∃ a ∈ m.calls, a.owesAll c = true

/-- **Whoever sleeps on a condition is seen to**: by a signal to all, or by at least as many calls
and signals as the queue could satisfy. -/
def Attended (m : Monitor) (c : Condition) : Prop :=
  m.HasSleeper c → m.OwesAll c ∨ m.queue.isOver c = false ∧ m.queue.offers c ≤ m.backing c

/-- Calls sleep only on what they may have to wait for. -/
def WellPlaced (m : Monitor) : Prop :=
  ∀ a ∈ m.calls, ∀ c, a.phase = .asleep c → a.call.awaits? = some c

end Monitor

/-! ### One turn -/

theorem offers_room_eq_zero {q : Queue} (noRoom : q.hasRoom = false) : q.offers .room = 0 := by
  have full : ¬ q.size < q.capacity := by simpa [← hasRoom_iff] using noRoom
  exact Nat.sub_eq_zero_of_le (Nat.le_of_not_lt full)

theorem isOver_room_iff {q : Queue} : q.isOver .room = true ↔ q.refusal? ≠ none := by
  unfold isOver refusal?
  cases q.interrupted <;> cases q.terminated <;> simp

theorem isOver_room_eq_false {q : Queue} (isOpen : q.refusal? = none) :
    q.isOver .room = false := by
  rw [← Bool.not_eq_true, isOver_room_iff]
  exact fun refused => refused isOpen

/-- **What a turn does for a condition**, when it makes a call `a` into `b`. -/
inductive Attends (q q' : Queue) (a b : Activity) (c : Condition) : Prop where
  /-- Waiting is over: it was over before, or the call owes a signal to all. -/
  | ended (isOver : q'.isOver c = true) (awake : b.phase ≠ .asleep c)
    (told : q.isOver c = true ∨ b.owesAll c = true)
  /-- There is nothing on offer. -/
  | nothing (goesOn : q'.isOver c = false) (nothing : q'.offers c = 0)
  /-- The call makes up for what it changes. -/
  | balanced (goesOn : q'.isOver c = false) (awake : b.phase ≠ .asleep c)
    (balance : q'.offers c + a.backs c ≤ q.offers c + b.backs c)

theorem Attends.of_balance {q q' : Queue} {a b : Activity} {c : Condition}
    (same : q'.isOver c = q.isOver c) (awake : b.phase ≠ .asleep c)
    (balance : q'.offers c + a.backs c ≤ q.offers c + b.backs c) : Attends q q' a b c := by
  cases ended : q.isOver c with
  | true => exact .ended (same.trans ended) awake (Or.inl ended)
  | false => exact .balanced (same.trans ended) awake balance

/-- A producer takes a place and owes a signal for the message, or finds no place. -/
theorem attends_of_offer {q q' : Queue} {thread : Nat} {m : Message} {expired : Bool}
    {outcome : Outcome} (h : q.Turned (.offer m) outcome q') (c : Condition) :
    Attends q q' ⟨thread, .enqueue m, .ready expired⟩
      ⟨thread, .enqueue m, (Call.enqueue m).after expired outcome⟩ c := by
  cases h with
  | stored isOpen room =>
    rw [hasRoom_iff, size] at room
    refine .of_balance (by cases c <;> rfl) (by simp) ?_
    cases c with
    | message => simp [offers, size, Activity.backs, Call.awaits?]
    | room =>
      show q.capacity - (q.messages ++ [m]).length + 1 ≤ q.capacity - q.messages.length + 0
      rw [List.length_append, List.length_singleton]
      omega
  | refusedOffer reason =>
    cases c with
    | message => exact .of_balance rfl (by simp) (by simp [Activity.backs, Call.awaits?])
    | room =>
      rcases reason with reason | ⟨isOpen, noRoom, -, -⟩
      · have ended : q.isOver .room = true := isOver_room_iff.mpr (by simp [reason])
        exact .ended ended (by simp) (Or.inl ended)
      · exact .nothing (isOver_room_eq_false isOpen) (offers_room_eq_zero noRoom)
  | full isOpen noRoom waiting =>
    cases c with
    | message => exact .of_balance rfl (by simp) (by simp [Activity.backs, Call.awaits?])
    | room => exact .nothing (isOver_room_eq_false isOpen) (offers_room_eq_zero noRoom)

/-- A consumer takes a message and owes a signal for the place, or finds no message. -/
theorem attends_of_take {q q' : Queue} {thread : Nat} {timed expired : Bool} {outcome : Outcome}
    (h : q.Turned .take outcome q') (c : Condition) :
    Attends q q' ⟨thread, .dequeue timed, .ready expired⟩
      ⟨thread, .dequeue timed, (Call.dequeue timed).after expired outcome⟩ c := by
  cases h with
  | taken live oldest =>
    refine .of_balance (by cases c <;> rfl) (by simp) ?_
    cases c <;> simp [offers, size, Activity.backs, Call.awaits?, oldest]
    omega
  | refusedTake reason =>
    have ended : q.isOver c = true := by cases c <;> simp [isOver, reason]
    exact .ended ended (by simp) (Or.inl ended)
  | empty live noMessage =>
    cases c with
    | message => exact .nothing live (by simp [offers, size, noMessage])
    | room =>
      refine .of_balance rfl ?_ ?_ <;> cases expired <;> simp [Activity.backs, Call.awaits?]

theorem Turned.attends {q q' : Queue} {a : Activity} {expired : Bool} {outcome : Outcome}
    (h : q.Turned a.call.turn outcome q') (ready : a.phase = .ready expired) (c : Condition) :
    Attends q q' a { a with phase := a.call.after expired outcome } c := by
  obtain ⟨thread, call, phase⟩ := a
  cases ready
  cases call with
  | enqueue m => exact attends_of_offer h c
  | dequeue timed => exact attends_of_take h c
  | enqueueLast m =>
    cases h with
    | storedLast isOpen =>
      cases c with
      | message =>
        exact .of_balance rfl (by simp) (by simp [offers, size, Activity.backs, Call.awaits?])
      | room => exact .ended (by simp [isOver]) (by simp) (Or.inr (by simp [Activity.owesAll]))
    | refusedLast reason =>
      exact .of_balance rfl (by simp) (by simp [Activity.backs, Call.awaits?])
  | interrupt =>
    cases h with
    | interrupted =>
      refine .ended ?_ (by simp) (Or.inr ?_) <;>
        cases c <;> simp [isOver, Queue.interrupt, Activity.owesAll]

namespace Monitor

/-! ### One call in another phase -/

variable {m m' : Monitor} {n : Nat} {a b : Activity} {phase : Phase} {c : Condition}

theorem backing_of_set (here : m.calls[n]? = some a) (calls : m'.calls = m.calls.set n b)
    (c : Condition) : m'.backing c + a.backs c = m.backing c + b.backs c := by
  obtain ⟨before, after, split, rfl⟩ := exists_split here
  have now : m'.calls = before ++ b :: after := by simp [calls, split]
  simp only [backing, split, now, List.map_append, List.map_cons, List.sum_append, List.sum_cons]
  omega

theorem HasSleeper.of_set (calls : m'.calls = m.calls.set n b) (awake : b.phase ≠ .asleep c)
    (h : m'.HasSleeper c) : m.HasSleeper c := by
  obtain ⟨d, there, asleep⟩ := h
  rw [calls] at there
  rcases List.mem_or_eq_of_mem_set there with old | rfl
  · exact ⟨d, old, asleep⟩
  · exact absurd asleep awake

theorem OwesAll.set (here : m.calls[n]? = some a) (calls : m'.calls = m.calls.set n b)
    (keeps : a.owesAll c = true → b.owesAll c = true) (h : m.OwesAll c) : m'.OwesAll c := by
  obtain ⟨d, there, owes⟩ := h
  obtain ⟨before, after, split, rfl⟩ := exists_split here
  have now : m'.calls = before ++ b :: after := by simp [calls, split]
  rw [OwesAll, now]
  rw [split, List.mem_append, List.mem_cons] at there
  rcases there with early | rfl | late
  · exact ⟨d, by simp [early], owes⟩
  · exact ⟨b, by simp, keeps owes⟩
  · exact ⟨d, by simp [late], owes⟩

/-- Fewer sleepers, no signal to all less, and at least as much backing: that is enough. -/
theorem Attended.mono (h : m.Attended c) (queue : m'.queue = m.queue)
    (sleepers : m'.HasSleeper c → m.HasSleeper c) (owes : m.OwesAll c → m'.OwesAll c)
    (more : m.backing c ≤ m'.backing c) : m'.Attended c := by
  intro sleeper
  rcases h (sleepers sleeper) with owed | ⟨notOver, enough⟩
  · exact Or.inl (owes owed)
  · rw [queue]
    exact Or.inr ⟨notOver, Nat.le_trans enough more⟩

theorem Attended.setPhase (h : m.Attended c) (here : m.calls[n]? = some a)
    (awake : phase ≠ .asleep c)
    (keeps : a.owesAll c = true → { a with phase := phase : Activity }.owesAll c = true)
    (more : a.backs c ≤ { a with phase := phase : Activity }.backs c) :
    (m.setPhase n a phase).Attended c := by
  have sum : (m.setPhase n a phase).backing c + a.backs c = m.backing c + _ :=
    backing_of_set here rfl c
  exact h.mono rfl (HasSleeper.of_set rfl awake) (OwesAll.set here rfl keeps) (by omega)

theorem not_hasSleeper_wakeAll (m : Monitor) (c : Condition) : ¬ (m.wakeAll c).HasSleeper c := by
  rintro ⟨b, there, asleep⟩
  obtain ⟨a, -, rfl⟩ := List.mem_map.mp there
  split at asleep
  · cases asleep
  · next awake => exact awake (Activity.sleepsOn_iff.mpr asleep)

theorem Attended.wakeAll {c' : Condition} (h : m.Attended c) : (m.wakeAll c').Attended c := by
  refine h.mono rfl ?_ ?_ ?_
  · rintro ⟨b, there, asleep⟩
    obtain ⟨a, old, rfl⟩ := List.mem_map.mp there
    split at asleep
    · cases asleep
    · exact ⟨a, old, asleep⟩
  · rintro ⟨b, there, owes⟩
    refine ⟨b, List.mem_map.mpr ⟨b, there, if_neg ?_⟩, owes⟩
    intro sleeps
    rw [Activity.sleepsOn_iff] at sleeps
    simp [Activity.owesAll, sleeps] at owes
  · unfold backing Monitor.wakeAll
    induction m.calls with
    | nil => exact Nat.le_refl _
    | cons a calls ih =>
      simp only [List.map_cons, List.sum_cons]
      refine Nat.add_le_add ?_ ih
      split
      · next sleeps => simp [Activity.backs, Activity.sleepsOn_iff.mp sleeps]
      · exact Nat.le_refl _

/-! ### One step -/

theorem WellPlaced.setPhase (w : m.WellPlaced)
    (placed : ∀ c, phase = .asleep c → a.call.awaits? = some c) :
    (m.setPhase n a phase).WellPlaced := by
  intro d there c asleep
  rcases List.mem_or_eq_of_mem_set there with old | rfl
  · exact w d old c asleep
  · exact placed c asleep

theorem Stepped.wellPlaced {action : Action} (h : m.Stepped action m') (w : m.WellPlaced) :
    m'.WellPlaced := by
  cases h with
  | began idle =>
    intro b there c asleep
    rcases List.mem_append.mp there with old | new
    · exact w b old c asleep
    · rw [List.mem_singleton.mp new] at asleep
      cases asleep
  | @entered n a expired outcome q here ready turned =>
    refine WellPlaced.setPhase (by simpa [WellPlaced] using w) ?_
    intro c asleep
    obtain ⟨thread, call, phase⟩ := a
    cases call <;> cases turned <;> cases expired <;> simp_all [Call.awaits?]
  | unheard => exact w.setPhase (by simp)
  | heard => exact (w.setPhase (by simp)).setPhase (by simp)
  | heardByAll here owes =>
    intro b there c asleep
    obtain ⟨a, old, rfl⟩ := List.mem_map.mp there
    split at asleep
    · cases asleep
    · next awake =>
      rw [if_neg awake]
      exact w.setPhase (by simp) a old c asleep
  | expired => exact w.setPhase (by simp)
  | stirred => exact w.setPhase (by simp)

/-- **A turn keeps sleepers seen to.** -/
theorem Attended.entered {expired : Bool} {outcome : Outcome} (h : m.Attended c)
    (here : m.calls[n]? = some a) (ready : a.phase = .ready expired)
    (turned : m.queue.Turned a.call.turn outcome m'.queue)
    (calls : m'.calls = m.calls.set n { a with phase := a.call.after expired outcome }) :
    m'.Attended c := by
  have sum := backing_of_set here calls c
  have keeps : m.OwesAll c → m'.OwesAll c :=
    OwesAll.set here calls (by simp [Activity.owesAll, ready])
  intro sleeper
  cases turned.attends ready c with
  | ended isOver awake told =>
    rcases told with past | owes
    · -- waiting was over already, so whoever still sleeps is owed a signal
      rcases h (sleeper.of_set calls awake) with owed | ⟨notOver, -⟩
      · exact Or.inl (keeps owed)
      · rw [past] at notOver
        cases notOver
    · have inside := (List.getElem?_eq_some_iff.mp here).1
      exact Or.inl ⟨_, calls ▸ List.mem_set inside _, owes⟩
  | nothing goesOn nothing => exact Or.inr ⟨goesOn, nothing ▸ Nat.zero_le _⟩
  | balanced goesOn awake balance =>
    rcases h (sleeper.of_set calls awake) with owed | ⟨-, enough⟩
    · exact Or.inl (keeps owed)
    · refine Or.inr ⟨goesOn, ?_⟩
      omega

/-- A call that begins takes no backing away. -/
theorem Attended.began (h : m.Attended c) (thread : Nat) (call : Call) :
    Attended { m with calls := m.calls ++ [⟨thread, call, .ready false⟩] } c := by
  refine h.mono rfl ?_ ?_ ?_
  · rintro ⟨b, there, asleep⟩
    rcases List.mem_append.mp there with old | new
    · exact ⟨b, old, asleep⟩
    · rw [List.mem_singleton.mp new] at asleep
      cases asleep
  · rintro ⟨b, there, owes⟩
    exact ⟨b, List.mem_append_left _ there, owes⟩
  · simp [backing]

/-- **A signal to one passes its backing on** to the call that it wakes. -/
theorem Attended.heard {rest : List Signal} {result : Result} {s : Nat} (h : m.Attended c)
    (w : m.WellPlaced) (here : m.calls[n]? = some a)
    (owes : a.phase = .leaving (.one c :: rest) result)
    (there : (m.setPhase n a (.leaving rest result)).calls[s]? = some b)
    (asleep : b.phase = .asleep c) :
    ((m.setPhase n a (.leaving rest result)).setPhase s b (.ready false)).Attended c := by
  have wants : b.call.awaits? = some c :=
    w.setPhase (by simp) b (List.mem_of_getElem? there) c asleep
  have spent : (m.setPhase n a (.leaving rest result)).backing c + a.backs c =
      m.backing c + rest.count (.one c) := by
    rw [backing_of_set here rfl c]
    simp [Activity.backs]
  have gained : ((m.setPhase n a (.leaving rest result)).setPhase s b (.ready false)).backing c +
      b.backs c = (m.setPhase n a (.leaving rest result)).backing c + 1 := by
    rw [backing_of_set there rfl c]
    simp [Activity.backs, wants]
  have owed : a.backs c = rest.count (.one c) + 1 := by simp [Activity.backs, owes]
  have slept : b.backs c = 0 := by simp [Activity.backs, asleep]
  refine h.mono rfl ?_ ?_ (by omega)
  · intro sleeper
    exact HasSleeper.of_set rfl (by simp) (HasSleeper.of_set rfl (by simp) sleeper)
  · intro owed
    refine OwesAll.set there rfl (by simp [Activity.owesAll, asleep]) ?_
    exact OwesAll.set here rfl (by simp [Activity.owesAll, owes]) owed

/-- A signal to one is nothing to those who sleep on another condition. -/
theorem Attended.spent {c' : Condition} {rest : List Signal} {result : Result}
    (h : m.Attended c) (here : m.calls[n]? = some a)
    (owes : a.phase = .leaving (.one c' :: rest) result) (other : c' ≠ c) :
    (m.setPhase n a (.leaving rest result)).Attended c :=
  h.setPhase here (by simp) (by simp [Activity.owesAll, owes])
    (by simp [Activity.backs, owes, other])

/-- A sleeper that wakes is one more who sees to its condition. -/
theorem Attended.woken {c' : Condition} {expired : Bool} (h : m.Attended c)
    (here : m.calls[n]? = some a) (asleep : a.phase = .asleep c') :
    (m.setPhase n a (.ready expired)).Attended c :=
  h.setPhase here (by simp) (by simp [Activity.owesAll, asleep]) (by simp [Activity.backs, asleep])

theorem Stepped.attended {action : Action} (h : m.Stepped action m') (w : m.WellPlaced)
    (attended : m.Attended c) : m'.Attended c := by
  cases h with
  | began => exact attended.began _ _
  | entered here ready turned =>
    exact attended.entered here ready (by simpa [setPhase] using turned) (by simp [setPhase])
  | @unheard n a c' rest result here owes nobody =>
    by_cases same : c' = c
    · subst same
      rintro ⟨b, there, asleep⟩
      exact absurd asleep (nobody b there)
    · exact attended.spent here owes same
  | @heard n s a b c' rest result here owes there asleep =>
    by_cases same : c' = c
    · subst same
      exact attended.heard w here owes there asleep
    · exact (attended.spent here owes same).woken there asleep
  | @heardByAll n a c' rest result here owes =>
    by_cases same : c' = c
    · subst same
      intro sleeper
      exact absurd sleeper (not_hasSleeper_wakeAll _ c')
    · refine Attended.wakeAll (attended.setPhase here (by simp) ?_ ?_)
      · simp [Activity.owesAll, owes, Ne.symm same]
      · simp [Activity.backs, owes]
  | expired here _ asleep => exact attended.woken here asleep
  | stirred here asleep => exact attended.woken here asleep

/-! ### All runs -/

theorem attended_of_reachable {q : Queue} (h : Reachable q m) :
    m.WellPlaced ∧ ∀ c, m.Attended c := by
  refine h.invariant stepped (P := fun m => m.WellPlaced ∧ ∀ c, m.Attended c) ?_ ?_
  · intro m m' action inv step
    exact ⟨step.wellPlaced inv.1, fun c => step.attended inv.1 (inv.2 c)⟩
  · refine ⟨?_, ?_⟩
    · rintro a ⟨⟩
    · rintro c ⟨a, ⟨⟩, -⟩

/-- A call that neither sleeps nor has returned has a step to take. -/
theorem exists_step (here : m.calls[n]? = some a) (going : a.hasReturned = false)
    (awake : ∀ c, a.phase ≠ .asleep c) :
    m.step? (.enter n) ≠ none ∨ ∃ sleeper, m.step? (.signal n sleeper) ≠ none := by
  cases phase : a.phase with
  | ready expired => exact Or.inl (by simp [step?, here, phase])
  | asleep c => exact absurd phase (awake c)
  | leaving signals result =>
    cases signals with
    | nil => simp [Activity.hasReturned, phase] at going
    | cons signal rest =>
      cases signal with
      | all c => exact Or.inr ⟨none, by simp [step?, here, phase]⟩
      | one c =>
        by_cases sleeper : (m.setPhase n a (.leaving rest result)).calls.any (·.sleepsOn c) = true
        · obtain ⟨b, there, sleeps⟩ := List.any_eq_true.mp sleeper
          obtain ⟨s, found⟩ := List.getElem?_of_mem there
          exact Or.inr ⟨some s, by simp [step?, here, phase, wakeOne?, found, sleeps]⟩
        · exact Or.inr ⟨none, by simpa [step?, here, phase, wakeOne?] using sleeper⟩

/-- **Nobody can go on by itself** exactly when no call can take its turn or send a signal: the
only steps left are that a call begins, a deadline passes, or a sleeper wakes for no reason. -/
theorem quiet_iff :
    m.Quiet ↔ ∀ n, m.step? (.enter n) = none ∧ ∀ sleeper, m.step? (.signal n sleeper) = none := by
  constructor
  · intro quiet n
    have going : ∀ a, m.calls[n]? = some a →
        (∃ result, a.phase = .leaving [] result) ∨ ∃ c, a.phase = .asleep c := by
      intro a here
      simpa [Activity.hasReturned_iff] using quiet a (List.mem_of_getElem? here)
    refine ⟨?_, fun sleeper => ?_⟩ <;>
      refine Option.eq_none_iff_forall_ne_some.mpr fun next step => ?_
    · cases stepped step with
      | entered here ready _ => simpa [ready] using going _ here
    · cases stepped step with
      | unheard here owes _ => simpa [owes] using going _ here
      | heard here owes _ _ => simpa [owes] using going _ here
      | heardByAll here owes => simpa [owes] using going _ here
  · intro stuck a there
    obtain ⟨n, here⟩ := List.getElem?_of_mem there
    obtain ⟨noTurn, noSignal⟩ := stuck n
    by_cases asleep : ∃ c, a.phase = .asleep c
    · exact Or.inr asleep
    · refine Or.inl (Bool.of_not_eq_false fun going => ?_)
      rcases exists_step here going (not_exists.mp asleep) with turn | ⟨sleeper, signal⟩
      · exact turn noTurn
      · exact signal (noSignal sleeper)

/-- When nobody can go on by itself, nothing sees to a condition any more. -/
theorem Quiet.unattended (quiet : m.Quiet) (c : Condition) : ¬ m.OwesAll c ∧ m.backing c = 0 := by
  have idle : ∀ a ∈ m.calls, a.owesAll c = false ∧ a.backs c = 0 := by
    intro a there
    rcases quiet a there with returned | ⟨c', asleep⟩
    · obtain ⟨result, done⟩ := Activity.hasReturned_iff.mp returned
      simp [Activity.owesAll, Activity.backs, done]
    · simp [Activity.owesAll, Activity.backs, asleep]
  refine ⟨?_, ?_⟩
  · rintro ⟨a, there, owes⟩
    rw [(idle a there).1] at owes
    cases owes
  · refine List.sum_eq_zero_iff_forall_eq_nat.mpr fun x backed => ?_
    obtain ⟨a, there, rfl⟩ := List.mem_map.mp backed
    exact (idle a there).2

/-- **No wake-up is lost.** In every run, whenever nobody can go on by itself, a producer sleeps
only while the queue is full and neither ended nor interrupted, and a consumer only while the queue
is empty and not interrupted. -/
theorem no_lost_wakeup {capacity : Nat} {overflow : Overflow}
    (reachable : Reachable (.make capacity overflow) m) (quiet : m.Quiet) {a : Activity}
    (there : a ∈ m.calls) :
    (a.phase = .asleep .room →
      capacity ≤ m.queue.size ∧ m.queue.terminated = false ∧ m.queue.interrupted = false) ∧
    (a.phase = .asleep .message → m.queue.messages = [] ∧ m.queue.interrupted = false) := by
  have capacity_eq : m.queue.capacity = capacity :=
    reachable.invariant stepped (P := (·.queue.capacity = capacity))
      (fun before step => step.capacity_eq.trans before) rfl
  have noneSleeps : ∀ c, a.phase = .asleep c → m.queue.isOver c = false ∧ m.queue.offers c = 0 := by
    intro c asleep
    obtain ⟨nothingOwed, nothingBacked⟩ := quiet.unattended c
    rcases (attended_of_reachable reachable).2 c ⟨a, there, asleep⟩ with owed | ⟨notOver, enough⟩
    · exact absurd owed nothingOwed
    · exact ⟨notOver, Nat.eq_zero_of_le_zero (nothingBacked ▸ enough)⟩
  refine ⟨fun asleep => ?_, fun asleep => ?_⟩
  · obtain ⟨notOver, full⟩ := noneSleeps .room asleep
    rw [isOver, Bool.or_eq_false_iff] at notOver
    rw [offers, capacity_eq] at full
    exact ⟨Nat.le_of_sub_eq_zero full, notOver.2, notOver.1⟩
  · obtain ⟨notOver, empty⟩ := noneSleeps .message asleep
    exact ⟨List.eq_nil_of_length_eq_zero empty, notOver⟩

/-- A producer waits at a queue of one. A consumer, stirred before its signal comes, makes room and
wakes the producer, and a second producer is faster: the first sleeps again, and rightly so. -/
theorem overtaken_sleeps_rightly :
    let msg : Message := ⟨[1], .empty⟩
    let asleep : Activity := ⟨2, .enqueue msg, .asleep .room⟩
    let m : Monitor :=
      { queue := ⟨1, .block, [msg], false, false⟩
        calls := [⟨0, .dequeue true, .leaving [] (.fetched (some msg))⟩,
          ⟨1, .enqueue msg, .leaving [] .stored⟩, asleep, ⟨3, .enqueue msg, .leaving [] .stored⟩]
        accepted := [(1, msg), (3, msg)]
        handed := [(0, msg)] }
    (start (.make 1 .block)).run? [.begin 0 (.dequeue true), .enter 0, .begin 1 (.enqueue msg),
        .enter 1, .begin 2 (.enqueue msg), .enter 2, .stir 0, .enter 0, .signal 1 none,
        .signal 0 (some 2), .begin 3 (.enqueue msg), .enter 3, .enter 2, .signal 3 none] = some m ∧
      1 ≤ m.queue.size ∧ m.queue.terminated = false ∧ m.queue.interrupted = false := by
  intro msg asleep m
  have run : (start (.make 1 .block)).run? [.begin 0 (.dequeue true), .enter 0,
      .begin 1 (.enqueue msg), .enter 1, .begin 2 (.enqueue msg), .enter 2, .stir 0, .enter 0,
      .signal 1 none, .signal 0 (some 2), .begin 3 (.enqueue msg), .enter 3, .enter 2,
      .signal 3 none] = some m := by
    decide +kernel
  have quiet : m.Quiet := by simp [m, asleep, Quiet, Activity.hasReturned]
  exact ⟨run, (no_lost_wakeup ⟨_, run⟩ quiet (a := asleep) (by simp [m])).1 rfl⟩

end Monitor

end Outbox.Queue
