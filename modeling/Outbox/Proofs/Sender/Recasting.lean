import Outbox.Proofs.Sender.Exchange

/-!
# One submission in place of another

What a submission does depends on the message that is queued for it, and on how often it looks at
the closed flag before it calls the queue. Nobody else can tell the looks: they change nothing, and
a submission that has looked once more than another is where the other one was already. So a run can
be told again with another submission of the same message in the place of one, look by look: where
the one looks for the last time, the other takes all its looks in a row, and where the one looks and
will look again, the other does nothing. All that anybody else sees is the same.

An empty text and an empty binary message become pings, whatever their extensions are; so both of
them are pings to everybody.

## Main Definitions

* `Exchange.recast` — the same exchange with another submission in the place of a call
* `Exchange.AlikeBut` — two exchanges that differ in how one call came to what it came to, if at all
* `Exchange.ActsAs` — whatever comes of one submission can come of the other;
  `Exchange.actsAs_of_message_eq`
-/

namespace Outbox.Sender

namespace Monitor

variable {m m' : Monitor} {n : Nat} {a : Activity} {action : Action} {what what' : Submission}

/-! ### Calls -/

/-- **How far another submission has got in the place of one.** While that one looks at the closed
flag it has all its looks before it; from then on it has got as far. -/
def Phase.recast (what : Submission) : Phase → Phase
  | .looking _ => (Call.submit what).start
  | phase => phase

/-- A call with another submission in its place. -/
def Activity.recast (what : Submission) (a : Activity) : Activity :=
  { a with call := .submit what, phase := a.phase.recast what }

/-- The same calls, with another submission in the place of one. -/
def recast (m : Monitor) (n : Nat) (what : Submission) : Monitor :=
  { m with calls := m.calls.modify n (·.recast what) }

theorem recast_eq_set (here : m.calls[n]? = some a) (what : Submission) :
    m.recast n what = { m with calls := m.calls.set n (a.recast what) } := by
  have inside := (List.getElem?_eq_some_iff.mp here).1
  rw [recast, Monitor.mk.injEq]
  refine ⟨rfl, rfl, rfl, List.ext_getElem? fun i => ?_⟩
  by_cases own : n = i
  · subst own
    rw [List.getElem?_modify_eq, List.getElem?_set_self inside, here]
    rfl
  · rw [List.getElem?_modify_ne _ _ own, List.getElem?_set_ne own]

theorem getElem?_recast_self (here : m.calls[n]? = some a) (what : Submission) :
    (m.recast n what).calls[n]? = some (a.recast what) := by
  rw [recast, List.getElem?_modify_eq, here]
  rfl

theorem getElem?_recast_other {i : Nat} (other : i ≠ n) (what : Submission) :
    (m.recast n what).calls[i]? = m.calls[i]? :=
  List.getElem?_modify_ne _ _ (Ne.symm other)

theorem length_recast (m : Monitor) (n : Nat) (what : Submission) :
    (m.recast n what).calls.length = m.calls.length :=
  List.length_modify _ _ _

/-- A submission in the place of another has returned with it, and with the same answer. -/
theorem returns_recast (m : Monitor) (a : Activity) (what : Submission) :
    m.hasReturned (a.recast what) = m.hasReturned a ∧
      m.refusal? (a.recast what) = m.refusal? a := by
  obtain ⟨thread, call, phase⟩ := a
  cases phase <;> exact ⟨rfl, rfl⟩

theorem isBusy_recast (here : m.calls[n]? = some a) (what : Submission) (thread : Nat) :
    (m.recast n what).isBusy thread = m.isBusy thread := by
  obtain ⟨before, after, split, number⟩ := Queue.Monitor.exists_split here
  have same : (m.recast n what).calls = before ++ a.recast what :: after := by
    rw [recast_eq_set here]
    simp [split, ← number]
  have returned := (m.returns_recast a what).1
  show (m.recast n what).calls.any (fun a => a.thread == thread && !m.hasReturned a) = _
  rw [same, isBusy, split, List.any_append, List.any_append, List.any_cons, List.any_cons, returned]
  rfl

/-! ### Steps of others -/

theorem setPhase_recast_other {i : Nat} {b : Activity} {phase : Phase}
    (here : m.calls[n]? = some a) (other : i ≠ n) (what : Submission) :
    (m.recast n what).setPhase i b phase = (m.setPhase i b phase).recast n what := by
  have stays : (m.setPhase i b phase).calls[n]? = some a := by
    rw [setPhase, List.getElem?_set_ne other, here]
  rw [recast_eq_set here, recast_eq_set stays]
  simp only [setPhase, List.set_comm _ _ other.symm]

/-- A step of another call at the sender. -/
theorem act?_recast_other {i : Nat} {b : Activity} (here : m.calls[n]? = some a) (other : i ≠ n)
    (what : Submission) :
    (m.recast n what).act? i b = (m.act? i b).map (·.recast n what) := by
  have set : ∀ phase, (m.recast n what).setPhase i b phase =
      (m.setPhase i b phase).recast n what := fun _ => setPhase_recast_other here other what
  cases phase : b.phase with
  | looking more =>
    simp only [act?, phase, set]
    rfl
  | closing =>
    simp only [act?, phase, set, apply_ite (Option.map _)]
    rfl
  | claiming =>
    simp only [act?, phase, set, apply_ite (Option.map _)]
    rfl
  | calling =>
    simp only [act?, phase, reachQueue?, set, Option.bind_eq_bind, Option.map_bind]
    refine Option.bind_congr fun call _ => ?_
    rw [Function.comp_apply, Option.map_bind]
    rfl
  | queued | returned => simp only [act?, phase, Option.map_none]

/-- **A step of another call is the same step beside another submission.** -/
theorem step?_recast (here : m.calls[n]? = some a) (other : action ≠ .act n) (what : Submission) :
    (m.recast n what).step? action = (m.step? action).map (·.recast n what) := by
  cases action with
  | begin thread call =>
    have stays : ∀ last : Activity, (m.calls ++ [last])[n]? = some a := fun last => by
      rw [List.getElem?_append_left (List.getElem?_eq_some_iff.mp here).1, here]
    have inside := (List.getElem?_eq_some_iff.mp here).1
    simp only [step?, isBusy_recast here, apply_ite (Option.map _), Option.map_none,
      Option.map_some]
    rw [recast_eq_set here, recast_eq_set (stays _)]
    simp only [List.set_append_left _ _ inside]
  | act i =>
    have away : i ≠ n := fun same => other (congrArg Action.act same)
    rw [step?, step?, getElem?_recast_other away, Option.map_bind]
    exact Option.bind_congr fun b _ => act?_recast_other here away what
  | queue inner =>
    cases inner with
    | begin => rfl
    | _ => simp only [step?, Option.map_map]; rfl

/-! ### Steps of its own -/

theorem setPhase_recast_self {phase : Phase} (here : m.calls[n]? = some a)
    (same : phase.recast what = phase) :
    (m.recast n what).setPhase n (a.recast what) phase = (m.setPhase n a phase).recast n what := by
  rw [recast_eq_set here, recast_eq_set (getElem?_setPhase_self here)]
  simp only [setPhase, List.set_set, Activity.recast, same]

/-- A submission that finds the sender open takes all its looks in a row. -/
theorem run?_looks {more : Nat} (here : m.calls[n]? = some a) (submits : a.call = .submit what)
    (looking : a.phase = .looking more) (isOpen : m.closed = false) :
    m.run? (List.replicate (more + 1) (.act n)) = some (m.setPhase n a .calling) := by
  induction more generalizing m a with
  | zero =>
    refine Steps.run?_singleton_iff.mpr ?_
    rw [step?, here, Option.bind_some, act?, looking, submits]
    simp [isOpen, Call.onOpen]
  | succ more ih =>
    have look : m.step? (.act n) = some (m.setPhase n a (.looking more)) := by
      rw [step?, here, Option.bind_some, act?, looking]
      simp [isOpen]
    have again := ih (m := m.setPhase n a (.looking more)) (getElem?_setPhase_self here) submits rfl
      isOpen
    refine Steps.run?_cons_iff.mpr ⟨_, look, again.trans ?_⟩
    simp only [setPhase, List.set_set]

/-- A submission that is past the flag takes the same step as another of the same message. -/
theorem act?_recast_self (here : m.calls[n]? = some a) (submits : a.call = .submit what)
    (same : what.message = what'.message) (noLook : ∀ more, a.phase ≠ .looking more) :
    (m.recast n what').act? n (a.recast what') = (m.act? n a).map (·.recast n what') := by
  have set : ∀ phase : Phase, phase.recast what' = phase →
      (m.recast n what').setPhase n (a.recast what') phase =
        (m.setPhase n a phase).recast n what' :=
    fun _ => setPhase_recast_self here
  have recast_phase : ∀ {phase}, a.phase = phase → (a.recast what').phase = phase.recast what' :=
    congrArg (Phase.recast what')
  cases phase : a.phase with
  | looking more => exact absurd phase (noLook more)
  | closing =>
    simp only [act?, phase, recast_phase phase, Phase.recast, set .calling rfl,
      set (.returned none) rfl, apply_ite (Option.map _)]
    rfl
  | claiming =>
    simp only [act?, phase, recast_phase phase, Phase.recast, set (.returned none) rfl,
      set (.returned (some .streamTaken)) rfl, apply_ite (Option.map _)]
    rfl
  | calling =>
    have asks : (a.recast what').call.onQueue? = a.call.onQueue? := by
      rw [submits]
      exact congrArg (fun message => some (Queue.Monitor.Call.enqueue message)) same.symm
    simp only [act?, phase, recast_phase phase, Phase.recast, reachQueue?, asks,
      set (.queued _) rfl, Option.bind_eq_bind, Option.map_bind]
    refine Option.bind_congr fun call _ => ?_
    rw [Function.comp_apply, Option.map_bind]
    rfl
  | queued | returned =>
    simp only [act?, phase, recast_phase phase, Phase.recast, Option.map_none]

/-- **A submission of the same message takes the same step**, in a few steps of its own or none. -/
theorem exists_acts_recast (here : m.calls[n]? = some a) (submits : a.call = .submit what)
    (same : what.message = what'.message) (step : m.step? (.act n) = some m') :
    ∃ count, (m.recast n what').run? (List.replicate count (.act n)) =
      some (m'.recast n what') := by
  have here' := getElem?_recast_self here what'
  have once : (m.recast n what').act? n (a.recast what') = some (m'.recast n what') →
      ∃ count, (m.recast n what').run? (List.replicate count (.act n)) =
        some (m'.recast n what') := by
    intro acts
    refine ⟨1, Steps.run?_singleton_iff.mpr ?_⟩
    rw [step?, here', Option.bind_some, acts]
  have acted := act?_of_step here step
  by_cases looks : ∃ more, a.phase = .looking more
  · obtain ⟨more, looking⟩ := looks
    have looking' : (a.recast what').phase = (Call.submit what').start :=
      congrArg (Phase.recast what') looking
    rw [act?, looking, submits] at acted
    cases closed : m.closed with
    | true =>
      -- both are turned away by the one look
      have closed' : (m.recast n what').closed = true := closed
      rw [closed, if_pos rfl] at acted
      cases acted
      refine once ?_
      simp only [act?, looking', Call.start, closed', if_true]
      exact congrArg some (setPhase_recast_self here rfl)
    | false =>
      rw [closed, if_neg Bool.false_ne_true] at acted
      cases more with
      | zero =>
        cases acted
        exact ⟨_, (run?_looks here' rfl looking' closed).trans
          (congrArg some (setPhase_recast_self here rfl))⟩
      | succ more =>
        -- the other one has all its looks before it still
        have next : m' = m.setPhase n a (.looking more) := (Option.some.inj acted).symm
        refine ⟨0, congrArg some ?_⟩
        rw [next, recast_eq_set here, recast_eq_set (getElem?_setPhase_self here)]
        simp only [setPhase, List.set_set, Activity.recast, looking, Phase.recast]
  · refine once ?_
    rw [act?_recast_self here submits same (not_exists.mp looks), acted]
    rfl

end Monitor

namespace Exchange

open Monitor (Activity)

variable {e e' : Exchange} {n : Nat} {a : Activity} {action : Action} {actions : List Action}
  {what what' : Submission}

/-- **The same exchange, with another submission in the place of a call.** -/
def recast (e : Exchange) (n : Nat) (what : Submission) : Exchange :=
  e.withMonitor (e.monitor.recast n what)

theorem isBusy_recast (here : e.monitor.calls[n]? = some a) (what : Submission) (thread : Nat) :
    (e.recast n what).isBusy thread = e.isBusy thread := by
  show ((e.monitor.recast n what).isBusy thread || _ || _) = _
  rw [Monitor.isBusy_recast here]
  rfl

theorem wait?_recast (here : e.monitor.calls[n]? = some a) (what : Submission) (thread : Nat)
    (timed : Bool) :
    (e.recast n what).wait? thread timed = (e.wait? thread timed).map (·.recast n what) := by
  have other : Monitor.Action.begin thread (.take timed) ≠ .act n := nofun
  have begins := Monitor.step?_recast here other what
  have number := Monitor.length_recast e.monitor n what
  show ((e.monitor.recast n what).step? _).bind (fun m => some { e.recast n what with
    monitor := m, pull := some ⟨thread, (e.monitor.recast n what).calls.length⟩ }) = _
  rw [begins, number, Option.bind_map, wait?, Option.bind_eq_bind, Option.map_bind]
  rfl

theorem waited?_recast (here : e.monitor.calls[n]? = some a) (what : Submission) (p : Pull) :
    (e.recast n what).waited? p = e.waited? p := by
  show ((e.monitor.recast n what).calls[p.wait]?).bind _ = (e.monitor.calls[p.wait]?).bind _
  by_cases same : p.wait = n
  · rw [same, Monitor.getElem?_recast_self here, here]
    obtain ⟨thread, call, phase⟩ := a
    cases phase <;> rfl
  · rw [Monitor.getElem?_recast_other same]
    rfl

theorem goOn?_recast (here : e.monitor.calls[n]? = some a) (what : Submission) (p : Pull)
    (timed : Bool) (result : Queue.Monitor.Result) :
    (e.recast n what).goOn? p timed result = (e.goOn? p timed result).map (·.recast n what) := by
  cases result with
  | fetched message =>
    cases message with
    | none => exact wait?_recast here what p.thread timed
    | some message => rfl
  | stored | interrupted | refused => rfl

/-- **A step of others is the same step beside another submission.** -/
theorem step?_recast (here : e.monitor.calls[n]? = some a) (other : action ≠ .sender (.act n))
    (what : Submission) :
    (e.recast n what).step? action = (e.step? action).map (·.recast n what) := by
  have sender : ∀ inner : Monitor.Action, inner ≠ .act n →
      ((e.recast n what).monitor.step? inner).map (e.recast n what).withMonitor =
        ((e.monitor.step? inner).map e.withMonitor).map (·.recast n what) := by
    intro inner other
    have same := Monitor.step?_recast here other what
    show ((e.monitor.recast n what).step? inner).map _ = _
    rw [same, Option.map_map, Option.map_map]
    rfl
  cases action with
  | sender inner =>
    have otherInner : inner ≠ .act n := fun same => other (congrArg Action.sender same)
    cases inner with
    | begin thread call =>
      simp only [step?, isBusy_recast here, apply_ite (Option.map _), Option.map_none]
      rw [sender (.begin thread call) otherInner]
    | act i => exact sender (.act i) otherInner
    | queue inner => exact sender (.queue inner) otherInner
  | direct thread call =>
    simp only [step?, isBusy_recast here, apply_ite (Option.map _), Option.map_none, Option.map_map]
    rfl
  | pull thread timed asking =>
    simp only [step?, isBusy_recast here, wait?_recast here, apply_ite (Option.map _),
      Option.map_none]
    rfl
  | resume timed =>
    simp only [step?, Option.bind_eq_bind, Option.map_bind]
    refine Option.bind_congr fun p _ => ?_
    rw [waited?_recast here, Function.comp_apply, Option.map_bind]
    exact Option.bind_congr fun result _ => goOn?_recast here what p timed result

/-! ### Runs -/

/-- Steps of a call at the sender, one after the other. -/
theorem run?_acts (e : Exchange) (n count : Nat) :
    e.run? (List.replicate count (.sender (.act n))) =
      (e.monitor.run? (List.replicate count (.act n))).map e.withMonitor := by
  induction count generalizing e with
  | zero => rfl
  | succ count ih =>
    have step : e.step? (.sender (.act n)) = (e.monitor.step? (.act n)).map e.withMonitor := rfl
    rw [List.replicate_succ, List.replicate_succ, run?, Monitor.run?, Steps.run?_cons,
      Steps.run?_cons, step, Option.bind_map, Option.map_bind]
    exact Option.bind_congr fun m _ => ih (e.withMonitor m)

/-- The steps of a run without those that a call takes at the sender. -/
def besides (n : Nat) (actions : List Action) : List Action :=
  actions.filter (· ≠ .sender (.act n))

theorem besides_append (n : Nat) (first second : List Action) :
    besides n (first ++ second) = besides n first ++ besides n second :=
  List.filter_append _ _

theorem besides_acts (n count : Nat) :
    besides n (List.replicate count (.sender (.act n))) = [] := by
  rw [besides, List.filter_replicate_of_neg (by simp)]

/-- **A step told again**, with another submission of the same message in the place of one. -/
theorem exists_recast_of_step (here : e.monitor.calls[n]? = some a)
    (submits : a.call = .submit what) (same : what.message = what'.message)
    (step : e.step? action = some e') :
    ∃ actions, besides n actions = besides n [action] ∧
      (e.recast n what').run? actions = some (e'.recast n what') := by
  by_cases own : action = .sender (.act n)
  · subst own
    obtain ⟨m, acted, rfl⟩ := Option.map_eq_some_iff.mp step
    obtain ⟨count, run⟩ := Monitor.exists_acts_recast here submits same acted
    refine ⟨List.replicate count (.sender (.act n)), ?_, ?_⟩
    · exact (besides_acts n count).trans (besides_acts n 1).symm
    · rw [run?_acts]
      exact congrArg (Option.map e.withMonitor) run
  · refine ⟨[action], rfl, Steps.run?_singleton_iff.mpr ?_⟩
    rw [step?_recast here own, step]
    rfl

/-- **A run told again.** Everybody else does the same in it, in the same order. -/
theorem exists_recast_of_run (here : e.monitor.calls[n]? = some a)
    (submits : a.call = .submit what) (same : what.message = what'.message)
    (run : e.run? actions = some e') :
    ∃ actions', besides n actions' = besides n actions ∧
      (e.recast n what').run? actions' = some (e'.recast n what') := by
  induction actions generalizing e a with
  | nil =>
    cases run
    exact ⟨[], rfl, rfl⟩
  | cons action actions ih =>
    obtain ⟨next, step, rest⟩ := Steps.run?_cons_iff.mp run
    obtain ⟨first, sameFirst, told⟩ := exists_recast_of_step here submits same step
    obtain ⟨b, begun, -, sameCall⟩ := (stepped step).call_stays here
    obtain ⟨later, sameLater, told'⟩ := ih begun (sameCall.trans submits) rest
    refine ⟨first ++ later, ?_, Steps.run?_append_iff.mpr ⟨_, told, told'⟩⟩
    rw [besides_append, sameFirst, sameLater, ← besides_append, List.singleton_append]

/-! ### One submission for another -/

/-- **Alike but for one call**: all that others can see is the same, and so is what the call has
come to. -/
structure AlikeBut (n : Nat) (e e' : Exchange) : Prop where
  /-- The flags, the queue with the calls there, and the stream are the same. -/
  rest : e' = e.withMonitor { e.monitor with calls := e'.monitor.calls }
  others : ∀ i, i ≠ n → e'.monitor.calls[i]? = e.monitor.calls[i]?
  /-- The call has returned in both or in neither, with the same answer. -/
  own : e'.monitor.calls[n]?.map (fun a => (e'.monitor.hasReturned a, e'.monitor.refusal? a)) =
    e.monitor.calls[n]?.map (fun a => (e.monitor.hasReturned a, e.monitor.refusal? a))

theorem alikeBut_recast (e : Exchange) (n : Nat) (what : Submission) :
    e.AlikeBut n (e.recast n what) where
  rest := rfl
  others _ other := Monitor.getElem?_recast_other other what
  own := by
    have answer : ∀ a, ((e.recast n what).monitor.hasReturned (a.recast what),
        (e.recast n what).monitor.refusal? (a.recast what)) =
          (e.monitor.hasReturned a, e.monitor.refusal? a) := by
      intro a
      obtain ⟨returned, refusal⟩ := e.monitor.returns_recast a what
      exact Prod.ext returned refusal
    show ((e.monitor.calls.modify n (·.recast what))[n]?).map _ = _
    rw [List.getElem?_modify_eq, Option.map_eq_map, Option.map_map]
    exact congrArg (e.monitor.calls[n]?.map ·) (funext answer)

/-- **One submission acts as another**: whatever comes of it, in any exchange and between whatever
steps of others, can come of the other one between the same steps. -/
def ActsAs (what what' : Submission) : Prop :=
  ∀ (e : Exchange) (thread : Nat) (actions : List Action) (e' : Exchange),
    e.run? (.sender (.begin thread (.submit what)) :: actions) = some e' →
    ∃ actions' e'', besides e.monitor.calls.length actions' =
        besides e.monitor.calls.length actions ∧
      e.run? (.sender (.begin thread (.submit what')) :: actions') = some e'' ∧
      e'.AlikeBut e.monitor.calls.length e''

/-- **Submissions of the same message act as each other.** -/
theorem actsAs_of_message_eq (same : what.message = what'.message) : ActsAs what what' := by
  intro e thread actions e' run
  obtain ⟨next, step, rest⟩ := Steps.run?_cons_iff.mp run
  cases stepped step with
  | @acted _ m idle begins =>
    cases Monitor.stepped begins with
    | began free =>
      have begun := @List.getElem?_concat_length _ e.monitor.calls
        (⟨thread, .submit what, (Monitor.Call.submit what).start⟩ : Activity)
      obtain ⟨later, sameLater, told⟩ := exists_recast_of_run begun rfl same rest
      have first : e.step? (.sender (.begin thread (.submit what'))) =
          some ((e.withMonitor { e.monitor with calls := e.monitor.calls ++
            [⟨thread, .submit what, (Monitor.Call.submit what).start⟩] }).recast
              e.monitor.calls.length what') := by
        rw [recast, Monitor.recast_eq_set begun]
        simp [step?, Monitor.step?, idle, free, withMonitor, Activity.recast, Monitor.Phase.recast,
          Monitor.Call.start]
      exact ⟨later, _, sameLater, Steps.run?_cons_iff.mpr ⟨_, first, told⟩,
        alikeBut_recast e' _ what'⟩

end Exchange

end Outbox.Sender
