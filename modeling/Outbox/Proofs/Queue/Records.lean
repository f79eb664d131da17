import Outbox.Proofs.Queue.Monitor

/-!
# What is on record of a queue's calls

Of a call only three things are ever asked afterwards: the thread it was made on, what it asked for,
and what it returned. They change at two kinds of step. A call that begins is put on record without
a result, and a call that takes its last turn gets its result in the same step. Signals, deadlines
and wake-ups leave the record alone, and with it the queue and the logs.

The turns of a run, in their order, are its sections. The two logs of a monitor are read off them:
which calls put a message in, and which took one out.

## Main Definitions

* `Monitor.Record`, `Monitor.records` — what is on record of a call, and of all calls
* `Monitor.Section`, `Monitor.sections` — a turn under the lock, and those of a run in order
* `Monitor.Logs` — a log that holds each call with a message on record, once
-/

namespace Outbox.Queue.Monitor

/-! ### Records -/

/-- The message that a call puts in if it succeeds. -/
def Call.message? : Call → Option Message
  | .enqueue m => some m
  | .enqueueLast m => some m
  | .dequeue _ => none
  | .interrupt => none

/-- **What is on record of a call.** -/
structure Record where
  thread : Nat
  call : Call
  result : Option Result
deriving DecidableEq, Repr

namespace Record

/-- The message that the call put in, once it is known to have done so. -/
def stored? (r : Record) : Option Message :=
  if r.result = some .stored then r.call.message? else none

/-- The message that the call took out. -/
def fetched? (r : Record) : Option Message :=
  match r.result with
  | some (.fetched msg) => msg
  | _ => none

end Record

/-- What is on record of a call that has got this far. -/
def Activity.record (a : Activity) : Record := ⟨a.thread, a.call, a.result?⟩

/-- What is on record of all calls, in the order in which they began. -/
def records (m : Monitor) : List Record := m.calls.map Activity.record

theorem record_of_call {m : Monitor} {k : Nat} {a : Activity} (here : m.calls[k]? = some a) :
    m.records[k]? = some a.record := by
  rw [records, List.getElem?_map, here, Option.map_some]

theorem call_of_record {m : Monitor} {k : Nat} {r : Record} (there : m.records[k]? = some r) :
    ∃ a, m.calls[k]? = some a ∧ a.record = r := by
  rwa [records, List.getElem?_map, Option.map_eq_some_iff] at there

/-! ### Sections -/

/-- **A turn under the lock**: the call that takes it, and what it comes to. -/
structure Section where
  number : Nat
  call : Call
  outcome : Outcome
deriving DecidableEq, Repr

namespace Section

/-- The entry of a turn that puts a message in. -/
def stored? (s : Section) : Option (Nat × Message) :=
  if s.outcome = .stored then s.call.message?.map (s.number, ·) else none

/-- The entry of a turn that takes a message out. -/
def taken? (s : Section) : Option (Nat × Message) :=
  match s.outcome with
  | .taken msg => some (s.number, msg)
  | _ => none

end Section

/-- The turn that a step takes, if it takes one. -/
def section? (m : Monitor) : Action → Option Section
  | .enter n => m.calls[n]?.map fun a => ⟨n, a.call, (m.queue.turn a.call.turn).1⟩
  | _ => none

/-- **The turns of a run**, in their order. -/
def sections (m : Monitor) : List Action → List Section
  | [] => []
  | action :: actions =>
    (m.section? action).toList ++ ((m.step? action).map (·.sections actions)).getD []

/-! ### What a step does to the records -/

/-- What a call that takes its turn will have on record. -/
def Call.recordAfter (call : Call) (thread : Nat) (expired : Bool) (outcome : Outcome) : Record :=
  Activity.record ⟨thread, call, call.after expired outcome⟩

/-- **What a step does to the records**: a call begins, a call takes its turn, or nothing. -/
inductive Recorded (m : Monitor) : Action → Monitor → Prop where
  | began {m' : Monitor} {thread : Nat} {call : Call} (idle : m.isBusy thread = false)
    (queue : m'.queue = m.queue) (accepted : m'.accepted = m.accepted)
    (handed : m'.handed = m.handed) (records : m'.records = m.records ++ [⟨thread, call, none⟩]) :
    Recorded m (.begin thread call) m'
  | entered {m' : Monitor} {n thread : Nat} {call : Call} {expired : Bool} {outcome : Outcome}
    {before after : List Record} (was : m.records = before ++ ⟨thread, call, none⟩ :: after)
    (number : before.length = n) (turned : m.queue.Turned call.turn outcome m'.queue)
    (locked : m.section? (.enter n) = some ⟨n, call, outcome⟩)
    (accepted : m'.accepted = m.accepted ++ (Section.mk n call outcome).stored?.toList)
    (handed : m'.handed = m.handed ++ (Section.mk n call outcome).taken?.toList)
    (records : m'.records = before ++ call.recordAfter thread expired outcome :: after) :
    Recorded m (.enter n) m'
  | kept {m' : Monitor} {action : Action} (begun : ∀ thread call, action ≠ .begin thread call)
    (unlocked : m.section? action = none)
    (queue : m'.queue = m.queue) (accepted : m'.accepted = m.accepted)
    (handed : m'.handed = m.handed) (records : m'.records = m.records) :
    Recorded m action m'

theorem records_setPhase (m : Monitor) (n : Nat) (a : Activity) (phase : Phase) :
    (m.setPhase n a phase).records =
      m.records.set n (Activity.record ⟨a.thread, a.call, phase⟩) := by
  simp [records, setPhase, List.map_set]

/-- A call that gets further without a result keeps its record. -/
theorem records_setPhase_of_result {m : Monitor} {n : Nat} {a : Activity} {phase : Phase}
    (here : m.calls[n]? = some a)
    (same : { a with phase := phase : Activity }.result? = a.result?) :
    (m.setPhase n a phase).records = m.records := by
  have onRecord : m.records[n]? = some (Activity.record ⟨a.thread, a.call, phase⟩) := by
    simp [records, here, Activity.record, same]
  obtain ⟨_, sameRecord⟩ := List.getElem?_eq_some_iff.mp onRecord
  rw [records_setPhase, ← sameRecord, List.set_getElem_self]

theorem records_wakeAll (m : Monitor) (c : Condition) : (m.wakeAll c).records = m.records := by
  simp only [records, wakeAll, List.map_map, List.map_inj_left, Function.comp_apply]
  intro a _
  split
  · next asleep =>
    rw [Activity.sleepsOn_iff] at asleep
    simp [Activity.woken, Activity.record, Activity.result?, asleep]
  · rfl

/-- The logs after a turn hold its entries behind all others. -/
theorem logs_record (m : Monitor) (n : Nat) (call : Call) (outcome : Outcome) :
    (m.record n call outcome).accepted =
        m.accepted ++ (Section.mk n call outcome).stored?.toList ∧
      (m.record n call outcome).handed =
        m.handed ++ (Section.mk n call outcome).taken?.toList := by
  cases outcome <;> cases call <;>
    simp [Monitor.record, Section.stored?, Section.taken?, Call.message?]

/-- The entry of a turn is the message that its call has on record from then on. -/
theorem Section.entries_eq {q q' : Queue} {call : Call} {outcome : Outcome}
    (turned : q.Turned call.turn outcome q') (n thread : Nat) (expired : Bool) :
    (Section.mk n call outcome).stored? =
        (call.recordAfter thread expired outcome).stored?.map (n, ·) ∧
      (Section.mk n call outcome).taken? =
        (call.recordAfter thread expired outcome).fetched?.map (n, ·) := by
  cases call <;> cases turned <;> cases expired <;>
    simp [Section.stored?, Section.taken?, Call.recordAfter, Call.after, Call.onWait,
      Activity.record, Activity.result?, Record.stored?, Record.fetched?, Call.message?]

/-- **Every step does one of these to the records.** -/
theorem Stepped.recorded {m m' : Monitor} {action : Action} (h : m.Stepped action m') :
    m.Recorded action m' := by
  cases h with
  | began idle =>
    refine .began idle rfl rfl rfl ?_
    simp [records, Activity.record, Activity.result?]
  | @entered n a expired outcome q here ready turned =>
    obtain ⟨before, after, split, number⟩ := exists_split here
    have locked : m.section? (.enter n) = some ⟨n, a.call, outcome⟩ := by
      simp [section?, here, (turned_iff.mp turned)]
    obtain ⟨accepted, handed⟩ := logs_record { m with queue := q } n a.call outcome
    have was : m.records =
        before.map Activity.record ++ ⟨a.thread, a.call, none⟩ :: after.map Activity.record := by
      simp [records, split, Activity.record, Activity.result?, ready]
    have now : ((({ m with queue := q } : Monitor).record n a.call outcome).setPhase n a
        (a.call.after expired outcome)).records =
          before.map Activity.record ++
            a.call.recordAfter a.thread expired outcome :: after.map Activity.record := by
      rw [records_setPhase]
      simp [records, split, ← number, Call.recordAfter]
    exact .entered was (by simpa using number) (by simpa [setPhase] using turned) locked accepted
      handed now
  | unheard here owes _ =>
    exact .kept (by simp) rfl rfl rfl rfl
      (records_setPhase_of_result here (by simp [Activity.result?, owes]))
  | heard here owes there asleep =>
    refine .kept (by simp) rfl rfl rfl rfl ?_
    rw [records_setPhase_of_result there (by simp [Activity.result?, asleep]),
      records_setPhase_of_result here (by simp [Activity.result?, owes])]
  | heardByAll here owes =>
    refine .kept (by simp) rfl rfl rfl rfl ?_
    rw [records_wakeAll, records_setPhase_of_result here (by simp [Activity.result?, owes])]
  | expired here _ asleep =>
    exact .kept (by simp) rfl rfl rfl rfl
      (records_setPhase_of_result here (by simp [Activity.result?, asleep]))
  | stirred here asleep =>
    exact .kept (by simp) rfl rfl rfl rfl
      (records_setPhase_of_result here (by simp [Activity.result?, asleep]))

end Outbox.Queue.Monitor
