import Outbox.Proofs.Queue.Records

/-!
# First in, first out

Whatever the schedule, what came out of a queue followed by what is still in it is what went in, in
the order of the turns that did it. A single turn shows why: the entry it adds to one log is the
message that it moves at one end of the queue. That no call is counted twice, although it may take
many turns before it succeeds, comes from the records: a call without a result has no entry, and the
turn that gives it one gives it the entry too.

A thread makes one call after another, so a call has its result before the next one of its thread
begins. Hence the entries of a thread stand in the order of its calls.

## Main Definitions

* `Bounded` — at most as many messages as the capacity, and one more after the last
* `Monitor.Logs` — a log of the calls that have a message to show, each of them once
* `Monitor.Conveys` — what a queue promises its threads
* `Monitor.first_in_first_out` — every run keeps the promise
-/

namespace Outbox.Queue

/-! ### One turn -/

/-- **The bound on a queue**: its capacity, and the place reserved for the last message. -/
def Bounded (q : Queue) : Prop := q.size ≤ q.capacity + q.terminated.toNat

theorem Turned.bounded {q q' : Queue} {t : Turn} {outcome : Outcome} (h : q.Turned t outcome q')
    (bounded : q.Bounded) : q'.Bounded := by
  unfold Bounded at *
  cases h with
  | stored isOpen room =>
    rw [hasRoom_iff] at room
    show (q.messages ++ _).length ≤ q.capacity + q.terminated.toNat
    rw [List.length_append, List.length_singleton]
    exact Nat.le_add_right_of_le room
  | storedLast isOpen =>
    have unended := (refusal?_eq_none_iff.mp isOpen).2
    rw [unended] at bounded
    show (q.messages ++ _).length ≤ q.capacity + true.toNat
    rw [List.length_append, List.length_singleton]
    exact Nat.succ_le_succ bounded
  | taken live oldest =>
    rw [size, oldest] at bounded
    exact Nat.le_of_succ_le bounded
  | interrupted => exact bounded
  | refusedOffer => exact bounded
  | refusedLast => exact bounded
  | refusedTake => exact bounded
  | full => exact bounded
  | empty => exact bounded

/-- What a turn takes out was at the front, and what it puts in is at the back. -/
theorem Turned.in_order {q q' : Queue} {call : Monitor.Call} {outcome : Outcome}
    (h : q.Turned call.turn outcome q') (n : Nat) :
    (Monitor.Section.mk n call outcome).taken?.toList.map Prod.snd ++ q'.messages =
      q.messages ++ (Monitor.Section.mk n call outcome).stored?.toList.map Prod.snd := by
  cases call <;> cases h <;>
    simp_all [Monitor.Section.taken?, Monitor.Section.stored?, Monitor.Call.message?, interrupt]

namespace Monitor

/-! ### Logs and records -/

/-- **A log of the calls that have a message to show**, each of them once. -/
structure Logs (shows : Record → Option Message) (records : List Record)
    (log : List (Nat × Message)) : Prop where
  once : (log.map Prod.fst).Nodup
  exact : ∀ n msg, (n, msg) ∈ log ↔ records[n]?.bind shows = some msg

namespace Logs

variable {shows : Record → Option Message} {log : List (Nat × Message)}

theorem nil : Logs shows [] [] where
  once := List.nodup_nil
  exact := by simp

/-- A call that begins has nothing to show. -/
theorem began {records : List Record} {r : Record} (h : Logs shows records log)
    (silent : shows r = none) : Logs shows (records ++ [r]) log where
  once := h.once
  exact n msg := by
    rw [h.exact, List.getElem?_append]
    split
    · rfl
    · next outside =>
      rw [List.getElem?_eq_none (Nat.le_of_not_lt outside)]
      cases n - records.length <;> simp [silent]

/-- A call that had nothing to show gets its entry with its message. -/
theorem settled {before after : List Record} {old new : Record}
    (h : Logs shows (before ++ old :: after) log) (silent : shows old = none) :
    Logs shows (before ++ new :: after)
      (log ++ ((shows new).map (before.length, ·)).toList) where
  once := by
    -- a call without a message has no entry, so its own is the first under its number
    have absent : ∀ n msg, (n, msg) ∈ log → n ≠ before.length := by
      rintro _ msg inLog rfl
      simpa [silent] using (h.exact _ msg).mp inLog
    cases shows new with
    | none => simpa using h.once
    | some msg => simpa [List.nodup_append, h.once] using absent
  exact n msg := by
    have inLog := h.exact n msg
    rw [List.mem_append, inLog]
    by_cases own : n = before.length
    · subst own
      cases entry : shows new <;> simp [silent, entry, eq_comm]
    · rw [getElem?_elsewhere old new own]
      cases shows new <;> simp [own]

/-- Only calls that have begun are in a log. -/
theorem begun {records : List Record} (h : Logs shows records log) {e : Nat × Message}
    (inLog : e ∈ log) : e.1 < records.length := by
  have shown := (h.exact e.1 e.2).mp inLog
  obtain ⟨r, there, -⟩ := Option.bind_eq_some_iff.mp shown
  exact (List.getElem?_eq_some_iff.mp there).1

end Logs

/-! ### Calls of one thread -/

/-- The accepted entries of the calls on a thread. -/
def acceptedOn (m : Monitor) (thread : Nat) : List (Nat × Message) :=
  m.accepted.filter fun e => m.records[e.1]?.any (·.thread = thread)

/-- What a call adds to the entries of a thread. -/
def entryOn (thread : Nat) (r : Record × Nat) : Option (Nat × Message) :=
  if r.1.thread = thread then r.1.stored?.map (r.2, ·) else none

/-- The entries of the calls on a thread that have stored a message, in the order of the calls. -/
def storedOn (m : Monitor) (thread : Nat) : List (Nat × Message) :=
  m.records.zipIdx.filterMap (entryOn thread)

/-- **One call of a thread after another**: each has its result before the next begins. -/
def Serial (m : Monitor) : Prop :=
  m.records.Pairwise fun r s => r.thread = s.thread → r.result.isSome

/-- On a thread that is not busy every call has its result. -/
theorem isSome_result_of_idle {m : Monitor} {thread : Nat} (idle : m.isBusy thread = false)
    {r : Record} (onRecord : r ∈ m.records) (same : r.thread = thread) : r.result.isSome := by
  obtain ⟨a, here, rfl⟩ := List.mem_map.mp onRecord
  have returned : a.hasReturned = true := by
    have := List.any_eq_false.mp idle a here
    simpa [show a.thread = thread from same] using this
  obtain ⟨result, done⟩ := Activity.hasReturned_iff.mp returned
  simp [Activity.record, Activity.result?, done]

/-- Calls of one thread stay one after another: one that gets its result was the last to begin. -/
theorem Recorded.serial {m m' : Monitor} {action : Action} (h : m.Recorded action m')
    (serial : m.Serial) : m'.Serial := by
  unfold Serial at *
  cases h with
  | @began _ thread call idle _ _ _ records =>
    rw [records, List.pairwise_append]
    refine ⟨serial, List.pairwise_singleton .., ?_⟩
    intro r onRecord s new same
    rw [List.mem_singleton] at new
    subst new
    exact isSome_result_of_idle idle onRecord same
  | entered was _ _ _ _ _ records =>
    rw [records]
    rw [was] at serial
    simp only [List.pairwise_append, List.pairwise_cons, List.mem_cons] at serial ⊢
    obtain ⟨early, ⟨alone, late⟩, across⟩ := serial
    refine ⟨early, ⟨?_, late⟩, ?_⟩
    · intro r there same
      exact absurd (alone r there same) (by simp)
    · rintro r there s (rfl | after)
      · have earlier := across r there _ (Or.inl rfl)
        exact earlier
      · exact across r there s (Or.inr after)
  | kept _ _ _ _ _ records => rwa [records]

/-- No call of a thread has begun after one that has no result yet. -/
theorem Serial.last {m : Monitor} {thread : Nat} {call : Call} {before after : List Record}
    (h : m.Serial) (was : m.records = before ++ ⟨thread, call, none⟩ :: after) :
    ∀ r ∈ after, r.thread ≠ thread := by
  intro r there same
  rw [Serial, was, List.pairwise_append, List.pairwise_cons] at h
  obtain ⟨-, ⟨done, -⟩, -⟩ := h
  simpa using done r there same.symm

theorem filterMap_entryOn (thread : Nat) (before : List Record) (r : Record)
    (after : List Record) :
    (before ++ r :: after).zipIdx.filterMap (entryOn thread) =
      before.zipIdx.filterMap (entryOn thread) ++ (entryOn thread (r, before.length)).toList ++
        (after.zipIdx (before.length + 1)).filterMap (entryOn thread) := by
  rw [List.zipIdx_append, List.filterMap_append, List.zipIdx_cons, List.filterMap_cons,
    List.append_assoc, Nat.zero_add]
  cases entryOn thread (r, before.length) <;> rfl

/-- The accepted entries of each thread stand in the order of its calls. -/
def InCallOrder (m : Monitor) : Prop := ∀ thread, m.acceptedOn thread = m.storedOn thread

/-- **The order of the turns keeps the order of the calls**, thread by thread. -/
theorem Recorded.in_call_order {m m' : Monitor} {action : Action} (h : m.Recorded action m')
    (logs : Logs Record.stored? m.records m.accepted) (serial : m.Serial)
    (ordered : m.InCallOrder) : m'.InCallOrder := by
  intro t
  have soFar := ordered t
  unfold acceptedOn storedOn at *
  cases h with
  | @began _ thread call idle _ accepted _ records =>
    have sameThreads : ∀ e ∈ m.accepted,
        (m.records ++ [⟨thread, call, none⟩])[e.1]?.any (·.thread = t) =
          m.records[e.1]?.any (·.thread = t) := by
      intro e inLog
      rw [List.getElem?_append_left (logs.begun inLog)]
    rw [records, accepted, List.filter_congr sameThreads, soFar, filterMap_entryOn]
    simp [entryOn, Record.stored?]
  | @entered _ n thread call expired outcome before after was number turned _ accepted _ records =>
    -- a turn changes no call's thread, so the old entries stay with the threads that they are on
    have sameThreads : ∀ k : Nat,
        (before ++ call.recordAfter thread expired outcome :: after)[k]?.any (·.thread = t) =
          m.records[k]?.any (·.thread = t) := by
      intro k
      rw [was]
      by_cases own : k = before.length
      · subst own
        simp [Call.recordAfter, Activity.record]
      · rw [getElem?_elsewhere _ _ own]
    have entry := (Section.entries_eq turned n thread expired).1
    simp only [accepted, records, sameThreads, List.filter_append, soFar]
    have silent : entryOn t (⟨thread, call, none⟩, before.length) = none := by
      simp [entryOn, Record.stored?]
    rw [entry, ← number, was, filterMap_entryOn, filterMap_entryOn, silent]
    by_cases same : thread = t
    · -- no call of this thread began after this one, so its entry goes last on both sides
      have alone : (after.zipIdx (before.length + 1)).filterMap (entryOn t) = [] := by
        rw [List.filterMap_eq_nil_iff]
        rintro ⟨r, k⟩ there
        have other := serial.last was r (List.fst_mem_of_mem_zipIdx there)
        simp [entryOn, ← same, other]
      have mine : entryOn t (call.recordAfter thread expired outcome, before.length) =
          (call.recordAfter thread expired outcome).stored?.map (before.length, ·) :=
        if_pos same
      rw [alone, mine]
      cases (call.recordAfter thread expired outcome).stored? <;> simp [same]
    · have notMine : entryOn t (call.recordAfter thread expired outcome, before.length) = none :=
        if_neg same
      rw [notMine]
      cases (call.recordAfter thread expired outcome).stored? <;> simp [same]
  | kept _ _ _ accepted _ records => rw [accepted, records, soFar]

/-! ### All runs -/

/-- **What the threads at a queue can rely on**, told by the records; every step keeps it. -/
structure Orderly (capacity : Nat) (m : Monitor) : Prop where
  capacity_eq : m.queue.capacity = capacity
  bounded : m.queue.Bounded
  conserved : m.handed.map Prod.snd ++ m.queue.messages = m.accepted.map Prod.snd
  accepted : Logs Record.stored? m.records m.accepted
  handed : Logs Record.fetched? m.records m.handed
  serial : m.Serial
  inCallOrder : m.InCallOrder

theorem orderly_start (capacity : Nat) (overflow : Overflow) :
    (start (.make capacity overflow)).Orderly capacity where
  capacity_eq := rfl
  bounded := Nat.zero_le _
  conserved := rfl
  accepted := .nil
  handed := .nil
  serial := List.Pairwise.nil
  inCallOrder _ := rfl

/-- **Every step keeps the records in order.** -/
theorem Recorded.orderly {capacity : Nat} {m m' : Monitor} {action : Action}
    (h : m.Recorded action m') (o : m.Orderly capacity) : m'.Orderly capacity := by
  have serial := h.serial o.serial
  have inCallOrder := h.in_call_order o.accepted o.serial o.inCallOrder
  cases h with
  | began _ queue accepted handed records =>
    refine ⟨?_, ?_, ?_, ?_, ?_, serial, inCallOrder⟩
    · rw [queue, o.capacity_eq]
    · rw [queue]
      exact o.bounded
    · rw [queue, accepted, handed, o.conserved]
    · rw [accepted, records]
      exact o.accepted.began rfl
    · rw [handed, records]
      exact o.handed.began rfl
  | @entered _ n thread call expired outcome before after was number turned _ accepted handed
      records =>
    have entry := Section.entries_eq turned n thread expired
    have acceptedBefore := o.accepted
    have handedBefore := o.handed
    rw [was] at acceptedBefore handedBefore
    refine ⟨?_, turned.bounded o.bounded, ?_, ?_, ?_, serial, inCallOrder⟩
    · rw [turned.capacity_eq, o.capacity_eq]
    · rw [accepted, handed, List.map_append, List.map_append, List.append_assoc,
        turned.in_order, ← List.append_assoc, o.conserved]
    · rw [accepted, records, entry.1, ← number]
      exact acceptedBefore.settled rfl
    · rw [handed, records, entry.2, ← number]
      exact handedBefore.settled rfl
  | kept _ _ queue accepted handed records =>
    refine ⟨?_, ?_, ?_, ?_, ?_, serial, inCallOrder⟩
    · rw [queue, o.capacity_eq]
    · rw [queue]
      exact o.bounded
    · rw [queue, accepted, handed, o.conserved]
    · rw [accepted, records]
      exact o.accepted
    · rw [handed, records]
      exact o.handed

theorem orderly_of_reachable {capacity : Nat} {overflow : Overflow} {m : Monitor}
    (h : Reachable (.make capacity overflow) m) : m.Orderly capacity :=
  h.invariant stepped (fun o step => step.recorded.orderly o) (orderly_start capacity overflow)

/-- The logs grow by the entry of the turn that a step takes. -/
theorem Recorded.logs_eq {m m' : Monitor} {action : Action} (h : m.Recorded action m') :
    m'.accepted = m.accepted ++ (m.section? action).toList.filterMap Section.stored? ∧
      m'.handed = m.handed ++ (m.section? action).toList.filterMap Section.taken? := by
  cases h with
  | began _ _ accepted handed _ => simp [section?, accepted, handed]
  | @entered _ n _ call _ outcome _ _ _ _ _ locked accepted handed _ =>
    rw [locked, accepted, handed, Option.toList_some]
    constructor
    · cases stored : (Section.mk n call outcome).stored? <;> simp [stored]
    · cases taken : (Section.mk n call outcome).taken? <;> simp [taken]
  | kept _ unlocked _ accepted handed _ => simp [unlocked, accepted, handed]

/-- **The logs are read off the turns**, in the order in which these had the lock. -/
theorem logs_of_run {m m' : Monitor} {actions : List Action} (run : m.run? actions = some m') :
    m'.accepted = m.accepted ++ (m.sections actions).filterMap Section.stored? ∧
      m'.handed = m.handed ++ (m.sections actions).filterMap Section.taken? := by
  induction actions generalizing m with
  | nil =>
    cases run
    simp [sections]
  | cons action actions ih =>
    obtain ⟨next, step, run⟩ := Steps.run?_cons_iff.mp run
    obtain ⟨accepted, handed⟩ := ih run
    obtain ⟨acceptedOnce, handedOnce⟩ := (stepped step).recorded.logs_eq
    simp only [sections, step, Option.map_some, Option.getD_some, List.filterMap_append]
    constructor
    · rw [accepted, acceptedOnce, List.append_assoc]
    · rw [handed, handedOnce, List.append_assoc]

/-! ### The promise -/

/-- What a call has returned, or will return without another turn. -/
def resultOf (m : Monitor) (n : Nat) : Option Result := m.records[n]?.bind Record.result

/-- The accepted entries whose messages have come out. -/
def delivered (m : Monitor) : List (Nat × Message) := m.accepted.take m.handed.length

/-- **What a queue promises its threads**, after a run in which the calls took these turns. -/
structure Conveys (capacity : Nat) (turns : List Section) (m : Monitor) : Prop where
  /-- What came out, followed by what is still queued, is what went in. -/
  conserved : m.handed.map Prod.snd ++ m.queue.messages = m.accepted.map Prod.snd
  /-- Messages go in in the order of the turns that store one, -/
  acceptedInTurn : m.accepted = turns.filterMap Section.stored?
  /-- and come out in the order of the turns that take one. -/
  handedInTurn : m.handed = turns.filterMap Section.taken?
  /-- The accepted messages are those of the calls that succeed, each once. -/
  accepted : Logs Record.stored? m.records m.accepted
  /-- The messages that came out are those that calls return, each once. -/
  handed : Logs Record.fetched? m.records m.handed
  /-- Each thread's messages go in in the order of its calls, -/
  inCallOrder : ∀ thread, m.acceptedOn thread = m.storedOn thread
  /-- and they come out so. -/
  delivered : m.handed.map Prod.snd = m.delivered.map Prod.snd ∧
    ∀ thread, (m.delivered.filter fun e => m.records[e.1]?.any (·.thread = thread)) <+:
      m.storedOn thread
  /-- Only the last message goes past the capacity. -/
  bounded : m.queue.size ≤ capacity + 1 ∧ (m.queue.terminated = false → m.queue.size ≤ capacity)
  /-- A call comes back empty only from a turn that found the queue empty and not interrupted. -/
  emptyHanded : ∀ action next n, m.step? action = some next →
    next.resultOf n = some (.fetched none) → m.resultOf n ≠ some (.fetched none) →
      action = .enter n ∧ m.queue.messages = [] ∧ m.queue.interrupted = false

/-- A turn after which its call comes back empty found nothing in the queue. -/
theorem empty_of_fetched_none {q q' : Queue} {call : Call} {outcome : Outcome}
    (turned : q.Turned call.turn outcome q') {thread : Nat} {expired : Bool}
    (empty : (call.recordAfter thread expired outcome).result = some (.fetched none)) :
    q.messages = [] ∧ q.interrupted = false := by
  cases call <;> cases turned <;>
    simp_all [Call.recordAfter, Activity.record, Activity.result?, Call.after, Call.onWait]

/-- A call that comes back empty took a turn at an empty queue just now. -/
theorem Recorded.empty_handed {m m' : Monitor} {action : Action} (h : m.Recorded action m')
    {n : Nat} (now : m'.resultOf n = some (.fetched none))
    (before : m.resultOf n ≠ some (.fetched none)) :
    action = .enter n ∧ m.queue.messages = [] ∧ m.queue.interrupted = false := by
  unfold resultOf at *
  cases h with
  | began _ _ _ _ records =>
    rw [records, List.getElem?_append] at now
    split at now
    · exact absurd now before
    · cases new : n - m.records.length <;> simp [new] at now
  | @entered _ k thread call expired outcome first rest was number turned _ _ _ records =>
    subst number
    rw [records] at now
    rw [was] at before
    by_cases own : n = first.length
    · subst own
      have empty : (call.recordAfter thread expired outcome).result = some (.fetched none) := by
        simpa using now
      exact ⟨rfl, empty_of_fetched_none turned empty⟩
    · rw [getElem?_elsewhere _ _ own] at now
      exact absurd now before
  | kept _ _ _ _ _ records =>
    rw [records] at now
    exact absurd now before

/-- **First in, first out, exactly once.** Whatever the threads at a queue do, and in whichever
order their steps come, the queue keeps its promise. -/
theorem first_in_first_out {capacity : Nat} {overflow : Overflow} {actions : List Action}
    {m : Monitor} (run : (start (.make capacity overflow)).run? actions = some m) :
    m.Conveys capacity ((start (.make capacity overflow)).sections actions) := by
  have orderly := orderly_of_reachable ⟨actions, run⟩
  obtain ⟨accepted, handed⟩ := logs_of_run run
  have bounded := orderly.bounded
  rw [Bounded, orderly.capacity_eq] at bounded
  refine {
    conserved := orderly.conserved
    acceptedInTurn := accepted
    handedInTurn := handed
    accepted := orderly.accepted
    handed := orderly.handed
    inCallOrder := orderly.inCallOrder
    delivered := ⟨?_, ?_⟩
    bounded := ⟨?_, ?_⟩
    emptyHanded := fun action next n step => (stepped step).recorded.empty_handed }
  · rw [delivered, List.map_take, ← orderly.conserved]
    simp
  · intro thread
    rw [← orderly.inCallOrder]
    exact (List.take_prefix _ _).filter _
  · exact Nat.le_trans bounded (Nat.add_le_add_left (Bool.toNat_le _) _)
  · intro unended
    simpa [unended] using bounded

/-- A consumer and a second producer wait at a queue of one, and each is woken by what the other
side does. -/
theorem two_pass_in_order :
    let first : Message := ⟨[1], .empty⟩
    let second : Message := ⟨[2], .empty⟩
    let actions : List Action := [.begin 0 (.enqueue first), .begin 1 (.enqueue second),
      .begin 2 (.dequeue true), .enter 2, .enter 0, .enter 1, .signal 0 (some 2), .enter 2,
      .signal 2 (some 1), .enter 1]
    ∃ m, (start (.make 1 .block)).run? actions = some m ∧
      m.handed = [(2, first)] ∧ m.queue.messages = [second] ∧
      m.Conveys 1 ((start (.make 1 .block)).sections actions) :=
  ⟨_, rfl, rfl, rfl, first_in_first_out rfl⟩

end Monitor

end Outbox.Queue
