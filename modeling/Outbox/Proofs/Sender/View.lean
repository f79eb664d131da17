import Outbox.Proofs.Sender.Exchange
import Outbox.Sender.Timed

/-!
# What can be seen of an exchange

The waits of a stream leave no trace but their own calls. Take these away, at the sender as well as
at the queue, and number the other calls anew: what is left of an exchange is what anybody can see
of it. Of the pull under way one sees the thread that it is made on and what it will answer once
there is something to answer, but not how often it has waited.

A deed is a step that does more than wait, told by the numbers that calls have in the view; what it
makes of a view is a function of the two.

## Main Definitions

* `Exchange.View`, `Exchange.view` — what can be seen of an exchange
* `Exchange.Deed`, `Exchange.deed?` — the steps that do more than wait
* `Exchange.View.next` — what a deed makes of a view
-/

namespace Outbox

/-! ### Places among the elements that are kept -/

section Places

variable {α : Type} {keep : α → Bool} {l : List α} {n : Nat} {a b : α}

/-- Where the element of an index stands among those that are kept. -/
def place (keep : α → Bool) (l : List α) (n : Nat) : Nat := (l.take n).countP keep

theorem place_eq_length (before after : List α) :
    place keep (before ++ after) before.length = (before.filter keep).length := by
  rw [place, List.take_left, List.countP_eq_length_filter]

theorem getElem?_filter_place (here : l[n]? = some a) (kept : keep a = true) :
    (l.filter keep)[place keep l n]? = some a := by
  obtain ⟨before, after, rfl, rfl⟩ := Queue.Monitor.exists_split here
  rw [place_eq_length, List.filter_append, List.filter_cons_of_pos kept]
  simp

theorem filter_set (here : l[n]? = some a) (kept : keep a = true) (kept' : keep b = true) :
    (l.set n b).filter keep = (l.filter keep).set (place keep l n) b := by
  obtain ⟨before, after, rfl, rfl⟩ := Queue.Monitor.exists_split here
  rw [place_eq_length]
  simp [kept, kept']

theorem filter_set_of_not (here : l[n]? = some a) (dropped : keep a = false)
    (dropped' : keep b = false) : (l.set n b).filter keep = l.filter keep := by
  obtain ⟨before, after, rfl, rfl⟩ := Queue.Monitor.exists_split here
  simp [dropped, dropped']

/-- Every element that is kept has its place. -/
theorem exists_of_filter {i : Nat} (there : (l.filter keep)[i]? = some a) :
    ∃ n, l[n]? = some a ∧ keep a = true ∧ place keep l n = i := by
  induction l generalizing i with
  | nil => cases there
  | cons b l ih =>
    by_cases kept : keep b = true
    · rw [List.filter_cons_of_pos kept] at there
      cases i with
      | zero =>
        cases there
        exact ⟨0, rfl, kept, rfl⟩
      | succ i =>
        obtain ⟨n, here, keeps, number⟩ := ih there
        exact ⟨n + 1, here, keeps, by simp [place, kept, ← number]⟩
    · rw [List.filter_cons_of_neg kept] at there
      obtain ⟨n, here, keeps, number⟩ := ih there
      exact ⟨n + 1, here, keeps, by simp [place, kept, ← number]⟩

end Places

/-! ### The queue -/

namespace Queue.Monitor

/-- The result of a call whose last turn came to this. -/
def resultAfter : Outcome → Option Result
  | .stored => some .stored
  | .taken msg => some (.fetched (some msg))
  | .interrupted => some .interrupted
  | .refused error => some (.refused error)
  | .waits => none

/-- What is on record of all calls but the stream's waits. -/
def others (m : Monitor) : List Record := m.records.filter fun r => !r.call.isWait

/-- The number of a call when waits are not counted. -/
def placeOf (m : Monitor) (k : Nat) : Nat := place (fun call => !call.isWait) m.asked k

variable {m m' : Monitor} {action : Action} {k : Nat}

theorem placeOf_eq (m : Monitor) (k : Nat) :
    m.placeOf k = place (fun r : Record => !r.call.isWait) m.records k := by
  rw [placeOf, place, place, asked, ← List.map_take, List.countP_map]
  rfl

/-- A call keeps its place among the others. -/
theorem getElem?_others {r : Record} (there : m.records[k]? = some r)
    (other : r.call.isWait = false) : m.others[m.placeOf k]? = some r := by
  rw [placeOf_eq, others, getElem?_filter_place there (by simp [other])]

/-- The next call will have the next number. -/
theorem placeOf_length (m : Monitor) : m.placeOf m.calls.length = m.others.length := by
  have all : m.records.length = m.calls.length := by simp [records]
  rw [placeOf_eq, place, others, ← all, List.take_length, List.countP_eq_length_filter]

/-- **A call keeps its number.** -/
theorem Recorded.placeOf_eq (h : m.Recorded action m') (old : k ≤ m.calls.length) :
    m'.placeOf k = m.placeOf k := by
  rw [placeOf, placeOf, h.asked_eq, place, place,
    List.take_append_of_le_length (by rwa [length_asked])]

theorem Call.turn_of_isWait {call : Call} (wait : call.isWait = true) : call.turn = .take := by
  cases call with
  | dequeue timed => rfl
  | _ => cases wait

/-- A turn puts its outcome on record. -/
theorem recordAfter_eq {call : Call} {outcome : Outcome}
    (other : call.isWait = false ∨ outcome ≠ .waits) (thread : Nat) (expired : Bool) :
    call.recordAfter thread expired outcome = ⟨thread, call, resultAfter outcome⟩ := by
  cases call <;> cases outcome <;> simp_all [Call.isWait] <;> rfl

/-- A call begins at the queue. -/
theorem Recorded.others_of_begin {thread : Nat} {call : Call}
    (h : m.Recorded (.begin thread call) m') :
    m'.queue = m.queue ∧ m'.others =
      m.others ++ if call.isWait then [] else [⟨thread, call, none⟩] := by
  cases h with
  | began _ queue _ _ records =>
    refine ⟨queue, ?_⟩
    rw [others, others, records, List.filter_append]
    cases wait : call.isWait <;> simp [wait]
  | kept begun => exact absurd rfl (begun _ _)

theorem Recorded.kept_of_begin {thread : Nat} {call : Call}
    (h : m.Recorded (.begin thread call) m') {r : Record} (there : m.records[k]? = some r) :
    m'.records[k]? = some r := by
  cases h with
  | began _ _ _ _ records =>
    rw [records, List.getElem?_append_left (List.getElem?_eq_some_iff.mp there).1, there]
  | kept begun => exact absurd rfl (begun _ _)

/-- A turn at the queue by another call than a wait. -/
theorem others_of_turn {before after : List Record} {r r' : Record}
    (was : m.records = before ++ r :: after) (now : m'.records = before ++ r' :: after)
    (other : r.call.isWait = false) (same : r'.call = r.call) :
    m.others[m.placeOf before.length]? = some r ∧
      m'.others = m.others.set (m.placeOf before.length) r' := by
  have number : m.placeOf before.length = (before.filter fun r => !r.call.isWait).length := by
    rw [placeOf_eq, was, place_eq_length]
  rw [number, others, others, was, now]
  simp [other, same]

/-- A turn at the queue by a wait. -/
theorem others_of_wait {before after : List Record} {r r' : Record}
    (was : m.records = before ++ r :: after) (now : m'.records = before ++ r' :: after)
    (wait : r.call.isWait = true) (same : r'.call = r.call) : m'.others = m.others := by
  rw [others, others, was, now]
  simp [wait, same]

end Queue.Monitor

/-! ### The sender -/

namespace Sender.Monitor

/-- The same phase when the queue's calls are numbered anew. -/
def Phase.renumber (f : Nat → Nat) : Phase → Phase
  | .queued k => .queued (f k)
  | phase => phase

/-- The same call when the queue's calls are numbered anew. -/
def Activity.renumber (f : Nat → Nat) (a : Activity) : Activity :=
  { a with phase := a.phase.renumber f }

/-- All calls at the sender but the stream's waits. -/
def others (m : Monitor) : List Activity :=
  (m.calls.filter fun a => !a.call.isWait).map (·.renumber m.queue.placeOf)

/-- The number of a call when waits are not counted. -/
def placeOf (m : Monitor) (n : Nat) : Nat := place (fun a => !a.call.isWait) m.calls n

variable {m m' : Monitor} {n : Nat} {a : Activity}

theorem getElem?_others (here : m.calls[n]? = some a) (other : a.call.isWait = false) :
    m.others[m.placeOf n]? = some (a.renumber m.queue.placeOf) := by
  rw [others, List.getElem?_map, placeOf, getElem?_filter_place here (by simp [other])]
  rfl

/-- Another call than a wait gets further. -/
theorem others_setPhase (here : m.calls[n]? = some a) (other : a.call.isWait = false)
    (phase : Phase) :
    (m.setPhase n a phase).others =
      m.others.set (m.placeOf n) { a with phase := phase.renumber m.queue.placeOf } := by
  rw [others, setPhase, filter_set here (by simp [other]) (by simp [other]), List.map_set]
  rfl

/-- A wait gets further. -/
theorem others_setPhase_of_wait (here : m.calls[n]? = some a) (wait : a.call.isWait = true)
    (phase : Phase) :
    (m.setPhase n a phase).others = m.others := by
  rw [others, setPhase, filter_set_of_not here (by simp [wait]) (by simp [wait])]
  rfl

/-- A step at the queue leaves the numbers of the calls there as they are. -/
theorem others_withQueue {q : Queue.Monitor} (known : m.Known)
    (same : ∀ k < m.queue.calls.length, q.placeOf k = m.queue.placeOf k) :
    ({ m with queue := q } : Monitor).others = m.others := by
  refine List.map_congr_left fun a listed => ?_
  obtain ⟨n, here⟩ := List.getElem?_of_mem (List.mem_filter.mp listed).1
  unfold Activity.renumber Phase.renumber
  split
  · next k queued =>
    obtain ⟨b, there, -⟩ := known n a k here queued
    rw [same k (List.getElem?_eq_some_iff.mp there).1]
  · rfl

end Sender.Monitor

/-! ### What can be seen of an exchange -/

namespace Sender.Exchange

open Monitor (Activity Phase)
open Queue.Monitor (Record)

/-- What is on record of the wait of a pull at the queue. -/
def onRecord? (e : Exchange) (p : Pull) : Option Record :=
  (e.monitor.calls[p.wait]?).bind fun a =>
    match a.phase with
    | .queued k => e.monitor.queue.records[k]?
    | _ => none

/-- What the wait of a pull has come to. A wait that has run out has come to nothing. -/
def found? (e : Exchange) (p : Pull) : Option Queue.Monitor.Result :=
  ((e.onRecord? p).bind (·.result)).filter (· ≠ .fetched none)

/-- **What can be seen of an exchange**: the flags, the queue, the calls at the sender and at the
queue with their results, and the stream with its answers. A pull under way shows the thread that it
is made on and what it will answer, once it is to answer something. -/
@[ext]
structure View where
  closed : Bool
  streamTaken : Bool
  queue : Queue
  calls : List Activity
  records : List Record
  hasNext : Bool
  pull : Option (Nat × Option Queue.Monitor.Result)
  answers : List Answer
deriving DecidableEq, Repr

/-- **The view of an exchange.** -/
def view (e : Exchange) : View where
  closed := e.monitor.closed
  streamTaken := e.monitor.streamTaken
  queue := e.monitor.queue.queue
  calls := e.monitor.others
  records := e.monitor.queue.others
  hasNext := e.hasNext
  pull := e.pull.map fun p => (p.thread, e.found? p)
  answers := e.answers

/-- **A deed**: a step that does more than wait. Calls are told by their numbers in the view. -/
inductive Deed where
  /-- A thread makes a call at the sender. -/
  | begins (thread : Nat) (call : Monitor.Call)
  /-- A call takes a step of its own at the sender. -/
  | acts (number : Nat)
  /-- A thread calls the queue past the sender. -/
  | calls (thread : Nat) (call : Queue.Monitor.Call)
  /-- A call takes a turn at the queue and comes to something. -/
  | enters (number : Nat)
  /-- The wait of the pull takes a turn at the queue and comes to something. -/
  | fetches
  /-- The consumer asks for the next chunk. -/
  | pulls (thread : Nat) (asking : Asking)
  /-- The consumer is told what its wait has come to. -/
  | answers
deriving DecidableEq, Repr

/-- The deed of a turn at the queue. -/
def turnDeed? (e : Exchange) (k : Nat) : Option Deed := do
  let a ← e.monitor.queue.calls[k]?
  if (e.monitor.queue.queue.turn a.call.turn).1 = .waits then none
  else if a.call.isWait then some .fetches
  else some (.enters (e.monitor.queue.placeOf k))

/-- **The deed of a step**, if it is one. -/
def deed? (e : Exchange) : Action → Option Deed
  | .sender (.begin thread call) => some (.begins thread call)
  | .sender (.act n) =>
    if e.monitor.calls[n]?.any (·.call.isWait) then none else some (.acts (e.monitor.placeOf n))
  | .sender (.queue (.enter k)) => e.turnDeed? k
  | .sender (.queue _) => none
  | .direct thread call => some (.calls thread call)
  | .pull thread _ asking => some (.pulls thread asking)
  | .resume _ => if (e.pull.bind e.found?).isSome then some .answers else none

namespace View

/-- The view with a call in another phase. -/
def setPhase (v : View) (n : Nat) (a : Activity) (phase : Phase) : View :=
  { v with calls := v.calls.set n { a with phase := phase } }

/-- A call takes a step of its own at the sender. -/
def act (v : View) (n : Nat) (a : Activity) : View :=
  match a.phase with
  | .looking more =>
    v.setPhase n a
      (if v.closed then a.call.onClosed
      else if more = 0 then a.call.onOpen
      else .looking (more - 1))
  | .closing =>
    if v.closed then v.setPhase n a (.returned none)
    else { v.setPhase n a .calling with closed := true }
  | .claiming =>
    if v.streamTaken then v.setPhase n a (.returned (some .streamTaken))
    else { v.setPhase n a (.returned none) with streamTaken := true }
  | .calling =>
    match a.call.onQueue? with
    | none => v
    | some call =>
      { v.setPhase n a (.queued v.records.length) with
        records := v.records ++ [⟨a.thread, call, none⟩] }
  | _ => v

/-- A call takes a turn at the queue. -/
def turn (v : View) (k : Nat) (r : Record) : View :=
  { v with
    queue := (v.queue.turn r.call.turn).2
    records := v.records.set k
      { r with result := Queue.Monitor.resultAfter (v.queue.turn r.call.turn).1 } }

/-- The consumer is told what its wait has come to. -/
def tell (v : View) : Queue.Monitor.Result → View
  | .fetched (some m) =>
    { v with hasNext := !m.isLast, pull := none, answers := v.answers ++ [.chunk m] }
  | .refused error =>
    { v with hasNext := false, pull := none, answers := v.answers ++ [.refused error] }
  | _ => v

/-- **What a deed makes of a view.** -/
def next (v : View) : Deed → View
  | .begins thread call => { v with calls := v.calls ++ [⟨thread, call, call.start⟩] }
  | .acts n => (v.calls[n]?).elim v (v.act n)
  | .calls thread call => { v with records := v.records ++ [⟨thread, call, none⟩] }
  | .enters k => (v.records[k]?).elim v (v.turn k)
  | .fetches =>
    { v with
      queue := (v.queue.turn .take).2
      pull := v.pull.map fun p => (p.1, Queue.Monitor.resultAfter (v.queue.turn .take).1) }
  | .pulls thread asking =>
    if v.hasNext then { v with pull := some (thread, none) }
    else { v with answers := v.answers ++ [asking.onEnded] }
  | .answers => (v.pull.bind Prod.snd).elim v v.tell

end View

/-! ### The parts of a view -/

@[simp]
theorem view_closed (e : Exchange) : e.view.closed = e.monitor.closed := rfl

@[simp]
theorem view_streamTaken (e : Exchange) : e.view.streamTaken = e.monitor.streamTaken := rfl

@[simp]
theorem view_queue (e : Exchange) : e.view.queue = e.monitor.queue.queue := rfl

@[simp]
theorem view_calls (e : Exchange) : e.view.calls = e.monitor.others := rfl

@[simp]
theorem view_records (e : Exchange) : e.view.records = e.monitor.queue.others := rfl

@[simp]
theorem view_hasNext (e : Exchange) : e.view.hasNext = e.hasNext := rfl

theorem view_pull (e : Exchange) : e.view.pull = e.pull.map fun p => (p.thread, e.found? p) := rfl

@[simp]
theorem view_answers (e : Exchange) : e.view.answers = e.answers := rfl

end Sender.Exchange

end Outbox
