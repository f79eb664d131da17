import Outbox.Proofs.Sender.Following

/-!
# The poll interval cannot be observed

How long the stream waits at an idle queue before it looks again is nobody's business but its own.
Two runs that do the same deeds in the same order show the same after each of them, whatever their
poll intervals and clocks are and however often their waits run out; and whatever can be done under
one interval can be done under any other, as though the stream blocked until there is a message. A
wait that has run out ends nothing, loses nothing and is not answered: the pull waits once more.

## Main Definitions

* `Timed.interval_unobservable` — runs under two poll intervals
-/

namespace Outbox.Sender.Timed

open Exchange (Pull)

/-- A wait that has run out leaves the pull under way, and another one follows it. -/
theorem Orderly.waits_on {t : Timed} (o : t.Orderly) {p : Pull} (pulling : t.exchange.pull = some p)
    (vain : t.exchange.waited? p = some (.fetched none)) :
    t.exchange.hasNext = true ∧ ∃ t', t.step? (.act (.resume t.nextWait.isTimed)) = some t' ∧
      t'.exchange.view = t.exchange.view ∧ t'.exchange.pull.isSome = true := by
  obtain ⟨free, -⟩ := o.lawful.free_of_waited pulling vain
  have inside : t.exchange.step? (.resume t.nextWait.isTimed) = some { t.exchange with
      monitor := { t.exchange.monitor with calls := t.exchange.monitor.calls ++
        [⟨p.thread, .take t.nextWait.isTimed, .calling⟩] }
      pull := some ⟨p.thread, t.exchange.monitor.calls.length⟩ } := by
    simp [Exchange.step?, pulling, vain, Exchange.goOn?, Exchange.wait?, Monitor.step?, free,
      Monitor.Call.start]
  have step : t.step? (.act (.resume t.nextWait.isTimed)) = some { t with
      exchange := { t.exchange with
        monitor := { t.exchange.monitor with calls := t.exchange.monitor.calls ++
          [⟨p.thread, .take t.nextWait.isTimed, .calling⟩] }
        pull := some ⟨p.thread, t.exchange.monitor.calls.length⟩ }
      wait := t.nextWait } := by
    simp [Timed.step?, allows, inside, waitAfter]
  have noDeed : t.deed? (.act (.resume t.nextWait.isTimed)) = none :=
    Exchange.deed?_of_vain pulling (Exchange.found?_of_vain vain) t.nextWait.isTimed
  have view := o.view_eq step
  rw [noDeed] at view
  exact ⟨(o.lawful.pulling p pulling).1, _, step, view, rfl⟩

variable {q : Queue} {interval now horizon : Nanoseconds}

/-- **The poll interval cannot be observed.** Over any queue, take a run of the threads at a sender
with its stream, under any poll interval and clock:

* a run under any other poll interval and clock, its waits running out as often as they may, that
  does the same deeds in the same order shows the same after each deed and in the end: the queue,
  the calls with their results, whether a chunk is still to come, and all that the consumer was
  told;
* under every other poll interval and clock there is a run that does these deeds and shows the same,
  and in which no wait runs out;
* a step that is no deed, such as one in which a wait runs out, changes nothing that can be seen;
  and
* when the wait of a pull has run out, another chunk is still to come, and the pull can go on to
  wait once more, of which nothing can be seen. -/
theorem interval_unobservable {actions : List Action} {t : Timed}
    (run : (start q interval now horizon).run? actions = some t) :
    (∀ {interval' now' horizon' : Nanoseconds} {actions' : List Action} {t' : Timed},
      (start q interval' now' horizon').run? actions' = some t' →
        (start q interval' now' horizon').deeds actions' =
            (start q interval now horizon).deeds actions →
          (start q interval' now' horizon').log actions' =
              (start q interval now horizon).log actions ∧
            t'.exchange.view = t.exchange.view) ∧
    (∀ interval' now' horizon' : Nanoseconds, ∃ actions' t',
      (start q interval' now' horizon').run? actions' = some t' ∧ IsPatient actions' ∧
        (start q interval' now' horizon').log actions' =
          (start q interval now horizon).log actions) ∧
    (∀ {action : Action} {t' : Timed}, t.step? action = some t' → t.deed? action = none →
      t'.exchange.view = t.exchange.view) ∧
    ∀ p, t.exchange.pull = some p → t.exchange.waited? p = some (.fetched none) →
      t.exchange.hasNext = true ∧ ∃ t', t.step? (.act (.resume t.nextWait.isTimed)) = some t' ∧
        t'.exchange.pull.isSome = true ∧ t'.exchange.view = t.exchange.view := by
  have o := orderly_start q interval now horizon
  refine ⟨?_, ?_, ?_, ?_⟩
  · intro interval' now' horizon' actions' t' run' sameDeeds
    obtain ⟨log, view⟩ := o.log_eq_trace run
    obtain ⟨log', view'⟩ := (orderly_start q interval' now' horizon').log_eq_trace run'
    rw [log', sameDeeds, log, view', sameDeeds, view]
    exact ⟨rfl, rfl⟩
  · intro interval' now' horizon'
    have o' := orderly_start q interval' now' horizon'
    obtain ⟨actions', t', run', sameDeeds, patient⟩ := exists_run o o' nofun rfl run
    refine ⟨actions', t', run', patient, ?_⟩
    rw [(o'.log_eq_trace run').1, sameDeeds, (o.log_eq_trace run).1]
    rfl
  · intro action t' step noDeed
    have view := (o.run run).view_eq step
    rwa [noDeed] at view
  · intro p pulling vain
    obtain ⟨more, t', step, view, waits⟩ := (o.run run).waits_on pulling vain
    exact ⟨more, t', step, waits, view⟩

/-- The wait of a pull runs out and another one begins before a message is there. Under an interval
that reaches beyond what the clock can express there is one wait without a deadline, and the same is
seen. -/
theorem waiting_in_vain_unseen :
    let what : Submission := .binary [0x61] .empty
    let shortly : List Action :=
      [.act (.sender (.begin 1 .obtainStream)), .act (.sender (.act 0)),
        .act (.pull 1 true .nextChunk), .act (.sender (.act 1)), .act (.sender (.queue (.enter 0))),
        .elapse 5, .act (.sender (.queue (.expire 0))), .act (.sender (.queue (.enter 0))),
        .act (.resume true), .act (.sender (.act 2)), .act (.sender (.queue (.enter 1))),
        .act (.sender (.begin 0 (.submit what))), .act (.sender (.act 3)), .act (.sender (.act 3)),
        .act (.sender (.queue (.enter 2))), .act (.sender (.queue (.signal 2 (some 1)))),
        .act (.sender (.queue (.enter 1))), .act (.sender (.queue (.signal 1 none))),
        .act (.resume true)]
    let patiently : List Action :=
      [.act (.sender (.begin 1 .obtainStream)), .act (.sender (.act 0)),
        .act (.pull 1 false .nextChunk), .act (.sender (.act 1)),
        .act (.sender (.queue (.enter 0))), .act (.sender (.begin 0 (.submit what))),
        .act (.sender (.act 2)), .act (.sender (.act 2)),
        .act (.sender (.queue (.enter 1))), .act (.sender (.queue (.signal 1 (some 0)))),
        .act (.sender (.queue (.enter 0))), .act (.sender (.queue (.signal 0 none))),
        .act (.resume false)]
    ∃ t t', (start (.make 1 .block) 5 0 100).run? shortly = some t ∧
      (start (.make 1 .block) 101 0 100).run? patiently = some t' ∧
      t.exchange.answers = [.chunk what.message] ∧
      (start (.make 1 .block) 101 0 100).log patiently =
          (start (.make 1 .block) 5 0 100).log shortly ∧
        t'.exchange.view = t.exchange.view := by
  intro what shortly patiently
  obtain ⟨t, run, answers⟩ : ∃ t, (start (.make 1 .block) 5 0 100).run? shortly = some t ∧
      t.exchange.answers = [.chunk what.message] := ⟨_, rfl, rfl⟩
  obtain ⟨t', run'⟩ : ∃ t', (start (.make 1 .block) 101 0 100).run? patiently = some t' :=
    ⟨_, rfl⟩
  have sameDeeds : (start (.make 1 .block) 101 0 100).deeds patiently =
      (start (.make 1 .block) 5 0 100).deeds shortly := by decide +kernel
  exact ⟨t, t', run, run', answers, (interval_unobservable run).1 run' sameDeeds⟩

end Outbox.Sender.Timed
