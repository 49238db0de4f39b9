import CarplayRgi.TracedSystems

/-!
# Monitors of traces

A monitor reads a trace of events and says of each event whether it was allowed
where it stands.  A system whose state agrees with what the monitor has seen,
step by step, has accepted traces only.  This file has the rules for one
operation, for two in a row and for runs.
-/

namespace CarplayRgi

/-- A deterministic automaton over events. -/
structure Monitor (Watch Event : Type*) where
  init : Watch
  note : Watch → Event → Watch
  permits : Watch → Event → Prop

namespace Monitor

variable {Watch Event State Label : Type*} (monitor : Monitor Watch Event)

/-- What the monitor knows after a trace. -/
def watch (trace : List Event) : Watch := trace.foldl monitor.note monitor.init

/-- Every event of a trace is allowed where it stands. -/
def Accepts : Watch → List Event → Prop
  | _, [] => True
  | before, event :: events =>
      monitor.permits before event ∧ Accepts (monitor.note before event) events

theorem accepts_append (before : Watch) (first second : List Event) :
    monitor.Accepts before (first ++ second) ↔
      monitor.Accepts before first ∧
        monitor.Accepts (first.foldl monitor.note before) second := by
  induction first generalizing before with
  | nil => exact ⟨fun accepted => ⟨trivial, accepted⟩, And.right⟩
  | cons event first ih =>
      rw [List.cons_append, Accepts, Accepts, ih, and_assoc]
      rfl

/-- Events that say nothing to the monitor. -/
theorem accepts_unseen {before : Watch} {events : List Event}
    (unseen : ∀ event ∈ events,
      monitor.permits before event ∧ monitor.note before event = before) :
    monitor.Accepts before events ∧ events.foldl monitor.note before = before := by
  induction events with
  | nil => exact ⟨trivial, rfl⟩
  | cons event events ih =>
      have head := unseen event List.mem_cons_self
      have tail := ih fun other member => unseen other (List.mem_cons_of_mem event member)
      rw [Accepts, List.foldl_cons, head.2]
      exact ⟨⟨head.1, tail.1⟩, tail.2⟩

/-- An operation emits accepted events only, and its next state agrees with the
monitor behind them. -/
def Keeps (agrees : State → Watch → Prop) (before : Watch)
    (result : State × List Event) : Prop :=
  monitor.Accepts before result.2 ∧ agrees result.1 (result.2.foldl monitor.note before)

variable {monitor} {agrees : State → Watch → Prop} {before : Watch}

theorem keeps_silent {state : State} (kept : agrees state before) :
    monitor.Keeps agrees before (state, []) :=
  ⟨trivial, kept⟩

theorem keeps_single {state : State} {event : Event} (allowed : monitor.permits before event)
    (kept : agrees state (monitor.note before event)) :
    monitor.Keeps agrees before (state, [event]) :=
  ⟨⟨allowed, trivial⟩, kept⟩

theorem Keeps.append {state next : State} {first second : List Event}
    (earlier : monitor.Keeps agrees before (state, first))
    (later : monitor.Keeps agrees (first.foldl monitor.note before) (next, second)) :
    monitor.Keeps agrees before (next, first ++ second) := by
  refine ⟨(monitor.accepts_append _ _ _).mpr ⟨earlier.1, later.1⟩, ?_⟩
  rw [List.foldl_append]
  exact later.2

theorem Keeps.andThen {first second : TracedOp State Event} {state : State}
    (earlier : monitor.Keeps agrees before (first state))
    (later : ∀ between, agrees (first state).1 between →
      monitor.Keeps agrees between (second (first state).1)) :
    monitor.Keeps agrees before (first.andThen second state) :=
  earlier.append (later _ earlier.2)

/-- If every step keeps the agreement, every run has an accepted trace, and the
state agrees with the monitor at its end. -/
theorem run_keeps {system : TracedSystem State Label Event}
    (atStart : agrees system.init monitor.init)
    (step : ∀ {state next watching events label}, agrees state watching →
      system.step state label = some (next, events) →
        monitor.Keeps agrees watching (next, events))
    {state : State} {trace : List Event} (run : system.Run state trace) :
    monitor.Keeps agrees monitor.init (state, trace) := by
  refine run.invariant (fun state trace => monitor.Keeps agrees monitor.init (state, trace))
    (keeps_silent atStart) ?_
  intro state next trace events label kept _ stepTo
  exact kept.append (step kept.2 stepTo)

end Monitor

end CarplayRgi
