import Mathlib.Logic.Basic
import Mathlib.Data.List.Induction

/-!
# Labelled systems that leave a trace of events

A system takes one step for each label and emits a finite list of events.  A
run keeps the whole trace, so that a statement about the past of an event is
an ordinary statement about lists.  This file proves the run rule for
invariants of a state together with its trace, and rules for statements about
the events since another one and about stretches of events.
-/

namespace CarplayRgi

/-- A partial labelled step function.  A label that is not enabled in a state
has no successor. -/
structure TracedSystem (State Label Event : Type*) where
  init : State
  step : State → Label → Option (State × List Event)

namespace TracedSystem

variable {State Label Event : Type*}

/-- The runs whose every step satisfies `guard`, which may look at the state
and at the trace before the step. -/
inductive RunWithin (system : TracedSystem State Label Event)
    (guard : State → List Event → Label → Prop) :
    State → List Event → Prop
  | start : RunWithin system guard system.init []
  | next {state next : State} {trace events : List Event} {label : Label} :
      RunWithin system guard state trace →
      guard state trace label →
      system.step state label = some (next, events) →
      RunWithin system guard next (trace ++ events)

/-- Unrestricted runs. -/
abbrev Run (system : TracedSystem State Label Event) :
    State → List Event → Prop :=
  RunWithin system fun _ _ _ => True

theorem RunWithin.imp {system : TracedSystem State Label Event}
    {guard guard' : State → List Event → Label → Prop}
    (weaker : ∀ state trace label, guard state trace label → guard' state trace label)
    {state : State} {trace : List Event}
    (steps : RunWithin system guard state trace) :
    RunWithin system guard' state trace := by
  induction steps with
  | start => exact .start
  | next _ allowed stepTo ih => exact .next ih (weaker _ _ _ allowed) stepTo

theorem RunWithin.run {system : TracedSystem State Label Event}
    {guard : State → List Event → Label → Prop}
    {state : State} {trace : List Event}
    (steps : RunWithin system guard state trace) :
    Run system state trace :=
  steps.imp fun _ _ _ _ => trivial

/-- An invariant of the state and its trace that every guarded step preserves
holds at the end of every guarded run. -/
theorem RunWithin.invariant {system : TracedSystem State Label Event}
    {guard : State → List Event → Label → Prop}
    (holds : State → List Event → Prop)
    (atStart : holds system.init [])
    (preserved : ∀ {state next trace events label},
      holds state trace → guard state trace label →
        system.step state label = some (next, events) →
          holds next (trace ++ events))
    {state : State} {trace : List Event}
    (steps : RunWithin system guard state trace) :
    holds state trace := by
  induction steps with
  | start => exact atStart
  | next _ allowed stepTo ih => exact preserved ih allowed stepTo

/-- Execute a list of labels that are allowed where they are taken, collecting
the events. -/
def replay (system : TracedSystem State Label Event) (allowed : State → Label → Bool) :
    State → List Label → Option (State × List Event)
  | state, [] => some (state, [])
  | state, label :: labels =>
      if allowed state label then
        match system.step state label with
        | none => none
        | some (next, events) =>
            match replay system allowed next labels with
            | none => none
            | some (last, later) => some (last, events ++ later)
      else none

theorem runWithin_of_replay_from {system : TracedSystem State Label Event}
    {allowed : State → Label → Bool} {labels : List Label} {state last : State}
    {trace later : List Event}
    (before : RunWithin system (fun state _ label => allowed state label = true) state trace)
    (replayed : system.replay allowed state labels = some (last, later)) :
    RunWithin system (fun state _ label => allowed state label = true) last (trace ++ later) := by
  induction labels generalizing state trace later with
  | nil =>
      simp only [replay, Option.some.injEq, Prod.mk.injEq] at replayed
      obtain ⟨rfl, rfl⟩ := replayed
      simpa using before
  | cons label labels ih =>
      simp only [replay] at replayed
      split at replayed
      · rename_i taken
        split at replayed
        · cases replayed
        · rename_i next events stepTo
          split at replayed
          · cases replayed
          · rename_i final rest replayedRest
            simp only [Option.some.injEq, Prod.mk.injEq] at replayed
            obtain ⟨rfl, rfl⟩ := replayed
            rw [← List.append_assoc]
            exact ih (.next before taken stepTo) replayedRest
      · cases replayed

theorem replay_append (system : TracedSystem State Label Event) (allowed : State → Label → Bool)
    (first second : List Label) (state : State) :
    system.replay allowed state (first ++ second) =
      (system.replay allowed state first).bind fun before =>
        (system.replay allowed before.1 second).map fun after =>
          (after.1, before.2 ++ after.2) := by
  induction first generalizing state with
  | nil =>
      rw [List.nil_append, replay, Option.bind_some]
      cases system.replay allowed state second <;> rfl
  | cons label first ih =>
      rw [List.cons_append, replay, replay]
      by_cases taken : allowed state label = true
      · rw [if_pos taken, if_pos taken]
        cases system.step state label with
        | none => rfl
        | some next =>
            dsimp only
            rw [ih]
            cases system.replay allowed next.1 first with
            | none => rfl
            | some before =>
                dsimp only [Option.bind_some]
                cases system.replay allowed before.1 second with
                | none => rfl
                | some after => simp
      · rw [if_neg taken, if_neg taken]
        rfl

/-- A guarded run found by evaluating a list of labels. -/
theorem exists_runWithin_of_replay (system : TracedSystem State Label Event)
    (allowed : State → Label → Bool) (labels : List Label)
    (check : State × List Event → Bool)
    (passes : (system.replay allowed system.init labels).any check = true) :
    ∃ state trace,
      RunWithin system (fun state _ label => allowed state label = true) state trace ∧
        check (state, trace) = true := by
  rw [Option.any_eq_true] at passes
  obtain ⟨⟨state, trace⟩, replayed, checked⟩ := passes
  exact ⟨state, trace, runWithin_of_replay_from .start replayed, checked⟩

/-- A run found by evaluating a list of labels. -/
theorem exists_run_of_replay (system : TracedSystem State Label Event) (labels : List Label)
    (check : State × List Event → Bool)
    (passes : (system.replay (fun _ _ => true) system.init labels).any check = true) :
    ∃ state trace, Run system state trace ∧ check (state, trace) = true := by
  obtain ⟨state, trace, steps, checked⟩ :=
    system.exists_runWithin_of_replay (fun _ _ => true) labels check passes
  exact ⟨state, trace, steps.run, checked⟩

/-- A run continued by evaluating a list of labels. -/
theorem exists_run_of_replay_from {system : TracedSystem State Label Event} {state : State}
    {trace : List Event} (before : Run system state trace) (labels : List Label)
    (check : State × List Event → Bool)
    (passes : (system.replay (fun _ _ => true) state labels).any check = true) :
    ∃ last later, Run system last (trace ++ later) ∧ check (last, later) = true := by
  rw [Option.any_eq_true] at passes
  obtain ⟨⟨last, later⟩, replayed, checked⟩ := passes
  have steps := runWithin_of_replay_from (before.imp fun _ _ _ _ => rfl) replayed
  exact ⟨last, later, steps.run, checked⟩

end TracedSystem

/-- A total operation on a state that emits events. -/
abbrev TracedOp (State Event : Type*) :=
  State → State × List Event

namespace TracedOp

variable {State Event : Type*}

/-- Run one operation after another. -/
def andThen (first second : TracedOp State Event) : TracedOp State Event :=
  fun state =>
    ((second (first state).1).1, (first state).2 ++ (second (first state).1).2)

/-- A silent state change. -/
def silent (change : State → State) : TracedOp State Event :=
  fun state => (change state, [])

end TracedOp

/-- Every event of the trace passes `check` against the events before it. -/
def Always {Event : Type*} (check : List Event → Event → Prop)
    (trace : List Event) : Prop :=
  ∀ past event future, trace = past ++ event :: future → check past event

theorem always_nil {Event : Type*} (check : List Event → Event → Prop) :
    Always check [] := by
  intro past event future split
  simp at split

theorem Always.snoc {Event : Type*} {check : List Event → Event → Prop}
    {trace : List Event} {event : Event}
    (before : Always check trace) (passes : check trace event) :
    Always check (trace ++ [event]) := by
  intro past last future split
  rcases List.eq_nil_or_concat future with rfl | ⟨initial, final, rfl⟩
  · obtain ⟨rfl, singleton⟩ := List.append_inj' split rfl
    simp only [List.cons.injEq, and_true] at singleton
    exact singleton ▸ passes
  · rw [List.concat_eq_append, ← List.cons_append, ← List.append_assoc] at split
    obtain ⟨traceEq, -⟩ := List.append_inj' split rfl
    exact before past last initial traceEq

theorem Always.append {Event : Type*} {check : List Event → Event → Prop}
    {trace events : List Event} (before : Always check trace)
    (passes : ∀ past event future, events = past ++ event :: future →
      check (trace ++ past) event) :
    Always check (trace ++ events) := by
  induction events generalizing trace with
  | nil => simpa using before
  | cons event events ih =>
      have head : Always check (trace ++ [event]) := by
        refine before.snoc ?_
        simpa using passes [] event events rfl
      have tail := ih head (by
        intro past later future split
        simpa using passes (event :: past) later future (by simp [split]))
      simpa using tail

section Since

variable {Event : Type*} {breaks marks check : Event → Prop} {trace : List Event} {event : Event}

/-- Some event is marked, and none of the later ones breaks with it. -/
def Since (breaks marks : Event → Prop) (trace : List Event) : Prop :=
  ∃ before mark later, trace = before ++ mark :: later ∧ marks mark ∧
    ∀ event ∈ later, ¬ breaks event

theorem since_now (trace : List Event) (isMark : marks event) :
    Since breaks marks (trace ++ [event]) :=
  ⟨trace, event, [], rfl, isMark, nofun⟩

theorem Since.snoc (since : Since breaks marks trace) (quiet : ¬ breaks event) :
    Since breaks marks (trace ++ [event]) := by
  obtain ⟨before, mark, later, rfl, isMark, noBreak⟩ := since
  refine ⟨before, mark, later ++ [event], by simp, isMark, fun other member => ?_⟩
  rcases List.mem_append.mp member with earlier | last
  · exact noBreak other earlier
  · rwa [List.mem_singleton.mp last]

theorem Since.imp {marks' : Event → Prop} (since : Since breaks marks trace)
    (implies : ∀ event, marks event → marks' event) : Since breaks marks' trace := by
  obtain ⟨before, mark, later, split, isMark, noBreak⟩ := since
  exact ⟨before, mark, later, split, implies mark isMark, noBreak⟩

theorem since_snoc_iff : Since breaks marks (trace ++ [event]) ↔
    marks event ∨ ¬ breaks event ∧ Since breaks marks trace := by
  constructor
  · rintro ⟨before, mark, later, split, isMark, noBreak⟩
    rcases List.eq_nil_or_concat later with rfl | ⟨initial, final, rfl⟩
    · obtain ⟨-, singleton⟩ := List.append_inj' split rfl
      exact .inl ((List.cons.inj singleton).1 ▸ isMark)
    · rw [List.concat_eq_append] at split noBreak
      rw [← List.cons_append, ← List.append_assoc] at split
      obtain ⟨traceEq, singleton⟩ := List.append_inj' split rfl
      refine .inr ⟨(List.cons.inj singleton).1 ▸ noBreak final (by simp), before, mark, initial,
        traceEq, isMark, fun other member => noBreak other (by simp [member])⟩
  · rintro (isMark | ⟨quiet, since⟩)
    · exact since_now trace isMark
    · exact since.snoc quiet

/-- Every event passes the check unless a later one breaks with it. -/
def AllSince (breaks check : Event → Prop) (trace : List Event) : Prop :=
  ∀ before mark later, trace = before ++ mark :: later → (∀ event ∈ later, ¬ breaks event) →
    check mark

theorem AllSince.snoc (since : breaks event ∨ AllSince breaks check trace) (passes : check event) :
    AllSince breaks check (trace ++ [event]) := by
  intro before mark later split noBreak
  rcases List.eq_nil_or_concat later with rfl | ⟨initial, final, rfl⟩
  · obtain ⟨-, singleton⟩ := List.append_inj' split rfl
    exact (List.cons.inj singleton).1 ▸ passes
  · rw [List.concat_eq_append] at split noBreak
    rw [← List.cons_append, ← List.append_assoc] at split
    obtain ⟨traceEq, singleton⟩ := List.append_inj' split rfl
    have sameLast : event = final := (List.cons.inj singleton).1
    rcases since with isBreak | earlier
    · exact absurd (sameLast ▸ isBreak) (noBreak final (by simp))
    · exact earlier before mark initial traceEq fun other member => noBreak other (by simp [member])

theorem AllSince.imp {check' : Event → Prop} (since : AllSince breaks check trace)
    (implies : ∀ event, check event → check' event) : AllSince breaks check' trace :=
  fun before mark later split noBreak => implies mark (since before mark later split noBreak)

end Since

section Stretches

variable {Event : Type*} {goesOn : Event → Event → Prop} {check : List Event → Prop}
  {trace : List Event} {event : Event}

/-- Every stretch of events that go on from the first of them passes the check. -/
def AllStretches (goesOn : Event → Event → Prop) (check : List Event → Prop)
    (trace : List Event) : Prop :=
  ∀ before first rest after, trace = before ++ (first :: rest) ++ after →
    (∀ event ∈ rest, goesOn first event) → check (first :: rest)

/-- The stretches that last to the end of the trace pass the check. -/
def LastStretches (goesOn : Event → Event → Prop) (check : List Event → Prop)
    (trace : List Event) : Prop :=
  ∀ before first rest, trace = before ++ first :: rest →
    (∀ event ∈ rest, goesOn first event) → check (first :: rest)

theorem allStretches_nil : AllStretches goesOn check [] := by
  intro before first rest after split
  simp at split

theorem LastStretches.snoc (alone : check [event])
    (longer : ∀ before first rest, trace = before ++ first :: rest →
      (∀ other ∈ rest, goesOn first other) → goesOn first event →
        check (first :: rest ++ [event])) :
    LastStretches goesOn check (trace ++ [event]) := by
  intro before first rest split continues
  rcases List.eq_nil_or_concat rest with rfl | ⟨initial, final, rfl⟩
  · obtain ⟨-, singleton⟩ := List.append_inj' split rfl
    exact (List.cons.inj singleton).1 ▸ alone
  · rw [List.concat_eq_append] at split continues ⊢
    rw [← List.cons_append, ← List.append_assoc] at split
    obtain ⟨traceEq, singleton⟩ := List.append_inj' split rfl
    have sameLast : event = final := (List.cons.inj singleton).1
    subst sameLast
    exact longer before first initial traceEq
      (fun other member => continues other (by simp [member])) (continues event (by simp))

theorem AllStretches.snoc (earlier : AllStretches goesOn check trace)
    (last : LastStretches goesOn check (trace ++ [event])) :
    AllStretches goesOn check (trace ++ [event]) := by
  intro before first rest after split continues
  rcases List.eq_nil_or_concat after with rfl | ⟨initial, final, rfl⟩
  · exact last before first rest (by simpa using split) continues
  · rw [List.concat_eq_append, ← List.append_assoc] at split
    exact earlier before first rest initial (List.append_inj' split rfl).1 continues

end Stretches

section Pending

variable {Event : Type*} {opens closes : Event → Bool}

/-- Whether an obligation has been opened and not been closed since. -/
def pending (opens closes : Event → Bool) : List Event → Bool :=
  List.foldl (fun waiting event => opens event || (waiting && !closes event)) false

@[simp]
theorem pending_nil : pending opens closes [] = false := rfl

theorem pending_snoc (trace : List Event) (event : Event) :
    pending opens closes (trace ++ [event]) =
      (opens event || (pending opens closes trace && !closes event)) := by
  simp [pending]

/-- An obligation that is no longer pending was closed after it was opened. -/
theorem exists_closed {history : List Event} {first : Nat} {opening : Event}
    (opened : history[first]? = some opening) (isOpening : opens opening = true)
    (resolved : pending opens closes history = false) :
    ∃ position, first < position ∧
      ∃ event, history[position]? = some event ∧ closes event = true := by
  induction history using List.reverseRecOn with
  | nil => simp at opened
  | append_singleton history event ih =>
      rw [pending_snoc, Bool.or_eq_false_iff] at resolved
      obtain ⟨notOpening, stillClosed⟩ := resolved
      have firstLt : first < history.length := by
        by_contra beyond
        obtain ⟨firstLe, openingEq⟩ := List.getElem?_eq_some_iff.mp opened
        have isLast : first = history.length := by
          simp only [List.length_append, List.length_singleton] at firstLe
          omega
        subst isLast
        rw [List.getElem_append_right (Nat.le_refl _)] at openingEq
        simp only [Nat.sub_self, List.getElem_cons_zero] at openingEq
        rw [openingEq, isOpening] at notOpening
        cases notOpening
      by_cases closing : closes event = true
      · exact ⟨history.length, firstLt, event, by simp, closing⟩
      · have waiting : pending opens closes history = false := by simpa [closing] using stillClosed
        rw [List.getElem?_append_left firstLt] at opened
        obtain ⟨position, later, other, found, otherCloses⟩ := ih opened waiting
        refine ⟨position, later, other, ?_, otherCloses⟩
        rw [List.getElem?_append_left (List.getElem?_eq_some_iff.mp found).1]
        exact found

/-- An obligation stays pending as long as no event closes it. -/
theorem pending_take {history : List Event} {first last : Nat} {opening : Event}
    (opened : history[first]? = some opening) (isOpening : opens opening = true)
    (order : first < last)
    (unclosed : ∀ position event, first < position → position < last →
      history[position]? = some event → closes event = false) :
    pending opens closes (history.take last) = true := by
  by_contra resolved
  have openedBefore : (history.take last)[first]? = some opening := by
    rw [List.getElem?_take_of_lt order]
    exact opened
  obtain ⟨position, later, event, found, closing⟩ :=
    exists_closed openedBefore isOpening (by simpa using resolved)
  have positionLt : position < last := by
    have inside := (List.getElem?_eq_some_iff.mp found).1
    rw [List.length_take] at inside
    omega
  rw [List.getElem?_take_of_lt positionLt] at found
  rw [unclosed position event later positionLt found] at closing
  cases closing

end Pending

end CarplayRgi
