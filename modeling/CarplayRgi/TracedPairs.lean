import CarplayRgi.TracedSystems

/-!
# Two systems side by side

Two operations agree when they take related states to related states with the
same events.  The labels of one run may have other names in the other, which
may also take labels of its own that change nothing.
-/

namespace CarplayRgi

namespace TracedOp

variable {State Other Event : Type*} {related : State → Other → Prop}

/-- From related states the operations lead to related states, with the same
events. -/
def Agree (related : State → Other → Prop) (operation : TracedOp State Event)
    (counterpart : TracedOp Other Event) : Prop :=
  ∀ state other, related state other →
    related (operation state).1 (counterpart other).1 ∧
      (operation state).2 = (counterpart other).2

theorem Agree.andThen {first second : TracedOp State Event} {first' second' : TracedOp Other Event}
    (firstAgree : Agree related first first') (secondAgree : Agree related second second') :
    Agree related (first.andThen second) (first'.andThen second') := by
  intro state other holds
  obtain ⟨between, sameFirst⟩ := firstAgree state other holds
  obtain ⟨after, sameSecond⟩ := secondAgree _ _ between
  refine ⟨after, ?_⟩
  dsimp only [TracedOp.andThen]
  rw [sameFirst, sameSecond]

theorem agree_silent {change : State → State} {change' : Other → Other}
    (respects : ∀ state other, related state other → related (change state) (change' other)) :
    Agree related (silent change : TracedOp State Event) (silent change') :=
  fun state other holds => ⟨respects state other holds, rfl⟩

/-- The operations agree after a change that the relation respects. -/
theorem Agree.after {operation : TracedOp State Event} {counterpart : TracedOp Other Event}
    (agree : Agree related operation counterpart) {change : State → State}
    {change' : Other → Other}
    (respects : ∀ state other, related state other → related (change state) (change' other)) :
    Agree related (fun state => operation (change state))
      (fun other => counterpart (change' other)) :=
  fun state other holds => agree _ _ (respects state other holds)

end TracedOp

/-- If every step is a step of another system or silent there, the runs are
runs of that system, with the events that are seen in it. -/
theorem TracedSystem.RunWithin.refines {State Label Event Spec Call Seen : Type*}
    {system : TracedSystem State Label Event} {spec : TracedSystem Spec Call Seen}
    {guard : State → List Event → Label → Prop} (view : State → Spec) (seen : Event → Option Seen)
    (holds : State → Prop) (atStart : holds system.init) (sameStart : view system.init = spec.init)
    (simulated : ∀ {state next trace events label}, holds state → guard state trace label →
      system.step state label = some (next, events) →
        holds next ∧ ((view next = view state ∧ events.filterMap seen = []) ∨
          ∃ call, spec.step (view state) call = some (view next, events.filterMap seen)))
    {state : State} {trace : List Event} (run : RunWithin system guard state trace) :
    holds state ∧ spec.Run (view state) (trace.filterMap seen) := by
  induction run with
  | start =>
      rw [sameStart]
      exact ⟨atStart, .start⟩
  | next _ allowed stepTo ih =>
      obtain ⟨before, reached⟩ := ih
      obtain ⟨after, matched⟩ := simulated before allowed stepTo
      refine ⟨after, ?_⟩
      rw [List.filterMap_append]
      rcases matched with ⟨same, quiet⟩ | ⟨call, callTo⟩
      · rw [same, quiet, List.append_nil]
        exact reached
      · exact .next reached trivial callTo

section Perform

variable {State Other Label Label' Event : Type*}

/-- Take the labels one after the other. -/
def performAll (step : Label → TracedOp State Event) : List Label → TracedOp State Event
  | [] => fun state => (state, [])
  | label :: labels => (step label).andThen (performAll step labels)

/-- Every label is allowed where it is taken. -/
def AllowedAll (step : Label → TracedOp State Event)
    (guard : State → List Event → Label → Prop) : List Label → State → List Event → Prop
  | [], _, _ => True
  | label :: labels, state, trace =>
      guard state trace label ∧
        AllowedAll step guard labels (step label state).1 (trace ++ (step label state).2)

instance decidableAllowedAll (step : Label → TracedOp State Event)
    (guard : State → List Event → Label → Prop)
    [∀ state trace label, Decidable (guard state trace label)] :
    ∀ labels state trace, Decidable (AllowedAll step guard labels state trace)
  | [], _, _ => isTrue trivial
  | label :: labels, state, trace =>
      have := decidableAllowedAll step guard labels (step label state).1
        (trace ++ (step label state).2)
      inferInstanceAs (Decidable (_ ∧ _))

theorem runWithin_performAll {init state : State} {step : Label → TracedOp State Event}
    {guard : State → List Event → Label → Prop} {trace : List Event}
    (run : TracedSystem.RunWithin ⟨init, fun state label => some (step label state)⟩ guard state
      trace)
    {labels : List Label} (allowed : AllowedAll step guard labels state trace) :
    TracedSystem.RunWithin ⟨init, fun state label => some (step label state)⟩ guard
      (performAll step labels state).1 (trace ++ (performAll step labels state).2) := by
  induction labels generalizing state trace with
  | nil => simpa [performAll] using run
  | cons label labels ih =>
      have stepTo : (⟨init, fun state label => some (step label state)⟩ :
          TracedSystem State Label Event).step state label = some (step label state) := rfl
      have later := ih (TracedSystem.RunWithin.next run allowed.1 stepTo) allowed.2
      rw [List.append_assoc] at later
      exact later

theorem runWithin_performAll_start {init : State} {step : Label → TracedOp State Event}
    {guard : State → List Event → Label → Prop} {labels : List Label}
    (allowed : AllowedAll step guard labels init []) :
    TracedSystem.RunWithin ⟨init, fun state label => some (step label state)⟩ guard
      (performAll step labels init).1 (performAll step labels init).2 :=
  runWithin_performAll .start allowed

/-- A run of a system whose steps are all enabled goes on. -/
theorem run_append {init state : State} {step : Label → TracedOp State Event} {trace : List Event}
    (run : TracedSystem.Run ⟨init, fun state label => some (step label state)⟩ state trace)
    (labels : List Label) :
    TracedSystem.Run ⟨init, fun state label => some (step label state)⟩
      (performAll step labels state).1 (trace ++ (performAll step labels state).2) := by
  refine runWithin_performAll run ?_
  clear run
  induction labels generalizing state trace with
  | nil => trivial
  | cons label labels ih => exact ⟨trivial, ih⟩

theorem run_performAll (init : State) (step : Label → TracedOp State Event) (labels : List Label) :
    TracedSystem.Run ⟨init, fun state label => some (step label state)⟩
      (performAll step labels init).1 (performAll step labels init).2 :=
  run_append .start labels

/-- The same labels under their names in either run, and further labels in the
second. -/
inductive SameLabels (same : Label → Label' → Prop) (extra : Label' → Prop) :
    List Label → List Label' → Prop
  | nil : SameLabels same extra [] []
  | both {label : Label} {label' : Label'} {labels : List Label} {labels' : List Label'} :
      same label label' → SameLabels same extra labels labels' →
      SameLabels same extra (label :: labels) (label' :: labels')
  | extra {label' : Label'} {labels : List Label} {labels' : List Label'} :
      extra label' → SameLabels same extra labels labels' →
      SameLabels same extra labels (label' :: labels')

variable {step : Label → TracedOp State Event} {step' : Label' → TracedOp Other Event}
  {same : Label → Label' → Prop} {extra : Label' → Prop}

/-- If every step agrees with its counterpart and the further labels change
nothing, the runs agree as far as the relation, which may know how many labels
have been taken, goes on to hold. -/
theorem SameLabels.agree {related : Nat → State → Other → Prop} {limit : Nat}
    (steps : ∀ count < limit, ∀ label label', same label label' →
      ∀ state other, related count state other →
        related (count + 1) (step label state).1 (step' label' other).1 ∧
          (step label state).2 = (step' label' other).2)
    (idle : ∀ count ≤ limit, ∀ label', extra label' → ∀ state other, related count state other →
      step' label' other = (other, []))
    {labels : List Label} {labels' : List Label'} (alike : SameLabels same extra labels labels')
    {count : Nat} (room : count + labels.length ≤ limit) {state : State} {other : Other}
    (holds : related count state other) :
    (performAll step labels state).2 = (performAll step' labels' other).2 := by
  induction alike generalizing count state other with
  | nil => rfl
  | both sameLabel _ ih =>
      rw [List.length_cons] at room
      obtain ⟨between, sameEvents⟩ := steps count (by omega) _ _ sameLabel state other holds
      have later := ih (by omega) between
      dsimp only [performAll, TracedOp.andThen]
      rw [sameEvents, later]
  | extra isExtra _ ih =>
      have nothing := idle count (by omega) _ isExtra state other holds
      simp only [performAll, TracedOp.andThen, nothing, List.nil_append]
      exact ih room holds

end Perform

end CarplayRgi
