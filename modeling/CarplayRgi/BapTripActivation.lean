import CarplayRgi.BapTripCalls

/-!
# The trip after an activation

As long as every frame that starts a session brings a new value for each call
that the state had a value for before, an active receiver has told the bridge
its values since the start.
-/

namespace CarplayRgi

open RouteGuidance

/-- A frame that starts a session brings new values. -/
def BringsTrip (system : GuidanceSystem) : SystemLabel → Prop
  | .guidance (.frame type payload) =>
      Activates system.rg type payload → ∀ call : TripCall, call.IsSet system.rg.state.route →
        call.Changes (parseText payload) system.rg.state.route
  | _ => True

instance (system : GuidanceSystem) (label : SystemLabel) : Decidable (BringsTrip system label) :=
  match label with
  | .guidance (.frame type payload) =>
      inferInstanceAs (Decidable (Activates system.rg type payload →
        ∀ call : TripCall, call.IsSet system.rg.state.route →
          call.Changes (parseText payload) system.rg.state.route))
  | .guidance .start | .guidance .stop | .call _ _ | .wake _ => inferInstanceAs (Decidable True)

/-- Every value has been told since the latest start. -/
def TripTold (car : CarFunctions) (route : RouteFields) (history : List BapEvent) : Prop :=
  ∀ call : TripCall, call.IsSet route → LastSinceStart call (call.event car route) history

/-- Where the receiver stands in its calls, and what the bridge has been told. -/
inductive TripStage (car : CarFunctions) (system : GuidanceSystem) (history : List BapEvent) : Prop
  | quiet : system.calls = [] →
      (system.rg.rgActive = true →
        .called .onStart ∈ history ∧ TripTold car system.rg.state.route history) →
      TripStage car system history
  | starting (state : State) : system.calls = [.onStart, .update state] →
      state.route = system.rg.state.route →
      (∀ call : TripCall, call.IsSet state.route → ¬ Disjoint call.flags state.dirtyMask) →
      TripStage car system history
  | updating (state : State) : system.calls = [.update state] →
      state.route = system.rg.state.route → .called .onStart ∈ history →
      (∀ call : TripCall, call.IsSet state.route → Disjoint call.flags state.dirtyMask →
        LastSinceStart call (call.event car state.route) history) →
      TripStage car system history
  | stopping : (∀ call ∈ system.calls, call = .onStop ∨ call = .onShutdown) →
      system.rg.rgActive = false → TripStage car system history

variable {car : CarFunctions} {system : GuidanceSystem} {history : List BapEvent}

/-- A frame without the flags of a call leaves the call as it has been told. -/
theorem TripTold.absorb {rg : RouteGuidance} (told : TripTold car rg.state.route history)
    {payload : List UInt8} {call : TripCall}
    (isSet : call.IsSet (absorb payload rg).state.route)
    (clean : Disjoint call.flags (absorb payload rg).state.dirtyMask) :
    LastSinceStart call (call.event car (absorb payload rg).state.route) history := by
  obtain ⟨setIff, eventEq⟩ := absorb_unchanged clean
  rw [eventEq car]
  exact told call (setIff.mp isSet)

namespace TripStage

theorem told (stage : TripStage car system history) (noCalls : system.calls = [])
    (active : system.rg.rgActive = true) :
    .called .onStart ∈ history ∧ TripTold car system.rg.state.route history := by
  cases stage with
  | quiet _ told => exact told active
  | starting _ calls | updating _ calls =>
      rw [noCalls] at calls
      cases calls
  | stopping _ inactive => exact absurd (inactive.symm.trans active) nofun

/-- A frame that reaches a running receiver. -/
theorem dispatch (stage : TripStage car system history) (noCalls : system.calls = [])
    {type : Nat} {payload : List UInt8} (taken : system.rg.running = true ∧ type = evtRgdUpdate)
    (brings : BringsTrip system (.guidance (.frame type payload))) :
    TripStage car
      { system with
        rg := (RouteGuidance.dispatch (absorb payload system.rg)).1
        calls := (RouteGuidance.dispatch (absorb payload system.rg)).2 }
      history := by
  have outcome := dispatch_case (absorb payload system.rg)
  generalize RouteGuidance.dispatch (absorb payload system.rg) = result at outcome
  obtain ⟨after, calls⟩ := result
  dsimp only at outcome ⊢
  cases outcome with
  | unchanged clean =>
      refine .quiet rfl fun active => ?_
      obtain ⟨started, toldBefore⟩ := stage.told noCalls active
      refine ⟨started, fun call isSet => toldBefore.absorb isSet ?_⟩
      rw [clean]
      exact Finset.disjoint_empty_right _
  | disconnected | deactivated => exact .stopping (by simp) rfl
  | activated noReason delta wants inactive =>
      refine .starting _ rfl rfl fun call isSet clean => ?_
      have isSetBefore := (absorb_unchanged clean).1.mp isSet
      have changes := brings ⟨taken, inactive, noReason, delta, wants⟩ call isSetBefore
      exact absorb_changed changes clean
  | updated _ _ active =>
      obtain ⟨started, toldBefore⟩ := stage.told noCalls active
      exact .updating _ rfl rfl started fun call isSet clean => toldBefore.absorb isSet clean
  | silent _ _ inactive => exact .stopping (by simp) inactive

theorem guidance (stage : TripStage car system history) (noCalls : system.calls = [])
    {label : GuidanceLabel} (brings : BringsTrip system (.guidance label)) :
    TripStage car
      { system with
        rg := (routeGuidanceStep label system.rg).1
        calls := (routeGuidanceStep label system.rg).2 }
      history := by
  cases label with
  | start =>
      dsimp only [routeGuidanceStep, start]
      split_ifs
      · exact .quiet rfl (stage.told noCalls)
      · exact .stopping (by simp) rfl
  | stop =>
      dsimp only [routeGuidanceStep, stop]
      split_ifs
      · exact .stopping (by simp) rfl
      · exact .quiet rfl (stage.told noCalls)
  | frame type payload =>
      dsimp only [routeGuidanceStep, onFrame]
      split_ifs with taken
      · exact stage.dispatch noCalls (by simpa using taken) brings
      · exact .quiet rfl (stage.told noCalls)

/-- Events that have nothing to do with the trip. -/
theorem unrelated (stage : TripStage car system history) (bridge : BapBridge)
    {events : List BapEvent} (unrelated : ∀ call : TripCall, Unrelated call events) :
    TripStage car { system with bridge := bridge } (history ++ events) := by
  cases stage with
  | quiet calls told =>
      refine .quiet calls fun active => ?_
      obtain ⟨started, values⟩ := told active
      exact ⟨List.mem_append_left events started,
        fun call isSet => (values call isSet).append (unrelated call)⟩
  | starting state calls route dirty => exact .starting state calls route dirty
  | updating state calls route started values =>
      exact .updating state calls route (List.mem_append_left events started)
        fun call isSet clean => (values call isSet clean).append (unrelated call)
  | stopping calls inactive => exact .stopping calls inactive

theorem wake (stage : TripStage car system history) (generation : Int) :
    TripStage car
      { system with bridge := (BapBridge.wakeStopThread generation system.bridge).1 }
      (history ++ (BapBridge.wakeStopThread generation system.bridge).2) := by
  refine stage.unrelated _ fun call => ?_
  dsimp only [BapBridge.wakeStopThread]
  split_ifs
  · exact ⟨by simp, by simp⟩
  · refine ⟨by simp, fun other member => ?_⟩
    rw [List.mem_singleton.mp member]
    cases call <;> rfl

/-- The call that the receiver makes next. -/
theorem call (stage : TripStage car system history) {next : BridgeCall} {rest : List BridgeCall}
    (calls : system.calls = next :: rest) (clusterReady : Bool) (utcMillis : Int) :
    TripStage car
      { system with
        calls := rest
        bridge := (BapBridge.perform car clusterReady utcMillis next system.bridge).1 }
      (history ++ .called next ::
        (BapBridge.perform car clusterReady utcMillis next system.bridge).2) := by
  cases stage with
  | quiet noCalls =>
      rw [noCalls] at calls
      cases calls
  | starting state starts route dirty =>
      rw [starts] at calls
      cases calls
      exact .updating state rfl route (by simp) fun call isSet clean =>
        absurd clean (dirty call isSet)
  | updating state updates route started values =>
      rw [updates] at calls
      cases calls
      have noCall : ∀ call : TripCall, call.isCall (.called (.update state)) = false := by
        intro call
        cases call <;> rfl
      refine .quiet rfl fun _ => ⟨List.mem_append_left _ started, fun call isSet => ?_⟩
      dsimp only at isSet ⊢
      rw [← route] at isSet ⊢
      by_cases clean : Disjoint call.flags state.dirtyMask
      · refine (values call isSet clean).append ?_
        have sent := BapBridge.destinationCalls_unrelated car utcMillis clean
        exact ⟨fun member => (List.mem_cons.mp member).elim nofun sent.1,
          List.forall_mem_cons.mpr ⟨noCall call, sent.2⟩⟩
      · obtain ⟨since, later, sent, noLater⟩ :=
          BapBridge.destinationCalls_sends car utcMillis isSet clean
        have noStart := BapBridge.onStart_not_mem_destinationCalls car utcMillis state
        simp only [BapBridge.perform, BapBridge.update]
        rw [sent] at noStart ⊢
        rw [← List.cons_append]
        refine lastSinceStart_of_mem started ?_ noLater
        rw [List.cons_append]
        exact fun member => (List.mem_cons.mp member).elim nofun noStart
  | stopping closes inactive =>
      refine .stopping (fun other member => closes other ?_) inactive
      rw [calls]
      exact List.mem_cons_of_mem _ member

end TripStage

theorem tripStage_of_run
    (run : (guidanceSystem car).RunWithin
      (fun system _ label => decide (BringsTrip system label) = true) system history) :
    TripStage car system history := by
  refine run.invariant (TripStage car) ?_ ?_
  · exact .stopping (by simp [guidanceSystem]) rfl
  · intro system next history events label stage brings stepTo
    cases guidanceSystem_step_case stepTo with
    | guidance label noCalls =>
        rw [List.append_nil]
        exact stage.guidance noCalls (of_decide_eq_true brings)
    | call clusterReady utcMillis calls => exact stage.call calls clusterReady utcMillis
    | wake generation => exact stage.wake generation

/-- Where every frame that starts a session brings new values, an active
receiver with no call in progress has told each value that is set, and told it
last, since the latest start. -/
theorem trip_told_since_start
    (run : (guidanceSystem car).RunWithin
      (fun system _ label => decide (BringsTrip system label) = true) system history)
    (noCalls : system.calls = []) (active : system.rg.rgActive = true)
    {call : TripCall} (isSet : call.IsSet system.rg.state.route) :
    LastSinceStart call (call.event car system.rg.state.route) history :=
  ((tripStage_of_run run).told noCalls active).2 call isSet

/-- The first frame of a session with a destination. -/
def destinationLabels : List SystemLabel :=
  [.guidance .start,
    .guidance (.frame evtRgdUpdate
      (Utf8Text.encode "route_state:n:1\ndestination:s:Home\n".toList)),
    .call true 0, .call true 0]

theorem trip_told_since_start_of_destination : ∃ system history,
    (guidanceSystem plainCar).RunWithin
      (fun system _ label => decide (BringsTrip system label) = true) system history ∧
    system.rg.state.route.destination = some "Home".toList ∧
    LastSinceStart .destinationInfo (TripCall.destinationInfo.event plainCar system.rg.state.route)
      history := by
  obtain ⟨system, history, run, checked⟩ :=
    (guidanceSystem plainCar).exists_runWithin_of_replay
      (fun system label => decide (BringsTrip system label)) destinationLabels
      (fun result => result.1.calls.isEmpty && result.1.rg.rgActive &&
        decide (result.1.rg.state.route.destination = some "Home".toList))
      (by decide +kernel)
  simp only [Bool.and_eq_true, decide_eq_true_eq, List.isEmpty_iff] at checked
  obtain ⟨⟨noCalls, active⟩, destination⟩ := checked
  have isSet : TripCall.destinationInfo.IsSet system.rg.state.route := by
    simp [TripCall.IsSet, destination]
  exact ⟨system, history, run, destination, trip_told_since_start run noCalls active isSet⟩

/-- The destination of a route that is not yet visible, and the frame that
makes the route visible. -/
def hiddenRouteLabels : List SystemLabel :=
  [.guidance .start,
    .guidance (.frame evtRgdUpdate (Utf8Text.encode
      "route_state:n:1\nvisible_in_app:n:0\ndestination:s:Home\n".toList)),
    .guidance (.frame evtRgdUpdate (Utf8Text.encode
      "route_state:n:1\nvisible_in_app:n:1\ndestination:s:Home\n".toList)),
    .call true 0, .call true 0]

/-- The session of a route that was hidden at first begins without its
destination. -/
theorem hidden_destination_not_told : ¬ ∀ (car : CarFunctions) (system : GuidanceSystem)
    (history : List BapEvent), (guidanceSystem car).Run system history → system.calls = [] →
    system.rg.rgActive = true → ∀ call : TripCall, call.IsSet system.rg.state.route →
      LastSinceStart call (call.event car system.rg.state.route) history := by
  intro told
  obtain ⟨system, history, run, checked⟩ := (guidanceSystem plainCar).exists_run_of_replay
    hiddenRouteLabels
    (fun result => result.1.calls.isEmpty && result.1.rg.rgActive &&
      result.1.rg.state.route.destination.isSome &&
      result.2.all fun event => !TripCall.destinationInfo.isCall event)
    (by decide +kernel)
  simp only [Bool.and_eq_true, List.isEmpty_iff, List.all_eq_true, Bool.not_eq_true'] at checked
  obtain ⟨⟨⟨noCalls, active⟩, destination⟩, noCall⟩ := checked
  obtain ⟨before, since, later, rfl, -⟩ := told plainCar system history run noCalls active
    .destinationInfo (Option.isSome_iff_ne_none.mp destination)
  have absent := noCall (TripCall.destinationInfo.event plainCar system.rg.state.route) (by simp)
  cases absent

end CarplayRgi
