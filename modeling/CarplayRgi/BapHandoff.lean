import CarplayRgi.BapBridge

/-!
# The handoff to the native guidance

Whenever no call is in progress, the gate is closed exactly for an active
receiver.  A thread that stops the renderer finds no active route.  It goes
through with the stop only before the next call, unless it has slept until the
generation has gone through all values of an `int`: then it meets its own
generation again, and stops the renderer after later starts.
-/

namespace CarplayRgi

/-- The calls of the receiver, by its activity before and after. -/
inductive CallsCase : Bool → Bool → List BridgeCall → Prop
  | none (active : Bool) : CallsCase active active []
  | starts (state : RouteGuidance.State) : CallsCase false true [.onStart, .update state]
  | updates (state : RouteGuidance.State) : CallsCase true true [.update state]
  | stops (active : Bool) : CallsCase active false [.onStop, .onShutdown]

/-- A receiver that does not run is not active, before and after every step. -/
theorem routeGuidanceStep_calls {rg : RouteGuidance}
    (idle : rg.running = false → rg.rgActive = false) (label : GuidanceLabel) :
    ((routeGuidanceStep label rg).1.running = false →
        (routeGuidanceStep label rg).1.rgActive = false) ∧
      CallsCase rg.rgActive (routeGuidanceStep label rg).1.rgActive
        (routeGuidanceStep label rg).2 := by
  cases label with
  | start =>
      dsimp only [routeGuidanceStep, RouteGuidance.start]
      split_ifs with running
      · exact ⟨idle, .none _⟩
      · rw [idle (by simpa using running)]
        exact ⟨fun _ => rfl, .none false⟩
  | stop =>
      dsimp only [routeGuidanceStep, RouteGuidance.stop]
      split_ifs
      · exact ⟨fun _ => rfl, .stops _⟩
      · exact ⟨idle, .none _⟩
  | frame type payload =>
      dsimp only [routeGuidanceStep, RouteGuidance.onFrame]
      split_ifs with taken
      · have runs : (RouteGuidance.absorb payload rg).running = true := by
          simp only [Bool.and_eq_true] at taken
          exact taken.1
        have sameActive : (RouteGuidance.absorb payload rg).rgActive = rg.rgActive := rfl
        rw [← sameActive]
        have outcome := RouteGuidance.dispatch_case (RouteGuidance.absorb payload rg)
        revert outcome
        generalize RouteGuidance.dispatch (RouteGuidance.absorb payload rg) = result
        obtain ⟨after, calls⟩ := result
        intro outcome
        cases outcome with
        | unchanged =>
            exact ⟨fun stopped => absurd (runs.symm.trans stopped) nofun, .none _⟩
        | disconnected => exact ⟨fun _ => rfl, .stops _⟩
        | activated _ _ _ inactive =>
            rw [inactive]
            exact ⟨fun stopped => absurd (runs.symm.trans stopped) nofun, .starts _⟩
        | deactivated => exact ⟨fun _ => rfl, .stops _⟩
        | updated _ _ active =>
            rw [active]
            exact ⟨fun stopped => absurd (runs.symm.trans stopped) nofun, .updates _⟩
        | silent _ _ inactive => exact ⟨fun _ => inactive, .none _⟩
      · exact ⟨idle, .none _⟩

/-- The thread of the generation was started by the last call, a stop. -/
def JustStopped (generation : Int) (history : List BapEvent) : Prop :=
  ∃ before since,
    history = before ++ .called .onStop :: .stopScheduled generation :: since ∧
      ∀ call, .called call ∉ since

/-- The gate, once installed, has the given position. -/
def BapBridge.Blocks (bridge : BapBridge) (blocked : Bool) : Prop :=
  ∀ position ∈ bridge.gatedService, position = blocked

/-- Where the receiver stands in its calls, and what holds of the bridge
there. -/
inductive HandoffStage (system : GuidanceSystem) (history : List BapEvent) : Prop
  | quiet : system.calls = [] → system.bridge.crRouteActive = system.rg.rgActive →
      system.bridge.Blocks system.rg.rgActive → HandoffStage system history
  | starting (state : RouteGuidance.State) : system.calls = [.onStart, .update state] →
      system.rg.rgActive = true → system.bridge.crRouteActive = false →
      HandoffStage system history
  | updating (state : RouteGuidance.State) : system.calls = [.update state] →
      system.rg.rgActive = true → system.bridge.crRouteActive = true →
      system.bridge.Blocks true → HandoffStage system history
  | stopping : system.calls = [.onStop, .onShutdown] → system.rg.rgActive = false →
      HandoffStage system history
  | shutting : system.calls = [.onShutdown] → system.rg.rgActive = false →
      system.bridge.crRouteActive = false →
      JustStopped system.bridge.crRouteStopGeneration history → HandoffStage system history

structure HandoffInvariant (system : GuidanceSystem) (history : List BapEvent) : Prop where
  idle : system.rg.running = false → system.rg.rgActive = false
  stage : HandoffStage system history

namespace BapBridge

variable {bridge : BapBridge}

theorem blocks_release (bridge : BapBridge) :
    (releaseNativeRouteGuidanceGate bridge).Blocks false := by
  intro position member
  obtain ⟨-, -, rfl⟩ := Option.mem_map.mp member
  rfl

theorem blocks_block (clusterReady : Bool) (bridge : BapBridge) :
    (blockNativeRouteGuidance clusterReady bridge).Blocks true := by
  intro position member
  dsimp only [blockNativeRouteGuidance] at member
  split_ifs at member
  · exact (Option.some.inj member).symm
  · cases member

theorem markActive_active (bridge : BapBridge) :
    bridge.markCustomRendererRouteActive.crRouteActive = true := by
  unfold markCustomRendererRouteActive
  split_ifs with active
  · exact active
  · rfl

theorem markActive_of_inactive (inactive : bridge.crRouteActive = false) :
    bridge.markCustomRendererRouteActive =
      { bridge with
        crRouteActive := true
        crRouteStopGeneration := wrapInt (bridge.crRouteStopGeneration + 1) } := by
  simp [markCustomRendererRouteActive, inactive]

/-- A thread that wakes up does nothing, or it finds no route and its own
generation. -/
theorem wakeStopThread_cases (generation : Int) (bridge : BapBridge) :
    wakeStopThread generation bridge =
        ({ bridge with stopThreads := bridge.stopThreads.erase generation }, []) ∨
      bridge.crRouteActive = false ∧ generation = bridge.crRouteStopGeneration ∧
        wakeStopThread generation bridge =
          (releaseNativeRouteGuidanceGate
            { bridge with stopThreads := bridge.stopThreads.erase generation },
            [.stopPerformed generation]) := by
  unfold wakeStopThread
  by_cases goesBack : (bridge.crRouteActive ||
      decide (generation ≠ bridge.crRouteStopGeneration)) = true
  · exact .inl (if_pos goesBack)
  · have current := goesBack
    simp only [Bool.or_eq_true, decide_eq_true_eq, not_or, Bool.not_eq_true, not_not] at current
    exact .inr ⟨current.1, current.2, if_neg goesBack⟩

end BapBridge

theorem JustStopped.snoc {generation : Int} {history : List BapEvent} {event : BapEvent}
    (just : JustStopped generation history) (noCall : ∀ call, event ≠ .called call) :
    JustStopped generation (history ++ [event]) := by
  obtain ⟨before, since, rfl, quiet⟩ := just
  refine ⟨before, since ++ [event], by simp, fun call member => ?_⟩
  rcases List.mem_append.mp member with earlier | last
  · exact quiet call earlier
  · exact noCall call (List.mem_singleton.mp last).symm

/-- The thread was scheduled, and was scheduled last, somewhere in the past. -/
theorem JustStopped.last {generation : Int} {history : List BapEvent}
    (just : JustStopped generation history) :
    ∃ before since, history = before ++ .stopScheduled generation :: since ∧
      .stopScheduled generation ∉ since := by
  obtain ⟨before, since, rfl, -⟩ := just
  have member : BapEvent.stopScheduled generation ∈
      (before ++ .called .onStop :: .stopScheduled generation :: since).reverse := by simp
  obtain ⟨after, earlier, split, notAfter⟩ := List.eq_append_cons_of_mem member
  refine ⟨earlier.reverse, after.reverse, ?_, by simpa using notAfter⟩
  rw [← List.reverse_reverse (before ++ _), split]
  simp

namespace HandoffInvariant

variable {system : GuidanceSystem} {history : List BapEvent}

theorem guidance (invariant : HandoffInvariant system history) (noCalls : system.calls = [])
    (label : GuidanceLabel) :
    HandoffInvariant
      { system with
        rg := (routeGuidanceStep label system.rg).1
        calls := (routeGuidanceStep label system.rg).2 }
      history := by
  obtain ⟨idle, callsCase⟩ := routeGuidanceStep_calls invariant.idle label
  refine ⟨idle, ?_⟩
  cases invariant.stage with
  | quiet _ route blocks =>
      generalize routeGuidanceStep label system.rg = entered at *
      obtain ⟨rg, calls⟩ := entered
      dsimp only at callsCase ⊢
      generalize activeEq : system.rg.rgActive = wasActive at *
      generalize isActiveEq : rg.rgActive = isActive at *
      cases callsCase with
      | none =>
          refine .quiet rfl ?_ ?_
          · rw [isActiveEq]
            exact route
          · rw [isActiveEq]
            exact blocks
      | starts state => exact .starting state rfl isActiveEq route
      | updates state => exact .updating state rfl isActiveEq route blocks
      | stops => exact .stopping rfl isActiveEq
  | starting _ calls | updating _ calls | stopping calls | shutting calls =>
      rw [noCalls] at calls
      cases calls

/-- A thread may wake up at any time.  While a route is active it does nothing;
else the gate is open, about to be closed by a start, or about to be opened by
a shutdown. -/
theorem wake (invariant : HandoffInvariant system history) (generation : Int) :
    HandoffInvariant
      { system with bridge := (BapBridge.wakeStopThread generation system.bridge).1 }
      (history ++ (BapBridge.wakeStopThread generation system.bridge).2) := by
  refine ⟨invariant.idle, ?_⟩
  rcases BapBridge.wakeStopThread_cases generation system.bridge with
    slept | ⟨noRoute, -, stops⟩
  · rw [slept, List.append_nil]
    cases invariant.stage with
    | quiet calls route blocks => exact .quiet calls route blocks
    | starting state calls active route => exact .starting state calls active route
    | updating state calls active route blocks => exact .updating state calls active route blocks
    | stopping calls inactive => exact .stopping calls inactive
    | shutting calls inactive route just => exact .shutting calls inactive route just
  · rw [stops]
    cases invariant.stage with
    | quiet calls route blocks =>
        refine .quiet calls route ?_
        rw [← route, noRoute]
        exact BapBridge.blocks_release _
    | starting state calls active route => exact .starting state calls active route
    | updating state calls active route blocks =>
        rw [noRoute] at route
        cases route
    | stopping calls inactive => exact .stopping calls inactive
    | shutting calls inactive route just =>
        exact .shutting calls inactive route (just.snoc (by simp))

/-- The call that the receiver makes next. -/
theorem call (invariant : HandoffInvariant system history) (car : CarFunctions)
    {next : BridgeCall} {rest : List BridgeCall} (calls : system.calls = next :: rest)
    (clusterReady : Bool) (utcMillis : Int) :
    HandoffInvariant
      { system with
        calls := rest
        bridge := (BapBridge.perform car clusterReady utcMillis next system.bridge).1 }
      (history ++ .called next ::
        (BapBridge.perform car clusterReady utcMillis next system.bridge).2) := by
  refine ⟨invariant.idle, ?_⟩
  cases invariant.stage with
  | quiet noCalls =>
      rw [noCalls] at calls
      cases calls
  | starting state starts active =>
      rw [starts] at calls
      cases calls
      refine .updating state rfl active ?_ ?_
      · exact BapBridge.markActive_active system.bridge
      · exact BapBridge.blocks_block clusterReady _
  | updating state updates active route blocks =>
      rw [updates] at calls
      cases calls
      rw [BapBridge.perform_update_of_active route]
      refine .quiet rfl ?_ ?_
      · exact route.trans active.symm
      · rw [active]
        exact blocks
  | stopping stops inactive =>
      rw [stops] at calls
      cases calls
      exact .shutting rfl inactive rfl ⟨history, [], rfl, by simp⟩
  | shutting shuts inactive route =>
      rw [shuts] at calls
      cases calls
      refine .quiet rfl inactive.symm ?_
      rw [inactive]
      exact BapBridge.blocks_release _

end HandoffInvariant

theorem guidanceSystem_handoff {car : CarFunctions} {system : GuidanceSystem}
    {history : List BapEvent} (run : (guidanceSystem car).Run system history) :
    HandoffInvariant system history := by
  refine run.invariant HandoffInvariant ?_ ?_
  · exact ⟨fun _ => rfl, .quiet rfl rfl nofun⟩
  · intro system next history events label invariant _ stepTo
    cases guidanceSystem_step_case stepTo with
    | guidance label noCalls =>
        rw [List.append_nil]
        exact invariant.guidance noCalls label
    | call clusterReady utcMillis calls => exact invariant.call car calls clusterReady utcMillis
    | wake generation => exact invariant.wake generation

/-- The generation that follows on this one after some starts, stops and
shutdowns. -/
theorem wrapInt_add_one (generation : Int) (advances : Nat) :
    wrapInt (wrapInt (generation + advances) + 1) =
      wrapInt (generation + (advances + 1 : Nat)) := by
  rw [wrapInt, wrapInt, wrapInt, Int.bmod_add_bmod]
  push_cast
  rw [add_assoc]

theorem wrapInt_add_ne {generation : Int} {advances : Nat} (advanced : advances ≠ 0)
    (few : advances < 2 ^ 32) : generation ≠ wrapInt (generation + advances) := by
  intro same
  unfold wrapInt at same
  have divides := @Int.dvd_bmod_sub_self (generation + advances) (2 ^ 32)
  rw [← same] at divides
  omega

/-- One event for the count of `advancesSince`. -/
def BapEvent.advances (generation : Int) (count : Nat) : BapEvent → Nat
  | .called (.update _) => count
  | .called _ => count + 1
  | .stopScheduled other => if other = generation then 0 else count
  | _ => count

/-- The starts, stops and shutdowns since a thread of the generation was last
scheduled. -/
def advancesSince (generation : Int) (history : List BapEvent) : Nat :=
  history.foldl (BapEvent.advances generation) 0

/-- No thread sleeps through as many starts, stops and shutdowns as an `int`
has values. -/
def WakesInTime (system : GuidanceSystem) (history : List BapEvent) : SystemLabel → Prop
  | .call _ _ => ∀ next ∈ system.calls.head?, ∀ generation ∈ system.bridge.stopThreads,
      advancesSince generation (history ++ [.called next]) < 2 ^ 32
  | _ => True

/-- A sleeping thread knows how far the generation has come since it was
scheduled. -/
structure Tracked (system : GuidanceSystem) (history : List BapEvent) (generation : Int) :
    Prop where
  current : system.bridge.crRouteStopGeneration =
    wrapInt (generation + advancesSince generation history)
  few : advancesSince generation history < 2 ^ 32
  advanced : advancesSince generation history = 0 → system.calls = [.onShutdown]

theorem advancesSince_append (generation : Int) (history events : List BapEvent) :
    advancesSince generation (history ++ events) =
      events.foldl (BapEvent.advances generation) (advancesSince generation history) :=
  List.foldl_append

theorem advancesSince_destinationCalls (car : CarFunctions) (utcMillis : Int)
    (state : RouteGuidance.State) (generation : Int) (history : List BapEvent) :
    advancesSince generation
        (history ++ .called (.update state) :: BapBridge.destinationCalls car utcMillis state) =
      advancesSince generation history := by
  rw [advancesSince_append]
  unfold BapBridge.destinationCalls
  split_ifs <;> rfl

namespace Tracked

variable {system : GuidanceSystem} {history : List BapEvent} {generation : Int}

/-- With no call in progress the generation has come further. -/
theorem guidance (tracked : Tracked system history generation) (noCalls : system.calls = [])
    (rg : RouteGuidance) (calls : List BridgeCall) :
    Tracked { system with rg := rg, calls := calls } history generation := by
  refine ⟨tracked.current, tracked.few, fun fresh => ?_⟩
  have shutting := tracked.advanced fresh
  rw [noCalls] at shutting
  cases shutting

theorem wake (tracked : Tracked system history generation) (waking : Int) :
    Tracked { system with bridge := (BapBridge.wakeStopThread waking system.bridge).1 }
      (history ++ (BapBridge.wakeStopThread waking system.bridge).2) generation := by
  rcases BapBridge.wakeStopThread_cases waking system.bridge with slept | ⟨-, -, stops⟩
  · rw [slept, List.append_nil]
    exact ⟨tracked.current, tracked.few, tracked.advanced⟩
  · have counts : advancesSince generation (history ++ [.stopPerformed waking]) =
        advancesSince generation history := by
      rw [advancesSince_append]
      rfl
    rw [stops]
    refine ⟨?_, ?_, ?_⟩
    · rw [counts]
      exact tracked.current
    · rw [counts]
      exact tracked.few
    · rw [counts]
      exact tracked.advanced

/-- A start, a stop or a shutdown, seen by a thread of another generation. -/
theorem advance (tracked : Tracked system history generation) {calls : List BridgeCall}
    {bridge : BapBridge} {events : List BapEvent}
    (counts : advancesSince generation (history ++ events) = advancesSince generation history + 1)
    (moves : bridge.crRouteStopGeneration = wrapInt (system.bridge.crRouteStopGeneration + 1))
    (few : advancesSince generation history + 1 < 2 ^ 32) :
    Tracked { system with calls := calls, bridge := bridge } (history ++ events) generation := by
  refine ⟨?_, counts ▸ few, fun fresh => ?_⟩
  · rw [counts, ← wrapInt_add_one, ← tracked.current]
    exact moves
  · rw [counts] at fresh
    cases fresh

end Tracked

namespace HandoffInvariant

variable {system : GuidanceSystem} {history : List BapEvent}

/-- The threads that sleep after the next call, with the one that a stop
schedules. -/
theorem tracked_call (invariant : HandoffInvariant system history) (car : CarFunctions)
    {next : BridgeCall} {rest : List BridgeCall} (calls : system.calls = next :: rest)
    (clusterReady : Bool) (utcMillis : Int)
    (tracked : ∀ generation ∈ system.bridge.stopThreads, Tracked system history generation)
    (few : ∀ generation ∈ system.bridge.stopThreads,
      advancesSince generation (history ++ [.called next]) < 2 ^ 32) :
    ∀ generation ∈ (BapBridge.perform car clusterReady utcMillis next system.bridge).1.stopThreads,
      Tracked
        { system with
          calls := rest
          bridge := (BapBridge.perform car clusterReady utcMillis next system.bridge).1 }
        (history ++ .called next ::
          (BapBridge.perform car clusterReady utcMillis next system.bridge).2)
        generation := by
  intro generation member
  simp only [advancesSince_append, List.foldl_cons, List.foldl_nil] at few
  cases invariant.stage with
  | quiet noCalls =>
      rw [noCalls] at calls
      cases calls
  | starting state starts _ route =>
      rw [starts] at calls
      cases calls
      have started : (BapBridge.perform car clusterReady utcMillis .onStart system.bridge).1 =
          BapBridge.blockNativeRouteGuidance clusterReady
            { system.bridge with
              crRouteActive := true
              crRouteStopGeneration := wrapInt (system.bridge.crRouteStopGeneration + 1) } :=
        congrArg (BapBridge.blockNativeRouteGuidance clusterReady)
          (BapBridge.markActive_of_inactive route)
      rw [started] at member ⊢
      exact (tracked generation member).advance (by rw [advancesSince_append]; rfl) rfl
        (few generation member)
  | updating state updates _ route =>
      rw [updates] at calls
      cases calls
      rw [BapBridge.perform_update_of_active route] at member ⊢
      have before := tracked generation member
      refine ⟨?_, ?_, fun fresh => ?_⟩
      · rw [advancesSince_destinationCalls]
        exact before.current
      · rw [advancesSince_destinationCalls]
        exact before.few
      · rw [advancesSince_destinationCalls] at fresh
        have shutting := before.advanced fresh
        rw [updates] at shutting
        cases shutting
  | stopping stops =>
      rw [stops] at calls
      cases calls
      by_cases own : wrapInt (system.bridge.crRouteStopGeneration + 1) = generation
      · have scheduled : advancesSince generation (history ++ .called .onStop ::
            (BapBridge.perform car clusterReady utcMillis .onStop system.bridge).2) = 0 := by
          rw [advancesSince_append]
          exact if_pos own
        refine ⟨?_, ?_, fun _ => rfl⟩
        · rw [scheduled, ← own]
          simp [BapBridge.perform, BapBridge.onStop, BapBridge.scheduleConfirmedCustomRendererStop,
            BapBridge.markCustomRendererRouteStopped, wrapInt]
        · rw [scheduled]
          decide
      · have older : generation ∈ system.bridge.stopThreads :=
          (List.mem_cons.mp member).resolve_left fun same => own same.symm
        refine (tracked generation older).advance ?_ rfl (few generation older)
        rw [advancesSince_append]
        exact if_neg own
  | shutting shuts =>
      rw [shuts] at calls
      cases calls
      exact (tracked generation member).advance (by rw [advancesSince_append]; rfl) rfl
        (few generation member)

end HandoffInvariant

/-- A thread that wakes up in time and meets its own generation was started by
the last call. -/
theorem Tracked.just {system : GuidanceSystem} {history : List BapEvent} {generation : Int}
    (tracked : Tracked system history generation) (invariant : HandoffInvariant system history)
    (current : generation = system.bridge.crRouteStopGeneration) :
    system.rg.rgActive = false ∧ JustStopped generation history := by
  have fresh : advancesSince generation history = 0 := by
    by_contra advanced
    exact wrapInt_add_ne advanced tracked.few (current.trans tracked.current)
  have shutting := tracked.advanced fresh
  cases invariant.stage with
  | quiet calls | starting _ calls | updating _ calls | stopping calls =>
      rw [shutting] at calls
      cases calls
  | shutting _ inactive _ just =>
      rw [current]
      exact ⟨inactive, just⟩

theorem guidanceSystem_tracked {car : CarFunctions} {system : GuidanceSystem}
    {history : List BapEvent} (run : (guidanceSystem car).RunWithin WakesInTime system history) :
    HandoffInvariant system history ∧
      ∀ generation ∈ system.bridge.stopThreads, Tracked system history generation := by
  refine run.invariant (fun system history => HandoffInvariant system history ∧
    ∀ generation ∈ system.bridge.stopThreads, Tracked system history generation) ?_ ?_
  · exact ⟨guidanceSystem_handoff .start, nofun⟩
  · intro system next history events label before inTime stepTo
    obtain ⟨invariant, tracked⟩ := before
    cases guidanceSystem_step_case stepTo with
    | guidance label noCalls =>
        rw [List.append_nil]
        exact ⟨invariant.guidance noCalls label,
          fun generation member => (tracked generation member).guidance noCalls _ _⟩
    | call clusterReady utcMillis calls =>
        refine ⟨invariant.call car calls clusterReady utcMillis,
          invariant.tracked_call car calls clusterReady utcMillis tracked (inTime _ ?_)⟩
        rw [calls]
        rfl
    | wake waking =>
        refine ⟨invariant.wake waking, fun generation member => ?_⟩
        refine (tracked generation ?_).wake waking
        rcases BapBridge.wakeStopThread_cases waking system.bridge with slept | ⟨-, -, stops⟩
        · rw [slept] at member
          exact List.mem_of_mem_erase member
        · rw [stops] at member
          exact List.mem_of_mem_erase member

/-- The handoff in every run: with no call in progress an installed gate is
closed exactly for an active receiver, and a thread that stops the renderer
finds no route in the bridge.  Where every thread wakes up in time, it finds no
active receiver either, and no call has been made since the stop that has
started it. -/
theorem handoff_safe {car : CarFunctions} {system : GuidanceSystem} {history : List BapEvent}
    (run : (guidanceSystem car).Run system history) :
    (system.calls = [] → ∀ blockRouteGuidance ∈ system.bridge.gatedService,
        blockRouteGuidance = system.rg.rgActive) ∧
      ∀ generation next events,
        (guidanceSystem car).step system (.wake generation) = some (next, events) →
        .stopPerformed generation ∈ events →
          system.bridge.crRouteActive = false ∧
            ((guidanceSystem car).RunWithin WakesInTime system history →
              system.rg.rgActive = false ∧ JustStopped generation history) := by
  have invariant := guidanceSystem_handoff run
  refine ⟨fun noCalls => ?_, fun generation next events stepTo performs => ?_⟩
  · cases invariant.stage with
    | quiet _ _ blocks => exact blocks
    | starting _ calls | updating _ calls | stopping calls | shutting calls =>
        rw [noCalls] at calls
        cases calls
  · cases guidanceSystem_step_case stepTo with
    | wake _ sleeps =>
        rcases BapBridge.wakeStopThread_cases generation system.bridge with
          slept | ⟨noRoute, current, -⟩
        · rw [slept] at performs
          cases performs
        · refine ⟨noRoute, fun inTime => ?_⟩
          exact ((guidanceSystem_tracked inTime).2 generation sleeps).just invariant current

/-- A session with an installed gate and one frame, up to its stop. -/
def handoffLabels (text : String) : List SystemLabel :=
  [.guidance .start, .guidance (.frame evtRgdUpdate (Utf8Text.encode text.toList)),
    .call true 0, .call true 0, .guidance .stop, .call true 0]

/-- The shutdown of the session, and another one. -/
def secondSessionLabels : List SystemLabel :=
  .call true 0 :: handoffLabels "route_state:n:2\n" ++ [.call true 0]

def BapEvent.isStart : BapEvent → Bool
  | .called .onStart => true
  | _ => false

def BapEvent.schedules (generation : Int) : BapEvent → Bool
  | .stopScheduled other => decide (other = generation)
  | _ => false

theorem BapEvent.eq_of_isStart {event : BapEvent} (isStart : event.isStart = true) :
    event = .called .onStart := by
  cases event with
  | called call =>
      cases call with
      | onStart => rfl
      | onStop | onShutdown | update => cases isStart
  | _ => cases isStart

/-- The receiver rests, a later start has been called, and the thread of
generation 2 is the one from before. -/
def restsAfterStart (result : GuidanceSystem × List BapEvent) : Bool :=
  result.1.calls.isEmpty && !result.1.rg.running && !result.1.bridge.crRouteActive &&
    decide (result.1.bridge.crRouteStopGeneration = 6) &&
    decide (2 ∈ result.1.bridge.stopThreads) &&
    result.2.any BapEvent.isStart && !result.2.any (BapEvent.schedules 2)

/-- After the stop of the first session its thread sleeps with generation 2, and
still does so after the second session. -/
theorem exists_handoff_run : ∃ system history,
    (guidanceSystem plainCar).RunWithin WakesInTime system history ∧
      system.bridge.gatedService = some true ∧ 2 ∈ system.bridge.stopThreads ∧
      system.bridge.crRouteActive = false ∧ system.bridge.crRouteStopGeneration = 2 ∧
      ((guidanceSystem plainCar).replay (fun _ _ => true) system secondSessionLabels).any
        restsAfterStart = true := by
  obtain ⟨system, history, run, checked⟩ := (guidanceSystem plainCar).exists_runWithin_of_replay
    (fun system _ => system.bridge.stopThreads.isEmpty)
    (handoffLabels "route_state:n:1\n")
    (fun result => decide (result.1.bridge.gatedService = some true) &&
      decide (2 ∈ result.1.bridge.stopThreads) &&
      decide (result.1.bridge.crRouteActive = false) &&
      decide (result.1.bridge.crRouteStopGeneration = 2) &&
      ((guidanceSystem plainCar).replay (fun _ _ => true) result.1 secondSessionLabels).any
        restsAfterStart)
    (by decide +kernel)
  have inTime : (guidanceSystem plainCar).RunWithin WakesInTime system history := by
    refine run.imp fun state trace label noThreads => ?_
    cases label with
    | call clusterReady utcMillis =>
        intro next _ generation member
        rw [List.isEmpty_iff.mp noThreads] at member
        cases member
    | guidance | wake => trivial
  simp only [Bool.and_eq_true, decide_eq_true_eq] at checked
  obtain ⟨⟨⟨⟨gated, sleeps⟩, noRoute⟩, generation⟩, later⟩ := checked
  exact ⟨system, history, inTime, gated, sleeps, noRoute, generation, later⟩

theorem guidanceSystem_performs (car : CarFunctions) {system : GuidanceSystem} {generation : Int}
    (sleeps : generation ∈ system.bridge.stopThreads)
    (noRoute : system.bridge.crRouteActive = false)
    (current : system.bridge.crRouteStopGeneration = generation) :
    ∃ next, (guidanceSystem car).step system (.wake generation) =
      some (next, [.stopPerformed generation]) := by
  simp [guidanceSystem, guidanceSystemStep, BapBridge.wakeStopThread, sleeps, noRoute, current]

/-- The thread of this stop may wake up before the shutdown, and stops the
renderer. -/
theorem handoff_safe_session : ∃ system history next events,
    (guidanceSystem plainCar).Run system history ∧ system.bridge.gatedService = some true ∧
      (guidanceSystem plainCar).step system (.wake 2) = some (next, events) ∧
      .stopPerformed 2 ∈ events ∧ system.bridge.crRouteActive = false ∧
      system.rg.rgActive = false ∧ JustStopped 2 history := by
  obtain ⟨system, history, run, gated, sleeps, noRoute, current, -⟩ := exists_handoff_run
  obtain ⟨next, woken⟩ := guidanceSystem_performs plainCar sleeps noRoute current
  have safe := (handoff_safe run.run).2 2 next _ woken (List.mem_singleton.mpr rfl)
  exact ⟨system, history, next, _, run.run, gated, woken, by simp, safe.1, safe.2 run⟩

/-- A receiver that has stopped, with the generation of the bridge and the
thread of generation 2 still asleep. -/
structure Resting (system : GuidanceSystem) (generation : Int) : Prop where
  noCalls : system.calls = []
  stopped : system.rg.running = false
  noRoute : system.bridge.crRouteActive = false
  current : system.bridge.crRouteStopGeneration = wrapInt generation
  sleeps : 2 ∈ system.bridge.stopThreads

namespace Resting

variable {car : CarFunctions} {system : GuidanceSystem} {history : List BapEvent}
  {generation : Int}

/-- A start and a stop without any route between them. -/
theorem session (resting : Resting system generation)
    (run : (guidanceSystem car).Run system history) :
    ∃ next later, (guidanceSystem car).Run next (history ++ later) ∧
      Resting next (generation + 2) ∧
      ∀ other, .stopScheduled other ∈ later → other = wrapInt (generation + 1) := by
  obtain ⟨rg, calls, bridge⟩ := system
  obtain ⟨rfl, stopped, noRoute, current, sleeps⟩ := resting
  dsimp only at stopped noRoute current sleeps
  have replayed : (guidanceSystem car).replay (fun _ _ => true) ⟨rg, [], bridge⟩
      [.guidance .start, .guidance .stop, .call false 0, .call false 0] =
        some (⟨{ rg with running := false, rgActive := false, hasRouteUpdate := false }, [],
            (BapBridge.onShutdown car (BapBridge.onStop bridge).1).1⟩,
          .called .onStop :: (BapBridge.onStop bridge).2 ++
            .called .onShutdown :: (BapBridge.onShutdown car (BapBridge.onStop bridge).1).2) := by
    simp [TracedSystem.replay, guidanceSystem, guidanceSystemStep, routeGuidanceStep,
      RouteGuidance.start, RouteGuidance.stop, stopped, BapBridge.perform]
  have later := TracedSystem.runWithin_of_replay_from (run.imp fun _ _ _ _ => rfl) replayed
  refine ⟨_, _, later.run, ⟨rfl, rfl, rfl, ?_, List.mem_cons_of_mem _ sleeps⟩,
    fun other member => ?_⟩
  · dsimp [BapBridge.onShutdown, BapBridge.onStop, BapBridge.releaseNativeRouteGuidanceGate,
      BapBridge.cancelConfirmedCustomRendererStop, BapBridge.scheduleConfirmedCustomRendererStop,
      BapBridge.markCustomRendererRouteStopped]
    rw [current]
    simp [wrapInt, add_assoc]
  · simp [BapBridge.onShutdown, BapBridge.onStop, BapBridge.scheduleConfirmedCustomRendererStop,
      BapBridge.markCustomRendererRouteStopped, BapBridge.sendDistanceToDestinationRaw] at member
    rw [member, current]
    simp [wrapInt]

/-- Any number of such sessions; their threads have other generations. -/
theorem sessions (resting : Resting system generation)
    (run : (guidanceSystem car).Run system history) (count : Nat) :
    ∃ next later, (guidanceSystem car).Run next (history ++ later) ∧
      Resting next (generation + 2 * count) ∧
      ∀ other, .stopScheduled other ∈ later →
        ∃ earlier : Nat, other = wrapInt (generation + 2 * earlier + 1) := by
  induction count with
  | zero => exact ⟨system, [], by simpa using run, by simpa using resting, nofun⟩
  | succ count ih =>
      obtain ⟨before, events, runBefore, restingBefore, scheduledBefore⟩ := ih
      obtain ⟨next, later, runNext, restingNext, scheduled⟩ := restingBefore.session runBefore
      refine ⟨next, events ++ later, ?_, ?_, fun other member => ?_⟩
      · rw [← List.append_assoc]
        exact runNext
      · have sum : generation + 2 * (count + 1 : Nat) = generation + 2 * count + 2 := by omega
        rw [sum]
        exact restingNext
      · rcases List.mem_append.mp member with earlier | last
        · exact scheduledBefore other earlier
        · exact ⟨count, scheduled other last⟩

end Resting

/-- A thread that sleeps until the generation has gone through all values of an
`int` stops the renderer although starts have been called since it was
scheduled. -/
theorem late_thread_stops : ∃ system before since next events,
    (guidanceSystem plainCar).Run system (before ++ .stopScheduled 2 :: since) ∧
      .called .onStart ∈ since ∧ .stopScheduled 2 ∉ since ∧
      (guidanceSystem plainCar).step system (.wake 2) = some (next, events) ∧
      .stopPerformed 2 ∈ events := by
  obtain ⟨first, history, inTime, -, sleeps, -, current, rests⟩ := exists_handoff_run
  obtain ⟨invariant, tracked⟩ := guidanceSystem_tracked inTime
  obtain ⟨before, since, rfl, quiet⟩ := (tracked 2 sleeps).just invariant current.symm |>.2.last
  obtain ⟨second, later, run, checked⟩ :=
    TracedSystem.exists_run_of_replay_from inTime.run secondSessionLabels restsAfterStart rests
  simp only [restsAfterStart, Bool.and_eq_true, decide_eq_true_eq, Bool.not_eq_true',
    List.isEmpty_iff] at checked
  obtain ⟨⟨⟨⟨⟨⟨noCalls, stopped⟩, noRoute⟩, generation⟩, stillSleeps⟩, started⟩, notScheduled⟩ :=
    checked
  have resting : Resting second 6 := ⟨noCalls, stopped, noRoute, generation, stillSleeps⟩
  -- Every session without a route takes the generation two further, and 6 back to 2.
  obtain ⟨last, events, lastRun, lastResting, scheduled⟩ := resting.sessions run (2 ^ 31 - 2)
  have wrapped : last.bridge.crRouteStopGeneration = 2 := lastResting.current
  obtain ⟨next, woken⟩ :=
    guidanceSystem_performs plainCar lastResting.sleeps lastResting.noRoute wrapped
  refine ⟨last, before, since ++ later ++ events, next, _, by simpa using lastRun, ?_, ?_, woken,
    List.mem_singleton.mpr rfl⟩
  · obtain ⟨event, member, isStart⟩ := List.any_eq_true.mp started
    rw [BapEvent.eq_of_isStart isStart] at member
    simp [member]
  · intro member
    rcases List.mem_append.mp member with middle | late
    · rcases List.mem_append.mp middle with early | inLater
      · exact quiet early
      · have noSchedule := List.any_eq_false.mp notScheduled _ inLater
        simp [BapEvent.schedules] at noSchedule
    · obtain ⟨earlier, same⟩ := scheduled 2 late
      unfold wrapInt at same
      have divides := @Int.dvd_bmod_sub_self (6 + 2 * (earlier : Int) + 1) (2 ^ 32)
      rw [← same] at divides
      omega

end CarplayRgi
