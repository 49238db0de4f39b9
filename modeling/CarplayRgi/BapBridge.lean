import CarplayRgi.JavaText
import CarplayRgi.RouteGuidanceFrames

/-!
# The BAP bridge

The bridge turns the calls of the receiver into BAP calls, closes a gate in
front of the native guidance for the time of a session, and leaves the custom
renderer to a thread that stops it some time after the session.  The thread
remembers the generation in which it was started; generations are values of an
`int` and wrap around.
-/

namespace CarplayRgi

/-- The functions of the car: its formatter, its clock conversion and its
time format. -/
structure CarFunctions where
  formatDistance : Int → Int × Int
  convertUtcToLocalMs : Int → Int
  timeFormat : Int

/-- A car that shows meters and has the time of the clock. -/
def plainCar : CarFunctions := ⟨fun meters => (meters, 0), fun utcMs => utcMs, 0⟩

/-- What the bridge does.  A call is recorded when it is made; the function
numbers are those of BAP. -/
inductive BapEvent where
  | called (call : BridgeCall)
  | updateRGStatus (status : Int)
  | updateActiveRGType (type : Int)
  | updateDistanceToDestination (value unit : Int) (isStopOver : Bool)
  | updateTimeToDestination (timeInfoType timeFormat timeVal : Int)
  | updateDestinationInfo (destination : List Nat)
  | stopScheduled (generation : Int)
  | stopPerformed (generation : Int)

structure BapBridge where
  crRouteActive : Bool
  crRouteStopGeneration : Int
  -- `blockRouteGuidance` of the gate, once it is installed.
  gatedService : Option Bool
  -- The generations of the `CRRouteStop` threads that are still asleep.
  stopThreads : List Int

namespace BapBridge

def fresh : BapBridge := ⟨false, 0, none, []⟩

def markCustomRendererRouteActive (bridge : BapBridge) : BapBridge :=
  if bridge.crRouteActive then bridge
  else
    { bridge with
      crRouteActive := true
      crRouteStopGeneration := wrapInt (bridge.crRouteStopGeneration + 1) }

def markCustomRendererRouteStopped (bridge : BapBridge) : BapBridge :=
  { bridge with
    crRouteActive := false
    crRouteStopGeneration := wrapInt (bridge.crRouteStopGeneration + 1) }

/-- The same as a stop. -/
def cancelConfirmedCustomRendererStop (bridge : BapBridge) : BapBridge :=
  { bridge with
    crRouteActive := false
    crRouteStopGeneration := wrapInt (bridge.crRouteStopGeneration + 1) }

def scheduleConfirmedCustomRendererStop : TracedOp BapBridge BapEvent := fun bridge =>
  ({ bridge with stopThreads := bridge.crRouteStopGeneration :: bridge.stopThreads },
    [.stopScheduled bridge.crRouteStopGeneration])

def releaseNativeRouteGuidanceGate (bridge : BapBridge) : BapBridge :=
  { bridge with gatedService := bridge.gatedService.map fun _ => false }

/-- The gate is installed by the first start that finds the cluster ready, and
every start closes it. -/
def blockNativeRouteGuidance (clusterReady : Bool) (bridge : BapBridge) : BapBridge :=
  { bridge with
    gatedService := if bridge.gatedService.isSome || clusterReady then some true else none }

def onStart (clusterReady : Bool) : TracedOp BapBridge BapEvent := fun bridge =>
  (blockNativeRouteGuidance clusterReady bridge.markCustomRendererRouteActive,
    [.updateRGStatus 1, .updateActiveRGType 0])

def onStop : TracedOp BapBridge BapEvent := fun bridge =>
  scheduleConfirmedCustomRendererStop bridge.markCustomRendererRouteStopped

/-- `formatDistanceToDestination`. -/
def formatDistanceToDestination (car : CarFunctions) (meters : Int) : Int × Int :=
  if meters ≤ 0 then (-1, 0) else car.formatDistance meters

def sendDistanceToDestinationRaw (car : CarFunctions) (meters : Int) : BapEvent :=
  let formatted := formatDistanceToDestination car meters
  .updateDistanceToDestination formatted.1 formatted.2 false

def onShutdown (car : CarFunctions) : TracedOp BapBridge BapEvent := fun bridge =>
  (releaseNativeRouteGuidanceGate bridge.cancelConfirmedCustomRendererStop,
    [.updateRGStatus 0, .updateActiveRGType 0, sendDistanceToDestinationRaw car 0,
      .updateTimeToDestination 0 0 (-1)])

/-- A time in seconds, shown as local time; a negative one is left as it is. -/
def localSeconds (car : CarFunctions) (seconds : Int) : Int :=
  if 0 ≤ seconds then (car.convertUtcToLocalMs (wrapLong (seconds * 1000))).tdiv 1000 else seconds

/-- The time of arrival: as sent, else from the remaining time. -/
def arrivalSeconds (utcMillis : Int) (route : RouteGuidance.RouteFields) : Int :=
  if 0 ≤ route.etaSeconds then route.etaSeconds
  else if 0 ≤ route.timeRemainingSeconds then
    wrapLong (utcMillis.tdiv 1000 + route.timeRemainingSeconds)
  else -1

def sendTimeToDestination (car : CarFunctions) (utcMillis : Int)
    (route : RouteGuidance.RouteFields) : BapEvent :=
  .updateTimeToDestination 1 car.timeFormat (localSeconds car (arrivalSeconds utcMillis route))

def sendDestinationInfo (route : RouteGuidance.RouteFields) : BapEvent :=
  .updateDestinationInfo
    (JavaText.limitUtf8 (JavaText.units (route.destination.getD [])) 50)

/-- The calls for the destination of an update. -/
def destinationCalls (car : CarFunctions) (utcMillis : Int) (state : RouteGuidance.State) :
    List BapEvent :=
  (if .distDest ∈ state.dirtyMask then [sendDistanceToDestinationRaw car state.route.distDestM]
    else []) ++
  (if .timeRemaining ∈ state.dirtyMask ∨ .eta ∈ state.dirtyMask then
    [sendTimeToDestination car utcMillis state.route] else []) ++
  (if .destination ∈ state.dirtyMask then [sendDestinationInfo state.route] else [])

def update (car : CarFunctions) (utcMillis : Int) (state : RouteGuidance.State) :
    TracedOp BapBridge BapEvent := fun bridge =>
  (if 0 < state.route.routeState ∨ 0 < state.route.maneuverCount then
      bridge.markCustomRendererRouteActive
    else bridge,
    destinationCalls car utcMillis state)

def perform (car : CarFunctions) (clusterReady : Bool) (utcMillis : Int) :
    BridgeCall → TracedOp BapBridge BapEvent
  | .onStart => onStart clusterReady
  | .onStop => onStop
  | .onShutdown => onShutdown car
  | .update state => update car utcMillis state

/-- The rest of a `CRRouteStop` thread, once it wakes up. -/
def wakeStopThread (generation : Int) : TracedOp BapBridge BapEvent := fun bridge =>
  let awake := { bridge with stopThreads := bridge.stopThreads.erase generation }
  if bridge.crRouteActive || decide (generation ≠ bridge.crRouteStopGeneration) then (awake, [])
  else (releaseNativeRouteGuidanceGate awake, [.stopPerformed generation])

theorem perform_update_of_active {bridge : BapBridge} (active : bridge.crRouteActive = true)
    (car : CarFunctions) (clusterReady : Bool) (utcMillis : Int) (state : RouteGuidance.State) :
    perform car clusterReady utcMillis (.update state) bridge =
      (bridge, destinationCalls car utcMillis state) := by
  simp [perform, update, markCustomRendererRouteActive, active]

end BapBridge

/-- The receiver, the calls that it still has to make before it returns, and
the bridge. -/
structure GuidanceSystem where
  rg : RouteGuidance
  calls : List BridgeCall
  bridge : BapBridge

inductive SystemLabel where
  | guidance (label : GuidanceLabel)
  | call (clusterReady : Bool) (utcMillis : Int)
  | wake (generation : Int)

/-- Calls are serialized; threads may wake up between two of them. -/
def guidanceSystemStep (car : CarFunctions) (system : GuidanceSystem) :
    SystemLabel → Option (GuidanceSystem × List BapEvent)
  | .guidance label =>
      if system.calls.isEmpty then
        let entered := routeGuidanceStep label system.rg
        some ({ system with rg := entered.1, calls := entered.2 }, [])
      else none
  | .call clusterReady utcMillis =>
      match system.calls with
      | [] => none
      | call :: calls =>
          let performed := BapBridge.perform car clusterReady utcMillis call system.bridge
          some ({ system with calls := calls, bridge := performed.1 }, .called call :: performed.2)
  | .wake generation =>
      if generation ∈ system.bridge.stopThreads then
        let woken := BapBridge.wakeStopThread generation system.bridge
        some ({ system with bridge := woken.1 }, woken.2)
      else none

/-- The steps of the system, by their label. -/
inductive SystemStepCase (car : CarFunctions) (system : GuidanceSystem) :
    SystemLabel → GuidanceSystem → List BapEvent → Prop
  | guidance (label : GuidanceLabel) : system.calls = [] →
      SystemStepCase car system (.guidance label)
        { system with
          rg := (routeGuidanceStep label system.rg).1
          calls := (routeGuidanceStep label system.rg).2 }
        []
  | call (clusterReady : Bool) (utcMillis : Int) {next : BridgeCall} {rest : List BridgeCall} :
      system.calls = next :: rest →
      SystemStepCase car system (.call clusterReady utcMillis)
        { system with
          calls := rest
          bridge := (BapBridge.perform car clusterReady utcMillis next system.bridge).1 }
        (.called next :: (BapBridge.perform car clusterReady utcMillis next system.bridge).2)
  | wake (generation : Int) : generation ∈ system.bridge.stopThreads →
      SystemStepCase car system (.wake generation)
        { system with bridge := (BapBridge.wakeStopThread generation system.bridge).1 }
        (BapBridge.wakeStopThread generation system.bridge).2

def guidanceSystem (car : CarFunctions) : TracedSystem GuidanceSystem SystemLabel BapEvent where
  init := ⟨.fresh, [], .fresh⟩
  step := guidanceSystemStep car

theorem guidanceSystem_step_case {car : CarFunctions} {system next : GuidanceSystem}
    {label : SystemLabel} {events : List BapEvent}
    (stepTo : (guidanceSystem car).step system label = some (next, events)) :
    SystemStepCase car system label next events := by
  cases label with
  | guidance label =>
      simp only [guidanceSystem, guidanceSystemStep] at stepTo
      split_ifs at stepTo with noCalls
      obtain ⟨rfl, rfl⟩ := Prod.mk.inj (Option.some.inj stepTo)
      exact .guidance label (List.isEmpty_iff.mp noCalls)
  | call clusterReady utcMillis =>
      simp only [guidanceSystem, guidanceSystemStep] at stepTo
      split at stepTo
      · cases stepTo
      · rename_i calls
        obtain ⟨rfl, rfl⟩ := Prod.mk.inj (Option.some.inj stepTo)
        exact .call clusterReady utcMillis calls
  | wake generation =>
      simp only [guidanceSystem, guidanceSystemStep] at stepTo
      split_ifs at stepTo with sleeps
      obtain ⟨rfl, rfl⟩ := Prod.mk.inj (Option.some.inj stepTo)
      exact .wake generation sleeps

end CarplayRgi
