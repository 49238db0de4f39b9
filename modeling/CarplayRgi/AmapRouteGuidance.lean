import CarplayRgi.AmapProtocolDetector
import CarplayRgi.AmapV38Compat
import CarplayRgi.RouteGuidanceFrames

/-!
# The Amap router in front of the receiver

The router observes every frame, and hands it on unchanged, protected by a
probe, or replaced by a frame of the V38 engine.  Two timers end a probe
without confirmation and a hold of an inactive route; a thread of another
generation does nothing when it wakes.  Generations are values of an `int`.
-/

namespace CarplayRgi

open RouteGuidance Utf8Text

/-- The timer threads: the generation that may still act, and whether one is
running. -/
structure AmapTimers where
  probeGeneration : Int32
  probeTimerRunning : Bool
  softGeneration : Int32
  softTimerRunning : Bool

namespace AmapTimers

def ensureProbe (timers : AmapTimers) : AmapTimers :=
  if timers.probeTimerRunning then timers
  else { timers with probeTimerRunning := true, probeGeneration := timers.probeGeneration + 1 }

def ensureSoft (timers : AmapTimers) : AmapTimers :=
  if timers.softTimerRunning then timers
  else { timers with softTimerRunning := true, softGeneration := timers.softGeneration + 1 }

def cancelProbe (timers : AmapTimers) : AmapTimers :=
  { timers with
    probeGeneration :=
      if timers.probeTimerRunning then timers.probeGeneration + 1 else timers.probeGeneration
    probeTimerRunning := false }

def cancelSoft (timers : AmapTimers) : AmapTimers :=
  { timers with
    softGeneration :=
      if timers.softTimerRunning then timers.softGeneration + 1 else timers.softGeneration
    softTimerRunning := false }

end AmapTimers

structure AmapRouteGuidance where
  detector : AmapProtocolDetector
  v38 : AmapV38Compat
  rawRouteState : Int
  rawManeuverCount : Int
  rawVisibleInApp : Int
  rawSourceSupportsRg : Int
  timers : AmapTimers
  guidance : RouteGuidance

/-- The two readings of the clock while a frame is handled. -/
structure FrameTimes where
  observed : Int
  decided : Int

namespace AmapRouteGuidance

def fresh : AmapRouteGuidance where
  detector := .reset
  v38 := .reset
  rawRouteState := -1
  rawManeuverCount := 0
  rawVisibleInApp := -1
  rawSourceSupportsRg := -1
  timers := ⟨0, false, 0, false⟩
  guidance := .fresh

def cancelTimers (router : AmapRouteGuidance) : AmapRouteGuidance :=
  { router with timers := router.timers.cancelProbe.cancelSoft }

def resetRouterState (router : AmapRouteGuidance) : AmapRouteGuidance :=
  { router.cancelTimers with
    detector := .reset
    v38 := .reset
    rawRouteState := -1
    rawManeuverCount := 0
    rawVisibleInApp := -1
    rawSourceSupportsRg := -1 }

/-- An operation of the receiver behind the router. -/
def super (operation : TracedOp RouteGuidance BridgeCall) :
    TracedOp AmapRouteGuidance BridgeCall := fun router =>
  ({ router with guidance := (operation router.guidance).1 }, (operation router.guidance).2)

def start : TracedOp AmapRouteGuidance BridgeCall := fun router =>
  super RouteGuidance.start router.resetRouterState

def stop : TracedOp AmapRouteGuidance BridgeCall := fun router =>
  super RouteGuidance.stop router.resetRouterState

def forward (payload : List UInt8) : TracedOp AmapRouteGuidance BridgeCall :=
  super (RouteGuidance.onFrame evtRgdUpdate payload)

def updateRawState (data : BusData) (router : AmapRouteGuidance) : AmapRouteGuidance :=
  { router with
    rawRouteState := (data.numField (.route .routeState) (-1)).getD router.rawRouteState
    rawManeuverCount := (data.numField (.route .maneuverCount) 0).getD router.rawManeuverCount
    rawVisibleInApp := (visibleInAppField data).getD router.rawVisibleInApp
    rawSourceSupportsRg :=
      (data.numField (.route .sourceSupportsRg) (-1)).getD router.rawSourceSupportsRg }

/-- A probed frame keeps neither the empty list nor the visibility that make
it look inactive. -/
def protectProbeFrame (payload : List UInt8) (data : BusData) (router : AmapRouteGuidance) :
    List UInt8 :=
  let removeCount := data.has (RgdKey.route .maneuverCount).text &&
    decide (router.rawManeuverCount = 0)
  let removeList := data.has (RgdKey.route .maneuverList).text &&
    !(data.intList (RgdKey.route .maneuverList).text).any (· ≠ [])
  let rewrite (line : List Char) : Option (List Char) :=
    let stripped := stripReturn line
    if (removeCount && "maneuver_count:".toList.isPrefixOf stripped) ||
        (removeList && "maneuver_list:".toList.isPrefixOf stripped) then none
    else if router.rawVisibleInApp = 0 then some (hideVisibility line)
    else some line
  encode (rewriteLines rewrite (decode payload))

/-- A V38 frame shows a visibility of 0 only when the route is soft-inactive. -/
def normalizeActiveV38Visibility (payload : List UInt8) (router : AmapRouteGuidance) :
    List UInt8 :=
  if payload = [] ∨ router.rawVisibleInApp ≠ 0 ∨ router.rawRouteState ≤ 0 ∨
      router.rawSourceSupportsRg = 0 ∨
      (router.rawRouteState = 1 ∧ router.rawManeuverCount = 0) then payload
  else
    let text := decode payload
    let replaced := (text.splitOn '\n').any fun line =>
      "visible_in_app:".toList.isPrefixOf (stripReturn line)
    encode (rewriteLines (fun line => some (hideVisibility line)) text ++
      if replaced then [] else visibleUnknown ++ ['\n'])

/-- The source is no longer Amap. -/
def releaseSource (payload : List UInt8) : TracedOp AmapRouteGuidance BridgeCall := fun router =>
  forward payload
    { router.cancelTimers with
      v38 := router.v38.disable, detector := router.detector.resetRouteOnly }

def hardClear (payload : List UInt8) : TracedOp AmapRouteGuidance BridgeCall := fun router =>
  forward payload
    { router.cancelTimers with v38 := .reset, detector := router.detector.resetRouteOnly }

def forwardProtected (payload : List UInt8) (data : BusData) :
    TracedOp AmapRouteGuidance BridgeCall :=
  TracedOp.andThen (fun router => forward (router.protectProbeFrame payload data) router)
    (.silent fun router => { router with timers := router.timers.ensureProbe })

def syncSoftInactiveTimer (router : AmapRouteGuidance) : AmapRouteGuidance :=
  { router with
    timers :=
      if router.v38.isSoftInactiveHolding then router.timers.ensureSoft
      else router.timers.cancelSoft }

/-- The engine answers the frame. -/
def forwardProcessed (payload : List UInt8) (now : Int) :
    TracedOp AmapRouteGuidance BridgeCall := fun router =>
  let processed := router.v38.process payload now router.rawRouteState router.rawManeuverCount
    router.rawVisibleInApp router.rawSourceSupportsRg
  forward (router.normalizeActiveV38Visibility processed.1) { router with v38 := processed.2 }

def forwardV38 (payload : List UInt8) (now : Int) : TracedOp AmapRouteGuidance BridgeCall :=
  TracedOp.andThen (forwardProcessed payload now) (.silent syncSoftInactiveTimer)

def onLegacyFrame (payload : List UInt8) (data : BusData) (now : Int) :
    TracedOp AmapRouteGuidance BridgeCall := fun router =>
  if router.detector.shouldBeginProbe router.rawRouteState router.rawManeuverCount
      router.rawVisibleInApp router.rawSourceSupportsRg then
    forwardProtected payload data
      { router with detector := router.detector.beginProbe now data }
  else forward payload router

def onProbingFrame (payload : List UInt8) (data : BusData) (now : Int) :
    TracedOp AmapRouteGuidance BridgeCall := fun router =>
  if router.rawVisibleInApp = 1 then
    forward payload
      { router with
        timers := router.timers.cancelProbe
        detector := router.detector.rejectProbe
        v38 := router.v38.disable }
  else if 0 < router.rawRouteState ∧ router.rawSourceSupportsRg ≠ 0 ∧
      router.detector.hasV38ConfirmationEvidence data = true then
    forwardV38 payload now
      { router with
        timers := router.timers.cancelProbe
        detector := router.detector.confirmV38
        v38 := router.v38.enable }
  else forwardProtected payload data router

/-- What the router notes of a frame before it decides. -/
def observeFrame (data : BusData) (now : Int) (router : AmapRouteGuidance) : AmapRouteGuidance :=
  let updated := router.updateRawState data
  { updated with
    detector := updated.detector.observeSource data
    v38 := updated.v38.observe data now }

def observeActiveRoute (router : AmapRouteGuidance) : AmapRouteGuidance :=
  { router with
    detector := router.detector.observeActiveRoute router.rawRouteState router.rawManeuverCount
      router.rawVisibleInApp router.rawSourceSupportsRg }

/-- A frame of a route that goes on. -/
def onRouteFrame (payload : List UInt8) (data : BusData) (now : Int) :
    TracedOp AmapRouteGuidance BridgeCall := fun router =>
  match router.detector.mode with
  | .legacy => onLegacyFrame payload data now router
  | .probing => onProbingFrame payload data now router
  | .v38Compat => forwardV38 payload now router

def onObservedFrame (payload : List UInt8) (data : BusData) (now : Int) :
    TracedOp AmapRouteGuidance BridgeCall := fun router =>
  if router.detector.mode ≠ .legacy ∧
      AmapProtocolDetector.sourceChangedAwayFromAmap data = true then
    releaseSource payload router
  else if AmapProtocolDetector.isHardClear router.rawRouteState router.rawSourceSupportsRg data then
    hardClear payload router
  else onRouteFrame payload data now router.observeActiveRoute

/-- `onFrame`. -/
def onFrame (type : Nat) (payload : List UInt8) (times : FrameTimes) :
    TracedOp AmapRouteGuidance BridgeCall := fun router =>
  if type ≠ evtRgdUpdate ∨ payload = [] then super (RouteGuidance.onFrame type payload) router
  else
    let data := parseText payload
    onObservedFrame payload data times.decided (router.observeFrame data times.observed)

/-- The inactive state that the probe has held back. -/
def probeInactiveFrame (router : AmapRouteGuidance) : List UInt8 :=
  encode (AmapV38Compat.inactiveText
    (if 0 ≤ router.rawRouteState then some router.rawRouteState else none)
    router.rawSourceSupportsRg)

/-- The end of `runProbeTimer`, after its sleep. -/
def probeWakes (generation : Int32) : TracedOp AmapRouteGuidance BridgeCall := fun router =>
  if router.timers.probeTimerRunning = true ∧ generation = router.timers.probeGeneration ∧
      router.detector.mode = .probing then
    forward router.probeInactiveFrame
      { router with
        timers := { router.timers with probeTimerRunning := false }
        detector := router.detector.rejectProbe
        v38 := router.v38.disable }
  else (router, [])

/-- A pass of the loop of `runSoftTimer`. -/
def softWakes (generation : Int32) (now : Int) : TracedOp AmapRouteGuidance BridgeCall :=
  fun router =>
    if router.timers.softTimerRunning = true ∧ generation = router.timers.softGeneration ∧
        router.v38.isSoftInactiveHolding = true ∧ router.v38.softInactiveDeadlineMs ≤ now then
      let expired := router.v38.noteSoftInactiveExpired
      forward expired.buildSoftInactiveExpiryFrame
        { router with
          timers := { router.timers with softTimerRunning := false }, v38 := expired }
    else (router, [])

end AmapRouteGuidance

inductive AmapLabel where
  | start
  | stop
  | frame (type : Nat) (payload : List UInt8) (times : FrameTimes)
  | probeWakes (generation : Int32)
  | softWakes (generation : Int32) (now : Int)

def amapStep : AmapLabel → TracedOp AmapRouteGuidance BridgeCall
  | .start => AmapRouteGuidance.start
  | .stop => AmapRouteGuidance.stop
  | .frame type payload times => AmapRouteGuidance.onFrame type payload times
  | .probeWakes generation => AmapRouteGuidance.probeWakes generation
  | .softWakes generation now => AmapRouteGuidance.softWakes generation now

def amapRouteGuidance : TracedSystem AmapRouteGuidance AmapLabel BridgeCall where
  init := .fresh
  step router label := some (amapStep label router)

end CarplayRgi
