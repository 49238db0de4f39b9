import CarplayRgi.BapApproach
import CarplayRgi.BapLaneGuidance
import CarplayRgi.RouteGuidanceIcons
import CarplayRgi.SideStreets
import CarplayRgi.TracedSystems

/-!
# What the cluster is told about the maneuvers

An update sends the descriptors of the next maneuvers, the text of the current
position, the state of the maneuver and the lanes, each under flags of its own.
Every message with descriptors is followed by an exit view that differs from
the one before it, since the cluster takes over descriptors only then.
-/

namespace CarplayRgi

open BapBridge RouteGuidance

/-- `CombiBAPNaviManeuverDescriptor`. -/
structure ManeuverDescriptor where
  main : Int
  direction : Int
  zLevel : Int
  sideStreets : List Int
  deriving DecidableEq

/-- `CombiBAPNaviLaneGuidanceData`, without the numbers that are always 0. -/
structure LaneGuidanceData where
  position : Int
  direction : Int
  sideStreets : List Int
  guidanceInfo : Int
  deriving DecidableEq

inductive ClusterCall where
  | rgStatus (status : Int)
  | activeRgType (type : Int)
  | maneuverDescriptor (descriptors : List ManeuverDescriptor)
  | exitView (variant num : Int)
  | currentPositionInfo (text : List Nat)
  | maneuverState (state : Int)
  | laneGuidance (on : Bool) (lanes : List LaneGuidanceData)
  deriving DecidableEq

namespace BapBridge

def prepareTurn : Int := 28

def createDescriptor (main dir zLevel : Int) (sideStreets : List Int) : ManeuverDescriptor where
  main :=
    if main = prepareTurn ∧ (dir = ManeuverMapper.dirStraight ∨ dir = ManeuverMapper.dirLeft) then
      ManeuverMapper.changeLane
    else main
  direction := dir
  zLevel := if zLevel = 1 ∨ zLevel = 2 then zLevel else 0
  sideStreets := sideStreets

def sendFollowStreet : ClusterCall :=
  .maneuverDescriptor
    [createDescriptor ManeuverMapper.followStreet ManeuverMapper.dirStraight 0 []]

def sendNoSymbol : ClusterCall := .maneuverDescriptor [createDescriptor 0 0 0 []]

/-- `ManeuverMapper.map` of a maneuver. -/
def mapped (man : ManeuverFields) : Int × Int :=
  ManeuverMapper.map man.type man.turnAngle man.junctionType man.drivingSide

/-- The descriptor of a maneuver; what has no symbol has no side streets. -/
def maneuverDescriptor (man : ManeuverFields) : ManeuverDescriptor :=
  let shown := mapped man
  let sideStreets :=
    if shown.1 = ManeuverMapper.noInfo ∨ shown.1 = ManeuverMapper.noSymbol then []
    else
      SideStreets.calcSideStreetsBytes man.type man.junctionType man.drivingSide
        man.junctionAngles man.exitAngle
  createDescriptor shown.1 shown.2 man.zLevel sideStreets

def maxBapManeuvers : Nat := 3

/-- The maneuvers of the list up to the first without a valid type, three at
most.  An index that is no slot is passed over. -/
def validManeuvers (state : State) : List ManeuverFields :=
  ((((getManeuverIndexList state).filterMap slotOf).map state.maneuver).takeWhile fun man =>
    ManeuverMapper.isValidType man.type).take maxBapManeuvers

def sendManeuvers (state : State) : List ClusterCall :=
  if hasManeuverList state = false ∨ validManeuvers state = [] then
    if state.route.maneuverCount = 0 then [sendNoSymbol] else []
  else [.maneuverDescriptor ((validManeuvers state).map maneuverDescriptor)]

def directionArrow (man : ManeuverFields) : Nat :=
  let dir := (mapped man).2
  if dir = ManeuverMapper.dirLeft then 0x2190
  else if dir = ManeuverMapper.dirSlightLeft then 0x2196
  else if dir = ManeuverMapper.dirSharpLeft then 0x2199
  else if dir = ManeuverMapper.dirRight then 0x2192
  else if dir = ManeuverMapper.dirSlightRight then 0x2197
  else if dir = ManeuverMapper.dirSharpRight then 0x2198
  else if dir = ManeuverMapper.dirUturn then 0x21B6
  else 0x2191

/-- `String.trim`. -/
def trim (text : List Char) : List Char :=
  ((text.dropWhile fun char => decide (char.toNat ≤ 0x20)).reverse.dropWhile fun char =>
    decide (char.toNat ≤ 0x20)).reverse

/-- What follows the last colon, unless it is blank. -/
def keepLastColonPart (text : List Char) : List Char :=
  if ':' ∈ text then
    let tail := trim (text.reverse.takeWhile fun char => decide (char ≠ ':')).reverse
    if tail = [] then text else tail
  else text

/-- The text for a maneuver: its exit, else the road behind it, else its name. -/
def turnCandidate (man : ManeuverFields) : List Char :=
  match man.exitInfo.filter (· ≠ []), man.afterRoad.filter (· ≠ []) with
  | some exitInfo, _ => keepLastColonPart exitInfo
  | none, some afterRoad => keepLastColonPart afterRoad
  | none, none => man.name.getD []

/-- The text for the first maneuver of the list, with an arrow in front of it. -/
def turnToText (state : State) : Option (List Nat) :=
  (slotOf (getFirstManeuverIndex state)).bind fun slot =>
    let candidate := turnCandidate (state.maneuver slot)
    if candidate = [] then none
    else some (directionArrow (state.maneuver slot) :: 0x20 :: JavaText.units candidate)

def laneDirNative : List (Int × Int) :=
  [(-180, 0x72), (-135, 0x60), (-90, 0x40), (-45, 0x20), (0, 0x00), (45, 0xE0), (90, 0xC0),
    (135, 0xA0), (180, 0x92)]

/-- The difference of two angles, as an `int`. -/
def angleDiff (raw key : Int) : Int :=
  let diff := wrapInt (raw - key)
  if diff < 0 then wrapInt (-diff) else diff

/-- The code of the nearest direction, the first of two that are equally near. -/
def mapRawLaneValueToDirectionCode (raw : Int) : Int :=
  if raw = 1000 then 0xFF
  else
    (laneDirNative.foldl (fun best entry =>
      if angleDiff raw entry.1 < best.1 then (angleDiff raw entry.1, entry.2) else best)
      (100000, 0)).2

/-- The angles of a lane; a lane beyond the last takes those of the first. -/
def anglesOf (lanes : ShownLanes) (laneIdx : Nat) : List Int :=
  let all := lanes.angles.getD []
  ((all[if laneIdx < all.length then laneIdx else 0]?).join).getD []

def mapLanePosition (lanes : ShownLanes) (laneIdx : Nat) : Int :=
  match (lanes.positions.getD [])[laneIdx]? with
  | none => laneIdx
  | some position => if position < 0 ∨ 0x7FFF < position then laneIdx else position

def mapLaneDirection (lanes : ShownLanes) (laneIdx : Nat) : Int :=
  match (lanes.directions.getD [])[laneIdx]? with
  | none => 0xFF
  | some raw =>
      if raw = 1000 then
        ((anglesOf lanes laneIdx).head?.map mapRawLaneValueToDirectionCode).getD 0xFF
      else mapRawLaneValueToDirectionCode raw

def shouldEmitLane (lanes : ShownLanes) (laneIdx : Nat) : Bool :=
  match (lanes.directions.getD [])[laneIdx]? with
  | none => true
  | some raw =>
      if raw = 1000 ∧ anglesOf lanes laneIdx = [] then false
      else decide (mapLaneDirection lanes laneIdx ≠ 0xFF)

/-- The other directions of a lane, in ascending order.  Where the direction of
the lane is its first angle, the others are the rest. -/
def mapLaneSideStreets (lanes : ShownLanes) (laneIdx : Nat) : List Int :=
  let start := if (lanes.directions.getD [])[laneIdx]? = some 1000 then 1 else 0
  let codes := ((anglesOf lanes laneIdx).drop start).map mapRawLaneValueToDirectionCode
  let others := codes.filter fun code =>
    decide (code ≠ 0xFF ∧ code ≠ mapLaneDirection lanes laneIdx)
  (others.foldl (fun kept code => if code ∈ kept then kept else kept ++ [code])
    []).insertionSort (· ≤ ·)

def mapGuidanceInfo (lanes : ShownLanes) (laneIdx : Nat) : Int :=
  match (lanes.status.getD [])[laneIdx]? with
  | none => 0
  | some status => if status < 0 ∨ 2 < status then 0 else status

def laneGuidanceData (lanes : ShownLanes) (laneIdx : Nat) : LaneGuidanceData where
  position := mapLanePosition lanes laneIdx
  direction := mapLaneDirection lanes laneIdx
  sideStreets := mapLaneSideStreets lanes laneIdx
  guidanceInfo := mapGuidanceInfo lanes laneIdx

/-- `sendRealLaneGuidance`: eight lanes at most, without those of no
direction. -/
def realLanes (lanes : ShownLanes) : List LaneGuidanceData :=
  ((List.range (min lanes.count 8).toNat).filter (shouldEmitLane lanes)).map
    (laneGuidanceData lanes)

def sendLanes (state : State) : ClusterCall :=
  match sendLaneGuidance state with
  | none => .laneGuidance false []
  | some lanes => .laneGuidance (decide (realLanes lanes ≠ [])) (realLanes lanes)

end BapBridge

/-- What the bridge remembers for these messages. -/
structure ClusterBridge where
  initialized : Bool
  zone : ApproachZone
  latchedTurnToText : List Nat
  exitViewSendCount : Int

namespace ClusterBridge

def fresh : ClusterBridge := ⟨false, .outside, [], 0⟩

def exitViewEu : Int := 0
def exitViewNar : Int := 1

def sendExitView : TracedOp ClusterBridge ClusterCall := fun bridge =>
  let count := wrapInt (bridge.exitViewSendCount + 1)
  ({ bridge with exitViewSendCount := count },
    [.exitView (if count.tmod 2 = 0 then exitViewEu else exitViewNar) 0])

def sends (calls : List ClusterCall) : TracedOp ClusterBridge ClusterCall := fun bridge =>
  (bridge, calls)

def activeRgType : Int := 0

/-- The text is limited to the length of its message. -/
def sendText (text : List Nat) : ClusterCall :=
  .currentPositionInfo (JavaText.limitUtf8 text 96)

def init (isNaviService : Bool) (bridge : ClusterBridge) : ClusterBridge :=
  { bridge with initialized := bridge.initialized || isNaviService }

/-- A session begins and ends outside of the approach zone. -/
def leaveZone (bridge : ClusterBridge) : ClusterBridge :=
  { bridge with zone := .outside, latchedTurnToText := [] }

def onStart : TracedOp ClusterBridge ClusterCall :=
  (TracedOp.silent leaveZone).andThen
    ((sends [.rgStatus 1, .activeRgType activeRgType, sendFollowStreet]).andThen
    (sendExitView.andThen (sends [.currentPositionInfo []])))

def onStop : TracedOp ClusterBridge ClusterCall := .silent leaveZone

def onShutdown : TracedOp ClusterBridge ClusterCall :=
  (sends [.rgStatus 0, .activeRgType 0, sendNoSymbol]).andThen
    (sendExitView.andThen
      (sends [.maneuverState 0, .currentPositionInfo [], .laneGuidance false []]))

def clears (state : State) : Bool := explicitClear state || shouldClearManeuver state

/-- The descriptors of an update, if there is something to tell. -/
def iconCalls (state : State) (zone : ApproachZone) : List ClusterCall :=
  if Disjoint (zone.dirty state) iconFlags then []
  else if explicitClear state then [sendNoSymbol]
  else if hasManeuverList state then
    if showManeuver state then
      if zone.nowApproach state then sendManeuvers state else [sendFollowStreet]
    else if shouldClearManeuver state then [sendNoSymbol]
    else []
  else if shouldClearManeuver state then [sendNoSymbol]
  else []

/-- `descriptorSent`: also where `sendManeuvers` has found nothing to send. -/
def descriptorSent (state : State) (zone : ApproachZone) : Bool :=
  !decide (Disjoint (zone.dirty state) iconFlags) &&
    (explicitClear state || hasManeuverList state && showManeuver state ||
      shouldClearManeuver state)

def textFlags : Finset DirtyFlag := {.currentRoad, .maneuverText, .maneuverList, .maneuverIcon}

/-- The text: in the approach zone the last one that has been found for a turn. -/
def showText (state : State) (dirty : Finset DirtyFlag) : TracedOp ClusterBridge ClusterCall :=
  fun bridge =>
    if Disjoint dirty textFlags then (bridge, [])
    else if bridge.zone.inApproachZone && !clears state then
      let latched := (turnToText state).getD bridge.latchedTurnToText
      ({ bridge with latchedTurnToText := latched }, [sendText latched])
    else
      ({ bridge with latchedTurnToText := [] },
        [sendText (JavaText.units (state.route.currentRoad.getD []))])

def stateFlags : Finset DirtyFlag :=
  {.maneuverState, .maneuverIcon, .maneuverList, .maneuverCount, .distMan}

/-- Follow, prepare or action. -/
def bapState (state : State) (nowApproach : Bool) : Int :=
  if nowApproach = false then 1
  else if hasUsableDistance state ∧ 0 < bargraphDenominatorM state ∧
      state.route.distManeuverM ≤ bargraphDenominatorM state then 4
  else 2

def stateCalls (state : State) (zone : ApproachZone) : List ClusterCall :=
  if Disjoint (zone.dirty state) stateFlags then []
  else if explicitClear state then [.maneuverState 0]
  else if shouldClearManeuver state || hasManeuverList state && showManeuver state then
    [.maneuverState (if showManeuver state then bapState state (zone.nowApproach state) else 0)]
  else if hasManeuverList state && hasAnyManeuver state then [.maneuverState 1]
  else []

def laneCalls (state : State) (dirty : Finset DirtyFlag) : List ClusterCall :=
  if Disjoint dirty laneFlags then []
  else if !clears state && decide (state.route.laneGuidanceShowing = 1) then [sendLanes state]
  else [.laneGuidance false []]

/-- The zone, and the text that a change of it or a clear forgets. -/
def follow (state : State) (bridge : ClusterBridge) : ClusterBridge :=
  { bridge with
    zone := bridge.zone.follow state
    latchedTurnToText :=
      if bridge.zone.approachChanged state || clears state then [] else bridge.latchedTurnToText }

/-- The exit view behind descriptors. -/
def closeWindow (sent : Bool) : TracedOp ClusterBridge ClusterCall :=
  if sent then sendExitView else sends []

/-- `update`, without the distances, the trip and the renderer. -/
def update (state : State) : TracedOp ClusterBridge ClusterCall := fun bridge =>
  if state.dirtyMask = ∅ then (bridge, [])
  else
    let zone := bridge.zone
    ((sends (iconCalls state zone)).andThen
      ((closeWindow (descriptorSent state zone)).andThen
      ((showText state (zone.dirty state)).andThen
      (sends (stateCalls state zone ++ laneCalls state (zone.dirty state))))))
      (bridge.follow state)

def perform : BridgeCall → TracedOp ClusterBridge ClusterCall
  | .onStart => onStart
  | .onStop => onStop
  | .onShutdown => onShutdown
  | .update state => update state

end ClusterBridge

structure ClusterLink where
  rg : RouteGuidance
  bridge : ClusterBridge

inductive ClusterLabel where
  | init (isNaviService : Bool)
  | guidance (label : GuidanceLabel)

namespace ClusterLink

/-- A bridge without a service ignores every call. -/
def performAll (calls : List BridgeCall) : TracedOp ClusterBridge ClusterCall := fun bridge =>
  if bridge.initialized then
    calls.foldl (fun done call =>
      let performed := ClusterBridge.perform call done.1
      (performed.1, done.2 ++ performed.2)) (bridge, [])
  else (bridge, [])

def step : ClusterLabel → TracedOp ClusterLink ClusterCall
  | .init isNaviService => .silent fun link =>
      { link with bridge := link.bridge.init isNaviService }
  | .guidance label => fun link =>
      let entered := routeGuidanceStep label link.rg
      let performed := performAll entered.2 link.bridge
      (⟨entered.1, performed.1⟩, performed.2)

end ClusterLink

/-- The receiver with the messages for the cluster; a call returns before the
next frame. -/
def clusterLink : TracedSystem ClusterLink ClusterLabel ClusterCall where
  init := ⟨.fresh, .fresh⟩
  step link label := some (ClusterLink.step label link)

end CarplayRgi
