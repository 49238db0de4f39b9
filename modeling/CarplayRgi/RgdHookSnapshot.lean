import CarplayRgi.RgdHookState
import CarplayRgi.TracedSystems

/-!
# Full snapshots of the hook's caches

Every accepted message republishes the whole cache as one frame.  The writers
return the records in the order of the source together with the next state,
because a lane lookup refreshes the slot it finds.  The angle buffers are not
initialised; `stack` gives what the buffer for a key holds before anything is
printed into it.
-/

namespace CarplayRgi

namespace RgdState

open DecimalText Utf8Text

def numberRecord (key : RgdKey) (value : Int) : RgdRecord := ⟨key, .num value⟩

def stringRecord (key : RgdKey) (value : List UInt8) : RgdRecord := ⟨key, .str value⟩

/-- A number that is written only when it is present. -/
def presentNumber (key : RgdKey) (value : Option Int) : List RgdRecord :=
  value.toList.map (numberRecord key)

def presentNat (key : RgdKey) (value : Option Nat) : List RgdRecord :=
  presentNumber key (value.map Int.ofNat)

def presentString (key : RgdKey) (value : Option (List UInt8)) : List RgdRecord :=
  value.toList.map (stringRecord key)

/-- Comma-separated numbers, as `snprintf` writes them. -/
def commaBytes (numbers : List Int) : List UInt8 :=
  encode (commaList numbers)

def lanePositions (lanes : List RgdLane) : List UInt8 :=
  commaBytes ((lanes.take maxLaneGuidance).map fun lane => (lane.position : Int))

def laneDirections (lanes : List RgdLane) : List UInt8 :=
  commaBytes ((lanes.take maxLaneGuidance).map RgdLane.direction)

def laneStatus (lanes : List RgdLane) : List UInt8 :=
  commaBytes ((lanes.take maxLaneGuidance).map fun lane => (lane.status : Int))

/-- Texts of the lanes separated by `|`. -/
def laneDesc (lanes : List RgdLane) : List UInt8 :=
  List.intercalate [124] ((lanes.take maxLaneGuidance).map RgdLane.description)

/-- What is printed into the lane-angle buffer. -/
def laneAnglesPrinted (lanes : List RgdLane) : List UInt8 :=
  List.intercalate [124]
    ((lanes.take maxLaneGuidance).map fun lane => commaBytes (lane.angles.take maxLaneAngles))

/-- The lane-angle text: the buffer is cleared when there is no lane, and holds
what it held before when nothing is printed for the lanes there are. -/
def laneAngles (uninitialised : List UInt8) (lanes : List RgdLane) : List UInt8 :=
  if lanes = [] then []
  else if laneAnglesPrinted lanes = [] then uninitialised
  else laneAnglesPrinted lanes

def writeLaneDataKeys (stack : RgdKey → List UInt8) (slot : Slot) (lane : RgdLaneGuidance) :
    List RgdRecord :=
  match lane.laneGuidanceIndex, lane.laneInformations with
  | some index, some lanes =>
      [numberRecord (.lane slot .index) index,
        numberRecord (.lane slot .laneCount) lanes.length,
        stringRecord (.lane slot .lanePositions) (lanePositions lanes),
        stringRecord (.lane slot .laneDirections) (laneDirections lanes),
        stringRecord (.lane slot .laneStatus) (laneStatus lanes),
        stringRecord (.lane slot .laneDesc) (laneDesc lanes),
        stringRecord (.lane slot .laneAngles) (laneAngles (stack (.lane slot .laneAngles)) lanes)]
  | _, _ => []

def writeLaneClearKeys (slot : Slot) : List RgdRecord :=
  [numberRecord (.lane slot .index) (-1),
    numberRecord (.lane slot .laneCount) (-1),
    stringRecord (.lane slot .lanePositions) [],
    stringRecord (.lane slot .laneDirections) [],
    stringRecord (.lane slot .laneStatus) [],
    stringRecord (.lane slot .laneDesc) [],
    stringRecord (.lane slot .laneAngles) []]

def laneRecords (stack : RgdKey → List UInt8) (state : RgdState) : List RgdRecord :=
  (List.finRange maneuverCacheSize).flatMap fun slot =>
    if state.rgdLaneSlotHasData slot then
      writeLaneDataKeys stack slot (state.lanes.laneCache slot)
    else writeLaneClearKeys slot

/-- The lane keys of a maneuver that has lanes of its own, or only the raw
length of a linked lane item. -/
def maneuverLaneKeys (stack : RgdKey → List UInt8) (slot : Slot) (man : RgdManeuver) :
    List RgdRecord :=
  match man.laneGuidance, man.laneGuidanceRawLen with
  | some lanes, _ =>
      [numberRecord (.maneuver slot .laneCount) lanes.length,
        stringRecord (.maneuver slot .lanePositions) (lanePositions lanes),
        stringRecord (.maneuver slot .laneDirections) (laneDirections lanes),
        stringRecord (.maneuver slot .laneStatus) (laneStatus lanes),
        stringRecord (.maneuver slot .laneDesc) (laneDesc lanes),
        stringRecord (.maneuver slot .laneAngles)
          (laneAngles (stack (.maneuver slot .laneAngles)) lanes)]
  | none, some _ =>
      [numberRecord (.maneuver slot .laneCount) 0,
        stringRecord (.maneuver slot .lanePositions) [],
        stringRecord (.maneuver slot .laneDirections) [],
        stringRecord (.maneuver slot .laneStatus) [],
        stringRecord (.maneuver slot .laneDesc) [],
        stringRecord (.maneuver slot .laneAngles) []]
  | none, none => []

/-- The text of the junction angles; `uninitialised` is what the buffer holds
when there is no angle to print. -/
def junctionAnglesText (uninitialised : List UInt8) (angles : List Int) : List UInt8 :=
  if angles = [] then uninitialised else commaBytes angles

/-- The published version of a slot. -/
def publishedVer (state : RgdState) (slot : Slot) : Nat :=
  state.maneuvers.slotVer slot % 65535 + 1

/-- The keys of a maneuver before its linked lane. -/
def maneuverDataKeys (stack : RgdKey → List UInt8) (state : RgdState) (slot : Slot)
    (man : RgdManeuver) : List RgdRecord :=
  presentNat (.maneuver slot .type) man.maneuverType ++
  presentNumber (.maneuver slot .turnAngle) man.exitAngle ++
  presentNumber (.maneuver slot .exitAngle) man.exitAngle ++
  presentNat (.maneuver slot .junctionType) man.junctionType ++
  presentNat (.maneuver slot .drivingSide) man.drivingSide ++
  presentNat (.maneuver slot .distance) man.distanceBetween ++
  presentString (.maneuver slot .distanceStr) man.distanceString ++
  presentNat (.maneuver slot .distanceUnits) man.distanceUnits ++
  presentString (.maneuver slot .name) man.description ++
  presentString (.maneuver slot .afterRoad) man.afterRoadName ++
  presentString (.maneuver slot .junctionAngles)
    (man.junctionAngles.map (junctionAnglesText (stack (.maneuver slot .junctionAngles)))) ++
  [numberRecord (.maneuver slot .ver) (state.publishedVer slot)] ++
  presentNat (.maneuver slot .laneGuidanceLen) man.laneGuidanceRawLen

/-- The linked lane index, and its slot when the event is cached. -/
def linkedLaneKeys (slot : Slot) (man : RgdManeuver) (state : RgdState) :
    List RgdRecord × RgdState :=
  match man.linkedLaneGuidanceIndex with
  | none => ([], state)
  | some linked =>
      let lookup := rgdLookupLaneSlot linked state
      (numberRecord (.maneuver slot .linkedLaneGuidanceIndex) linked ::
        presentNumber (.maneuver slot .linkedLaneGuidanceSlot)
          (lookup.1.map fun found => (found.val : Int)), lookup.2)

/-- `write_slot_data_keys`. -/
def writeSlotDataKeys (stack : RgdKey → List UInt8) (slot : Slot) (man : RgdManeuver)
    (state : RgdState) : List RgdRecord × RgdState :=
  let linked := linkedLaneKeys slot man state
  (maneuverDataKeys stack state slot man ++ linked.1 ++ maneuverLaneKeys stack slot man ++
    presentNat (.maneuver slot .exitInfoLen) man.exitInfoRawLen ++
    presentString (.maneuver slot .exitInfo) man.exitInfoStr, linked.2)

def writeListedSlots (stack : RgdKey → List UInt8) :
    List Slot → RgdState → List RgdRecord × RgdState
  | [], state => ([], state)
  | slot :: slots, state =>
      let man := state.maneuvers.slotCache slot
      let written := if man = {} then ([], state) else writeSlotDataKeys stack slot man state
      let rest := writeListedSlots stack slots written.2
      (written.1 ++ rest.1, rest.2)

/-- The slots of the listed maneuvers that have a cached type. -/
def listedSlots (state : RgdState) : List Slot :=
  state.listedIndexes.filterMap fun idx =>
    (state.rgdFindSlotForIapIndexNoTouch idx).filter fun slot =>
      (state.maneuvers.slotCache slot).maneuverType.isSome

def maneuverListRecord (slots : List Slot) : RgdRecord :=
  stringRecord (.route .maneuverList) (commaBytes (slots.map fun slot => (slot.val : Int)))

def componentKeys (componentIds : Option (List Nat)) : List RgdRecord :=
  match componentIds with
  | none => []
  | some ids =>
      [numberRecord (.route .componentCount) ids.length,
        stringRecord (.route .componentIds) (commaBytes (ids.map Int.ofNat))]

/-- The lane slot of the current lane event: looked up when its index is
cached, else the cached helper value. -/
def laneSlotKeys (upd : RgdUpdate) (state : RgdState) : List RgdRecord × RgdState :=
  match upd.laneGuidanceIndex with
  | some index =>
      let lookup := rgdLookupLaneSlot index state
      ([numberRecord (.route .laneGuidanceSlot)
          ((lookup.1.map fun slot => (slot.val : Int)).getD (-1))], lookup.2)
  | none => (presentNumber (.route .laneGuidanceSlot) upd.laneGuidanceSlot, state)

/-- The keys of the cached route update before its lane slot. -/
def routeHeadKeys (upd : RgdUpdate) : List RgdRecord :=
  presentNat (.route .routeState) upd.routeState ++
  presentNat (.route .maneuverState) upd.maneuverState ++
  presentNat (.route .distDestM) upd.distanceRemaining ++
  presentNat (.route .distManeuverM) upd.distToManeuver ++
  presentNat (.route .etaSeconds) upd.eta ++
  presentNat (.route .timeRemainingSeconds) upd.timeRemaining ++
  presentString (.route .currentRoad) upd.currentRoad ++
  presentString (.route .destination) upd.destination ++
  presentNat (.route .distDestUnits) upd.distanceUnits ++
  presentNat (.route .distManeuverUnits) upd.distToManeuverUnits ++
  presentString (.route .distDestStr) upd.distanceString ++
  presentString (.route .distManeuverStr) upd.distToManeuverString ++
  presentNat (.route .laneGuidanceIndex) upd.laneGuidanceIndex

/-- The keys after the lane slot. -/
def routeTailKeys (upd : RgdUpdate) : List RgdRecord :=
  presentNat (.route .laneGuidanceTotal) upd.laneGuidanceTotal ++
  presentNat (.route .laneGuidanceShowing) upd.laneGuidanceShowing ++
  presentString (.route .sourceName) upd.sourceName ++
  presentNat (.route .sourceSupportsRg) upd.sourceSupportsRouteGuidance ++
  presentNat (.route .visibleInApp) upd.visibleInApp ++
  componentKeys upd.componentIds ++
  presentNat (.route .maneuverCount) upd.maneuverCount

def writeRouteKeys (state : RgdState) : List RgdRecord × RgdState :=
  let laneSlot := laneSlotKeys state.updateCache state
  (routeHeadKeys state.updateCache ++ laneSlot.1 ++ routeTailKeys state.updateCache, laneSlot.2)

/-- The keys that the overlay writes first in every snapshot. -/
def amapKeys (state : RgdState) : List RgdRecord :=
  [numberRecord (.route .amapRouteGeneration) state.amap.routeGeneration,
    numberRecord (.route .amapRouteUpdateSeq) state.amap.routeUpdateSeq,
    numberRecord (.route .amapHeadIapIndex)
      (if state.amap.headIapIndex = emptyIndex then -1 else state.amap.headIapIndex),
    numberRecord (.route .amapHeadAligned) (if state.amap.headAligned then 1 else 0),
    numberRecord (.route .amapDistanceFresh) (if state.amap.distanceFresh then 1 else 0)]

/-- A message with a maneuver list replaces the current list. -/
def adoptManeuverList (currentUpd : Option RgdUpdate) (state : RgdState) : RgdState :=
  match currentUpd.bind RgdUpdate.maneuverList with
  | none => state
  | some list =>
      let adopted := list.take maxManeuverList
      { state with
        currentList := some adopted
        highestListIndex := adopted.foldl max state.highestListIndex }

/-- Hand a snapshot to the bus, unless its text has overflowed the builder. -/
def sendSnapshot (state : RgdState) (records : List RgdRecord) : List HookEvent :=
  match (buildFrame busTextBuilderLargeCap records).busSendText with
  | none => [.overflowed]
  | some _ => [.snapshot state records]

/-- The alignment is evaluated anew in every snapshot of the overlay build. -/
def refreshOverlay (overlay : Bool) (state : RgdState) : RgdState :=
  if overlay then amapMetaRefreshAlignment state else state

def overlayKeys (overlay : Bool) (state : RgdState) : List RgdRecord :=
  if overlay then state.amapKeys else []

def listKeys (state : RgdState) : List RgdRecord :=
  if state.currentList.isSome then [maneuverListRecord state.listedSlots] else []

/-- The state from which the maneuver list is written. -/
def listedState (overlay : Bool) (currentUpd : Option RgdUpdate) (state : RgdState) : RgdState :=
  (rgdPruneStaleLaneCache
    (adoptManeuverList currentUpd (writeRouteKeys (refreshOverlay overlay state)).2)).2

/-- The records of a snapshot after the first pruning. -/
def snapshotRecords (overlay : Bool) (stack : RgdKey → List UInt8) (currentUpd : Option RgdUpdate)
    (state : RgdState) : List RgdRecord × RgdState :=
  let aligned := refreshOverlay overlay state
  let listed := listedState overlay currentUpd state
  let written := writeListedSlots stack listed.listedSlots listed
  (overlayKeys overlay aligned ++ (writeRouteKeys aligned).1 ++ listed.listKeys ++ written.1 ++
    written.2.laneRecords stack, written.2)

/-- `write_bus_snapshot_from_cache`. -/
def writeBusSnapshotFromCache (overlay : Bool) (stack : RgdKey → List UInt8)
    (extraMan : Option RgdManeuver) (currentUpd : Option RgdUpdate) :
    TracedOp RgdState HookEvent := fun state =>
  let pruned := rgdPruneStaleLaneCache state
  let haveExtraSlot := extraMan.any fun man => decide (man ≠ {})
  let haveLaneCache := (List.finRange maneuverCacheSize).any pruned.2.rgdLaneSlotHasData
  if pruned.2.updateCache = {} && !haveExtraSlot && !haveLaneCache && !pruned.1 then
    (pruned.2, [])
  else
    let written := snapshotRecords overlay stack currentUpd pruned.2
    (written.2, sendSnapshot written.2 written.1)

end RgdState

end CarplayRgi
