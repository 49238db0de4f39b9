import CarplayRgi.BusTextCodec
import CarplayRgi.ManeuverMapper
import CarplayRgi.RouteGuidanceParse
import CarplayRgi.SideStreets

/-!
# The raw cache and the committed snapshot of the Amap engine

The engine observes every frame in a raw cache, and commits snapshots of it.
A snapshot is handed on as a frame of its own, which carries a number only if
it is not negative, and a text or a list only if there is one.
-/

namespace CarplayRgi

open DecimalText RouteGuidance Utf8Text

/-- The slot with a number, if there is one. -/
def slotOf (index : Int) : Option Slot :=
  if inside : 0 ≤ index ∧ index < maneuverCacheSize then
    some ⟨index.toNat, by have := inside.1; have := inside.2; omega⟩
  else none

/-- The fields that the raw cache and a snapshot share. -/
structure AmapFields where
  routeState : Int := -1
  maneuverState : Int := -1
  maneuverCount : Int := 0
  visibleInApp : Int := -1
  sourceSupportsRg : Int := -1
  maneuverList : Option (List Int) := none
  distDestM : Int := -1
  distManeuverM : Int := -1
  etaSeconds : Int := -1
  timeRemainingSeconds : Int := -1
  currentRoad : Option (List Char) := none
  destination : Option (List Char) := none
  laneGuidanceShowing : Int := -1
  laneGuidanceTotal : Int := -1
  laneGuidanceIndex : Int := -1
  laneGuidanceSlot : Int := -1
  maneuver : Slot → ManeuverFields := fun _ => { turnAngle := 1000 }
  lane : Slot → LaneFields := fun _ => {}

namespace AmapFields

variable (fields : AmapFields)

def head : Int :=
  match fields.maneuverList with
  | some (first :: _) => first
  | _ => -1

/-- A number of the maneuver in a slot. -/
def value (field : ManeuverFields → Int) (index default : Int) : Int :=
  ((slotOf index).map fun slot => field (fields.maneuver slot)).getD default

def primaryDistance : Int :=
  if 0 ≤ fields.distManeuverM then fields.distManeuverM
  else fields.value ManeuverFields.distance fields.head (-1)

def validHead (head ver type : Int) : Bool :=
  (slotOf head).isSome && decide (0 ≤ ver) && ManeuverMapper.isValidType type

/-- What is drawn for a maneuver. -/
def visualKey (head : Int) : List Char :=
  match slotOf head with
  | none => []
  | some slot =>
      let man := fields.maneuver slot
      let mapped := ManeuverMapper.map man.type man.turnAngle man.junctionType man.drivingSide
      if mapped.1 = ManeuverMapper.followStreet ∨ mapped.1 = ManeuverMapper.noInfo ∨
          mapped.1 = ManeuverMapper.noSymbol then "FOLLOW_STREET".toList
      else
        let streets := SideStreets.calcSideStreetsBytes man.type man.junctionType man.drivingSide
          man.junctionAngles man.exitAngle
        "m=".toList ++ decimal mapped.1 ++ "|d=".toList ++ decimal mapped.2 ++ "|z=".toList ++
          decimal man.zLevel ++ "|s=".toList ++ commaList streets

def roadKey (head : Int) : List Char :=
  match slotOf head with
  | none => ['|']
  | some slot =>
      (fields.maneuver slot).name.getD [] ++ '|' :: (fields.maneuver slot).afterRoad.getD []

/-- A straight maneuver without an angle, a junction or lanes. -/
def isNeutralStraight (head type : Int) : Bool :=
  decide (type = 3) &&
    (slotOf head).any fun slot =>
      decide ((fields.maneuver slot).turnAngle = 1000 ∧ (fields.maneuver slot).junctionType = 0 ∧
        (fields.maneuver slot).laneCount ≤ 0)

end AmapFields

/-- `RawState`. -/
structure AmapRaw extends AmapFields where
  sourceName : Option (List Char) := none
  headAligned : Bool := false
  distanceFresh : Bool := false

namespace AmapRaw

/-- `parseMatrix`: an empty text is one lane without angles. -/
def parseMatrix (raw : List Char) : List (Option (List Int)) :=
  (raw.splitOn '|').map parseCsvIntList

def matrixField (data : BusData) (key : RgdKey) : Option (Option (List (Option (List Int)))) :=
  if data.has key.text then some ((data.str key.text).map parseMatrix) else none

/-- A turn angle is an exit angle as well, until there is an exit angle. -/
def observeManeuver (data : BusData) (slot : Slot) (man : ManeuverFields) : ManeuverFields :=
  let turnAngle := data.numField (.maneuver slot .turnAngle) 1000
  { type := (data.numField (.maneuver slot .type) (-1)).getD man.type
    turnAngle := turnAngle.getD man.turnAngle
    exitAngle :=
      (data.numField (.maneuver slot .exitAngle) 1000).getD (turnAngle.getD man.exitAngle)
    zLevel :=
      (data.numField (.maneuver slot .zlevel) (-1)).getD
        ((data.numField (.maneuver slot .zLevel) (-1)).getD man.zLevel)
    junctionType := (data.numField (.maneuver slot .junctionType) (-1)).getD man.junctionType
    drivingSide := (data.numField (.maneuver slot .drivingSide) (-1)).getD man.drivingSide
    distance := (data.numField (.maneuver slot .distance) (-1)).getD man.distance
    name := (data.strField (.maneuver slot .name)).getD man.name
    afterRoad := (data.strField (.maneuver slot .afterRoad)).getD man.afterRoad
    exitInfo := (data.strField (.maneuver slot .exitInfo)).getD man.exitInfo
    junctionAngles :=
      (data.intListField (.maneuver slot .junctionAngles)).getD man.junctionAngles
    linkedLaneGuidanceIndex :=
      (data.numField (.maneuver slot .linkedLaneGuidanceIndex) (-1)).getD
        man.linkedLaneGuidanceIndex
    linkedLaneGuidanceSlot :=
      (data.numField (.maneuver slot .linkedLaneGuidanceSlot) (-1)).getD man.linkedLaneGuidanceSlot
    ver := (data.numField (.maneuver slot .ver) (-1)).getD man.ver
    laneCount := (data.numField (.maneuver slot .laneCount) (-1)).getD man.laneCount
    lanePositions := (data.intListField (.maneuver slot .lanePositions)).getD man.lanePositions
    laneDirections := (data.intListField (.maneuver slot .laneDirections)).getD man.laneDirections
    laneStatus := (data.intListField (.maneuver slot .laneStatus)).getD man.laneStatus
    laneAngles := (matrixField data (.maneuver slot .laneAngles)).getD man.laneAngles }

def observeLane (data : BusData) (slot : Slot) (lane : LaneFields) : LaneFields where
  index := (data.numField (.lane slot .index) (-1)).getD lane.index
  laneCount := (data.numField (.lane slot .laneCount) (-1)).getD lane.laneCount
  lanePositions := (data.intListField (.lane slot .lanePositions)).getD lane.lanePositions
  laneDirections := (data.intListField (.lane slot .laneDirections)).getD lane.laneDirections
  laneStatus := (data.intListField (.lane slot .laneStatus)).getD lane.laneStatus
  laneAngles := (matrixField data (.lane slot .laneAngles)).getD lane.laneAngles

def observeFields (data : BusData) (fields : AmapFields) : AmapFields where
  routeState := (data.numField (.route .routeState) (-1)).getD fields.routeState
  maneuverState := (data.numField (.route .maneuverState) (-1)).getD fields.maneuverState
  maneuverCount := (data.numField (.route .maneuverCount) 0).getD fields.maneuverCount
  maneuverList := (maneuverListField data).getD fields.maneuverList
  visibleInApp := (visibleInAppField data).getD fields.visibleInApp
  sourceSupportsRg := (data.numField (.route .sourceSupportsRg) (-1)).getD fields.sourceSupportsRg
  distDestM := (data.numField (.route .distDestM) (-1)).getD fields.distDestM
  distManeuverM := (data.numField (.route .distManeuverM) (-1)).getD fields.distManeuverM
  etaSeconds := (data.numField (.route .etaSeconds) (-1)).getD fields.etaSeconds
  timeRemainingSeconds :=
    (data.num64Field (.route .timeRemainingSeconds) (-1)).getD fields.timeRemainingSeconds
  currentRoad := (data.strField (.route .currentRoad)).getD fields.currentRoad
  destination := (data.strField (.route .destination)).getD fields.destination
  laneGuidanceShowing :=
    (data.numField (.route .laneGuidanceShowing) (-1)).getD fields.laneGuidanceShowing
  laneGuidanceTotal :=
    (data.numField (.route .laneGuidanceTotal) (-1)).getD fields.laneGuidanceTotal
  laneGuidanceIndex :=
    (data.numField (.route .laneGuidanceIndex) (-1)).getD fields.laneGuidanceIndex
  laneGuidanceSlot :=
    (data.numField (.route .laneGuidanceSlot) (-1)).getD fields.laneGuidanceSlot
  maneuver slot := observeManeuver data slot (fields.maneuver slot)
  lane slot := observeLane data slot (fields.lane slot)

/-- `observe`.  A distance is fresh when the frame has one for the route or for
the head. -/
def observe (data : BusData) (raw : AmapRaw) : AmapRaw :=
  let fields := observeFields data raw.toAmapFields
  { toAmapFields := fields
    sourceName := (data.strField (.route .sourceName)).getD raw.sourceName
    headAligned :=
      AmapFields.validHead fields.head (fields.value ManeuverFields.ver fields.head (-1))
        (fields.value ManeuverFields.type fields.head (-1))
    distanceFresh :=
      data.has (RgdKey.route .distManeuverM).text ||
        (slotOf fields.head).any fun slot => data.has (RgdKey.maneuver slot .distance).text }

end AmapRaw

/-- `Snapshot`. -/
structure AmapSnapshot extends AmapFields where
  visualKey : List Char := []
  rawType : Int := -1
  physicalHead : Int := -1
  physicalVer : Int := -1
  physicalGeneration : Int := -1

namespace AmapSnapshot

def fromRaw (raw : AmapRaw) : AmapSnapshot := { toAmapFields := raw.toAmapFields }

/-- A record of a snapshot. -/
structure PayloadLine where
  key : RgdKey
  type : Char
  value : List Char

def PayloadLine.text (line : PayloadLine) : List Char :=
  line.key.text ++ ':' :: line.type :: ':' :: line.value

def appendNum (key : RgdKey) (v : Int) : List PayloadLine :=
  if 0 ≤ v ∨ key = .route .visibleInApp then [⟨key, 'n', decimal v⟩] else []

def clean (text : List Char) : List Char :=
  text.map fun char => if char = '\n' ∨ char = '\r' then ' ' else char

def appendStr (key : RgdKey) : Option (List Char) → List PayloadLine
  | none => []
  | some text => [⟨key, 's', clean text⟩]

def csv (list : Option (List Int)) : List Char := commaList (list.getD [])

def appendListAlways (key : RgdKey) (list : Option (List Int)) : List PayloadLine :=
  [⟨key, 's', csv list⟩]

def appendList (key : RgdKey) : Option (List Int) → List PayloadLine
  | none => []
  | some list => [⟨key, 's', commaList list⟩]

def appendMatrix (key : RgdKey) : Option (List (Option (List Int))) → List PayloadLine
  | none => []
  | some rows => [⟨key, 's', joinWith '|' (rows.map csv)⟩]

def routeLines (fields : AmapFields) : List PayloadLine :=
  appendNum (.route .routeState) fields.routeState ++
    appendNum (.route .maneuverState) fields.maneuverState ++
    appendNum (.route .maneuverCount) fields.maneuverCount ++
    appendListAlways (.route .maneuverList) fields.maneuverList ++
    appendNum (.route .visibleInApp) fields.visibleInApp ++
    appendNum (.route .sourceSupportsRg) fields.sourceSupportsRg ++
    appendNum (.route .distDestM) fields.distDestM ++
    appendNum (.route .distManeuverM) fields.distManeuverM ++
    appendNum (.route .etaSeconds) fields.etaSeconds ++
    appendNum (.route .timeRemainingSeconds) fields.timeRemainingSeconds ++
    appendStr (.route .currentRoad) fields.currentRoad ++
    appendStr (.route .destination) fields.destination ++
    appendNum (.route .laneGuidanceShowing) fields.laneGuidanceShowing ++
    appendNum (.route .laneGuidanceTotal) fields.laneGuidanceTotal ++
    appendNum (.route .laneGuidanceIndex) fields.laneGuidanceIndex ++
    appendNum (.route .laneGuidanceSlot) fields.laneGuidanceSlot

def maneuverLines (slot : Slot) (man : ManeuverFields) : List PayloadLine :=
  appendNum (.maneuver slot .type) man.type ++
    appendNum (.maneuver slot .ver) man.ver ++
    appendNum (.maneuver slot .turnAngle) man.turnAngle ++
    appendNum (.maneuver slot .exitAngle) man.exitAngle ++
    appendNum (.maneuver slot .zLevel) man.zLevel ++
    appendNum (.maneuver slot .junctionType) man.junctionType ++
    appendNum (.maneuver slot .drivingSide) man.drivingSide ++
    appendNum (.maneuver slot .distance) man.distance ++
    appendStr (.maneuver slot .name) man.name ++
    appendStr (.maneuver slot .afterRoad) man.afterRoad ++
    appendStr (.maneuver slot .exitInfo) man.exitInfo ++
    appendList (.maneuver slot .junctionAngles) man.junctionAngles ++
    appendNum (.maneuver slot .laneCount) man.laneCount ++
    appendNum (.maneuver slot .linkedLaneGuidanceIndex) man.linkedLaneGuidanceIndex ++
    appendNum (.maneuver slot .linkedLaneGuidanceSlot) man.linkedLaneGuidanceSlot ++
    appendList (.maneuver slot .lanePositions) man.lanePositions ++
    appendList (.maneuver slot .laneDirections) man.laneDirections ++
    appendList (.maneuver slot .laneStatus) man.laneStatus ++
    appendMatrix (.maneuver slot .laneAngles) man.laneAngles

def laneLines (slot : Slot) (lane : LaneFields) : List PayloadLine :=
  appendNum (.lane slot .index) lane.index ++
    appendNum (.lane slot .laneCount) lane.laneCount ++
    appendList (.lane slot .lanePositions) lane.lanePositions ++
    appendList (.lane slot .laneDirections) lane.laneDirections ++
    appendList (.lane slot .laneStatus) lane.laneStatus ++
    appendMatrix (.lane slot .laneAngles) lane.laneAngles

def slotUsed (fields : AmapFields) (slot : Slot) : Bool :=
  decide (0 ≤ (fields.maneuver slot).ver ∨ 0 ≤ (fields.maneuver slot).type) ||
    (fields.maneuverList.getD []).contains (slot.val : Int)

def laneUsed (lane : LaneFields) : Bool :=
  !decide (lane.index < 0 ∧ lane.laneCount < 0 ∧ lane.lanePositions = none ∧
    lane.laneDirections = none ∧ lane.laneStatus = none ∧ lane.laneAngles = none)

def payloadLines (fields : AmapFields) : List PayloadLine :=
  routeLines fields ++
    ((List.finRange maneuverCacheSize).filter (slotUsed fields)).flatMap
      (fun slot => maneuverLines slot (fields.maneuver slot)) ++
    ((List.finRange maneuverCacheSize).filter fun slot => laneUsed (fields.lane slot)).flatMap
      fun slot => laneLines slot (fields.lane slot)

/-- `toPayload`. -/
def toPayload (snapshot : AmapSnapshot) : List UInt8 :=
  encode ("@routeguidance\n".toList ++
    (payloadLines snapshot.toAmapFields).flatMap fun line => line.text ++ ['\n'])

end AmapSnapshot

end CarplayRgi
