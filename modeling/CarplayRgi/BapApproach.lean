import CarplayRgi.AmapSnapshot
import CarplayRgi.BapBridge

/-!
# The approach to the first maneuver

An update of the bridge reads the first maneuver of the list off the state: its
slot and version, its type, and the distances at which it is prepared and
announced.  The bridge remembers whether it is in the approach zone of that
maneuver.
-/

namespace CarplayRgi

open RouteGuidance

namespace BapBridge

def cityPrepareThresholdM : Int := 350
def highwayPrepareThresholdM : Int := 1000
def highwayStepThresholdM : Int := 2000
def bargraphActionPercentOfPrepare : Int := 15
def bargraphBlinkPercent : Int := 20

section Reading

variable (state : State)

def explicitClear : Bool :=
  decide (.maneuverCount ∈ state.dirtyMask ∧ state.route.maneuverCount = 0 ∧
    state.route.routeState ≤ 0)

def shouldClearManeuver : Bool :=
  decide (state.route.maneuverCount = 0 ∧ state.route.routeState ≤ 0)

/-- A list that is not there is an empty one. -/
def getManeuverIndexList : List Int := state.route.maneuverOrder.getD []

def hasManeuverList : Bool := !(getManeuverIndexList state).isEmpty

def hasAnyManeuver : Bool := decide (0 < state.route.maneuverCount)

def firstIdx : Int := (getManeuverIndexList state).headD (-1)

/-- A number of the first maneuver of the list. -/
def firstValue (field : ManeuverFields → Int) : Int :=
  ((slotOf (firstIdx state)).map fun slot => field (state.maneuver slot)).getD (-1)

def firstType : Int := firstValue state ManeuverFields.type

def firstVer : Int := firstValue state ManeuverFields.ver

def showManeuver : Bool := ManeuverMapper.isValidType (firstType state)

/-- The length of the route step decides, and the type if it is not known. -/
def isHighway : Bool :=
  let rawStepM := firstValue state ManeuverFields.distance
  if 0 < rawStepM then decide (highwayStepThresholdM < rawStepM)
  else decide (0 ≤ firstType state) && ManeuverMapper.isHighwayManeuver (firstType state)

def prepareThreshold : Int :=
  if isHighway state then highwayPrepareThresholdM else cityPrepareThresholdM

/-- `getBargraphDenominatorM`. -/
def bargraphDenominatorM : Int :=
  let denominator := firstValue state ManeuverFields.distance
  let policyCap := (prepareThreshold state * bargraphActionPercentOfPrepare).tdiv 100
  if denominator ≤ 0 then -1
  else if policyCap ≤ 0 then -1
  else if policyCap < denominator then policyCap
  else denominator

def hasUsableDistance : Bool := decide (0 < state.route.distManeuverM)

def isArrival : Bool :=
  [ManeuverMapper.mtArriveEndOfNavigation, ManeuverMapper.mtArriveAtDestination,
    ManeuverMapper.mtArriveEndOfDirections, ManeuverMapper.mtArriveDestinationLeft,
    ManeuverMapper.mtArriveDestinationRight].contains (firstType state)

end Reading

structure ApproachZone where
  inApproachZone : Bool
  lastFirstManeuverIdx : Int
  lastFirstManeuverVer : Int
  deriving DecidableEq

namespace ApproachZone

def outside : ApproachZone := ⟨false, -1, -1⟩

variable (state : State) (zone : ApproachZone)

/-- Another slot or another version is another maneuver. -/
def notePrimary : ApproachZone :=
  if firstIdx state ≠ zone.lastFirstManeuverIdx ∨ firstVer state ≠ zone.lastFirstManeuverVer then
    ⟨false, firstIdx state, firstVer state⟩
  else zone

def nowApproach : Bool :=
  isArrival state ||
    if hasUsableDistance state then decide (state.route.distManeuverM ≤ prepareThreshold state)
    else (zone.notePrimary state).inApproachZone

def approachChanged : Bool :=
  hasUsableDistance state &&
    decide (zone.nowApproach state ≠ (zone.notePrimary state).inApproachZone) &&
    showManeuver state && hasManeuverList state

def follow : ApproachZone :=
  if zone.approachChanged state then
    { zone.notePrimary state with inApproachZone := zone.nowApproach state }
  else zone.notePrimary state

/-- A change of the zone makes everything dirty that is shown differently. -/
def dirty : Finset DirtyFlag :=
  if zone.approachChanged state then
    state.dirtyMask ∪ {.distMan, .laneGuidance, .maneuverText, .maneuverIcon}
  else state.dirtyMask

end ApproachZone

end BapBridge

end CarplayRgi
