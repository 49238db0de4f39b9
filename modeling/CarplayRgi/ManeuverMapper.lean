import Mathlib.Algebra.Group.Int.Defs
import Mathlib.Data.Int.Basic
import Mathlib.Data.List.Basic

/-!
# Maneuver types and display elements

A maneuver type with its angle, junction type and driving side is shown as a
main element with a direction.  Some types are mapped whatever the junction;
of the others only the exits of a roundabout are mapped when the junction is
not a single intersection.
-/

namespace CarplayRgi

namespace ManeuverMapper

def noSymbol : Int := 0
def noInfo : Int := 1
def arrived : Int := 3
def followStreet : Int := 11
def changeLane : Int := 12
def turn : Int := 13
def exitRight : Int := 15
def exitLeft : Int := 16
def roundaboutTrsRight : Int := 21
def roundaboutTrsLeft : Int := 22
def uturn : Int := 25
def exitRoundaboutTrsRight : Int := 26
def exitRoundaboutTrsLeft : Int := 27

def dirStraight : Int := 0
def dirSlightLeft : Int := 32
def dirLeft : Int := 64
def dirSharpLeft : Int := 96
def dirUturn : Int := 128
def dirSharpRight : Int := 160
def dirRight : Int := 192
def dirSlightRight : Int := 224

def junctionSingleIntersection : Int := 0
def junctionRoundabout : Int := 1
def drivingSideLeft : Int := 1

def mtNotSet : Int := -1
def mtNoTurn : Int := 0
def mtLeftTurn : Int := 1
def mtRightTurn : Int := 2
def mtStraightAhead : Int := 3
def mtUTurn : Int := 4
def mtFollowRoad : Int := 5
def mtEnterRoundabout : Int := 6
def mtExitRoundabout : Int := 7
def mtOffRamp : Int := 8
def mtOnRamp : Int := 9
def mtArriveEndOfNavigation : Int := 10
def mtStartRoute : Int := 11
def mtArriveAtDestination : Int := 12
def mtKeepLeft : Int := 13
def mtKeepRight : Int := 14
def mtEnterFerry : Int := 15
def mtExitFerry : Int := 16
def mtChangeFerry : Int := 17
def mtStartRouteWithUTurn : Int := 18
def mtUTurnAtRoundabout : Int := 19
def mtLeftTurnAtEnd : Int := 20
def mtRightTurnAtEnd : Int := 21
def mtHighwayOffRampLeft : Int := 22
def mtHighwayOffRampRight : Int := 23
def mtArriveDestinationLeft : Int := 24
def mtArriveDestinationRight : Int := 25
def mtUTurnWhenPossible : Int := 26
def mtArriveEndOfDirections : Int := 27
def mtRoundaboutExit1 : Int := 28
def mtRoundaboutExit19 : Int := 46
def mtSharpLeftTurn : Int := 47
def mtSharpRightTurn : Int := 48
def mtSlightLeftTurn : Int := 49
def mtSlightRightTurn : Int := 50
def mtChangeHighway : Int := 51
def mtChangeHighwayLeft : Int := 52
def mtChangeHighwayRight : Int := 53

def isRoundaboutExit (maneuverType : Int) : Bool :=
  decide (mtRoundaboutExit1 ≤ maneuverType ∧ maneuverType ≤ mtRoundaboutExit19)

def hasDirectionalTurnAngle (turnAngle : Int) : Bool :=
  decide (turnAngle ≠ 0 ∧ turnAngle ≠ 1000 ∧ turnAngle ≠ -1000)

/-- The types whose direction is kept as it is. -/
def keepsDirection (maneuverType : Int) : Bool :=
  isRoundaboutExit maneuverType ||
    [mtEnterRoundabout, mtExitRoundabout, mtUTurnAtRoundabout, mtUTurn, mtStartRouteWithUTurn,
      mtUTurnWhenPossible, mtOffRamp, mtOnRamp, mtHighwayOffRampLeft, mtHighwayOffRampRight,
      mtKeepLeft, mtKeepRight, mtSlightLeftTurn, mtSlightRightTurn, mtSharpLeftTurn,
      mtSharpRightTurn].contains maneuverType

def applyDsiNavBapDirectionOverride (maneuverType dir : Int) : Int :=
  if keepsDirection maneuverType then dir
  else if dir = dirSlightLeft ∨ dir = dirLeft ∨ dir = dirSharpLeft then dirLeft
  else if dir = dirSlightRight ∨ dir = dirRight ∨ dir = dirSharpRight then dirRight
  else if dir = dirUturn then dirUturn
  else dirStraight

/-- The codes of the exits from -180 to 180 degrees. -/
def dir16 : List Int :=
  [128, 112, 96, 80, 64, 48, 32, 16, 0, 240, 224, 208, 192, 176, 160, 144, 128]

/-- The nearest of the exits; no angle in whole degrees is between two. -/
def directionFromAngle16 (angle : Int) : Int :=
  let clamped := max (-180) (min 180 angle)
  dir16.getD ((4 * (clamped + 180) + 45) / 90).toNat 0

def directionFromTurnAngle (turnAngle : Int) : Int :=
  if turnAngle = 1000 ∨ turnAngle = -1000 ∨ turnAngle = 0 then dirStraight
  else if turnAngle < 0 then dirLeft
  else dirRight

def dirFromEndOfRoadAngleLeft (exitAngle : Int) : Int :=
  if -67 ≤ exitAngle ∧ exitAngle < 0 then dirSlightLeft
  else if -180 ≤ exitAngle ∧ exitAngle < -112 then dirSharpLeft
  else dirLeft

def dirFromEndOfRoadAngleRight (exitAngle : Int) : Int :=
  if 0 < exitAngle ∧ exitAngle ≤ 67 then dirSlightRight
  else if 112 < exitAngle ∧ exitAngle ≤ 180 then dirSharpRight
  else dirRight

/-- The types that are mapped whatever the junction. -/
def mapGlobal (maneuverType turnAngle drivingSide : Int) : Option (Int × Int) :=
  if maneuverType = mtNotSet then some (noSymbol, dirStraight)
  else if maneuverType = mtNoTurn ∨ maneuverType = mtFollowRoad then some (followStreet, dirStraight)
  else if maneuverType = mtArriveEndOfNavigation ∨ maneuverType = mtArriveAtDestination ∨
      maneuverType = mtArriveEndOfDirections then some (arrived, dirStraight)
  else if maneuverType = mtChangeHighwayLeft then some (changeLane, dirLeft)
  else if maneuverType = mtChangeHighwayRight then some (changeLane, dirRight)
  else if maneuverType = mtEnterFerry ∨ maneuverType = mtChangeFerry then
    some (followStreet, dirStraight)
  else if maneuverType = mtStartRoute ∨ maneuverType = mtExitFerry ∨
      maneuverType = mtChangeHighway then some (turn, directionFromTurnAngle turnAngle)
  else if maneuverType = mtUTurnAtRoundabout then
    some (if drivingSide = drivingSideLeft then roundaboutTrsLeft else roundaboutTrsRight, dirUturn)
  else if maneuverType = mtEnterRoundabout then
    some (turn, applyDsiNavBapDirectionOverride maneuverType
      (if drivingSide = drivingSideLeft then dirLeft else dirRight))
  else none

def mapRoundabout (maneuverType turnAngle drivingSide : Int) : Int × Int :=
  if maneuverType = mtExitRoundabout then
    if drivingSide = drivingSideLeft then (exitRoundaboutTrsLeft, dirLeft)
    else (exitRoundaboutTrsRight, dirRight)
  else if isRoundaboutExit maneuverType then
    (if drivingSide = drivingSideLeft then roundaboutTrsLeft else roundaboutTrsRight,
      directionFromAngle16 turnAngle)
  else (noInfo, dirStraight)

/-- The main element and the direction before it is coarsened. -/
def mapIntersection (maneuverType turnAngle drivingSide : Int) : Int × Int :=
  if maneuverType = mtStraightAhead then (turn, dirStraight)
  else if maneuverType = mtLeftTurn then (turn, dirLeft)
  else if maneuverType = mtRightTurn then (turn, dirRight)
  else if maneuverType = mtSlightLeftTurn ∨ maneuverType = mtKeepLeft then (turn, dirSlightLeft)
  else if maneuverType = mtSlightRightTurn ∨ maneuverType = mtKeepRight then (turn, dirSlightRight)
  else if maneuverType = mtSharpLeftTurn then (turn, dirSharpLeft)
  else if maneuverType = mtSharpRightTurn then (turn, dirSharpRight)
  else if maneuverType = mtUTurn ∨ maneuverType = mtStartRouteWithUTurn ∨
      maneuverType = mtUTurnWhenPossible then
    (uturn,
      if hasDirectionalTurnAngle turnAngle then if turnAngle < 0 then dirLeft else dirRight
      else dirLeft)
  else if maneuverType = mtOffRamp then
    if drivingSide = drivingSideLeft then (exitLeft, dirSlightLeft) else (exitRight, dirSlightRight)
  else if maneuverType = mtOnRamp then
    -- The angle is compared as an unsigned number, so a negative one is large.
    (turn,
      if drivingSide = drivingSideLeft ∧ 0xB3 < turnAngle % 2 ^ 32 then dirSlightLeft
      else dirSlightRight)
  else if maneuverType = mtHighwayOffRampLeft then (exitLeft, dirSlightLeft)
  else if maneuverType = mtHighwayOffRampRight then (exitRight, dirSlightRight)
  else if maneuverType = mtArriveDestinationLeft then (arrived, dirLeft)
  else if maneuverType = mtArriveDestinationRight then (arrived, dirRight)
  else if maneuverType = mtLeftTurnAtEnd then (turn, dirFromEndOfRoadAngleLeft turnAngle)
  else if maneuverType = mtRightTurnAtEnd then (turn, dirFromEndOfRoadAngleRight turnAngle)
  else (noInfo, dirStraight)

/-- `map`. -/
def map (maneuverType turnAngle junctionType drivingSide : Int) : Int × Int :=
  match mapGlobal maneuverType turnAngle drivingSide with
  | some mapped => mapped
  | none =>
      if junctionType ≠ junctionSingleIntersection then
        if junctionType ≠ junctionRoundabout then (noInfo, dirStraight)
        else mapRoundabout maneuverType turnAngle drivingSide
      else
        let mapped := mapIntersection maneuverType turnAngle drivingSide
        (mapped.1, applyDsiNavBapDirectionOverride maneuverType mapped.2)

def isHighwayManeuver (maneuverType : Int) : Bool :=
  [mtOffRamp, mtOnRamp, mtHighwayOffRampLeft, mtHighwayOffRampRight, mtChangeHighway,
    mtChangeHighwayLeft, mtChangeHighwayRight].contains maneuverType

def isValidType (maneuverType : Int) : Bool :=
  decide (mtNoTurn ≤ maneuverType ∧ maneuverType ≤ mtChangeHighwayRight)

end ManeuverMapper

end CarplayRgi
