import Mathlib.Algebra.Group.Int.Defs
import Mathlib.Algebra.Group.Nat.Defs
import Mathlib.Data.Int.Basic
import Mathlib.Data.List.Sort

/-!
# Side streets of a maneuver

The angles of the other arms of a junction are matched with the exits that the
display can draw, the best match first, and each arm takes the first exit that
is still free.  An exit is a multiple of 22.5 degrees, so all angles are kept
in half degrees, and differences are rounded to the 24 bits of a `float`.
-/

namespace CarplayRgi

namespace SideStreets

/-- Rounding to 24 bits, to the even number when two are equally near. -/
def roundMantissa (number : Nat) : Nat :=
  let unit := 2 ^ (Nat.log2 number - 23)
  let rest := number % unit
  let down := number - rest
  if unit < 2 * rest ∨ (unit = 2 * rest ∧ number / unit % 2 = 1) then down + unit else down

def toFloat (halves : Int) : Int :=
  if halves < 0 then -(roundMantissa halves.natAbs : Int) else roundMantissa halves.natAbs

/-- `Float.MAX_VALUE`. -/
def floatMax : Int := 2 * (2 ^ 128 - 2 ^ 104)

def floatDistance (exit target : Int) : Int := (toFloat (exit - target)).natAbs

/-- The exits of a whole circle, from -180 to 180 degrees. -/
def exitsFull17 : List Int :=
  [-360, -315, -270, -225, -180, -135, -90, -45, 0, 45, 90, 135, 180, 225, 270, 315, 360]

/-- The same without the two that point back. -/
def exits15 : List Int :=
  [-315, -270, -225, -180, -135, -90, -45, 0, 45, 90, 135, 180, 225, 270, 315]

def exits7 : List Int := [270, 180, 90, 0, -90, -180, -270]

def exitAngleMissing : Int := 1000

def closestExit (angle : Int) : List Int → Int
  | [] => 0
  | first :: rest =>
      rest.foldl
        (fun best exit => if floatDistance exit angle < floatDistance best angle then exit else best)
        first

/-- The exits by their distance from an angle, the nearest first, at most as
many as there are streets. -/
def bestMatchingExitPairs (angle : Int) (topN : Nat) (exits : List Int) : List (Int × Int) :=
  let target := toFloat (2 * angle)
  ((exits.map fun exit => (floatDistance exit target, exit)).insertionSort
    fun first second => first.1 ≤ second.1).take topN

/-- A side street with its best difference. -/
def entry (pairs : List (Int × Int)) : Int × List (Int × Int) :=
  ((pairs.head?.map Prod.fst).getD floatMax, pairs)

/-- `appendEntries` into an empty list. -/
def entries (sidestreets exits : List Int) : List (Int × List (Int × Int)) :=
  if exits = [] then []
  else sidestreets.map fun angle => entry (bestMatchingExitPairs angle sidestreets.length exits)

/-- The code of an exit, in steps of 22.5 degrees. -/
def angleToDirectionCode (angle : Int) : Int :=
  let truncated := angle.tdiv 45
  let step := if angle < 0 ∧ truncated * 45 ≠ angle then truncated - 1 else truncated
  let clamped := max (-8) (min 8 step)
  if clamped ≤ 0 then -clamped * 16 else (16 - clamped) * 16

/-- Each side street takes the first of its codes that is not taken. -/
def emitEntry (codes : List Int) (pairs : List (Int × Int)) : List Int :=
  match (pairs.map fun pair => angleToDirectionCode pair.2).find? fun code => !codes.contains code with
  | none => codes
  | some code => codes ++ [code]

def emitUniqueDirectionCodes (entries : List (Int × List (Int × Int))) : List Int :=
  ((entries.insertionSort fun first second => first.1 ≤ second.1).map Prod.snd).foldl emitEntry []

def occupiedSidestreetsIntersection (junctionAngles : List Int) (exitAngle : Int) : List Int :=
  let below := junctionAngles.filter (· < exitAngle)
  let above := junctionAngles.filter (exitAngle < ·)
  let pivot := exits7.idxOf (closestExit (toFloat (2 * exitAngle)) exits7)
  let exitsForAbove := exits7.take pivot
  let exitsForBelow := (exits7.drop (pivot + 1)).reverse
  if exitsForAbove.length < above.length ∨ exitsForBelow.length < below.length then []
  else emitUniqueDirectionCodes (entries above exitsForAbove ++ entries below exitsForBelow)

/-- The exits before and after the one that is taken. -/
def roundaboutExits (drivingSide exitAngle : Int) : List Int × List Int :=
  let exitMatch := closestExit (toFloat (2 * exitAngle)) exitsFull17
  if exitMatch = 360 ∨ exitMatch = -360 then (exits15, [])
  else
    let index := exits15.idxOf exitMatch
    let exitsAbove := (exits15.drop (index + 1)).reverse
    let exitsBelow := exits15.take index
    if drivingSide = 1 then (exitsBelow, exitsAbove) else (exitsAbove, exitsBelow)

def occupiedSidestreetsRoundabout (drivingSide : Int) (junctionAngles : List Int)
    (exitAngle : Int) : List Int :=
  let below := junctionAngles.filter (· < exitAngle)
  let above := junctionAngles.filter (exitAngle < ·)
  let before := if drivingSide = 1 then below else above
  let after := if drivingSide = 1 then above else below
  let exits := roundaboutExits drivingSide exitAngle
  if exits.1.length < before.length then []
  else
    emitUniqueDirectionCodes
      (entries before exits.1 ++ if after.length ≤ exits.2.length then entries after exits.2 else [])

def computesSidestreets (maneuverType junctionType : Int) : Bool :=
  if [11, 16, 19, 51].contains maneuverType then true
  else if [1, 2, 3, 13, 14, 20, 21, 47, 48, 49, 50].contains maneuverType then
    decide (junctionType = 0)
  else decide (28 ≤ maneuverType ∧ maneuverType ≤ 46 ∧ junctionType = 1)

/-- The side streets that follow from the arms of the junction. -/
def junctionDirections (junctionType drivingSide : Int) (junctionAngles : Option (List Int))
    (exitAngle : Int) : List Int :=
  match junctionAngles with
  | none | some [] => []
  | some angles =>
      if exitAngle = exitAngleMissing ∨ (junctionType ≠ 0 ∧ junctionType ≠ 1) then []
      else if junctionType = 1 then occupiedSidestreetsRoundabout drivingSide angles exitAngle
      else occupiedSidestreetsIntersection angles exitAngle

def calcSideStreetDirections (maneuverType junctionType drivingSide : Int)
    (junctionAngles : Option (List Int)) (exitAngle : Int) : List Int :=
  if maneuverType = 7 then []
  else if maneuverType = 6 then [if drivingSide = 1 then 192 else 64]
  else if maneuverType = 8 ∨ maneuverType = 22 ∨ maneuverType = 23 then [0]
  else if computesSidestreets maneuverType junctionType then
    junctionDirections junctionType drivingSide junctionAngles exitAngle
  else []

/-- The codes as unsigned bytes. -/
def calcSideStreetsBytes (maneuverType junctionType drivingSide : Int)
    (junctionAngles : Option (List Int)) (exitAngle : Int) : List Int :=
  (calcSideStreetDirections maneuverType junctionType drivingSide junctionAngles exitAngle).map
    (· % 256)

theorem emitEntry_nodup {codes : List Int} (nodup : codes.Nodup) (pairs : List (Int × Int)) :
    (emitEntry codes pairs).Nodup := by
  unfold emitEntry
  cases found : (pairs.map fun pair => angleToDirectionCode pair.2).find? fun code =>
      !codes.contains code with
  | none => exact nodup
  | some code =>
      have free : code ∉ codes := by simpa using List.find?_some found
      exact nodup.append (List.nodup_singleton code) (by simpa using free)

theorem emitUniqueDirectionCodes_nodup (entries : List (Int × List (Int × Int))) :
    (emitUniqueDirectionCodes entries).Nodup := by
  have emitted : ∀ (lists : List (List (Int × Int))) (codes : List Int), codes.Nodup →
      (lists.foldl emitEntry codes).Nodup := by
    intro lists
    induction lists with
    | nil => exact fun _ nodup => nodup
    | cons pairs lists ih => exact fun codes nodup => ih _ (emitEntry_nodup nodup pairs)
  exact emitted _ [] List.nodup_nil

/-- Too many arms leave nothing to draw. -/
theorem nodup_unless {tooMany : Prop} [Decidable tooMany]
    (entries : List (Int × List (Int × Int))) :
    (if tooMany then [] else emitUniqueDirectionCodes entries).Nodup := by
  split_ifs
  · exact List.nodup_nil
  · exact emitUniqueDirectionCodes_nodup entries

theorem junctionDirections_nodup (junctionType drivingSide : Int)
    (junctionAngles : Option (List Int)) (exitAngle : Int) :
    (junctionDirections junctionType drivingSide junctionAngles exitAngle).Nodup := by
  unfold junctionDirections
  split
  · exact List.nodup_nil
  · exact List.nodup_nil
  · split_ifs
    · exact List.nodup_nil
    · exact nodup_unless _
    · exact nodup_unless _

/-- No direction is drawn twice. -/
theorem calcSideStreetDirections_nodup (maneuverType junctionType drivingSide : Int)
    (junctionAngles : Option (List Int)) (exitAngle : Int) :
    (calcSideStreetDirections maneuverType junctionType drivingSide junctionAngles
      exitAngle).Nodup := by
  unfold calcSideStreetDirections
  by_cases exits : maneuverType = 7
  · rw [if_pos exits]
    exact List.nodup_nil
  by_cases enters : maneuverType = 6
  · rw [if_neg exits, if_pos enters]
    exact List.nodup_singleton _
  by_cases ramp : maneuverType = 8 ∨ maneuverType = 22 ∨ maneuverType = 23
  · rw [if_neg exits, if_neg enters, if_pos ramp]
    exact List.nodup_singleton _
  rw [if_neg exits, if_neg enters, if_neg ramp]
  split_ifs
  · exact junctionDirections_nodup _ _ _ _
  · exact List.nodup_nil

/-- A left turn at a crossing with an arm to the right. -/
example : calcSideStreetDirections 1 0 0 (some [90, -90]) (-90) = [192] := by
  decide +kernel

end SideStreets

end CarplayRgi
