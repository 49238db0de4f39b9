import CarplayRgi.ManeuverMapper

/-!
# Maneuver types and renderer icons

The renderer is told an icon, a direction and an exit angle for a maneuver
type, where the display of the other head unit is told a main element and a
direction.  The two mappings are tables of their own; this file says for which
angles they point to one side.
-/

namespace CarplayRgi

namespace RendererMapper

open ManeuverMapper

def iconNone : Int := 0
def iconApproach : Int := 1
def iconTurn : Int := 2
def iconUturn : Int := 3
def iconMerge : Int := 4
def iconExit : Int := 5
def iconRoundabout : Int := 6
def iconArrived : Int := 7

def approachTypes : List Int :=
  [mtNoTurn, mtFollowRoad, mtStraightAhead, mtStartRoute, mtEnterFerry, mtExitFerry, mtChangeFerry,
    mtChangeHighway]

def turnTypes : List Int :=
  [mtLeftTurn, mtRightTurn, mtSlightLeftTurn, mtSlightRightTurn, mtSharpLeftTurn, mtSharpRightTurn,
    mtKeepLeft, mtKeepRight, mtLeftTurnAtEnd, mtRightTurnAtEnd]

def uTurnTypes : List Int := [mtUTurn, mtStartRouteWithUTurn, mtUTurnWhenPossible]

def exitTypes : List Int :=
  [mtOffRamp, mtHighwayOffRampLeft, mtHighwayOffRampRight, mtChangeHighwayLeft,
    mtChangeHighwayRight]

def arrivedTypes : List Int :=
  [mtArriveEndOfNavigation, mtArriveAtDestination, mtArriveEndOfDirections,
    mtArriveDestinationLeft, mtArriveDestinationRight]

def mapIcon (mt : Int) : Int :=
  if mt ∈ approachTypes then iconApproach
  else if mt ∈ turnTypes then iconTurn
  else if mt ∈ uTurnTypes then iconUturn
  else if mt = mtOnRamp then iconMerge
  else if mt ∈ exitTypes then iconExit
  else if mt ∈ [mtEnterRoundabout, mtExitRoundabout, mtUTurnAtRoundabout] ∨
      isRoundaboutExit mt = true then iconRoundabout
  else if mt ∈ arrivedTypes then iconArrived
  else iconNone

/-- What is sent for an angle that is not known. -/
def angleUnknown : Int := 1000

/-- Left is -1 and right is 1; a turn has its side in the exit angle. -/
def mapDirection (mt turnAngle drivingSide : Int) : Int :=
  if mt ∈ uTurnTypes then
    if turnAngle ≠ angleUnknown ∧ turnAngle ≠ -angleUnknown ∧ turnAngle ≠ 0 then
      if turnAngle < 0 then -1 else 1
    else -1
  else if mt = mtOnRamp then if drivingSide = drivingSideLeft then -1 else 1
  else if mt = mtChangeHighwayLeft then -1
  else if mt = mtChangeHighwayRight then 1
  else if mt = mtArriveDestinationLeft then -1
  else if mt = mtArriveDestinationRight then 1
  else if mt = mtHighwayOffRampLeft then -1
  else if mt = mtHighwayOffRampRight then 1
  else if mt = mtOffRamp then if drivingSide = drivingSideLeft then -1 else 1
  else 0

def defaultAngle (mt : Int) : Int :=
  if mt = mtLeftTurn ∨ mt = mtLeftTurnAtEnd then -90
  else if mt = mtRightTurn ∨ mt = mtRightTurnAtEnd then 90
  else if mt = mtSlightLeftTurn ∨ mt = mtKeepLeft then -45
  else if mt = mtSlightRightTurn ∨ mt = mtKeepRight then 45
  else if mt = mtSharpLeftTurn then -135
  else if mt = mtSharpRightTurn then 135
  else if mt ∈ uTurnTypes then -180
  else 0

/-- The angle of the type when none is known. -/
def knownAngle (mt turnAngle : Int) : Int :=
  if turnAngle = angleUnknown ∨ turnAngle = -angleUnknown then defaultAngle mt else turnAngle

def mapExitAngle (mt turnAngle : Int) : Int :=
  let angle := knownAngle mt turnAngle
  if mt = mtOffRamp then if angle ≠ 0 then angle else 30
  else if mt = mtHighwayOffRampLeft then if angle ≠ 0 then angle else -30
  else if mt = mtHighwayOffRampRight then if angle ≠ 0 then angle else 30
  else angle

inductive Side where
  | left
  | neutral
  | right
  deriving DecidableEq

namespace Side

def isOpposite : Side → Side → Bool
  | .left, .right | .right, .left => true
  | _, _ => false

def ofSign (number : Int) : Side :=
  if number < 0 then .left else if 0 < number then .right else .neutral

@[simp]
theorem isOpposite_neutral (side : Side) : side.isOpposite .neutral = false := by
  cases side with
  | left | neutral | right => rfl

@[simp]
theorem isOpposite_self (side : Side) : side.isOpposite side = false := by
  cases side with
  | left | neutral | right => rfl

@[simp]
theorem neutral_isOpposite (side : Side) : neutral.isOpposite side = false :=
  rfl

theorem left_isOpposite_iff {number : Int} :
    left.isOpposite (ofSign number) = false ↔ number ≤ 0 := by
  unfold ofSign
  split_ifs with negative positive
  · exact iff_of_true rfl (by omega)
  · exact iff_of_false (by decide) (by omega)
  · exact iff_of_true rfl (by omega)

theorem right_isOpposite_iff {number : Int} :
    right.isOpposite (ofSign number) = false ↔ 0 ≤ number := by
  unfold ofSign
  split_ifs with negative positive
  · exact iff_of_false (by decide) (by omega)
  · exact iff_of_true rfl (by omega)
  · exact iff_of_true rfl (by omega)

end Side

/-- The side that a main element has by itself. -/
def elementSide (mainElement : Int) : Side :=
  if mainElement ∈ [exitLeft, roundaboutTrsLeft, exitRoundaboutTrsLeft] then .left
  else if mainElement ∈ [exitRight, roundaboutTrsRight, exitRoundaboutTrsRight] then .right
  else .neutral

/-- The codes up to a turn around are on the left. -/
def directionSide (dir : Int) : Side :=
  if 0 < dir ∧ dir < dirUturn then .left else if dirUturn < dir then .right else .neutral

/-- The side of the direction, or of the exit angle of a turn. -/
def rendererSide (mt turnAngle drivingSide : Int) : Side :=
  .ofSign (if mapIcon mt = iconTurn then mapExitAngle mt turnAngle
    else mapDirection mt turnAngle drivingSide)

/-- No part of an element is opposite to a side. -/
def Agrees (mapped : Int × Int) (shown : Side) : Prop :=
  (elementSide mapped.1).isOpposite shown = false ∧
    (directionSide mapped.2).isOpposite shown = false

/-- At a single intersection the two displays never show opposite sides. -/
def SidesAgree (mt turnAngle drivingSide : Int) : Prop :=
  Agrees (map mt turnAngle junctionSingleIntersection drivingSide)
    (rendererSide mt turnAngle drivingSide)

def leftTurnTypes : List Int :=
  [mtLeftTurn, mtSlightLeftTurn, mtSharpLeftTurn, mtKeepLeft, mtLeftTurnAtEnd]

def rightTurnTypes : List Int :=
  [mtRightTurn, mtSlightRightTurn, mtSharpRightTurn, mtKeepRight, mtRightTurnAtEnd]

/-- The types with a side of their own in the renderer. -/
def sidedTypes : List Int :=
  uTurnTypes ++ [mtOnRamp, mtChangeHighwayLeft, mtChangeHighwayRight, mtArriveDestinationLeft,
    mtArriveDestinationRight, mtHighwayOffRampLeft, mtHighwayOffRampRight, mtOffRamp]

theorem agrees_neutral (mapped : Int × Int) : Agrees mapped .neutral := by
  simp [Agrees]

/-- An element on one side, or with a direction only. -/
theorem agrees_iff_of_sided {mapped : Int × Int} {side shown : Side}
    (element : elementSide mapped.1 = side ∨ elementSide mapped.1 = .neutral)
    (direction : directionSide mapped.2 = side) :
    Agrees mapped shown ↔ side.isOpposite shown = false := by
  unfold Agrees
  rw [direction]
  rcases element with sided | neutral
  · rw [sided, and_self]
  · rw [neutral, Side.neutral_isOpposite]
    simp

theorem rendererSide_of_turn {mt : Int} (isTurn : mt ∈ turnTypes) (turnAngle drivingSide : Int) :
    rendererSide mt turnAngle drivingSide = .ofSign (knownAngle mt turnAngle) := by
  simp only [turnTypes, List.mem_cons, List.not_mem_nil, or_false] at isTurn
  rcases isTurn with rfl | rfl | rfl | rfl | rfl | rfl | rfl | rfl | rfl | rfl
  all_goals rfl

/-- A type that is neither a turn nor sided shows no side. -/
theorem rendererSide_of_other {mt : Int} (noTurn : mt ∉ turnTypes) (unsided : mt ∉ sidedTypes)
    (turnAngle drivingSide : Int) : rendererSide mt turnAngle drivingSide = .neutral := by
  have notIcon : mapIcon mt ≠ iconTurn := by
    unfold mapIcon
    split_ifs
    all_goals decide
  simp only [sidedTypes, List.mem_append, List.mem_cons, List.not_mem_nil, or_false,
    not_or] at unsided
  obtain ⟨noUTurn, one, two, three, four, five, six, seven, eight⟩ := unsided
  unfold rendererSide mapDirection
  simp only [if_neg notIcon, if_neg noUTurn, if_neg one, if_neg two, if_neg three, if_neg four,
    if_neg five, if_neg six, if_neg seven, if_neg eight]
  rfl

theorem left_turn_displayed {mt : Int} (isLeft : mt ∈ leftTurnTypes) (turnAngle drivingSide : Int) :
    elementSide (map mt turnAngle junctionSingleIntersection drivingSide).1 = .neutral ∧
      directionSide (map mt turnAngle junctionSingleIntersection drivingSide).2 = .left := by
  simp only [leftTurnTypes, List.mem_cons, List.not_mem_nil, or_false] at isLeft
  rcases isLeft with rfl | rfl | rfl | rfl | rfl
  · exact ⟨rfl, rfl⟩
  · exact ⟨rfl, rfl⟩
  · exact ⟨rfl, rfl⟩
  · exact ⟨rfl, rfl⟩
  · refine ⟨rfl, ?_⟩
    change directionSide (applyDsiNavBapDirectionOverride mtLeftTurnAtEnd
      (dirFromEndOfRoadAngleLeft turnAngle)) = .left
    unfold dirFromEndOfRoadAngleLeft
    split_ifs
    all_goals decide

theorem right_turn_displayed {mt : Int} (isRight : mt ∈ rightTurnTypes)
    (turnAngle drivingSide : Int) :
    elementSide (map mt turnAngle junctionSingleIntersection drivingSide).1 = .neutral ∧
      directionSide (map mt turnAngle junctionSingleIntersection drivingSide).2 = .right := by
  simp only [rightTurnTypes, List.mem_cons, List.not_mem_nil, or_false] at isRight
  rcases isRight with rfl | rfl | rfl | rfl | rfl
  · exact ⟨rfl, rfl⟩
  · exact ⟨rfl, rfl⟩
  · exact ⟨rfl, rfl⟩
  · exact ⟨rfl, rfl⟩
  · refine ⟨rfl, ?_⟩
    change directionSide (applyDsiNavBapDirectionOverride mtRightTurnAtEnd
      (dirFromEndOfRoadAngleRight turnAngle)) = .right
    unfold dirFromEndOfRoadAngleRight
    split_ifs
    all_goals decide

theorem sidesAgree_left_turn {mt : Int} (isLeft : mt ∈ leftTurnTypes) (turnAngle drivingSide : Int) :
    SidesAgree mt turnAngle drivingSide ↔ turnAngle ≤ 0 ∨ turnAngle = angleUnknown := by
  have isTurn : mt ∈ turnTypes := (by decide : ∀ other ∈ leftTurnTypes, other ∈ turnTypes) mt isLeft
  have default : defaultAngle mt < 0 :=
    (by decide : ∀ other ∈ leftTurnTypes, defaultAngle other < 0) mt isLeft
  obtain ⟨element, direction⟩ := left_turn_displayed isLeft turnAngle drivingSide
  rw [SidesAgree, agrees_iff_of_sided (.inr element) direction, rendererSide_of_turn isTurn,
    Side.left_isOpposite_iff, knownAngle, angleUnknown]
  split_ifs with unknown
  · exact iff_of_true (by omega) (by omega)
  · omega

theorem sidesAgree_right_turn {mt : Int} (isRight : mt ∈ rightTurnTypes)
    (turnAngle drivingSide : Int) :
    SidesAgree mt turnAngle drivingSide ↔ 0 ≤ turnAngle ∨ turnAngle = -angleUnknown := by
  have isTurn : mt ∈ turnTypes :=
    (by decide : ∀ other ∈ rightTurnTypes, other ∈ turnTypes) mt isRight
  have default : 0 < defaultAngle mt :=
    (by decide : ∀ other ∈ rightTurnTypes, 0 < defaultAngle other) mt isRight
  obtain ⟨element, direction⟩ := right_turn_displayed isRight turnAngle drivingSide
  rw [SidesAgree, agrees_iff_of_sided (.inr element) direction, rendererSide_of_turn isTurn,
    Side.right_isOpposite_iff, knownAngle, angleUnknown]
  split_ifs with unknown
  · exact iff_of_true (by omega) (by omega)
  · omega

/-- A turn around goes to the side of its angle on both displays. -/
theorem sidesAgree_uTurn {mt : Int} (isUTurn : mt ∈ uTurnTypes) (turnAngle drivingSide : Int) :
    SidesAgree mt turnAngle drivingSide := by
  have displayed : map mt turnAngle junctionSingleIntersection drivingSide =
      (uturn, if hasDirectionalTurnAngle turnAngle then
        if turnAngle < 0 then dirLeft else dirRight else dirLeft) := by
    simp only [uTurnTypes, List.mem_cons, List.not_mem_nil, or_false] at isUTurn
    rcases isUTurn with rfl | rfl | rfl
    all_goals rfl
  have shown : rendererSide mt turnAngle drivingSide =
      .ofSign (if hasDirectionalTurnAngle turnAngle then if turnAngle < 0 then -1 else 1
        else -1) := by
    have sameTest : (turnAngle ≠ angleUnknown ∧ turnAngle ≠ -angleUnknown ∧ turnAngle ≠ 0) ↔
        hasDirectionalTurnAngle turnAngle = true := by
      simp only [hasDirectionalTurnAngle, angleUnknown, decide_eq_true_eq]
      omega
    have notIcon : mapIcon mt ≠ iconTurn :=
      (by decide : ∀ other ∈ uTurnTypes, mapIcon other ≠ iconTurn) mt isUTurn
    rw [rendererSide, if_neg notIcon, mapDirection, if_pos isUTurn]
    simp only [sameTest]
  unfold SidesAgree
  rw [displayed, shown]
  split_ifs
  all_goals exact ⟨rfl, rfl⟩

/-- With traffic on the left, one display looks at the angle of a ramp and the
other does not. -/
theorem sidesAgree_onRamp (turnAngle drivingSide : Int) :
    SidesAgree mtOnRamp turnAngle drivingSide ↔
      (drivingSide = drivingSideLeft → 0xB3 < turnAngle % 2 ^ 32) := by
  have displayed : map mtOnRamp turnAngle junctionSingleIntersection drivingSide =
      (turn, if drivingSide = drivingSideLeft ∧ 0xB3 < turnAngle % 2 ^ 32 then dirSlightLeft
        else dirSlightRight) := by
    change (turn, applyDsiNavBapDirectionOverride mtOnRamp _) = _
    rfl
  have shown : rendererSide mtOnRamp turnAngle drivingSide =
      .ofSign (if drivingSide = drivingSideLeft then -1 else 1) := rfl
  unfold SidesAgree
  rw [displayed, shown]
  by_cases onLeft : drivingSide = drivingSideLeft
  · by_cases large : 0xB3 < turnAngle % 2 ^ 32
    · rw [if_pos ⟨onLeft, large⟩, if_pos onLeft]
      exact iff_of_true ⟨rfl, rfl⟩ fun _ => large
    · rw [if_neg fun both => large both.2, if_pos onLeft]
      exact iff_of_false (fun agrees => by cases agrees.2) fun fits => large (fits onLeft)
  · rw [if_neg fun both => onLeft both.1, if_neg onLeft]
    exact iff_of_true ⟨rfl, rfl⟩ fun isLeft => absurd isLeft onLeft

theorem sidesAgree_offRamp (turnAngle drivingSide : Int) :
    SidesAgree mtOffRamp turnAngle drivingSide := by
  have displayed : map mtOffRamp turnAngle junctionSingleIntersection drivingSide =
      if drivingSide = drivingSideLeft then (exitLeft, dirSlightLeft)
      else (exitRight, dirSlightRight) := by
    change ((if drivingSide = drivingSideLeft then (exitLeft, dirSlightLeft)
        else (exitRight, dirSlightRight)).1,
      applyDsiNavBapDirectionOverride mtOffRamp (if drivingSide = drivingSideLeft then
        (exitLeft, dirSlightLeft) else (exitRight, dirSlightRight)).2) = _
    split_ifs
    · rfl
    · rfl
  have shown : rendererSide mtOffRamp turnAngle drivingSide =
      .ofSign (if drivingSide = drivingSideLeft then -1 else 1) := rfl
  unfold SidesAgree
  rw [displayed, shown]
  split_ifs
  · exact ⟨rfl, rfl⟩
  · exact ⟨rfl, rfl⟩

/-- The angle has the side of the type, and a ramp with traffic on the left an
angle above 179 or below 0. -/
structure AnglesFit (mt turnAngle drivingSide : Int) : Prop where
  left : mt ∈ leftTurnTypes → turnAngle ≤ 0 ∨ turnAngle = angleUnknown
  right : mt ∈ rightTurnTypes → 0 ≤ turnAngle ∨ turnAngle = -angleUnknown
  ramp : mt = mtOnRamp → drivingSide = drivingSideLeft → 0xB3 < turnAngle % 2 ^ 32

theorem anglesFit_of_other {mt : Int} (notLeft : mt ∉ leftTurnTypes) (notRight : mt ∉ rightTurnTypes)
    (noRamp : mt ≠ mtOnRamp) (turnAngle drivingSide : Int) : AnglesFit mt turnAngle drivingSide :=
  ⟨fun isLeft => absurd isLeft notLeft, fun isRight => absurd isRight notRight,
    fun isRamp => absurd isRamp noRamp⟩

theorem sides_agree_iff (mt turnAngle drivingSide : Int) :
    SidesAgree mt turnAngle drivingSide ↔ AnglesFit mt turnAngle drivingSide := by
  by_cases isLeft : mt ∈ leftTurnTypes
  · rw [sidesAgree_left_turn isLeft]
    have notRight : mt ∉ rightTurnTypes :=
      (by decide : ∀ other ∈ leftTurnTypes, other ∉ rightTurnTypes) mt isLeft
    have noRamp : mt ≠ mtOnRamp :=
      (by decide : ∀ other ∈ leftTurnTypes, other ≠ mtOnRamp) mt isLeft
    exact ⟨fun fits => ⟨fun _ => fits, fun isRight => absurd isRight notRight,
      fun isRamp => absurd isRamp noRamp⟩, fun fits => fits.left isLeft⟩
  by_cases isRight : mt ∈ rightTurnTypes
  · rw [sidesAgree_right_turn isRight]
    have noRamp : mt ≠ mtOnRamp :=
      (by decide : ∀ other ∈ rightTurnTypes, other ≠ mtOnRamp) mt isRight
    exact ⟨fun fits => ⟨fun left => absurd left isLeft, fun _ => fits,
      fun isRamp => absurd isRamp noRamp⟩, fun fits => fits.right isRight⟩
  by_cases isRamp : mt = mtOnRamp
  · subst isRamp
    rw [sidesAgree_onRamp]
    exact ⟨fun fits => ⟨fun left => absurd left isLeft, fun right => absurd right isRight,
      fun _ => fits⟩, fun fits => fits.ramp rfl⟩
  refine iff_of_true ?_ (anglesFit_of_other isLeft isRight isRamp turnAngle drivingSide)
  by_cases sided : mt ∈ sidedTypes
  · rcases List.mem_append.mp sided with isUTurn | fixed
    · exact sidesAgree_uTurn isUTurn turnAngle drivingSide
    · simp only [List.mem_cons, List.not_mem_nil, or_false] at fixed
      rcases fixed with rfl | rfl | rfl | rfl | rfl | rfl | rfl | rfl
      · exact absurd rfl isRamp
      · exact ⟨rfl, rfl⟩
      · exact ⟨rfl, rfl⟩
      · exact ⟨rfl, rfl⟩
      · exact ⟨rfl, rfl⟩
      · exact ⟨rfl, rfl⟩
      · exact ⟨rfl, rfl⟩
      · exact sidesAgree_offRamp turnAngle drivingSide
  · have noTurn : mt ∉ turnTypes := by
      intro isTurn
      rcases (by decide : ∀ other ∈ turnTypes, other ∈ leftTurnTypes ∨ other ∈ rightTurnTypes)
        mt isTurn with left | right
      · exact isLeft left
      · exact isRight right
    unfold SidesAgree
    rw [rendererSide_of_other noTurn sided]
    exact agrees_neutral _

/-- A ramp with traffic on the left is shown on the right, and merged from the
left. -/
theorem ramp_sides_differ :
    ¬ ∀ mt turnAngle drivingSide, SidesAgree mt turnAngle drivingSide := by
  intro agree
  have fits := (sidesAgree_onRamp 30 drivingSideLeft).mp (agree mtOnRamp 30 drivingSideLeft) rfl
  omega

end RendererMapper

end CarplayRgi
