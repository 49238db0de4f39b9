import CarplayRgi.AmapSnapshot

/-!
# The lanes that the bridge shows

Lane guidance is sent for the slot that holds the current lane event.  Lane
slots are allocated apart from maneuver slots, so a lane slot only counts if
its stored event is the current one.  Lanes of a maneuver itself are what
older hooks published.
-/

namespace CarplayRgi

open RouteGuidance

theorem slotOf_val (slot : Slot) : slotOf (slot.val : Int) = some slot := by
  have inside : (0 : Int) ≤ slot.val ∧ (slot.val : Int) < maneuverCacheSize :=
    ⟨Int.natCast_nonneg _, by exact_mod_cast slot.isLt⟩
  unfold slotOf
  rw [dif_pos inside]
  rfl

theorem eq_of_slotOf {index : Int} {slot : Slot} (found : slotOf index = some slot) :
    index = slot.val := by
  unfold slotOf at found
  split_ifs at found with inside
  cases found
  exact (Int.toNat_of_nonneg inside.1).symm

namespace BapBridge

/-- The number of lanes: as counted, else that of the directions or the states. -/
def laneCountOf (count : Int) (directions status : Option (List Int)) : Int :=
  let byDirections :=
    if count ≤ 0 then (directions.map fun list => (list.length : Int)).getD count else count
  let byStatus :=
    if byDirections ≤ 0 then (status.map fun list => (list.length : Int)).getD byDirections
    else byDirections
  max byStatus 0

section Lanes

variable (state : RouteGuidance.State)

def laneCacheCountForSlot (slot : Int) : Int :=
  ((slotOf slot).map fun found =>
    laneCountOf (state.lane found).laneCount (state.lane found).laneDirections
      (state.lane found).laneStatus).getD 0

def hasLaneCacheForSlot (slot : Int) : Bool :=
  (slotOf slot).any fun found =>
    (state.lane found).laneDirections.isSome && decide (0 < laneCacheCountForSlot state slot)

/-- The stored event of a lane slot is still the one that is asked for. -/
def lgSlotMatches (slot index : Int) : Bool :=
  (slotOf slot).any fun found => decide ((state.lane found).index = index)

/-- A maneuver with lanes of its own, whatever the lane slot of the same number
holds. -/
def hasMCacheLaneForSlot (slot : Int) : Bool :=
  (slotOf slot).any fun found =>
    (state.maneuver found).laneDirections.any fun directions =>
      decide (0 <
        if (state.maneuver found).laneCount ≤ 0 then (directions.length : Int)
        else (state.maneuver found).laneCount)

def laneSlotForGuidanceIndex (guidanceIndex : Int) : Int :=
  if guidanceIndex < 0 then -1
  else
    (((List.finRange maneuverCacheSize).find? fun slot =>
      decide ((state.lane slot).index = guidanceIndex) &&
        hasLaneCacheForSlot state slot.val).map fun slot => (slot.val : Int)).getD (-1)

def getFirstManeuverIndex : Int :=
  (state.route.maneuverOrder.bind fun order =>
    order.find? fun index => (slotOf index).isSome).getD (-1)

/-- The linked lane slot of a maneuver, else the linked index taken for one. -/
def linkedLaneSlotForManeuver (man : Int) : Int :=
  match slotOf man with
  | none => -1
  | some found =>
      if (slotOf (state.maneuver found).linkedLaneGuidanceSlot).isSome then
        (state.maneuver found).linkedLaneGuidanceSlot
      else if (slotOf (state.maneuver found).linkedLaneGuidanceIndex).isSome then
        (state.maneuver found).linkedLaneGuidanceIndex
      else -1

def resolveLaneGuidanceManeuverIndex : Int :=
  let active := state.route.laneGuidanceIndex
  let current := state.route.laneGuidanceSlot
  let byIndex := laneSlotForGuidanceIndex state active
  let primary := getFirstManeuverIndex state
  let linked := linkedLaneSlotForManeuver state primary
  if active < 0 then -1
  else if 0 ≤ current ∧ hasLaneCacheForSlot state current = true ∧
      lgSlotMatches state current active = true then current
  else if 0 ≤ byIndex then byIndex
  else if 0 ≤ linked ∧ hasLaneCacheForSlot state linked = true ∧
      lgSlotMatches state linked active = true then linked
  -- The lanes of a maneuver, unless the lane slot of its number has any.
  else if active < maneuverCacheSize ∧ hasMCacheLaneForSlot state active = true ∧
      hasLaneCacheForSlot state active = false then active
  else if 0 ≤ primary ∧ hasMCacheLaneForSlot state primary = true ∧
      hasLaneCacheForSlot state primary = false then primary
  else -1

/-- A list of lanes: that of the lane slot if it has lanes, else that of the
maneuver slot of the same number. -/
def lanesFor {Value : Type} (cached : LaneFields → Option Value)
    (own : ManeuverFields → Option Value) (slot : Int) : Option Value :=
  (slotOf slot).bind fun found =>
    if hasLaneCacheForSlot state slot then cached (state.lane found)
    else own (state.maneuver found)

def lanePositionsFor : Int → Option (List Int) :=
  lanesFor state LaneFields.lanePositions ManeuverFields.lanePositions

def laneDirectionsFor : Int → Option (List Int) :=
  lanesFor state LaneFields.laneDirections ManeuverFields.laneDirections

def laneStatusFor : Int → Option (List Int) :=
  lanesFor state LaneFields.laneStatus ManeuverFields.laneStatus

def laneAnglesFor : Int → Option (List (Option (List Int))) :=
  lanesFor state LaneFields.laneAngles ManeuverFields.laneAngles

def laneCountForManeuver (man : Int) : Int :=
  ((slotOf man).map fun found =>
    if hasLaneCacheForSlot state man then laneCacheCountForSlot state man
    else
      laneCountOf (state.maneuver found).laneCount (state.maneuver found).laneDirections
        (state.maneuver found).laneStatus).getD 0

def hasLaneGuidanceForManeuver (man : Int) : Bool :=
  (slotOf man).any fun found =>
    hasLaneCacheForSlot state man ||
      ((state.maneuver found).laneDirections.isSome &&
        decide (0 < laneCountForManeuver state man))

/-- The lists from which `sendRealLaneGuidance` makes the lanes. -/
structure ShownLanes where
  count : Int
  positions : Option (List Int)
  directions : Option (List Int)
  status : Option (List Int)
  angles : Option (List (Option (List Int)))

/-- `sendLaneGuidance`, which shows no lanes where there are none. -/
def sendLaneGuidance : Option ShownLanes :=
  let index := resolveLaneGuidanceManeuverIndex state
  if hasLaneGuidanceForManeuver state index then
    some
      { count := laneCountForManeuver state index
        positions := lanePositionsFor state index
        directions := laneDirectionsFor state index
        status := laneStatusFor state index
        angles := laneAnglesFor state index }
  else none

end Lanes

variable {state : RouteGuidance.State}

/-- The lane slot holds lanes of the current lane event. -/
structure HoldsCurrent (state : RouteGuidance.State) (slot : Slot) : Prop where
  announced : 0 ≤ state.route.laneGuidanceIndex
  index : (state.lane slot).index = state.route.laneGuidanceIndex
  lanes : hasLaneCacheForSlot state slot.val = true

theorem holdsCurrent_of_matches {index : Int} (announced : 0 ≤ state.route.laneGuidanceIndex)
    (lanes : hasLaneCacheForSlot state index = true)
    (current : lgSlotMatches state index state.route.laneGuidanceIndex = true) :
    ∃ slot : Slot, index = slot.val ∧ HoldsCurrent state slot := by
  obtain ⟨slot, found, same⟩ := (Option.any_eq_true _ _).mp current
  have isSlot := eq_of_slotOf found
  subst isSlot
  exact ⟨slot, rfl, announced, of_decide_eq_true same, lanes⟩

theorem holdsCurrent_of_byIndex (announced : 0 ≤ state.route.laneGuidanceIndex)
    (found : 0 ≤ laneSlotForGuidanceIndex state state.route.laneGuidanceIndex) :
    ∃ slot : Slot, laneSlotForGuidanceIndex state state.route.laneGuidanceIndex = slot.val ∧
      HoldsCurrent state slot := by
  unfold laneSlotForGuidanceIndex at found ⊢
  rw [if_neg (not_lt.mpr announced)] at found ⊢
  cases search : (List.finRange maneuverCacheSize).find? fun slot =>
      decide ((state.lane slot).index = state.route.laneGuidanceIndex) &&
        hasLaneCacheForSlot state slot.val with
  | none =>
      rw [search] at found
      exact absurd found (by decide)
  | some slot =>
      have holds := List.find?_some search
      rw [Bool.and_eq_true, decide_eq_true_eq] at holds
      exact ⟨slot, rfl, announced, holds.1, holds.2⟩

/-- Without lanes of maneuvers, only a slot of the current event is resolved. -/
theorem resolve_cases (noOwnLanes : ∀ index, hasMCacheLaneForSlot state index = false) :
    resolveLaneGuidanceManeuverIndex state = -1 ∨
      ∃ slot : Slot, resolveLaneGuidanceManeuverIndex state = slot.val ∧
        HoldsCurrent state slot := by
  unfold resolveLaneGuidanceManeuverIndex
  dsimp only
  split_ifs with silent current byIndex linked ownActive ownPrimary
  · exact .inl rfl
  · exact .inr (holdsCurrent_of_matches (not_lt.mp silent) current.2.1 current.2.2)
  · exact .inr (holdsCurrent_of_byIndex (not_lt.mp silent) byIndex)
  · exact .inr (holdsCurrent_of_matches (not_lt.mp silent) linked.2.1 linked.2.2)
  · rw [noOwnLanes] at ownActive
    exact absurd ownActive.2.1 Bool.false_ne_true
  · rw [noOwnLanes] at ownPrimary
    exact absurd ownPrimary.2.1 Bool.false_ne_true
  · exact .inl rfl

/-- The current slot of the route is resolved first. -/
theorem resolve_of_current {slot : Slot} (holds : HoldsCurrent state slot)
    (current : state.route.laneGuidanceSlot = slot.val) :
    resolveLaneGuidanceManeuverIndex state = slot.val := by
  have isCurrent : lgSlotMatches state slot.val state.route.laneGuidanceIndex = true := by
    unfold lgSlotMatches
    rw [slotOf_val, Option.any_some, holds.index]
    exact decide_eq_true rfl
  unfold resolveLaneGuidanceManeuverIndex
  dsimp only
  rw [current, if_neg (not_lt.mpr holds.announced),
    if_pos ⟨Int.natCast_nonneg _, holds.lanes, isCurrent⟩]

/-- Of a slot of the current event, its own lists are shown. -/
theorem sendLaneGuidance_of_holds {slot : Slot} (holds : HoldsCurrent state slot)
    (resolved : resolveLaneGuidanceManeuverIndex state = slot.val) :
    sendLaneGuidance state = some
      { count := laneCountOf (state.lane slot).laneCount (state.lane slot).laneDirections
          (state.lane slot).laneStatus
        positions := (state.lane slot).lanePositions
        directions := (state.lane slot).laneDirections
        status := (state.lane slot).laneStatus
        angles := (state.lane slot).laneAngles } := by
  have shows : hasLaneGuidanceForManeuver state slot.val = true := by
    unfold hasLaneGuidanceForManeuver
    rw [slotOf_val, Option.any_some, holds.lanes, Bool.true_or]
  unfold sendLaneGuidance
  dsimp only
  rw [resolved, if_pos shows]
  simp only [laneCountForManeuver, laneCacheCountForSlot, lanePositionsFor, laneDirectionsFor,
    laneStatusFor, laneAnglesFor, lanesFor, slotOf_val, holds.lanes, Option.map_some,
    Option.bind_some, Option.getD_some, if_true]

/-- Without a slot, no lanes are shown. -/
theorem sendLaneGuidance_of_none (resolved : resolveLaneGuidanceManeuverIndex state = -1) :
    sendLaneGuidance state = none := by
  unfold sendLaneGuidance
  rw [resolved]
  rfl

end BapBridge

end CarplayRgi
