import CarplayRgi.RouteGuidanceGate

/-!
# What a frame leaves in a maneuver slot

A maneuver slot keeps every field that a frame has no record for.  It is
cleared only by a source that ceases to support guidance.
-/

namespace CarplayRgi

namespace RouteGuidance

open DecimalText Noted

/-- A slot after a frame.  A turn angle that differs is the exit angle as well,
until there is an exit angle. -/
def ManeuverFields.read (data : BusData) (slot : Slot) (kept : ManeuverFields) :
    ManeuverFields :=
  let turnAngle := (data.numField (.maneuver slot .turnAngle) (-1)).getD kept.turnAngle
  { type := (data.numField (.maneuver slot .type) (-1)).getD kept.type
    turnAngle
    zLevel :=
      (data.numField (.maneuver slot .zlevel) (-1)).getD
        ((data.numField (.maneuver slot .zLevel) (-1)).getD kept.zLevel)
    junctionType := (data.numField (.maneuver slot .junctionType) (-1)).getD kept.junctionType
    drivingSide := (data.numField (.maneuver slot .drivingSide) (-1)).getD kept.drivingSide
    distance := (data.numField (.maneuver slot .distance) (-1)).getD kept.distance
    name := (data.strField (.maneuver slot .name)).getD kept.name
    afterRoad := (data.strField (.maneuver slot .afterRoad)).getD kept.afterRoad
    exitInfo := (data.strField (.maneuver slot .exitInfo)).getD kept.exitInfo
    junctionAngles :=
      (data.intListField (.maneuver slot .junctionAngles)).getD kept.junctionAngles
    exitAngle :=
      (data.numField (.maneuver slot .exitAngle) 1000).getD
        (if turnAngle = kept.turnAngle then kept.exitAngle else turnAngle)
    linkedLaneGuidanceIndex :=
      (data.numField (.maneuver slot .linkedLaneGuidanceIndex) (-1)).getD
        kept.linkedLaneGuidanceIndex
    linkedLaneGuidanceSlot :=
      (data.numField (.maneuver slot .linkedLaneGuidanceSlot) (-1)).getD
        kept.linkedLaneGuidanceSlot
    ver := (data.numField (.maneuver slot .ver) (-1)).getD kept.ver
    lanePositions := (data.intListField (.maneuver slot .lanePositions)).getD kept.lanePositions
    laneCount := (data.numField (.maneuver slot .laneCount) (-1)).getD kept.laneCount
    laneDirections :=
      (data.intListField (.maneuver slot .laneDirections)).getD kept.laneDirections
    laneStatus := (data.intListField (.maneuver slot .laneStatus)).getD kept.laneStatus
    laneAngles := (data.laneAnglesField (.maneuver slot .laneAngles)).getD kept.laneAngles }

theorem store_turnAngle (flags : Finset DirtyFlag) (value : Option Int)
    (noted : Noted ManeuverFields) :
    (store ManeuverFields.turnAngle (fun v m => { m with turnAngle := v, exitAngle := v }) flags
        value noted).record =
      { noted.record with
        turnAngle := value.getD noted.record.turnAngle
        exitAngle :=
          if value.getD noted.record.turnAngle = noted.record.turnAngle then
            noted.record.exitAngle
          else value.getD noted.record.turnAngle } := by
  unfold store
  cases value with
  | none => simp
  | some value =>
      dsimp only [Option.getD_some]
      by_cases same : value = noted.record.turnAngle
      · rw [if_pos same, if_pos same, same]
      · rw [if_neg same, if_neg same]

theorem parseManeuver_record (data : BusData) (slot : Slot) (noted : Noted ManeuverFields) :
    (parseManeuver data slot noted).record = noted.record.read data slot := by
  simp [parseManeuver, store_record, store_turnAngle, ManeuverFields.read]

theorem State.onManeuver_maneuver (slot other : Slot)
    (update : Noted ManeuverFields → Noted ManeuverFields) (state : State) :
    (state.onManeuver slot update).maneuver other =
      if other = slot then (update ⟨state.maneuver slot, state.dirtyMask⟩).record
      else state.maneuver other :=
  Function.update_apply _ _ _ _

theorem foldl_maneuver {step : State → Slot → State}
    (keeps : ∀ state slot, (step state slot).maneuver = state.maneuver) (slots : List Slot)
    (state : State) : (slots.foldl step state).maneuver = state.maneuver := by
  induction slots generalizing state with
  | nil => rfl
  | cons slot slots ih => exact (ih _).trans (keeps state slot)

theorem parseLanes_maneuver (data : BusData) (state : State) :
    (parseLanes data state).maneuver = state.maneuver := by
  unfold parseLanes
  refine foldl_maneuver ?_ _ state
  exact fun _ _ => rfl

/-- Whether the records of a slot are taken. -/
def takesSlot (data : BusData) (hasRouteUpdate : Bool) (route : RouteFields) (slot : Slot) :
    Bool :=
  !hasGatedKey data slot || hasRouteUpdate && decide (route.maneuverOrder ≠ some [])

theorem parseGatedManeuver_maneuver (data : BusData) (hasRouteUpdate : Bool) (state : State)
    (slot other : Slot) :
    (parseGatedManeuver data hasRouteUpdate state slot).maneuver other =
      if other = slot ∧ takesSlot data hasRouteUpdate state.route slot = true then
        (state.maneuver slot).read data slot
      else state.maneuver other := by
  have gate : (hasGatedKey data slot && !canProcessManeuverIndex hasRouteUpdate state) =
      !takesSlot data hasRouteUpdate state.route slot := by
    unfold takesSlot canProcessManeuverIndex
    rw [Bool.not_or, Bool.not_not]
  unfold parseGatedManeuver
  rw [gate]
  cases takesSlot data hasRouteUpdate state.route slot with
  | false => simp
  | true =>
      rw [if_neg (by simp), State.onManeuver_maneuver, parseManeuver_record]
      simp only [and_true]

theorem parseGatedManeuver_route (data : BusData) (hasRouteUpdate : Bool) (state : State)
    (slot : Slot) :
    (parseGatedManeuver data hasRouteUpdate state slot).route = state.route := by
  unfold parseGatedManeuver
  split_ifs
  · rfl
  · rfl

theorem foldl_parseGatedManeuver (data : BusData) (hasRouteUpdate : Bool) {slots : List Slot}
    (distinct : slots.Nodup) (state : State) (slot : Slot) :
    (slots.foldl (parseGatedManeuver data hasRouteUpdate) state).maneuver slot =
      if slot ∈ slots ∧ takesSlot data hasRouteUpdate state.route slot = true then
        (state.maneuver slot).read data slot
      else state.maneuver slot := by
  induction slots generalizing state with
  | nil => simp
  | cons first slots ih =>
      obtain ⟨fresh, distinctRest⟩ := List.nodup_cons.mp distinct
      rw [List.foldl_cons, ih distinctRest, parseGatedManeuver_route,
        parseGatedManeuver_maneuver]
      by_cases isFirst : slot = first
      · subst isFirst
        simp [fresh]
      · simp [isFirst]

theorem parseManeuvers_maneuver (data : BusData) (hasRouteUpdate : Bool) (state : State)
    (slot : Slot) :
    (parseManeuvers data hasRouteUpdate state).maneuver slot =
      if takesSlot data hasRouteUpdate state.route slot = true then
        (state.maneuver slot).read data slot
      else state.maneuver slot := by
  unfold parseManeuvers
  rw [foldl_parseGatedManeuver data hasRouteUpdate (List.nodup_finRange _)]
  simp only [List.mem_finRange, true_and]

/-- Only the numeral of zero is read as zero. -/
theorem parseInt_decimal_eq_zero_iff (number : Int) :
    (parseInt (decimal number)).getD (-1) = 0 ↔ number = 0 := by
  by_cases fits : Fits 32 number
  · rw [parseInt_decimal fits, Option.getD_some]
  · have unread : parseInt (decimal number) = none := by
      rw [parseInt, javaTrim_eq_self (decimal_visible number), parseSigned_decimal, checkWidth,
        if_neg fits]
    rw [unread]
    constructor
    · intro isZero
      cases isZero
    · rintro rfl
      exact absurd (by decide) fits

/-- Whether the source ceases to support guidance while there is a route. -/
def clearsSlots (data : BusData) (state : State) : Bool :=
  (data.numField (.route .sourceSupportsRg) (-1)).any fun supports =>
    decide (supports ≠ state.route.sourceSupportsRg ∧ supports = 0 ∧ state.route.routeState ≠ 0)

/-- What a frame finds in a slot. -/
def foundIn (data : BusData) (state : State) (slot : Slot) : ManeuverFields :=
  if clearsSlots data state then {} else state.maneuver slot

theorem parseSourceSupportsRg_maneuver (data : BusData) (state : State) (slot : Slot) :
    (parseSourceSupportsRg data state).maneuver slot = foundIn data state slot := by
  unfold parseSourceSupportsRg foundIn clearsSlots
  cases data.numField (.route .sourceSupportsRg) (-1) with
  | none => rfl
  | some supports =>
      dsimp only [Option.any_some]
      by_cases same : supports = state.route.sourceSupportsRg
      · rw [if_pos same, if_neg (by simp [same])]
      · rw [if_neg same]
        by_cases clears : supports = 0 ∧ state.route.routeState ≠ 0
        · have clearsNoted : supports = 0 ∧
              (state.onRoute (mark (fun r => { r with sourceSupportsRg := supports })
                {.sourceSupportsRg})).route.routeState ≠ 0 := clears
          rw [if_pos clearsNoted, if_pos (decide_eq_true ⟨same, clears⟩)]
          rfl
        · have keeps : ¬ (supports = 0 ∧
              (state.onRoute (mark (fun r => { r with sourceSupportsRg := supports })
                {.sourceSupportsRg})).route.routeState ≠ 0) := clears
          rw [if_neg keeps, if_neg (by simpa [same] using clears)]
          rfl

theorem foundIn_of_gate {data : BusData} {state other : State} {slot : Slot}
    (gate : other.route.gate = state.route.gate)
    (slots : other.maneuver slot = state.maneuver slot) :
    foundIn data other slot = foundIn data state slot := by
  have supports : other.route.sourceSupportsRg = state.route.sourceSupportsRg :=
    congrArg GateFields.sourceSupportsRg gate
  have routeState : other.route.routeState = state.route.routeState :=
    congrArg GateFields.routeState gate
  unfold foundIn clearsSlots
  rw [supports, routeState, slots]

/-- A slot after a frame, by what the frame finds in it. -/
theorem parse_maneuver (data : BusData) (hasRouteUpdate : Bool) (state : State) (slot : Slot) :
    (parse data hasRouteUpdate state).1.maneuver slot =
      if takesSlot data (hasRouteUpdate || isRouteUpdateDelta data)
          (parse data hasRouteUpdate state).1.route slot = true then
        (foundIn data state slot).read data slot
      else foundIn data state slot := by
  have route : (parse data hasRouteUpdate state).1.route =
      (parseLanes data (parseRoute data state)).route := by
    rw [parse_eq_parseRest, parseRest, parseManeuvers_route]
    rfl
  have found : (parseLanes data (parseRoute data state)).maneuver slot =
      foundIn data state slot := by
    have gate : (state.clearDirty.onRoute (parseDisconnectReason data)).route.gate =
        state.route.gate :=
      parseDisconnectReason_gate data _
    rw [parseLanes_maneuver, ← foundIn_of_gate gate rfl]
    exact parseSourceSupportsRg_maneuver data _ slot
  rw [route]
  refine (parseManeuvers_maneuver data _ _ slot).trans ?_
  rw [found]

theorem parse_maneuverOrder {data : BusData} {list : Option (List Int)}
    (isList : maneuverListField data = some list) (hasRouteUpdate : Bool) (state : State) :
    (parse data hasRouteUpdate state).1.route.maneuverOrder = list := by
  have gate := congrArg GateFields.maneuverOrder (parse_gate data hasRouteUpdate state)
  refine gate.trans ?_
  unfold GateFields.read
  dsimp only
  rw [isList, Option.getD_some]

/-- A frame with a maneuver list that is not empty brings its records to all slots. -/
theorem takesSlot_of_list {data : BusData} {list : List Int}
    (isList : maneuverListField data = some (some list)) (nonempty : list ≠ [])
    (isUpdate : isRouteUpdateDelta data = true) (hasRouteUpdate : Bool) (state : State)
    (slot : Slot) :
    takesSlot data (hasRouteUpdate || isRouteUpdateDelta data)
      (parse data hasRouteUpdate state).1.route slot = true := by
  unfold takesSlot
  rw [parse_maneuverOrder isList, isUpdate, Bool.or_true, Bool.true_and]
  simp [nonempty]

end RouteGuidance

end CarplayRgi
