import CarplayRgi.PublishedFrames
import CarplayRgi.RouteGuidanceSlots

/-!
# A frame that is repeated at once

Every value of a frame is stored where it differs, so a second pass finds it
there.  A route state of zero is the exception: it clears the count, the list
and the lane event before the records of the same frame set them again, and
it marks them dirty each time.  But it has ended the session already.
-/

namespace CarplayRgi

namespace Noted

variable {Record Value : Type} [DecidableEq Value]

/-- A value of a frame that the field has already. -/
def AlreadyStored (value : Option Value) (current : Value) : Prop := ∀ v ∈ value, v = current

omit [DecidableEq Value] in
theorem alreadyStored_getD (value : Option Value) (old : Value) :
    AlreadyStored value (value.getD old) := by
  intro v isValue
  rw [Option.mem_def.mp isValue, Option.getD_some]

omit [DecidableEq Value] in
theorem alreadyStored_of_getD {value : Option Value} {current : Value}
    (same : value.getD current = current) : AlreadyStored value current := by
  intro v isValue
  rwa [Option.mem_def.mp isValue, Option.getD_some] at same

/-- Storing a value that is there already does nothing. -/
theorem store_alreadyStored {field : Record → Value} {put : Value → Record → Record}
    {flags : Finset DirtyFlag} {value : Option Value} {inner noted : Noted Record}
    (before : inner = noted) (settled : AlreadyStored value (field noted.record)) :
    store field put flags value inner = noted := by
  rw [before]
  unfold store
  cases value with
  | none => rfl
  | some v => exact if_pos (settled v rfl)

end Noted

namespace RouteGuidance

open Noted

namespace RouteFields

def noRoute (route : RouteFields) : RouteFields :=
  { route with
    routeState := 0, maneuverCount := 0, maneuverOrder := none
    laneGuidanceShowing := -1, laneGuidanceTotal := -1, laneGuidanceIndex := -1
    laneGuidanceSlot := -1 }

def readSource (data : BusData) (route : RouteFields) : RouteFields :=
  match data.numField (.route .sourceSupportsRg) (-1) with
  | none => route
  | some v =>
      if v = route.sourceSupportsRg then route
      else if v = 0 ∧ route.routeState ≠ 0 then noRoute { route with sourceSupportsRg := v }
      else { route with sourceSupportsRg := v }

/-- The value of a positive route state. -/
def positiveState (data : BusData) : Option Int :=
  (data.numField (.route .routeState) (-1)).filter fun v => decide (0 < v)

def readRouteState (data : BusData) (route : RouteFields) : RouteFields :=
  if data.numField (.route .routeState) (-1) = some 0 then noRoute route
  else { route with routeState := (positiveState data).getD route.routeState }

/-- The value of a maneuver state in its range. -/
def maneuverStateField (data : BusData) : Option Int :=
  (data.numField (.route .maneuverState) (-1)).filter fun v => decide (0 ≤ v ∧ v ≤ 3)

def readCount (data : BusData) (route : RouteFields) : RouteFields :=
  { route with
    maneuverState := (maneuverStateField data).getD route.maneuverState
    maneuverCount := (data.numField (.route .maneuverCount) 0).getD route.maneuverCount
    maneuverOrder :=
      if data.numField (.route .maneuverCount) 0 = some 0 ∧ route.maneuverCount ≠ 0 then none
      else route.maneuverOrder }

def readRecords (data : BusData) (route : RouteFields) : RouteFields :=
  { route with
    maneuverOrder := (maneuverListField data).getD route.maneuverOrder
    visibleInApp := (visibleInAppField data).getD route.visibleInApp
    laneGuidanceShowing :=
      (data.numField (.route .laneGuidanceShowing) (-1)).getD route.laneGuidanceShowing
    laneGuidanceTotal :=
      (data.numField (.route .laneGuidanceTotal) (-1)).getD route.laneGuidanceTotal
    laneGuidanceIndex :=
      (data.numField (.route .laneGuidanceIndex) (-1)).getD route.laneGuidanceIndex
    laneGuidanceSlot :=
      (data.numField (.route .laneGuidanceSlot) (-1)).getD route.laneGuidanceSlot
    distDestM := (data.numField (.route .distDestM) (-1)).getD route.distDestM
    distManeuverM := (data.numField (.route .distManeuverM) (-1)).getD route.distManeuverM
    etaSeconds := (data.numField (.route .etaSeconds) (-1)).getD route.etaSeconds
    timeRemainingSeconds :=
      (data.num64Field (.route .timeRemainingSeconds) (-1)).getD route.timeRemainingSeconds
    currentRoad := (data.strField (.route .currentRoad)).getD route.currentRoad
    destination := (data.strField (.route .destination)).getD route.destination }

/-- The route after a frame without a disconnect reason. -/
def read (data : BusData) (route : RouteFields) : RouteFields :=
  (((route.readSource data).readRouteState data).readCount data).readRecords data

end RouteFields

theorem noRoute_record (noted : Noted RouteFields) :
    (noRoute noted).record = noted.record.noRoute := by
  simp [noRoute, store_record, mark, RouteFields.noRoute]

theorem parseSourceSupportsRg_route (data : BusData) (state : State) :
    (parseSourceSupportsRg data state).route = state.route.readSource data := by
  unfold parseSourceSupportsRg RouteFields.readSource
  cases data.numField (.route .sourceSupportsRg) (-1) with
  | none => rfl
  | some v =>
      dsimp only
      by_cases same : v = state.route.sourceSupportsRg
      · rw [if_pos same, if_pos same]
      · rw [if_neg same, if_neg same]
        by_cases clears : v = 0 ∧ state.route.routeState ≠ 0
        · rw [if_pos clears]
          refine (congrArg State.route (if_pos clears)).trans ?_
          exact noRoute_record _
        · rw [if_neg clears]
          exact congrArg State.route (if_neg clears)

theorem parseRouteState_record (data : BusData) (noted : Noted RouteFields) :
    (parseRouteState data noted).record = noted.record.readRouteState data := by
  unfold parseRouteState RouteFields.readRouteState RouteFields.positiveState
  cases data.numField (.route .routeState) (-1) with
  | none => rfl
  | some v =>
      by_cases zero : v = 0
      · simp [zero, noRoute_record]
      · by_cases positive : 0 < v
        · simp [zero, positive, store_record, Option.filter]
        · simp [zero, positive, store_record, Option.filter]

theorem parseManeuverCount_record (data : BusData) (noted : Noted RouteFields) :
    (parseManeuverCount data (parseManeuverState data noted)).record =
      noted.record.readCount data := by
  have stated : (parseManeuverState data noted).record =
      { noted.record with
        maneuverState :=
          (RouteFields.maneuverStateField data).getD noted.record.maneuverState } :=
    store_record (fun _ => rfl) _ _ noted
  unfold parseManeuverCount RouteFields.readCount
  rw [stated]
  cases data.numField (.route .maneuverCount) 0 with
  | none => simp [stated]
  | some v =>
      by_cases same : v = noted.record.maneuverCount
      · simp [same, stated]
      · by_cases zero : v = 0
        · subst zero
          simp [same, Ne.symm same, stated, mark]
        · simp [same, zero, stated, mark]

theorem parseRouteRecords_record (data : BusData) (noted : Noted RouteFields) :
    (parseRouteRecords data noted).record = noted.record.readRecords data := by
  simp [parseRouteRecords, store_record, RouteFields.readRecords]

/-- A frame without a disconnect reason leaves a receiver without one alone. -/
theorem parseDisconnectReason_absent {data : BusData}
    (noKey : data.has (RgdKey.route .disconnectReason).text = false) {noted : Noted RouteFields}
    (noReason : noted.record.disconnectReason = none) :
    parseDisconnectReason data noted = noted := by
  simp [parseDisconnectReason, noKey, noReason]

theorem parseRoute_route {data : BusData}
    (noKey : data.has (RgdKey.route .disconnectReason).text = false) {state : State}
    (noReason : state.route.disconnectReason = none) :
    (parseRoute data state).route = state.route.read data := by
  have unchanged : state.clearDirty.onRoute (parseDisconnectReason data) = state.clearDirty := by
    unfold State.onRoute
    rw [parseDisconnectReason_absent noKey noReason]
  unfold parseRoute
  rw [unchanged, State.onRoute_route, parseRouteRecords_record, State.onRoute_route, State.onRoute]
  rw [parseManeuverCount_record, State.onRoute_route, parseRouteState_record,
    parseSourceSupportsRg_route]
  rfl

namespace RouteFields

variable (data : BusData) (route : RouteFields)

theorem readSource_source :
    (route.readSource data).sourceSupportsRg =
      (data.numField (.route .sourceSupportsRg) (-1)).getD route.sourceSupportsRg := by
  unfold readSource
  split
  · rename_i absent
    rw [absent, Option.getD_none]
  · rename_i v read
    rw [read, Option.getD_some]
    split_ifs with same
    · exact same.symm
    · rfl
    · rfl

theorem read_source :
    (route.read data).sourceSupportsRg =
      (data.numField (.route .sourceSupportsRg) (-1)).getD route.sourceSupportsRg := by
  rw [← readSource_source]
  unfold read readRecords readCount readRouteState
  split_ifs <;> rfl

theorem read_reason : (route.read data).disconnectReason = route.disconnectReason := by
  have source : (route.readSource data).disconnectReason = route.disconnectReason := by
    unfold readSource
    split
    · rfl
    · split_ifs <;> rfl
  rw [← source]
  unfold read readRecords readCount readRouteState
  split_ifs <;> rfl

theorem read_maneuverState :
    AlreadyStored (maneuverStateField data) (route.read data).maneuverState :=
  alreadyStored_getD _ _

theorem read_maneuverCount :
    AlreadyStored (data.numField (.route .maneuverCount) 0) (route.read data).maneuverCount :=
  alreadyStored_getD _ _

/-- A route state of zero that is read again clears and sets the same fields. -/
theorem read_again_of_zero (zero : data.numField (.route .routeState) (-1) = some 0) :
    ((route.read data).noRoute.readCount data).readRecords data = route.read data := by
  unfold read readRouteState
  rw [if_pos zero]
  generalize route.readSource data = sourced
  unfold readRecords readCount noRoute
  simp [RgdUpdate.getD_getD]

theorem read_routeState (notZero : data.numField (.route .routeState) (-1) ≠ some 0) :
    AlreadyStored (positiveState data) (route.read data).routeState := by
  unfold read readRouteState
  rw [if_neg notZero]
  exact alreadyStored_getD _ _

theorem read_routeState_zero (zero : data.numField (.route .routeState) (-1) = some 0) :
    (route.read data).routeState = 0 := by
  unfold read readRouteState
  rw [if_pos zero]
  rfl

theorem read_readRecords : (route.read data).readRecords data = route.read data := by
  unfold read
  generalize ((route.readSource data).readRouteState data).readCount data = counted
  unfold readRecords
  simp only [RgdUpdate.getD_getD]

end RouteFields

section Again

variable {data : BusData} {noted : Noted RouteFields}

theorem parseSourceSupportsRg_settled {state : State}
    (settled : AlreadyStored (data.numField (.route .sourceSupportsRg) (-1))
      state.route.sourceSupportsRg) : parseSourceSupportsRg data state = state := by
  unfold parseSourceSupportsRg
  cases read : data.numField (.route .sourceSupportsRg) (-1) with
  | none => rfl
  | some v => exact if_pos (settled v read)

theorem parseRouteState_settled (notZero : data.numField (.route .routeState) (-1) ≠ some 0)
    (settled : AlreadyStored (RouteFields.positiveState data) noted.record.routeState) :
    parseRouteState data noted = noted := by
  unfold parseRouteState
  cases read : data.numField (.route .routeState) (-1) with
  | none => rfl
  | some v =>
      have differs : v ≠ 0 := fun zero => notZero (read.trans (congrArg some zero))
      dsimp only
      rw [if_neg differs]
      refine store_alreadyStored rfl fun w isValue => settled w ?_
      unfold RouteFields.positiveState
      rw [read]
      by_cases positive : 0 < v
      · rw [if_pos positive] at isValue
        obtain rfl := Option.some.inj isValue
        simp [Option.filter, positive]
      · rw [if_neg positive] at isValue
        cases isValue

theorem parseManeuverCount_settled
    (settled : AlreadyStored (data.numField (.route .maneuverCount) 0) noted.record.maneuverCount) :
    parseManeuverCount data noted = noted := by
  unfold parseManeuverCount
  cases read : data.numField (.route .maneuverCount) 0 with
  | none => rfl
  | some v => exact if_pos (settled v read)

theorem parseRouteRecords_settled (fixed : noted.record.readRecords data = noted.record) :
    parseRouteRecords data noted = noted := by
  have settled {Value : Type} {field : RouteFields → Value} {value : Option Value}
      (read : field (noted.record.readRecords data) = value.getD (field noted.record)) :
      AlreadyStored value (field noted.record) :=
    alreadyStored_of_getD (read.symm.trans (congrArg field fixed))
  unfold parseRouteRecords
  repeat
    refine store_alreadyStored ?_ (settled rfl)
  rfl

/-- The route fields after the source. -/
def parseRouteRest (data : BusData) (noted : Noted RouteFields) : Noted RouteFields :=
  parseRouteRecords data (parseManeuverCount data (parseManeuverState data
    (parseRouteState data noted)))

theorem parseRouteRest_again_of_zero (zero : data.numField (.route .routeState) (-1) = some 0)
    {route : RouteFields} (isRead : noted.record = route.read data) :
    (parseRouteRest data noted).record = noted.record := by
  rw [parseRouteRest, parseRouteRecords_record, parseManeuverCount_record,
    parseRouteState_record, RouteFields.readRouteState, if_pos zero, isRead]
  exact RouteFields.read_again_of_zero data route zero

theorem parseRouteRest_again (notZero : data.numField (.route .routeState) (-1) ≠ some 0)
    {route : RouteFields} (isRead : noted.record = route.read data) :
    parseRouteRest data noted = noted := by
  rw [parseRouteRest, parseRouteState_settled notZero, parseManeuverState, store_alreadyStored rfl,
    parseManeuverCount_settled, parseRouteRecords_settled]
  · exact isRead ▸ RouteFields.read_readRecords data route
  · exact isRead ▸ RouteFields.read_maneuverCount data route
  · exact isRead ▸ RouteFields.read_maneuverState data route
  · exact isRead ▸ RouteFields.read_routeState data route notZero

/-- The route of a frame that is parsed again stays as it is.  Unless the frame
has a route state of zero, nothing becomes dirty. -/
theorem parseRoute_again (noKey : data.has (RgdKey.route .disconnectReason).text = false)
    {state : State} {route : RouteFields} (isRead : state.route = route.read data)
    (noReason : state.route.disconnectReason = none) :
    ∃ dirty, parseRoute data state = { state with dirtyMask := dirty } ∧
      (data.numField (.route .routeState) (-1) ≠ some 0 → dirty = ∅) := by
  have unchanged : state.clearDirty.onRoute (parseDisconnectReason data) = state.clearDirty := by
    unfold State.onRoute
    rw [parseDisconnectReason_absent noKey noReason]
  have sourced : parseSourceSupportsRg data state.clearDirty = state.clearDirty := by
    refine parseSourceSupportsRg_settled ?_
    have same : state.clearDirty.route = route.read data := isRead
    rw [same, RouteFields.read_source]
    exact alreadyStored_getD _ _
  have parsed : parseRoute data state = state.clearDirty.onRoute (parseRouteRest data) := by
    unfold parseRoute
    rw [unchanged, sourced]
    rfl
  have record : (parseRouteRest data ⟨state.route, ∅⟩).record = state.route := by
    by_cases zero : data.numField (.route .routeState) (-1) = some 0
    · exact parseRouteRest_again_of_zero zero isRead
    · rw [parseRouteRest_again zero isRead]
  refine ⟨(parseRouteRest data ⟨state.route, ∅⟩).dirty, ?_, fun notZero => ?_⟩
  · rw [parsed]
    exact congrArg (fun kept => { state with
      route := kept, dirtyMask := (parseRouteRest data ⟨state.route, ∅⟩).dirty }) record
  · rw [parseRouteRest_again notZero isRead]

end Again

/-- A lane-guidance slot after a frame. -/
def LaneFields.read (data : BusData) (slot : Slot) (kept : LaneFields) : LaneFields where
  index := (data.numField (.lane slot .index) (-1)).getD kept.index
  lanePositions := (data.intListField (.lane slot .lanePositions)).getD kept.lanePositions
  laneCount := (data.numField (.lane slot .laneCount) (-1)).getD kept.laneCount
  laneDirections := (data.intListField (.lane slot .laneDirections)).getD kept.laneDirections
  laneStatus := (data.intListField (.lane slot .laneStatus)).getD kept.laneStatus
  laneAngles := (data.laneAnglesField (.lane slot .laneAngles)).getD kept.laneAngles

theorem parseLane_record (data : BusData) (slot : Slot) (noted : Noted LaneFields) :
    (parseLane data slot noted).record = noted.record.read data slot := by
  simp [parseLane, store_record, LaneFields.read]

theorem parseLane_again (data : BusData) (slot : Slot) (kept : LaneFields)
    (dirty : Finset DirtyFlag) :
    parseLane data slot ⟨kept.read data slot, dirty⟩ = ⟨kept.read data slot, dirty⟩ := by
  unfold parseLane
  repeat
    refine store_alreadyStored ?_ (alreadyStored_getD _ _)
  rfl

/-- Without a second key for the level, every field of a slot is settled. -/
theorem parseManeuver_again {data : BusData} {slot : Slot}
    (oneLevel : data.numField (.maneuver slot .zlevel) (-1) = none) (kept : ManeuverFields)
    (dirty : Finset DirtyFlag) :
    parseManeuver data slot ⟨kept.read data slot, dirty⟩ = ⟨kept.read data slot, dirty⟩ := by
  have level : AlreadyStored (data.numField (.maneuver slot .zLevel) (-1))
      (kept.read data slot).zLevel := by
    unfold ManeuverFields.read
    rw [oneLevel]
    exact alreadyStored_getD _ _
  unfold parseManeuver
  repeat
    refine store_alreadyStored ?_ (by first | exact alreadyStored_getD _ _ | exact level)
  rfl

theorem foldl_fixed {step : State → Slot → State} {state : State}
    (fixed : ∀ slot, step state slot = state) (slots : List Slot) :
    slots.foldl step state = state := by
  induction slots with
  | nil => rfl
  | cons slot slots ih => rw [List.foldl_cons, fixed, ih]

theorem foldl_parseLane (data : BusData) {slots : List Slot} (distinct : slots.Nodup)
    (state : State) (slot : Slot) :
    (slots.foldl (fun state slot => state.onLane slot (parseLane data slot)) state).lane slot =
      if slot ∈ slots then (state.lane slot).read data slot else state.lane slot := by
  induction slots generalizing state with
  | nil => simp
  | cons first slots ih =>
      obtain ⟨fresh, distinctRest⟩ := List.nodup_cons.mp distinct
      have laneOf : (state.onLane first (parseLane data first)).lane slot =
          if slot = first then (state.lane first).read data first else state.lane slot := by
        unfold State.onLane
        dsimp only
        rw [parseLane_record]
        exact Function.update_apply _ _ _ _
      rw [List.foldl_cons, ih distinctRest, laneOf]
      by_cases isFirst : slot = first
      · subst isFirst
        simp [fresh]
      · simp [isFirst]

theorem parseManeuvers_lane (data : BusData) (hasRouteUpdate : Bool) (state : State) :
    (parseManeuvers data hasRouteUpdate state).lane = state.lane := by
  unfold parseManeuvers
  generalize List.finRange maneuverCacheSize = slots
  induction slots generalizing state with
  | nil => rfl
  | cons slot slots ih =>
      rw [List.foldl_cons, ih]
      unfold parseGatedManeuver
      split_ifs
      · rfl
      · rfl

theorem parse_lane (data : BusData) (hasRouteUpdate : Bool) (state : State) (slot : Slot) :
    (parse data hasRouteUpdate state).1.lane slot =
      ((parseRoute data state).lane slot).read data slot := by
  unfold parse
  dsimp only
  rw [parseManeuvers_lane, parseLanes, foldl_parseLane data (List.nodup_finRange _),
    if_pos (List.mem_finRange slot)]

theorem parse_route {data : BusData}
    (noKey : data.has (RgdKey.route .disconnectReason).text = false) (hasRouteUpdate : Bool)
    {state : State} (noReason : state.route.disconnectReason = none) :
    (parse data hasRouteUpdate state).1.route = state.route.read data := by
  rw [← parseRoute_route noKey noReason]
  unfold parse
  dsimp only
  rw [parseManeuvers_route, parseLanes_route]

/-- A frame that is parsed again changes nothing but the dirty flags, and these
only if it has a route state of zero. -/
theorem parse_again {data : BusData}
    (noKey : data.has (RgdKey.route .disconnectReason).text = false)
    (oneLevel : ∀ slot, data.numField (.maneuver slot .zlevel) (-1) = none)
    (hasRouteUpdate : Bool) {state : State} (noReason : state.route.disconnectReason = none) :
    ∃ dirty, parse data (parse data hasRouteUpdate state).2 (parse data hasRouteUpdate state).1 =
        ({ (parse data hasRouteUpdate state).1 with dirtyMask := dirty },
          (parse data hasRouteUpdate state).2) ∧
      (data.numField (.route .routeState) (-1) ≠ some 0 → dirty = ∅) := by
  have route := parse_route noKey hasRouteUpdate noReason
  have lane (slot : Slot) := parse_lane data hasRouteUpdate state slot
  have maneuver (slot : Slot) := parse_maneuver data hasRouteUpdate state slot
  have updated : (parse data hasRouteUpdate state).2 =
      (hasRouteUpdate || isRouteUpdateDelta data) := rfl
  generalize parse data hasRouteUpdate state = parsed at route lane maneuver updated ⊢
  obtain ⟨after, isUpdated⟩ := parsed
  dsimp only at route lane maneuver updated ⊢
  have stillNone : after.route.disconnectReason = none := by
    rw [route, RouteFields.read_reason, noReason]
  obtain ⟨dirty, routed, clean⟩ := parseRoute_again noKey route stillNone
  refine ⟨dirty, ?_, clean⟩
  have lanes : parseLanes data { after with dirtyMask := dirty } =
      { after with dirtyMask := dirty } := by
    refine foldl_fixed (fun slot => ?_) _
    unfold State.onLane
    dsimp only
    rw [lane, parseLane_again, ← lane, Function.update_eq_self]
  have maneuvers : parseManeuvers data isUpdated { after with dirtyMask := dirty } =
      { after with dirtyMask := dirty } := by
    refine foldl_fixed (fun slot => ?_) _
    unfold parseGatedManeuver
    split_ifs with gated
    · rfl
    · have takes : takesSlot data (hasRouteUpdate || isRouteUpdateDelta data) after.route slot =
          true := by
        rw [← updated]
        simpa [takesSlot, canProcessManeuverIndex, or_iff_not_imp_left] using gated
      have isRead := (maneuver slot).trans (if_pos takes)
      unfold State.onManeuver
      dsimp only
      rw [isRead, parseManeuver_again (oneLevel slot), ← isRead, Function.update_eq_self]
  have same : (isUpdated || isRouteUpdateDelta data) = isUpdated := by
    rw [updated, Bool.or_assoc, Bool.or_self]
  unfold parse
  dsimp only
  rw [routed, lanes, same, maneuvers]

section Twice

variable {rg : RouteGuidance} {payload : List UInt8}

/-- A frame without a disconnect reason is absorbed, and its flags are cleared. -/
theorem onFrame_absorbed (receives : Receives rg)
    (noKey : (parseText payload).has (RgdKey.route .disconnectReason).text = false) :
    ∃ active, (onFrame evtRgdUpdate payload rg).1 =
      { absorb payload rg with
        rgActive := active, state := (absorb payload rg).state.clearDirty } := by
  have noReason := absorb_noReason receives.noReason noKey
  rw [onFrame_of_running receives.running]
  have outcome := dispatch_case (absorb payload rg)
  generalize dispatch (absorb payload rg) = result at outcome
  generalize absorb payload rg = absorbed at noReason outcome ⊢
  obtain ⟨after, calls⟩ := result
  cases outcome with
  | disconnected reason => exact absurd noReason reason
  | unchanged clean =>
      refine ⟨after.rgActive, ?_⟩
      obtain ⟨running, active, updated, state⟩ := after
      obtain ⟨route, maneuver, lane, dirty⟩ := state
      obtain rfl : dirty = ∅ := clean
      rfl
  | activated | deactivated | updated | silent => exact ⟨_, rfl⟩

theorem absorb_again (receives : Receives rg)
    (noKey : (parseText payload).has (RgdKey.route .disconnectReason).text = false)
    (oneLevel : ∀ slot, (parseText payload).numField (.maneuver slot .zlevel) (-1) = none)
    (active : Bool) :
    ∃ dirty,
      absorb payload
          { absorb payload rg with
            rgActive := active, state := (absorb payload rg).state.clearDirty } =
        { absorb payload rg with
          rgActive := active, state := { (absorb payload rg).state with dirtyMask := dirty } } ∧
      ((parseText payload).numField (.route .routeState) (-1) ≠ some 0 → dirty = ∅) := by
  obtain ⟨dirty, again, clean⟩ := parse_again noKey oneLevel rg.hasRouteUpdate receives.noReason
  refine ⟨dirty, ?_, clean⟩
  have cleared : parse (parseText payload) (absorb payload rg).hasRouteUpdate
      (absorb payload rg).state.clearDirty =
        parse (parseText payload) (absorb payload rg).hasRouteUpdate (absorb payload rg).state :=
    rfl
  have same : parse (parseText payload) (absorb payload rg).hasRouteUpdate
      (absorb payload rg).state =
        ({ (absorb payload rg).state with dirtyMask := dirty },
          (absorb payload rg).hasRouteUpdate) := again
  rw [absorb]
  dsimp only
  rw [cleared, same]

/-- A frame that comes again right away does nothing. -/
theorem onFrame_again {calls : List BridgeCall} (invariant : GatingInvariant rg calls)
    (noKey : (parseText payload).has (RgdKey.route .disconnectReason).text = false)
    (oneLevel : ∀ slot, (parseText payload).numField (.maneuver slot .zlevel) (-1) = none) :
    onFrame evtRgdUpdate payload (onFrame evtRgdUpdate payload rg).1 =
      ((onFrame evtRgdUpdate payload rg).1, []) := by
  by_cases running : rg.running = true
  · have receives : Receives rg := ⟨running, invariant.noReason⟩
    have later := invariant.onFrame evtRgdUpdate payload
    have runsLater := (onFrame_read receives noKey).1.running
    obtain ⟨active, isAbsorbed⟩ := onFrame_absorbed receives noKey
    obtain ⟨dirty, again, clean⟩ := absorb_again receives noKey oneLevel active
    rw [onFrame_of_running runsLater, isAbsorbed, again]
    rw [isAbsorbed] at later
    by_cases noFlag : dirty = ∅
    · rw [noFlag]
      exact if_pos rfl
    · -- only a route state of zero marks anything, and it has ended the session
      have zero : (parseText payload).numField (.route .routeState) (-1) = some 0 := by
        by_contra notZero
        exact noFlag (clean notZero)
      have isZero : (absorb payload rg).state.route.routeState = 0 := by
        have route : (absorb payload rg).state.route = rg.state.route.read (parseText payload) :=
          parse_route noKey rg.hasRouteUpdate receives.noReason
        rw [route]
        exact RouteFields.read_routeState_zero _ _ zero
      have inactive : active = false := by
        cases active with
        | false => rfl
        | true => exact absurd isZero (later.admissible rfl).routeState
      have wants (state : State) (route : state.route = (absorb payload rg).state.route) :
          wantActive state = false := by
        unfold wantActive
        dsimp only
        rw [route, if_pos isZero]
      have noReason := absorb_noReason receives.noReason noKey
      rw [inactive, dispatch, if_neg noFlag, if_neg (not_not.mpr noReason), TracedOp.andThen]
      simp [gate, wants, send, State.clearDirty]
  · have idle : onFrame evtRgdUpdate payload rg = (rg, []) := by
      simp [onFrame, running]
    rw [idle, idle]

end Twice

end RouteGuidance

open RouteGuidance RgdState

/-- The hook never sends the second key for the level. -/
theorem PublishedForm.oneLevel {overlay : Bool} {records : List RgdRecord}
    (form : PublishedForm overlay records) (slot : Slot) :
    (parseText (frameText records)).numField (.maneuver slot .zlevel) (-1) = none := by
  have absent : valueOf records (.maneuver slot .zlevel) = none := by
    cases form with
    | snapshot shown records built =>
        obtain ⟨stack, values⟩ := built.maneuver
        rw [values]
        split_ifs
        · unfold writeSlotDataKeys linkedLaneKeys maneuverLaneKeys maneuverDataKeys
          simp only [valueOf_append]
          split <;> split <;> simp
        · rfl
    | ended => rfl
    | cleared reason => cases reason <;> rfl
  have absentTaken : valueOf (records.take dataMax) (.maneuver slot .zlevel) = none := by
    refine valueOf_eq_none fun record member equal => ?_
    rw [valueOf, Option.map_eq_none_iff, List.find?_eq_none] at absent
    exact absent record (List.mem_of_mem_take member) (by simpa using equal)
  rw [numField_frameText, absentTaken]
  rfl

theorem PublishedForm.no_reason {overlay : Bool} {records : List RgdRecord}
    (form : PublishedForm overlay records)
    (noReason : valueOf records (.route .disconnectReason) = none) :
    (parseText (frameText records)).has (RgdKey.route .disconnectReason).text = false := by
  cases form with
  | snapshot shown records built => exact built.no_reason
  | ended =>
      rw [has_frameText]
      rfl
  | cleared reason => cases reason <;> cases noReason

/-- A frame of the hook without a disconnect reason, processed twice in a row by
a receiver in any reachable state, does nothing the second time. -/
theorem replay_idempotent {rg : RouteGuidance} {calls : List BridgeCall}
    (run : routeGuidance.Run rg calls) {overlay : Bool} {records : List RgdRecord}
    (form : PublishedForm overlay records)
    (noReason : valueOf records (.route .disconnectReason) = none) :
    onFrame evtRgdUpdate (frameText records) (onFrame evtRgdUpdate (frameText records) rg).1 =
      ((onFrame evtRgdUpdate (frameText records) rg).1, []) :=
  onFrame_again (routeGuidance_gating run) (form.no_reason noReason) form.oneLevel

/-- The end of a route, twice, in the middle of a session. -/
theorem end_replayed : ∃ rg calls, routeGuidance.Run rg calls ∧ rg.rgActive = true ∧
    onFrame evtRgdUpdate (frameText endRecords) (onFrame evtRgdUpdate (frameText endRecords) rg).1 =
      ((onFrame evtRgdUpdate (frameText endRecords) rg).1, []) := by
  obtain ⟨rg, calls, run, active⟩ := routeGuidance.exists_run_of_replay
    [.start, .frame evtRgdUpdate (Utf8Text.encode "route_state:n:1\n".toList)]
    (fun result => result.1.rgActive) (by decide +kernel)
  exact ⟨rg, calls, run, active, replay_idempotent run (@PublishedForm.ended false) rfl⟩

end CarplayRgi
