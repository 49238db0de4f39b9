import CarplayRgi.RouteGuidanceState

/-!
# Parsing a frame into the guidance state

The fields of a route come first, then those of the lane-guidance slots, then
those of the maneuver slots.  Maneuver records are skipped as long as there
has been no route update, and while the maneuver list is empty.
-/

namespace CarplayRgi

namespace RouteGuidance

open Noted

def isRouteUpdateDelta (data : BusData) : Bool :=
  [RouteKey.routeState, .maneuverState, .maneuverCount, .maneuverList, .distDestM, .distManeuverM,
    .etaSeconds, .timeRemainingSeconds, .currentRoad, .destination, .visibleInApp, .componentIds,
    .componentCount, .sourceSupportsRg].any fun key => data.has key.text

/-- A reason is kept until the next frame that is not empty. -/
def parseDisconnectReason (data : BusData) (noted : Noted RouteFields) : Noted RouteFields :=
  if data.has (RgdKey.route .disconnectReason).text then
    store RouteFields.disconnectReason (fun v r => { r with disconnectReason := v }) {.disconnect}
      (data.strField (.route .disconnectReason)) noted
  else if noted.record.disconnectReason ≠ none ∧ data.records ≠ [] then
    mark (fun r => { r with disconnectReason := none }) {.disconnect} noted
  else noted

/-- No route: neither maneuvers nor a lane event. -/
def noRoute (noted : Noted RouteFields) : Noted RouteFields :=
  noted
    |> store RouteFields.routeState (fun v r => { r with routeState := v }) {.routeState} (some 0)
    |> store RouteFields.maneuverCount (fun v r => { r with maneuverCount := v }) {.maneuverCount}
      (some 0)
    |> mark (fun r => { r with maneuverOrder := none }) {.maneuverList}
    |> mark
      (fun r =>
        { r with
          laneGuidanceShowing := -1, laneGuidanceTotal := -1, laneGuidanceIndex := -1
          laneGuidanceSlot := -1 })
      {.maneuverIcon, .maneuverText, .laneGuidance}

/-- A source without guidance clears everything but the distances, the times
and the roads. -/
def parseSourceSupportsRg (data : BusData) (state : State) : State :=
  match data.numField (.route .sourceSupportsRg) (-1) with
  | none => state
  | some v =>
      if v = state.route.sourceSupportsRg then state
      else
        let noted := state.onRoute
          (mark (fun r => { r with sourceSupportsRg := v }) {.sourceSupportsRg})
        if v = 0 ∧ noted.route.routeState ≠ 0 then (noted.onRoute noRoute).clearAllManeuverSlots
        else noted

/-- A zero keeps the slots; a negative value is ignored. -/
def parseRouteState (data : BusData) (noted : Noted RouteFields) : Noted RouteFields :=
  match data.numField (.route .routeState) (-1) with
  | none => noted
  | some v =>
      if v = 0 then noRoute noted
      else
        store RouteFields.routeState (fun v r => { r with routeState := v }) {.routeState}
          (if 0 < v then some v else none) noted

def parseManeuverState (data : BusData) (noted : Noted RouteFields) : Noted RouteFields :=
  store RouteFields.maneuverState (fun v r => { r with maneuverState := v }) {.maneuverState}
    ((data.numField (.route .maneuverState) (-1)).filter fun v => decide (0 ≤ v ∧ v ≤ 3)) noted

/-- A count of zero also drops the list. -/
def parseManeuverCount (data : BusData) (noted : Noted RouteFields) : Noted RouteFields :=
  match data.numField (.route .maneuverCount) 0 with
  | none => noted
  | some v =>
      if v = noted.record.maneuverCount then noted
      else
        let counted := mark (fun r => { r with maneuverCount := v }) {.maneuverCount} noted
        if v = 0 then mark (fun r => { r with maneuverOrder := none }) {.maneuverList} counted
        else counted

/-- An empty text is an empty list, and not a missing one. -/
def maneuverListField (data : BusData) : Option (Option (List Int)) :=
  if data.has (RgdKey.route .maneuverList).text then
    some
      (match data.str (RgdKey.route .maneuverList).text with
        | none => none
        | some [] => some []
        | some _ => data.intList (RgdKey.route .maneuverList).text)
  else none

def visibleInAppField (data : BusData) : Option Int :=
  (data.numField (.route .visibleInApp) (-1)).map fun raw => if raw = 0 ∨ raw = 1 then raw else -1

/-- The fields that only depend on their own records. -/
def parseRouteRecords (data : BusData) (noted : Noted RouteFields) : Noted RouteFields :=
  noted
    |> store RouteFields.maneuverOrder (fun v r => { r with maneuverOrder := v }) {.maneuverList}
      (maneuverListField data)
    |> store RouteFields.visibleInApp (fun v r => { r with visibleInApp := v }) {.visibleInApp}
      (visibleInAppField data)
    |> store RouteFields.laneGuidanceShowing (fun v r => { r with laneGuidanceShowing := v })
      {.laneGuidance} (data.numField (.route .laneGuidanceShowing) (-1))
    |> store RouteFields.laneGuidanceTotal (fun v r => { r with laneGuidanceTotal := v })
      {.laneGuidance} (data.numField (.route .laneGuidanceTotal) (-1))
    |> store RouteFields.laneGuidanceIndex (fun v r => { r with laneGuidanceIndex := v })
      {.laneGuidance} (data.numField (.route .laneGuidanceIndex) (-1))
    |> store RouteFields.laneGuidanceSlot (fun v r => { r with laneGuidanceSlot := v })
      {.laneGuidance} (data.numField (.route .laneGuidanceSlot) (-1))
    |> store RouteFields.distDestM (fun v r => { r with distDestM := v }) {.distDest}
      (data.numField (.route .distDestM) (-1))
    |> store RouteFields.distManeuverM (fun v r => { r with distManeuverM := v }) {.distMan}
      (data.numField (.route .distManeuverM) (-1))
    |> store RouteFields.etaSeconds (fun v r => { r with etaSeconds := v }) {.eta}
      (data.numField (.route .etaSeconds) (-1))
    |> store RouteFields.timeRemainingSeconds (fun v r => { r with timeRemainingSeconds := v })
      {.timeRemaining} (data.num64Field (.route .timeRemainingSeconds) (-1))
    |> store RouteFields.currentRoad (fun v r => { r with currentRoad := v }) {.currentRoad}
      (data.strField (.route .currentRoad))
    |> store RouteFields.destination (fun v r => { r with destination := v }) {.destination}
      (data.strField (.route .destination))

def parseRoute (data : BusData) (state : State) : State :=
  state
    |>.clearDirty
    |>.onRoute (parseDisconnectReason data)
    |> parseSourceSupportsRg data
    |>.onRoute (parseRouteState data)
    |>.onRoute (parseManeuverState data)
    |>.onRoute (parseManeuverCount data)
    |>.onRoute (parseRouteRecords data)

def parseLane (data : BusData) (slot : Slot) (noted : Noted LaneFields) : Noted LaneFields :=
  noted
    |> store LaneFields.index (fun v l => { l with index := v }) {.laneGuidance}
      (data.numField (.lane slot .index) (-1))
    |> store LaneFields.laneCount (fun v l => { l with laneCount := v }) {.laneGuidance}
      (data.numField (.lane slot .laneCount) (-1))
    |> store LaneFields.lanePositions (fun v l => { l with lanePositions := v }) {.laneGuidance}
      (data.intListField (.lane slot .lanePositions))
    |> store LaneFields.laneDirections (fun v l => { l with laneDirections := v }) {.laneGuidance}
      (data.intListField (.lane slot .laneDirections))
    |> store LaneFields.laneStatus (fun v l => { l with laneStatus := v }) {.laneGuidance}
      (data.intListField (.lane slot .laneStatus))
    |> store LaneFields.laneAngles (fun v l => { l with laneAngles := v }) {.laneGuidance}
      (data.laneAnglesField (.lane slot .laneAngles))

def canProcessManeuverIndex (hasRouteUpdate : Bool) (state : State) : Bool :=
  hasRouteUpdate && decide (state.route.maneuverOrder ≠ some [])

/-- The keys that are subject to the gate. -/
def hasGatedKey (data : BusData) (slot : Slot) : Bool :=
  [ManeuverKey.type, .turnAngle, .junctionType, .drivingSide, .distance, .distanceUnits,
    .distanceStr, .name, .afterRoad, .junctionAngles, .laneAngles, .ver].any fun key =>
      data.has (RgdKey.maneuver slot key).text

/-- The turn angle is the exit angle under another name. -/
def parseManeuver (data : BusData) (slot : Slot) (noted : Noted ManeuverFields) :
    Noted ManeuverFields :=
  noted
    |> store ManeuverFields.type (fun v m => { m with type := v }) {.maneuverIcon}
      (data.numField (.maneuver slot .type) (-1))
    |> store ManeuverFields.turnAngle (fun v m => { m with turnAngle := v, exitAngle := v })
      {.maneuverIcon} (data.numField (.maneuver slot .turnAngle) (-1))
    |> store ManeuverFields.zLevel (fun v m => { m with zLevel := v }) {.maneuverIcon}
      (data.numField (.maneuver slot .zLevel) (-1))
    |> store ManeuverFields.zLevel (fun v m => { m with zLevel := v }) {.maneuverIcon}
      (data.numField (.maneuver slot .zlevel) (-1))
    |> store ManeuverFields.junctionType (fun v m => { m with junctionType := v }) {.maneuverIcon}
      (data.numField (.maneuver slot .junctionType) (-1))
    |> store ManeuverFields.drivingSide (fun v m => { m with drivingSide := v }) {.maneuverIcon}
      (data.numField (.maneuver slot .drivingSide) (-1))
    |> store ManeuverFields.distance (fun v m => { m with distance := v }) {.distMan}
      (data.numField (.maneuver slot .distance) (-1))
    |> store ManeuverFields.name (fun v m => { m with name := v }) {.maneuverText}
      (data.strField (.maneuver slot .name))
    |> store ManeuverFields.afterRoad (fun v m => { m with afterRoad := v }) {.maneuverText}
      (data.strField (.maneuver slot .afterRoad))
    |> store ManeuverFields.exitInfo (fun v m => { m with exitInfo := v }) {.maneuverText}
      (data.strField (.maneuver slot .exitInfo))
    |> store ManeuverFields.junctionAngles (fun v m => { m with junctionAngles := v })
      {.maneuverIcon} (data.intListField (.maneuver slot .junctionAngles))
    |> store ManeuverFields.exitAngle (fun v m => { m with exitAngle := v }) {.maneuverIcon}
      (data.numField (.maneuver slot .exitAngle) 1000)
    |> store ManeuverFields.ver (fun v m => { m with ver := v }) {.maneuverIcon, .maneuverText}
      (data.numField (.maneuver slot .ver) (-1))
    |> store ManeuverFields.laneCount (fun v m => { m with laneCount := v }) {.laneGuidance}
      (data.numField (.maneuver slot .laneCount) (-1))
    |> store ManeuverFields.linkedLaneGuidanceIndex
      (fun v m => { m with linkedLaneGuidanceIndex := v }) {.laneGuidance}
      (data.numField (.maneuver slot .linkedLaneGuidanceIndex) (-1))
    |> store ManeuverFields.linkedLaneGuidanceSlot
      (fun v m => { m with linkedLaneGuidanceSlot := v }) {.laneGuidance}
      (data.numField (.maneuver slot .linkedLaneGuidanceSlot) (-1))
    |> store ManeuverFields.lanePositions (fun v m => { m with lanePositions := v })
      {.laneGuidance} (data.intListField (.maneuver slot .lanePositions))
    |> store ManeuverFields.laneDirections (fun v m => { m with laneDirections := v })
      {.laneGuidance} (data.intListField (.maneuver slot .laneDirections))
    |> store ManeuverFields.laneStatus (fun v m => { m with laneStatus := v }) {.laneGuidance}
      (data.intListField (.maneuver slot .laneStatus))
    |> store ManeuverFields.laneAngles (fun v m => { m with laneAngles := v }) {.laneGuidance}
      (data.laneAnglesField (.maneuver slot .laneAngles))

def parseGatedManeuver (data : BusData) (hasRouteUpdate : Bool) (state : State) (slot : Slot) :
    State :=
  if hasGatedKey data slot && !canProcessManeuverIndex hasRouteUpdate state then state
  else state.onManeuver slot (parseManeuver data slot)

def parseLanes (data : BusData) (state : State) : State :=
  (List.finRange maneuverCacheSize).foldl
    (fun state slot => state.onLane slot (parseLane data slot)) state

def parseManeuvers (data : BusData) (hasRouteUpdate : Bool) (state : State) : State :=
  (List.finRange maneuverCacheSize).foldl (parseGatedManeuver data hasRouteUpdate) state

/-- `parse`, with whether there has been a route update. -/
def parse (data : BusData) (hasRouteUpdate : Bool) (state : State) : State × Bool :=
  let updated := hasRouteUpdate || isRouteUpdateDelta data
  (parseManeuvers data updated (parseLanes data (parseRoute data state)), updated)

/-- A field that changes under the given flags only. -/
structure Owns {Field : Type} (own : Finset DirtyFlag) (field : RouteFields → Field) : Prop where
  sourceSupportsRg :
    .sourceSupportsRg ∈ own ∨ ∀ v r, field { r with sourceSupportsRg := v } = field r
  routeState : .routeState ∈ own ∨ ∀ v r, field { r with routeState := v } = field r
  maneuverState : .maneuverState ∈ own ∨ ∀ v r, field { r with maneuverState := v } = field r
  maneuverCount : .maneuverCount ∈ own ∨ ∀ v r, field { r with maneuverCount := v } = field r
  maneuverOrder : .maneuverList ∈ own ∨ ∀ v r, field { r with maneuverOrder := v } = field r
  visibleInApp : .visibleInApp ∈ own ∨ ∀ v r, field { r with visibleInApp := v } = field r
  laneGuidance : .laneGuidance ∈ own ∨ ∀ showing total index slot r,
    field
      { r with
        laneGuidanceShowing := showing, laneGuidanceTotal := total, laneGuidanceIndex := index
        laneGuidanceSlot := slot } = field r
  distDestM : .distDest ∈ own ∨ ∀ v r, field { r with distDestM := v } = field r
  distManeuverM : .distMan ∈ own ∨ ∀ v r, field { r with distManeuverM := v } = field r
  etaSeconds : .eta ∈ own ∨ ∀ v r, field { r with etaSeconds := v } = field r
  timeRemainingSeconds :
    .timeRemaining ∈ own ∨ ∀ v r, field { r with timeRemainingSeconds := v } = field r
  currentRoad : .currentRoad ∈ own ∨ ∀ v r, field { r with currentRoad := v } = field r
  destination : .destination ∈ own ∨ ∀ v r, field { r with destination := v } = field r

namespace Owns

variable {Field : Type} {own : Finset DirtyFlag} {field : RouteFields → Field}

theorem guards_noRoute (owns : Owns own field) : Guards own field noRoute := by
  unfold noRoute
  refine (guards_marks .laneGuidance (by decide) ?_).comp ((guards_mark ?_).comp
    ((guards_store ?_).comp (guards_store ?_)))
  · exact owns.laneGuidance.imp_right fun frame r => frame (-1) (-1) (-1) (-1) r
  · exact owns.maneuverOrder.imp_right fun frame => frame none
  · exact owns.maneuverCount
  · exact owns.routeState

theorem guards_parseRouteState (owns : Owns own field) (data : BusData) :
    Guards own field (parseRouteState data) := by
  intro noted
  unfold parseRouteState
  split
  · exact Guards.id noted
  · split_ifs
    · exact owns.guards_noRoute noted
    · exact guards_store owns.routeState noted
    · exact guards_store owns.routeState noted

theorem guards_parseManeuverCount (owns : Owns own field) (data : BusData) :
    Guards own field (parseManeuverCount data) := by
  have counts : ∀ v, Guards own field
      (mark (fun r => { r with maneuverCount := v }) {.maneuverCount}) := fun v =>
    guards_mark (owns.maneuverCount.imp_right fun frame => frame v)
  have drops : Guards own field
      (mark (fun r => { r with maneuverOrder := none }) {.maneuverList}) :=
    guards_mark (owns.maneuverOrder.imp_right fun frame => frame none)
  intro noted
  unfold parseManeuverCount
  split
  · exact Guards.id noted
  · split_ifs
    · exact Guards.id noted
    · exact (drops.comp (counts _)) noted
    · exact counts _ noted

theorem guards_parseRouteRecords (owns : Owns own field) (data : BusData) :
    Guards own field (parseRouteRecords data) := by
  unfold parseRouteRecords
  refine (guards_store ?_).comp ((guards_store ?_).comp ((guards_store ?_).comp
    ((guards_store ?_).comp ((guards_store ?_).comp ((guards_store ?_).comp
    ((guards_store ?_).comp ((guards_store ?_).comp ((guards_store ?_).comp
    ((guards_store ?_).comp ((guards_store ?_).comp (guards_store ?_)))))))))))
  · exact owns.destination
  · exact owns.currentRoad
  · exact owns.timeRemainingSeconds
  · exact owns.etaSeconds
  · exact owns.distManeuverM
  · exact owns.distDestM
  · exact owns.laneGuidance.imp_right fun frame v r => frame _ _ _ v r
  · exact owns.laneGuidance.imp_right fun frame v r => frame _ _ v _ r
  · exact owns.laneGuidance.imp_right fun frame v r => frame _ v _ _ r
  · exact owns.laneGuidance.imp_right fun frame v r => frame v _ _ _ r
  · exact owns.visibleInApp
  · exact owns.maneuverOrder

end Owns

namespace State

/-- The flags guard the field in a step of the whole state. -/
def Guards {Field : Type} (own : Finset DirtyFlag) (field : RouteFields → Field)
    (step : State → State) : Prop :=
  ∀ state, Disjoint own (step state).dirtyMask →
    Disjoint own state.dirtyMask ∧ field (step state).route = field state.route

variable {Field : Type} {own : Finset DirtyFlag} {field : RouteFields → Field}

theorem Guards.comp {first second : State → State} (secondGuards : Guards own field second)
    (firstGuards : Guards own field first) : Guards own field fun state => second (first state) := by
  intro state clean
  obtain ⟨cleanBetween, sameLater⟩ := secondGuards _ clean
  obtain ⟨cleanBefore, sameFirst⟩ := firstGuards state cleanBetween
  exact ⟨cleanBefore, sameLater.trans sameFirst⟩

theorem guards_onRoute {update : Noted RouteFields → Noted RouteFields}
    (guards : Noted.Guards own field update) : Guards own field (onRoute update) :=
  fun state clean => guards ⟨state.route, state.dirtyMask⟩ clean

theorem guards_onLane {slot : Slot} {update : Noted LaneFields → Noted LaneFields}
    (grows : Noted.Guards own (fun _ => ()) update) : Guards own field (onLane slot update) :=
  fun state clean => ⟨(grows ⟨state.lane slot, state.dirtyMask⟩ clean).1, rfl⟩

theorem guards_onManeuver {slot : Slot} {update : Noted ManeuverFields → Noted ManeuverFields}
    (grows : Noted.Guards own (fun _ => ()) update) : Guards own field (onManeuver slot update) :=
  fun state clean => ⟨(grows ⟨state.maneuver slot, state.dirtyMask⟩ clean).1, rfl⟩

theorem guards_foldl {step : State → Slot → State}
    (guards : ∀ slot, Guards own field fun state => step state slot) (slots : List Slot) :
    Guards own field fun state => slots.foldl step state := by
  induction slots with
  | nil => exact fun _ clean => ⟨clean, rfl⟩
  | cons slot slots ih => exact ih.comp (guards slot)

end State

/-- The records of a slot only add flags. -/
theorem guards_parseLane (own : Finset DirtyFlag) (data : BusData) (slot : Slot) :
    Noted.Guards own (fun _ => ()) (parseLane data slot) := by
  unfold parseLane
  refine (guards_store ?_).comp ((guards_store ?_).comp ((guards_store ?_).comp
    ((guards_store ?_).comp ((guards_store ?_).comp (guards_store ?_)))))
  all_goals exact .inr fun _ _ => rfl

theorem guards_parseManeuver (own : Finset DirtyFlag) (data : BusData) (slot : Slot) :
    Noted.Guards own (fun _ => ()) (parseManeuver data slot) := by
  unfold parseManeuver
  refine (guards_store ?_).comp ((guards_store ?_).comp ((guards_store ?_).comp
    ((guards_store ?_).comp ((guards_store ?_).comp ((guards_store ?_).comp
    ((guards_store ?_).comp ((guards_stores .maneuverIcon (by decide) ?_).comp
    ((guards_store ?_).comp ((guards_store ?_).comp ((guards_store ?_).comp
    ((guards_store ?_).comp ((guards_store ?_).comp ((guards_store ?_).comp
    ((guards_store ?_).comp ((guards_store ?_).comp ((guards_store ?_).comp
    ((guards_store ?_).comp ((guards_store ?_).comp (guards_store ?_)))))))))))))))))))
  all_goals exact .inr fun _ _ => rfl

/-- `parse` without the disconnect reason. -/
def parseRest (data : BusData) (hasRouteUpdate : Bool) (state : State) : State :=
  state
    |> parseSourceSupportsRg data
    |>.onRoute (parseRouteState data)
    |>.onRoute (parseManeuverState data)
    |>.onRoute (parseManeuverCount data)
    |>.onRoute (parseRouteRecords data)
    |> parseLanes data
    |> parseManeuvers data hasRouteUpdate

theorem parse_eq_parseRest (data : BusData) (hasRouteUpdate : Bool) (state : State) :
    (parse data hasRouteUpdate state).1 =
      parseRest data (hasRouteUpdate || isRouteUpdateDelta data)
        (state.clearDirty.onRoute (parseDisconnectReason data)) := rfl

namespace Owns

variable {Field : Type} {own : Finset DirtyFlag} {field : RouteFields → Field}

theorem guards_parseSourceSupportsRg (owns : Owns own field) (data : BusData) :
    State.Guards own field (parseSourceSupportsRg data) := by
  have marks : ∀ v, State.Guards own field
      (State.onRoute (mark (fun r => { r with sourceSupportsRg := v }) {.sourceSupportsRg})) :=
    fun v => State.guards_onRoute (guards_mark
      (owns.sourceSupportsRg.imp_right fun frame => frame v))
  have clears : ∀ v, State.Guards own field fun state =>
      ((state.onRoute (mark (fun r => { r with sourceSupportsRg := v })
        {.sourceSupportsRg})).onRoute noRoute).clearAllManeuverSlots := fun v =>
    (State.guards_onRoute owns.guards_noRoute).comp (marks v)
  intro state
  unfold parseSourceSupportsRg
  split
  · exact fun clean => ⟨clean, rfl⟩
  · dsimp only
    split_ifs
    · exact fun clean => ⟨clean, rfl⟩
    · exact clears _ state
    · exact marks _ state

theorem guards_parseRest (owns : Owns own field) (data : BusData) (hasRouteUpdate : Bool) :
    State.Guards own field (parseRest data hasRouteUpdate) := by
  have lanes : State.Guards own field (parseLanes data) :=
    State.guards_foldl (fun slot => State.guards_onLane (guards_parseLane own data slot)) _
  have maneuvers : State.Guards own field (parseManeuvers data hasRouteUpdate) := by
    refine State.guards_foldl (fun slot state => ?_) _
    dsimp only [parseGatedManeuver]
    split_ifs
    · exact fun clean => ⟨clean, rfl⟩
    · exact State.guards_onManeuver (guards_parseManeuver own data slot) state
  have maneuverState : Noted.Guards own field (parseManeuverState data) :=
    guards_store owns.maneuverState
  exact maneuvers.comp (lanes.comp
    ((State.guards_onRoute (owns.guards_parseRouteRecords data)).comp
    ((State.guards_onRoute (owns.guards_parseManeuverCount data)).comp
    ((State.guards_onRoute maneuverState).comp
    ((State.guards_onRoute (owns.guards_parseRouteState data)).comp
    (owns.guards_parseSourceSupportsRg data))))))

/-- Where a field's own flags are clean after a frame, the frame has not
changed the field. -/
theorem parse_eq (owns : Owns own field)
    (disconnect : .disconnect ∈ own ∨ ∀ v r, field { r with disconnectReason := v } = field r)
    {data : BusData} {hasRouteUpdate : Bool} {state : State}
    (clean : Disjoint own (parse data hasRouteUpdate state).1.dirtyMask) :
    field (parse data hasRouteUpdate state).1.route = field state.route := by
  have reason : Noted.Guards own field (parseDisconnectReason data) := by
    intro noted
    unfold parseDisconnectReason
    split_ifs
    · exact guards_store disconnect noted
    · exact guards_mark
        (disconnect.imp_right fun frame => frame none) noted
    · exact Guards.id noted
  rw [parse_eq_parseRest] at clean ⊢
  obtain ⟨cleanReason, sameRest⟩ := owns.guards_parseRest data _ _ clean
  obtain ⟨-, sameReason⟩ := State.guards_onRoute reason state.clearDirty cleanReason
  exact sameRest.trans sameReason

end Owns

/-- A frame with a disconnect reason sets the reason and its flag. -/
theorem parse_disconnectReason {data : BusData} (hasRouteUpdate : Bool) {state : State}
    (reason : data.has (RgdKey.route .disconnectReason).text = true)
    (noReason : state.route.disconnectReason = none) :
    (parse data hasRouteUpdate state).1.route.disconnectReason ≠ none ∧
      .disconnect ∈ (parse data hasRouteUpdate state).1.dirtyMask := by
  obtain ⟨text, textEq⟩ := Option.isSome_iff_exists.mp (BusData.has_iff.mp reason)
  have noted : state.clearDirty.onRoute (parseDisconnectReason data) =
      { state with
        route := { state.route with disconnectReason := some text }
        dirtyMask := ∅ ∪ {.disconnect} } := by
    simp [State.onRoute, State.clearDirty, parseDisconnectReason, reason, BusData.strField,
      textEq, store, noReason]
  have frames : Owns ∅ RouteFields.disconnectReason := by
    constructor <;> first | exact .inr fun _ _ => rfl | exact .inr fun _ _ _ _ _ => rfl
  have grows : Owns {.disconnect} fun _ => () := by
    constructor <;> first | exact .inr fun _ _ => rfl | exact .inr fun _ _ _ _ _ => rfl
  rw [parse_eq_parseRest, noted]
  constructor
  · have kept := (frames.guards_parseRest data (hasRouteUpdate || isRouteUpdateDelta data)
      { state with
        route := { state.route with disconnectReason := some text }
        dirtyMask := ∅ ∪ {.disconnect} } (Finset.disjoint_empty_left _)).2
    rw [kept]
    simp
  · by_contra clean
    have cleanBefore := (grows.guards_parseRest data (hasRouteUpdate || isRouteUpdateDelta data) _
      (Finset.disjoint_singleton_left.mpr clean)).1
    simp at cleanBefore

section SingleRecord

variable {data : BusData}

theorem foldl_unchanged {step : State → Slot → State}
    (keeps : ∀ state slot, step state slot = state) (slots : List Slot) (state : State) :
    slots.foldl step state = state := by
  induction slots generalizing state with
  | nil => rfl
  | cons slot slots ih => rw [List.foldl_cons, keeps, ih]

/-- A frame without keys of slots leaves the slots alone. -/
theorem parse_of_routeKeys (noLane : ∀ slot key, data.has (RgdKey.lane slot key).text = false)
    (noManeuver : ∀ slot key, data.has (RgdKey.maneuver slot key).text = false)
    (hasRouteUpdate : Bool) (state : State) :
    (parse data hasRouteUpdate state).1 = parseRoute data state := by
  have lanes : ∀ state slot, State.onLane slot (parseLane data slot) state = state := by
    intro state slot
    simp [State.onLane, parseLane, BusData.numField, BusData.intListField,
      BusData.laneAnglesField, noLane, store]
  have maneuvers : ∀ updated state slot, parseGatedManeuver data updated state slot = state := by
    intro updated state slot
    simp [parseGatedManeuver, hasGatedKey, State.onManeuver, parseManeuver, BusData.numField,
      BusData.strField, BusData.intListField, BusData.laneAnglesField, noManeuver, store]
  unfold parse parseManeuvers parseLanes
  dsimp only
  rw [foldl_unchanged lanes, foldl_unchanged (maneuvers _)]

/-- A frame with a single record, of a positive route state. -/
theorem parseRoute_routeState
    (only : ∀ key : RouteKey, key ≠ .routeState → data.has (RgdKey.route key).text = false)
    {routeState : Int} (read : data.numField (.route .routeState) (-1) = some routeState)
    (positive : 0 < routeState) (state : State) :
    parseRoute data state = (state.clearDirty.onRoute (parseDisconnectReason data)).onRoute
      (store RouteFields.routeState (fun v r => { r with routeState := v }) {.routeState}
        (some routeState)) := by
  have supports : ∀ state, parseSourceSupportsRg data state = state := fun state => by
    simp [parseSourceSupportsRg, BusData.numField, only]
  have states : parseRouteState data = store RouteFields.routeState
      (fun v r => { r with routeState := v }) {.routeState} (some routeState) := by
    funext noted
    simp [parseRouteState, read, positive, positive.ne']
  have maneuverStates : parseManeuverState data = id := by
    funext noted
    simp [parseManeuverState, BusData.numField, only, store]
  have counts : parseManeuverCount data = id := by
    funext noted
    simp [parseManeuverCount, BusData.numField, only]
  have records : parseRouteRecords data = id := by
    funext noted
    simp [parseRouteRecords, maneuverListField, visibleInAppField, BusData.numField,
      BusData.num64Field, BusData.strField, only, store]
  rw [parseRoute, supports, states, maneuverStates, counts, records]
  rfl

theorem parseRoute_visibleInApp
    (only : ∀ key : RouteKey, key ≠ .visibleInApp → data.has (RgdKey.route key).text = false)
    {visible : Int} (read : visibleInAppField data = some visible) (state : State) :
    parseRoute data state = (state.clearDirty.onRoute (parseDisconnectReason data)).onRoute
      (store RouteFields.visibleInApp (fun v r => { r with visibleInApp := v }) {.visibleInApp}
        (some visible)) := by
  have supports : ∀ state, parseSourceSupportsRg data state = state := fun state => by
    simp [parseSourceSupportsRg, BusData.numField, only]
  have states : parseRouteState data = id := by
    funext noted
    simp [parseRouteState, BusData.numField, only]
  have maneuverStates : parseManeuverState data = id := by
    funext noted
    simp [parseManeuverState, BusData.numField, only, store]
  have counts : parseManeuverCount data = id := by
    funext noted
    simp [parseManeuverCount, BusData.numField, only]
  have records : parseRouteRecords data =
      store RouteFields.visibleInApp (fun v r => { r with visibleInApp := v }) {.visibleInApp}
        (some visible) := by
    funext noted
    simp [parseRouteRecords, maneuverListField, read, BusData.numField,
      BusData.num64Field, BusData.strField, only, store]
  rw [parseRoute, supports, states, maneuverStates, counts, records]
  rfl

end SingleRecord

end RouteGuidance

end CarplayRgi
