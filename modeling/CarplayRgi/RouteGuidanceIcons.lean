import CarplayRgi.RouteGuidanceFrames

/-!
# Flags guard the maneuvers

A frame changes what is shown of a maneuver only under the flags for icons and
for the list, and its distances only under the flag for the distance.  A source
without guidance, which clears all slots at once, sets these flags too.
-/

namespace CarplayRgi

namespace RouteGuidance

open Noted

namespace State

/-- The flags guard a view of the whole state. -/
def GuardsView {View : Type} (own : Finset DirtyFlag) (view : State → View)
    (step : State → State) : Prop :=
  ∀ state, Disjoint own (step state).dirtyMask →
    Disjoint own state.dirtyMask ∧ view (step state) = view state

variable {View Field Lane : Type} {own : Finset DirtyFlag} {view : State → View}

theorem GuardsView.comp {first second : State → State} (secondGuards : GuardsView own view second)
    (firstGuards : GuardsView own view first) :
    GuardsView own view fun state => second (first state) := by
  intro state clean
  obtain ⟨cleanBetween, sameLater⟩ := secondGuards _ clean
  obtain ⟨cleanBefore, sameFirst⟩ := firstGuards state cleanBetween
  exact ⟨cleanBefore, sameLater.trans sameFirst⟩

theorem guardsView_foldl {step : State → Slot → State}
    (guards : ∀ slot, GuardsView own view fun state => step state slot) (slots : List Slot) :
    GuardsView own view fun state => slots.foldl step state := by
  induction slots with
  | nil => exact fun _ clean => ⟨clean, rfl⟩
  | cons slot slots ih => exact ih.comp (guards slot)

/-- A view of every maneuver slot and of every lane slot. -/
def slotsView (field : ManeuverFields → Field) (lane : LaneFields → Lane) (state : State) :
    (Slot → Field) × (Slot → Lane) :=
  (fun slot => field (state.maneuver slot), fun slot => lane (state.lane slot))

variable {field : ManeuverFields → Field} {lane : LaneFields → Lane}

theorem guardsView_onRoute {update : Noted RouteFields → Noted RouteFields}
    (grows : Noted.Guards own (fun _ => ()) update) :
    GuardsView own (slotsView field lane) (onRoute update) :=
  fun state clean => ⟨(grows ⟨state.route, state.dirtyMask⟩ clean).1, rfl⟩

theorem guardsView_onLane {slot : Slot} {update : Noted LaneFields → Noted LaneFields}
    (guards : Noted.Guards own lane update) :
    GuardsView own (slotsView field lane) (onLane slot update) := by
  intro state clean
  obtain ⟨cleanBefore, same⟩ := guards ⟨state.lane slot, state.dirtyMask⟩ clean
  refine ⟨cleanBefore, Prod.ext rfl (funext fun other => ?_)⟩
  by_cases isSlot : other = slot
  · subst isSlot
    simpa [slotsView, onLane] using same
  · simp [slotsView, onLane, Function.update_of_ne isSlot]

theorem guardsView_onManeuver {slot : Slot} {update : Noted ManeuverFields → Noted ManeuverFields}
    (guards : Noted.Guards own field update) :
    GuardsView own (slotsView field lane) (onManeuver slot update) := by
  intro state clean
  obtain ⟨cleanBefore, same⟩ := guards ⟨state.maneuver slot, state.dirtyMask⟩ clean
  refine ⟨cleanBefore, Prod.ext (funext fun other => ?_) rfl⟩
  by_cases isSlot : other = slot
  · subst isSlot
    simpa [slotsView, onManeuver] using same
  · simp [slotsView, onManeuver, Function.update_of_ne isSlot]

end State

/-- Everything which clears the slots sets these flags. -/
def clearFlags : Finset DirtyFlag := {.maneuverList, .maneuverIcon, .laneGuidance}

section Slots

variable {Field Lane : Type} {own : Finset DirtyFlag} {field : ManeuverFields → Field}
  {lane : LaneFields → Lane}

theorem guardsView_parseSourceSupportsRg (clears : ¬ Disjoint own clearFlags) (data : BusData) :
    State.GuardsView own (State.slotsView field lane) (parseSourceSupportsRg data) := by
  have marks : ∀ v, Noted.Guards own (fun _ => ())
      (mark (fun r : RouteFields => { r with sourceSupportsRg := v }) {.sourceSupportsRg}) :=
    fun v => guards_mark (.inr fun _ => rfl)
  intro state clean
  unfold parseSourceSupportsRg at clean ⊢
  split at clean
  · exact ⟨clean, rfl⟩
  · rename_i v found
    dsimp only at clean ⊢
    split_ifs at clean ⊢
    · exact ⟨clean, rfl⟩
    · have marked : clearFlags ⊆ (((state.onRoute
          (mark (fun r => { r with sourceSupportsRg := v }) {.sourceSupportsRg})).onRoute
            noRoute).clearAllManeuverSlots).dirtyMask := by
        intro flag isFlag
        simp only [clearFlags, Finset.mem_insert, Finset.mem_singleton] at isFlag
        rcases isFlag with rfl | rfl | rfl
        all_goals simp [State.clearAllManeuverSlots, State.onRoute, noRoute, mark]
      exact absurd (Finset.disjoint_of_subset_right marked clean) clears
    · exact State.guardsView_onRoute (marks v) state clean

theorem guardsView_parseRest (clears : ¬ Disjoint own clearFlags)
    (maneuvers : ∀ data slot, Noted.Guards own field (parseManeuver data slot))
    (lanes : ∀ data slot, Noted.Guards own lane (parseLane data slot)) (data : BusData)
    (hasRouteUpdate : Bool) :
    State.GuardsView own (State.slotsView field lane) (parseRest data hasRouteUpdate) := by
  have grows : Owns own fun _ => () := by
    constructor <;> first | exact .inr fun _ _ => rfl | exact .inr fun _ _ _ _ _ => rfl
  have laneSlots : State.GuardsView own (State.slotsView field lane) (parseLanes data) :=
    State.guardsView_foldl (fun slot => State.guardsView_onLane (lanes data slot)) _
  have slots : State.GuardsView own (State.slotsView field lane)
      (parseManeuvers data hasRouteUpdate) := by
    refine State.guardsView_foldl (fun slot state => ?_) _
    dsimp only [parseGatedManeuver]
    split_ifs
    · exact fun clean => ⟨clean, rfl⟩
    · exact State.guardsView_onManeuver (maneuvers data slot) state
  have maneuverState : Noted.Guards own (fun _ => ()) (parseManeuverState data) := by
    unfold parseManeuverState
    exact guards_store (.inr fun _ _ => rfl)
  exact slots.comp (laneSlots.comp
    ((State.guardsView_onRoute (grows.guards_parseRouteRecords data)).comp
    ((State.guardsView_onRoute (grows.guards_parseManeuverCount data)).comp
    ((State.guardsView_onRoute maneuverState).comp
    ((State.guardsView_onRoute (grows.guards_parseRouteState data)).comp
    (guardsView_parseSourceSupportsRg clears data))))))

/-- Where the flags are clean after a frame, it has not changed what they guard
of any slot. -/
theorem parse_slots_eq (clears : ¬ Disjoint own clearFlags)
    (maneuvers : ∀ data slot, Noted.Guards own field (parseManeuver data slot))
    (lanes : ∀ data slot, Noted.Guards own lane (parseLane data slot)) {data : BusData}
    {hasRouteUpdate : Bool} {state : State}
    (clean : Disjoint own (parse data hasRouteUpdate state).1.dirtyMask) :
    (parse data hasRouteUpdate state).1.slotsView field lane = state.slotsView field lane := by
  rw [parse_eq_parseRest] at clean ⊢
  exact (guardsView_parseRest clears maneuvers lanes data _ _ clean).2

end Slots

/-- What the icons show of a maneuver. -/
def iconView (man : ManeuverFields) : ManeuverFields where
  type := man.type
  turnAngle := man.turnAngle
  zLevel := man.zLevel
  junctionType := man.junctionType
  drivingSide := man.drivingSide
  junctionAngles := man.junctionAngles
  exitAngle := man.exitAngle
  ver := man.ver

theorem guards_iconView {own : Finset DirtyFlag} (icons : .maneuverIcon ∈ own) (data : BusData)
    (slot : Slot) : Noted.Guards own iconView (parseManeuver data slot) := by
  unfold parseManeuver
  refine (guards_store ?_).comp ((guards_store ?_).comp ((guards_store ?_).comp
    ((guards_store ?_).comp ((guards_store ?_).comp ((guards_store ?_).comp
    ((guards_store ?_).comp ((guards_stores .maneuverIcon (by decide) ?_).comp
    ((guards_store ?_).comp ((guards_store ?_).comp ((guards_store ?_).comp
    ((guards_store ?_).comp ((guards_store ?_).comp ((guards_store ?_).comp
    ((guards_store ?_).comp ((guards_store ?_).comp ((guards_store ?_).comp
    ((guards_store ?_).comp ((guards_store ?_).comp (guards_store ?_)))))))))))))))))))
  all_goals first | exact .inl icons | exact .inr fun _ _ => rfl

theorem guards_distance {own : Finset DirtyFlag} (distances : .distMan ∈ own) (data : BusData)
    (slot : Slot) : Noted.Guards own ManeuverFields.distance (parseManeuver data slot) := by
  unfold parseManeuver
  refine (guards_store ?_).comp ((guards_store ?_).comp ((guards_store ?_).comp
    ((guards_store ?_).comp ((guards_store ?_).comp ((guards_store ?_).comp
    ((guards_store ?_).comp ((guards_stores .maneuverIcon (by decide) ?_).comp
    ((guards_store ?_).comp ((guards_store ?_).comp ((guards_store ?_).comp
    ((guards_store ?_).comp ((guards_store ?_).comp ((guards_store ?_).comp
    ((guards_store ?_).comp ((guards_store ?_).comp ((guards_store ?_).comp
    ((guards_store ?_).comp ((guards_store ?_).comp (guards_store ?_)))))))))))))))))))
  all_goals first | exact .inr fun _ _ => rfl | exact .inl distances

/-- The same list with the same count and the same icons. -/
structure SameIcons (before after : State) : Prop where
  maneuverOrder : after.route.maneuverOrder = before.route.maneuverOrder
  maneuverCount : after.route.maneuverCount = before.route.maneuverCount
  icons : ∀ slot, iconView (after.maneuver slot) = iconView (before.maneuver slot)

/-- The same distances to the maneuver and of its step. -/
structure SameDistances (before after : State) : Prop where
  distManeuverM : after.route.distManeuverM = before.route.distManeuverM
  distance : ∀ slot, (after.maneuver slot).distance = (before.maneuver slot).distance

def iconFlags : Finset DirtyFlag := {.maneuverIcon, .maneuverList, .maneuverCount}

theorem sameIcons_absorb {payload : List UInt8} {rg : RouteGuidance}
    (clean : Disjoint iconFlags (absorb payload rg).state.dirtyMask) :
    SameIcons rg.state (absorb payload rg).state := by
  have list : Owns iconFlags RouteFields.maneuverOrder := by
    constructor <;> first
      | exact .inl (by decide) | exact .inr fun _ _ => rfl | exact .inr fun _ _ _ _ _ => rfl
  have count : Owns iconFlags RouteFields.maneuverCount := by
    constructor <;> first
      | exact .inl (by decide) | exact .inr fun _ _ => rfl | exact .inr fun _ _ _ _ _ => rfl
  have slots := parse_slots_eq (by decide) (guards_iconView (by decide))
    (guards_parseLane iconFlags) clean
  exact ⟨list.parse_eq (.inr fun _ _ => rfl) clean, count.parse_eq (.inr fun _ _ => rfl) clean,
    congrFun (congrArg Prod.fst slots)⟩

theorem sameDistances_absorb {payload : List UInt8} {rg : RouteGuidance}
    (clean : Disjoint ({.distMan, .maneuverIcon} : Finset DirtyFlag)
      (absorb payload rg).state.dirtyMask) :
    SameDistances rg.state (absorb payload rg).state := by
  have distance : Owns ({.distMan, .maneuverIcon} : Finset DirtyFlag)
      RouteFields.distManeuverM := by
    constructor <;> first
      | exact .inl (by decide) | exact .inr fun _ _ => rfl | exact .inr fun _ _ _ _ _ => rfl
  have slots := parse_slots_eq (by decide) (guards_distance (by decide))
    (guards_parseLane {.distMan, .maneuverIcon}) clean
  exact ⟨distance.parse_eq (.inr fun _ _ => rfl) clean, congrFun (congrArg Prod.fst slots)⟩

/-- The lanes of a maneuver, and its link to the lane slots. -/
def laneView (man : ManeuverFields) : ManeuverFields where
  laneCount := man.laneCount
  linkedLaneGuidanceIndex := man.linkedLaneGuidanceIndex
  linkedLaneGuidanceSlot := man.linkedLaneGuidanceSlot
  lanePositions := man.lanePositions
  laneDirections := man.laneDirections
  laneStatus := man.laneStatus
  laneAngles := man.laneAngles

def laneFlags : Finset DirtyFlag := {.laneGuidance, .maneuverList, .maneuverCount}

theorem guards_laneView (data : BusData) (slot : Slot) :
    Noted.Guards laneFlags laneView (parseManeuver data slot) := by
  unfold parseManeuver
  refine (guards_store ?_).comp ((guards_store ?_).comp ((guards_store ?_).comp
    ((guards_store ?_).comp ((guards_store ?_).comp ((guards_store ?_).comp
    ((guards_store ?_).comp ((guards_stores .maneuverIcon (by decide) ?_).comp
    ((guards_store ?_).comp ((guards_store ?_).comp ((guards_store ?_).comp
    ((guards_store ?_).comp ((guards_store ?_).comp ((guards_store ?_).comp
    ((guards_store ?_).comp ((guards_store ?_).comp ((guards_store ?_).comp
    ((guards_store ?_).comp ((guards_store ?_).comp (guards_store ?_)))))))))))))))))))
  all_goals first | exact .inr fun _ _ => rfl | exact .inl (by decide)

theorem guards_laneFields (data : BusData) (slot : Slot) :
    Noted.Guards laneFlags id (parseLane data slot) := by
  unfold parseLane
  refine (guards_store ?_).comp ((guards_store ?_).comp ((guards_store ?_).comp
    ((guards_store ?_).comp ((guards_store ?_).comp (guards_store ?_)))))
  all_goals exact .inl (by decide)

/-- What the lanes depend on. -/
def laneState (state : State) : State where
  route :=
    { maneuverOrder := state.route.maneuverOrder
      maneuverCount := state.route.maneuverCount
      laneGuidanceShowing := state.route.laneGuidanceShowing
      laneGuidanceIndex := state.route.laneGuidanceIndex
      laneGuidanceSlot := state.route.laneGuidanceSlot }
  maneuver := fun slot => laneView (state.maneuver slot)
  lane := state.lane
  dirtyMask := ∅

theorem laneState_absorb {payload : List UInt8} {rg : RouteGuidance}
    (clean : Disjoint laneFlags (absorb payload rg).state.dirtyMask) :
    laneState (absorb payload rg).state = laneState rg.state := by
  have route : Owns laneFlags fun route : RouteFields =>
      (route.maneuverOrder, route.maneuverCount, route.laneGuidanceShowing,
        route.laneGuidanceIndex, route.laneGuidanceSlot) := by
    constructor <;> first | exact .inl (by decide) | exact .inr fun _ _ => rfl
  have same := route.parse_eq (.inr fun _ _ => rfl) clean
  obtain ⟨list, count, showing, index, current⟩ := by simpa only [Prod.mk.injEq] using same
  have slots := parse_slots_eq (by decide) guards_laneView guards_laneFields clean
  have maneuvers : ∀ slot, laneView _ = laneView _ := congrFun (congrArg Prod.fst slots)
  have lanes : State.lane _ = State.lane _ := congrArg Prod.snd slots
  unfold laneState
  simp only [absorb, list, count, showing, index, current, maneuvers, lanes]

end RouteGuidance

end CarplayRgi
