import CarplayRgi.RgdAmapAlignment

/-!
# References between the slots of a snapshot

A frame refers to maneuver slots by its maneuver list, and to lane slots by
the current lane slot and by the linked lanes of the listed maneuvers.  A lane
slot that is not vacant holds the event of its index, so such a reference is
live.  The index `0xFFFF` finds the first vacant slot instead, and then the
frame refers to a slot that it clears.
-/

namespace CarplayRgi

open RgdState

/-- A lane slot is vacant, or holds lanes under its index. -/
structure LanesFilled (lanes : LaneMap) : Prop where
  vacant : ∀ slot, lanes.table.key slot = emptyIndex → lanes.laneCache slot = {}
  filled : ∀ slot, lanes.table.key slot ≠ emptyIndex →
    (lanes.laneCache slot).laneGuidanceIndex = some (lanes.table.key slot) ∧
      (lanes.laneCache slot).laneInformations.isSome = true

theorem lanesFilled_cleared : LanesFilled ⟨SlotTable.cleared emptyIndex, fun _ => {}⟩ :=
  ⟨fun _ _ => rfl, fun _ notVacant => absurd rfl notVacant⟩

theorem LanesFilled.touched {lanes : LaneMap} (filled : LanesFilled lanes)
    {table : SlotTable Nat maneuverCacheSize (2 ^ 32)} (keys : table.key = lanes.table.key) :
    LanesFilled { lanes with table := table } := by
  refine ⟨fun slot isVacant => ?_, fun slot notVacant => ?_⟩
  · exact filled.vacant slot (by rw [← keys]; exact isVacant)
  · dsimp only at notVacant ⊢
    rw [keys] at notVacant ⊢
    exact filled.filled slot notVacant

/-- Put an event with lanes into a slot under its index. -/
theorem LanesFilled.store {lanes : LaneMap} {slot : Slot} {lane : RgdLaneGuidance} {idx : Nat}
    {table : SlotTable Nat maneuverCacheSize (2 ^ 32)} {cache : Slot → RgdLaneGuidance}
    (others : ∀ other, other ≠ slot → table.key other = lanes.table.key other ∧
      cache other = lanes.laneCache other)
    (filled : LanesFilled lanes) (key : table.key slot = idx) (notVacant : idx ≠ emptyIndex)
    (index : lane.laneGuidanceIndex = some idx) (present : lane.laneInformations.isSome = true) :
    LanesFilled ⟨table, Function.update cache slot lane⟩ := by
  refine ⟨fun other isVacant => ?_, fun other hasKey => ?_⟩
  · dsimp only at isVacant ⊢
    by_cases same : other = slot
    · subst same
      exact absurd (key.symm.trans isVacant) notVacant
    · rw [Function.update_of_ne same, (others other same).2]
      exact filled.vacant other ((others other same).1 ▸ isVacant)
  · dsimp only at hasKey ⊢
    by_cases same : other = slot
    · subst same
      rw [Function.update_self, key]
      exact ⟨index, present⟩
    · rw [Function.update_of_ne same, (others other same).2, (others other same).1]
      exact filled.filled other ((others other same).1 ▸ hasKey)

namespace RgdState

theorem LanesFilled.lookup {state : RgdState} (filled : LanesFilled state.lanes)
    {after : RgdState} (touched : LaneTouched state after) : LanesFilled after.lanes := by
  obtain ⟨table, keys, rfl⟩ := touched
  exact filled.touched keys

/-- Pruning empties a slot completely. -/
theorem LanesFilled.pruned {state : RgdState} (filled : LanesFilled state.lanes) :
    LanesFilled (rgdPruneStaleLaneCache state).2.lanes := by
  unfold rgdPruneStaleLaneCache
  split
  · exact filled
  · split
    · exact filled
    · rename_i least _
      refine ⟨fun slot isVacant => ?_, fun slot notVacant => ?_⟩
      · dsimp only at isVacant ⊢
        split
        · rfl
        · rename_i kept
          rw [if_neg kept] at isVacant
          exact filled.vacant slot isVacant
      · dsimp only at notVacant ⊢
        split at notVacant
        · exact absurd rfl notVacant
        · rename_i kept
          rw [if_neg kept, if_neg kept]
          exact filled.filled slot notVacant

/-- The slot of the current lane event is never pruned. -/
theorem rgdPruneStaleLaneCache_key {state : RgdState} {slot : Slot}
    (current : state.updateCache.laneGuidanceIndex = some (state.lanes.table.key slot)) :
    (rgdPruneStaleLaneCache state).2.lanes.table.key slot = state.lanes.table.key slot := by
  unfold rgdPruneStaleLaneCache
  split
  · rfl
  · split
    · rfl
    · simp [isStaleLane, current]

theorem adoptManeuverList_lanes (currentUpd : Option RgdUpdate) (state : RgdState) :
    (adoptManeuverList currentUpd state).lanes = state.lanes := by
  obtain ⟨highest, adoptedEq⟩ := adoptManeuverList_eq currentUpd state
  rw [adoptedEq]

theorem refreshOverlay_lanes (overlay : Bool) (state : RgdState) :
    (refreshOverlay overlay state).lanes = state.lanes := by
  cases overlay <;> rfl

theorem LanesFilled.snapshot (overlay : Bool) (stack : RgdKey → List UInt8)
    (extraMan : Option RgdManeuver) (currentUpd : Option RgdUpdate) {state : RgdState}
    (filled : LanesFilled state.lanes) :
    LanesFilled (writeBusSnapshotFromCache overlay stack extraMan currentUpd state).1.lanes := by
  rcases writeBusSnapshotFromCache_cases overlay stack extraMan currentUpd state with
    ⟨-, skipped⟩ | written
  · rw [skipped]
    exact LanesFilled.pruned filled
  · have first := LanesFilled.pruned filled
    rw [← refreshOverlay_lanes overlay] at first
    have routed := LanesFilled.lookup first (writeRouteKeys_touched _)
    rw [← adoptManeuverList_lanes currentUpd] at routed
    rw [written]
    exact LanesFilled.lookup (LanesFilled.pruned routed) (writeListedSlots_touched stack _ _)

/-- Finding a slot for a lane index changes that slot only. -/
theorem rgdLaneSlotForIapIndex_spec (idx : Nat) (state : RgdState) :
    (rgdLaneSlotForIapIndex idx state).2.lanes.table.key (rgdLaneSlotForIapIndex idx state).1 = idx ∧
    ∀ other, other ≠ (rgdLaneSlotForIapIndex idx state).1 →
      (rgdLaneSlotForIapIndex idx state).2.lanes.table.key other = state.lanes.table.key other ∧
      (rgdLaneSlotForIapIndex idx state).2.lanes.laneCache other = state.lanes.laneCache other := by
  unfold rgdLaneSlotForIapIndex
  split
  · rename_i slot found
    exact ⟨SlotTable.find?_key found, fun other _ => ⟨rfl, rfl⟩⟩
  · split
    · refine ⟨?_, fun other different => ⟨?_, rfl⟩⟩
      · simp
      · simp [different]
    · refine ⟨?_, fun other different => ⟨?_, ?_⟩⟩
      · simp
      · simp [different]
      · simp [different]

theorem fillLaneDescriptions_index (lane : RgdLaneGuidance) :
    (fillLaneDescriptions lane).laneGuidanceIndex = lane.laneGuidanceIndex := by
  unfold fillLaneDescriptions
  split <;> rfl

theorem fillLaneDescriptions_present (lane : RgdLaneGuidance) :
    (fillLaneDescriptions lane).laneInformations.isSome = lane.laneInformations.isSome := by
  unfold fillLaneDescriptions
  split
  · simp
  · rfl

/-- A lane event is cached under its index. -/
theorem LanesFilled.cacheLane (lane : RgdLaneGuidance) {state : RgdState}
    (filled : LanesFilled state.lanes) : LanesFilled (cacheLane lane state).2.lanes := by
  simp only [RgdState.cacheLane]
  split
  · exact filled
  · rename_i accepted
    simp only [Bool.or_eq_true, Option.isNone_iff_eq_none, decide_eq_true_eq, not_or] at accepted
    obtain ⟨hasLanes, hasIndex⟩ := accepted
    obtain ⟨key, others⟩ := rgdLaneSlotForIapIndex_spec (laneEventIndex lane state) state
    refine LanesFilled.store others filled key hasIndex ?_ ?_
    · rw [fillLaneDescriptions_index]
    · rw [fillLaneDescriptions_present]
      exact Option.isSome_iff_ne_none.mpr hasLanes

/-- A cached lane slot comes with its lane index. -/
def LaneSlotIndexed (upd : RgdUpdate) : Prop :=
  upd.laneGuidanceSlot ≠ none → upd.laneGuidanceIndex ≠ none

structure SnapshotReady (state : RgdState) : Prop where
  filled : LanesFilled state.lanes
  indexed : LaneSlotIndexed state.updateCache

theorem SnapshotReady.congr {before after : RgdState} (ready : SnapshotReady before)
    (lanes : after.lanes = before.lanes) (cache : after.updateCache = before.updateCache) :
    SnapshotReady after :=
  ⟨lanes ▸ ready.filled, cache ▸ ready.indexed⟩

theorem laneSlotIndexed_merge {upd cache : RgdUpdate} (update : LaneSlotIndexed upd)
    (cached : LaneSlotIndexed cache) : LaneSlotIndexed (rgdUpdateCacheMerge upd cache) := by
  unfold LaneSlotIndexed rgdUpdateCacheMerge at *
  dsimp only
  cases slotEq : upd.laneGuidanceSlot with
  | some slot =>
      cases indexEq : upd.laneGuidanceIndex with
      | some index => simp
      | none => exact absurd indexEq (update (by simp [slotEq]))
  | none =>
      intro hasSlot
      have hasIndex := cached hasSlot
      cases indexEq : upd.laneGuidanceIndex with
      | some index => simp
      | none => exact hasIndex

theorem SnapshotReady.snapshot (overlay : Bool) (stack : RgdKey → List UInt8)
    (extraMan : Option RgdManeuver) (currentUpd : Option RgdUpdate) {state : RgdState}
    (ready : SnapshotReady state) :
    SnapshotReady (writeBusSnapshotFromCache overlay stack extraMan currentUpd state).1 := by
  refine ⟨LanesFilled.snapshot overlay stack extraMan currentUpd ready.filled, ?_⟩
  rw [(writeBusSnapshotFromCache_keeps overlay stack extraMan currentUpd state).updateCache]
  exact ready.indexed

/-- A parsed update carries no lane slot. -/
theorem rgdParseUpdate_laneGuidanceSlot (raw : List UInt8) :
    (rgdParseUpdate raw).laneGuidanceSlot = none := by
  unfold rgdParseUpdate
  suffices folded : ∀ (items : List Tlv) (upd : RgdUpdate), upd.laneGuidanceSlot = none →
      (items.foldl updateTlv upd).laneGuidanceSlot = none from folded _ {} rfl
  intro items
  induction items with
  | nil => exact fun upd absent => absent
  | cons item items ih =>
      intro upd absent
      refine ih (updateTlv upd item) ?_
      unfold updateTlv
      split <;> exact absent

theorem enrichLaneSlot_indexed {upd : RgdUpdate} (absent : upd.laneGuidanceSlot = none)
    (state : RgdState) : LaneSlotIndexed (enrichLaneSlot upd state).1 := by
  unfold enrichLaneSlot
  split
  · exact fun hasSlot => absurd absent hasSlot
  · rename_i index indexEq
    intro _
    simp [indexEq]

theorem acceptUpdate_ready (overlay : Bool) (stack : RgdKey → List UInt8) {upd : RgdUpdate}
    (absent : upd.laneGuidanceSlot = none) {state : RgdState} (ready : SnapshotReady state) :
    SnapshotReady (acceptUpdate overlay stack upd state).1 := by
  obtain ⟨amap, notedEq⟩ := noteUpdate_frame overlay upd state
  have noted : SnapshotReady (noteUpdate overlay upd state) :=
    ready.congr (by rw [notedEq]) (by rw [notedEq])
  rcases acceptUpdate_cases overlay stack upd state with ⟨-, skipped⟩ | ⟨-, written⟩
  · rw [skipped]
    exact noted
  · have filled : LanesFilled (enrichLaneSlot upd (noteUpdate overlay upd state)).2.lanes :=
      LanesFilled.lookup noted.filled (enrichLaneSlot_frame upd _).2
    rw [written]
    refine SnapshotReady.snapshot overlay stack none _ ⟨filled, ?_⟩
    refine laneSlotIndexed_merge (enrichLaneSlot_indexed absent _) ?_
    rw [LaneTouched.updateCache (enrichLaneSlot_frame upd _).2]
    exact noted.indexed

theorem snapshotReady_cleared {state : RgdState}
    (lanes : state.lanes = ⟨SlotTable.cleared emptyIndex, fun _ => {}⟩)
    (cache : state.updateCache = {}) : SnapshotReady state := by
  refine ⟨lanes ▸ lanesFilled_cleared, ?_⟩
  rw [cache]
  exact fun hasSlot => absurd rfl hasSlot

theorem DebounceCase.ready {upd : RgdUpdate} {now : Nat} {state after : RgdState}
    {events : List HookEvent} {held : Bool}
    (outcome : DebounceCase upd now state after events held) (ready : SnapshotReady state) :
    SnapshotReady after := by
  cases outcome with
  | hardClear zero hard =>
      exact snapshotReady_cleared (by simp [hardClearZero]; rfl) (by simp [hardClearZero]; rfl)
  | passZero zero soft idle => exact ready.congr rfl rfl
  | flushZero zero soft active previous =>
      exact snapshotReady_cleared (by simp; rfl) (by simp; rfl)
  | holdZero zero soft active previous =>
      refine ⟨?_, ?_⟩
      · rw [startPendingZero_lanes]
        exact ready.filled
      · rw [startPendingZero_updateCache]
        exact fun hasSlot => absurd rfl hasSlot
  | positive routeState positiveEq nonzero =>
      exact ready.congr (by simp [notePositive]; rfl) (by simp [notePositive]; rfl)
  | evidence absent evident => exact ready.congr (by simp) (by simp)
  | held absent silent soft started => exact ready
  | passed absent silent quiet => exact ready

theorem handleUpdate_ready (overlay : Bool) (stack : RgdKey → List UInt8) (now : Nat)
    {upd : RgdUpdate} (absent : upd.laneGuidanceSlot = none) {state : RgdState}
    (ready : SnapshotReady state) : SnapshotReady (handleUpdate overlay stack now upd state).1 := by
  obtain ⟨debounced, events, held, -, outcome, result⟩ :=
    handleUpdate_cases overlay stack now upd state
  have decided := outcome.ready (ready.congr rfl rfl)
  rcases result with ⟨-, result⟩ | ⟨-, result⟩
  · rw [result]
    exact decided
  · rw [result]
    exact acceptUpdate_ready overlay stack absent decided

theorem handleManeuver_ready (overlay : Bool) (stack : RgdKey → List UInt8) (man : RgdManeuver)
    {state : RgdState} (ready : SnapshotReady state) :
    SnapshotReady (handleManeuver overlay stack man state).1 := by
  have cancelled : SnapshotReady (rgdCancelPendingZero state) := ready.congr (by simp) (by simp)
  rcases handleManeuver_cases overlay stack man state with
    skipped | ⟨idx, extraMan, -, -, written⟩
  · rw [skipped]
    exact cancelled
  · obtain ⟨maneuvers, storedEq⟩ := storeManeuver_frame idx man (rgdCancelPendingZero state)
    rw [written]
    exact SnapshotReady.snapshot overlay stack extraMan none
      (cancelled.congr (by rw [storedEq]) (by rw [storedEq]))

/-- A slot update answers a lane event only while a lane index is cached. -/
theorem activeLaneUpdate_indexed {iapIdx : Nat} {slot : Option Slot} {state : RgdState}
    {upd : RgdUpdate} (answers : (activeLaneUpdate iapIdx slot state).1 = some upd) :
    state.updateCache.laneGuidanceIndex = some iapIdx := by
  simp only [activeLaneUpdate] at answers
  split at answers
  · cases answers
  · split at answers
    · rename_i current
      exact current
    · cases answers

theorem storeLane_ready (lane : RgdLaneGuidance) {state : RgdState} (ready : SnapshotReady state) :
    SnapshotReady (storeLane lane state) := by
  obtain ⟨lanes, cachedEq⟩ := cacheLane_frame lane state
  have cached : SnapshotReady (cacheLane lane state).2 :=
    ⟨LanesFilled.cacheLane lane ready.filled, by rw [cachedEq]; exact ready.indexed⟩
  have touched : LaneTouched (cacheLane lane state).2 (activeLane lane state).2 :=
    (activeLaneUpdate_frame _ _ _).2
  have active : SnapshotReady (activeLane lane state).2 :=
    ⟨LanesFilled.lookup cached.filled touched, by rw [touched.updateCache]; exact cached.indexed⟩
  unfold storeLane
  split
  · exact active
  · rename_i upd updEq
    refine ⟨active.filled, ?_⟩
    have current := activeLaneUpdate_indexed updEq
    intro _
    rw [← touched.updateCache] at current
    unfold mergeUpdate rgdUpdateCacheMerge
    dsimp only
    rw [current]
    cases upd.laneGuidanceIndex <;> simp

theorem handleLane_ready (overlay : Bool) (stack : RgdKey → List UInt8) (lane : RgdLaneGuidance)
    {state : RgdState} (ready : SnapshotReady state) :
    SnapshotReady (handleLane overlay stack lane state).1 := by
  have cancelled : SnapshotReady (rgdCancelPendingZero state) := ready.congr (by simp) (by simp)
  have stored := storeLane_ready lane cancelled
  rcases handleLane_cases overlay stack lane state with skipped | cached | ⟨extraMan, written⟩
  · rw [skipped]
    exact cancelled
  · rw [cached]
    exact stored
  · rw [written]
    exact SnapshotReady.snapshot overlay stack extraMan _ stored

theorem rgdClearState_ready (overlay : Bool) (reason : ClearReason) (state : RgdState) :
    SnapshotReady (rgdClearState overlay reason state).1 := by
  cases overlay <;> exact snapshotReady_cleared rfl rfl

theorem handleFrame_ready (overlay : Bool) (msgid : Nat) (raw : List UInt8) (now : Nat)
    (stack : RgdKey → List UInt8) {state : RgdState} (ready : SnapshotReady state) :
    SnapshotReady (handleFrame overlay msgid raw now stack state).1 :=
  @handleFrame_cases (fun result => SnapshotReady result.1) overlay msgid raw now stack state
    (handleUpdate_ready overlay stack now (rgdParseUpdate_laneGuidanceSlot raw) ready)
    (handleManeuver_ready overlay stack _ ready) (handleLane_ready overlay stack _ ready) ready

end RgdState

/-- Every state of a run is ready for a snapshot, or no message has arrived. -/
theorem rgdHook_ready {overlay : Bool} {guard : RgdState → List HookEvent → HookLabel → Prop}
    {state : RgdState} {history : List HookEvent}
    (run : (rgdHook overlay).RunWithin guard state history) :
    SnapshotReady state ∨ (state.initialized = false ∧ NoSnapshot history) := by
  refine run.invariant
    (fun state history => SnapshotReady state ∨ (state.initialized = false ∧ NoSnapshot history))
    (.inr ⟨rfl, by simp [NoSnapshot]⟩) ?_
  intro before after trace events label ready _ stepTo
  obtain ⟨rfl, rfl⟩ : (rgdHookStep overlay label before).1 = after ∧
      (rgdHookStep overlay label before).2 = events := by
    simpa [rgdHook, Prod.ext_iff] using stepTo
  cases label with
  | message msgid raw now stack =>
      refine .inl (handleFrame_ready overlay msgid raw now stack ?_)
      unfold rgdLazyInit
      split
      · rename_i initialized
        rcases ready with ready | ⟨fresh, -⟩
        · exact ready
        · rw [fresh] at initialized
          cases initialized
      · exact rgdClearState_ready overlay .init _
  | tick now =>
      simp only [rgdHookStep, rgdPeriodicTick]
      split
      · rcases ready with ready | ⟨fresh, none⟩
        · exact .inl (ready.congr rfl rfl)
        · refine .inr ⟨fresh, fun shown records member => ?_⟩
          rcases List.mem_append.mp member with earlier | now
          · exact none shown records earlier
          · simp at now
      · simpa using ready
  | clear reason => exact .inl (rgdClearState_ready overlay reason before)

namespace RgdState

/-- Writing a frame keeps the slot of the current lane event. -/
theorem snapshotRecords_key {overlay : Bool} {stack : RgdKey → List UInt8}
    {currentUpd : Option RgdUpdate} {before shown : RgdState} {records : List RgdRecord}
    (written : snapshotRecords overlay stack currentUpd before = (records, shown)) {slot : Slot}
    (current : before.updateCache.laneGuidanceIndex = some (before.lanes.table.key slot)) :
    shown.lanes.table.key slot = before.lanes.table.key slot := by
  have shownEq := congrArg Prod.snd written
  simp only [snapshotRecords] at shownEq
  obtain ⟨listedTable, listedKeys, listedEq⟩ := writeListedSlots_touched stack
    (listedState overlay currentUpd before).listedSlots (listedState overlay currentUpd before)
  obtain ⟨routeTable, routeKeys, routeEq⟩ := writeRouteKeys_touched (refreshOverlay overlay before)
  obtain ⟨highest, adoptedEq⟩ :=
    adoptManeuverList_eq currentUpd (writeRouteKeys (refreshOverlay overlay before)).2
  have adoptedKey :
      (adoptManeuverList currentUpd
        (writeRouteKeys (refreshOverlay overlay before)).2).lanes.table.key slot =
          before.lanes.table.key slot := by
    rw [adoptedEq, routeEq]
    dsimp only
    rw [routeKeys, refreshOverlay_lanes]
  have adoptedCache :
      (adoptManeuverList currentUpd
        (writeRouteKeys (refreshOverlay overlay before)).2).updateCache = before.updateCache := by
    rw [adoptedEq, routeEq]
    exact refreshOverlay_updateCache overlay before
  rw [← shownEq, listedEq]
  dsimp only
  rw [listedKeys]
  unfold listedState
  rw [rgdPruneStaleLaneCache_key (by rw [adoptedKey, adoptedCache]; exact current), adoptedKey]

/-- Every slot number that a frame publishes refers to a live slot. -/
structure ReferencesLive (state : RgdState) (records : List RgdRecord) : Prop where
  listed : ∀ slot, ListsSlot records slot →
    (∃ idx ∈ state.listedIndexes, state.maneuvers.table.key slot = idx) ∧
      (valueOf records (.maneuver slot .type)).isSome = true ∧
      (valueOf records (.maneuver slot .ver)).isSome = true
  lane : ∀ number : Int, valueOf records (.route .laneGuidanceSlot) = some (.num number) →
    0 ≤ number → ∃ slot : Slot, number = slot.val ∧ ∃ index : Nat,
      valueOf records (.route .laneGuidanceIndex) = some (.num index) ∧
      valueOf records (.lane slot .index) = some (.num index)
  linked : ∀ (maneuver : Slot) (number : Int),
    valueOf records (.maneuver maneuver .linkedLaneGuidanceSlot) = some (.num number) →
    0 ≤ number → ∃ slot : Slot, number = slot.val ∧ ∃ index : Nat,
      valueOf records (.maneuver maneuver .linkedLaneGuidanceIndex) = some (.num index) ∧
      valueOf records (.lane slot .index) = some (.num index)

/-- Every lane slot holds an event. -/
def LanesFull (state : RgdState) : Prop :=
  ∀ slot, state.lanes.table.key slot ≠ emptyIndex

/-- The published index of a lane slot. -/
theorem BuiltFrom.laneIndex {overlay : Bool} {state : RgdState} {records : List RgdRecord}
    (built : BuiltFrom overlay state records) (filled : LanesFilled state.lanes) (slot : Slot) :
    valueOf records (.lane slot .index) =
      some (.num (if state.lanes.table.key slot = emptyIndex then -1
        else state.lanes.table.key slot)) := by
  obtain ⟨stack, laneEq⟩ := built.lane slot .index
  rw [laneEq]
  by_cases isVacant : state.lanes.table.key slot = emptyIndex
  · have none : state.rgdLaneSlotHasData slot = false := by
      simp [rgdLaneSlotHasData, filled.vacant slot isVacant]
    simp [none, isVacant, writeLaneClearKeys]
  · obtain ⟨index, present⟩ := filled.filled slot isVacant
    obtain ⟨lanes, lanesEq⟩ := Option.isSome_iff_exists.mp present
    have some : state.rgdLaneSlotHasData slot = true := by
      simp [rgdLaneSlotHasData, index, present]
    simp [some, isVacant, writeLaneDataKeys, index, lanesEq]

/-- A lane slot is published with the index that it holds, unless vacant. -/
theorem BuiltFrom.laneIndex_iff {overlay : Bool} {state : RgdState} {records : List RgdRecord}
    (built : BuiltFrom overlay state records) (filled : LanesFilled state.lanes) {slot : Slot}
    {index : Nat} (holds : state.lanes.table.key slot = index) :
    valueOf records (.lane slot .index) = some (.num index) ↔ index ≠ emptyIndex := by
  rw [built.laneIndex filled, holds, Option.some.injEq, BusValue.num.injEq]
  split_ifs with isVacant
  · simp [isVacant, emptyIndex]
  · simp [isVacant]

theorem BuiltFrom.laneGuidanceIndex {overlay : Bool} {state : RgdState}
    {records : List RgdRecord} (built : BuiltFrom overlay state records) :
    valueOf records (.route .laneGuidanceIndex) =
      state.updateCache.laneGuidanceIndex.map fun index => .num index := by
  obtain ⟨stack, currentUpd, before, writtenEq⟩ := built
  have routeValue := valueOf_snapshotRecords_route overlay stack currentUpd before
    .laneGuidanceIndex
  have cacheEq := (snapshotRecords_step overlay stack currentUpd before).updateCache
  rw [writtenEq] at routeValue cacheEq
  rw [routeValue, valueOf_overlayKeys_of_ne (by simp [amapKeys]), valueOf_listKeys_of_ne (by simp),
    cacheEq]
  simp [writeRouteKeys, routeHeadKeys, routeTailKeys]

/-- The published lane slot is looked up when the frame is begun. -/
theorem valueOf_snapshotRecords_laneSlot (overlay : Bool) (stack : RgdKey → List UInt8)
    (currentUpd : Option RgdUpdate) {state : RgdState}
    (indexed : LaneSlotIndexed state.updateCache) :
    valueOf (snapshotRecords overlay stack currentUpd state).1 (.route .laneGuidanceSlot) =
      state.updateCache.laneGuidanceIndex.map fun index =>
        .num (((state.lanes.table.find? index).map fun slot => (slot.val : Int)).getD (-1)) := by
  rw [valueOf_snapshotRecords_route, valueOf_overlayKeys_of_ne (by simp [amapKeys]),
    valueOf_listKeys_of_ne (by simp)]
  simp only [writeRouteKeys, valueOf_append, refreshOverlay_updateCache]
  cases indexEq : state.updateCache.laneGuidanceIndex with
  | none =>
      have noSlot : state.updateCache.laneGuidanceSlot = none := by
        by_contra hasSlot
        exact indexed hasSlot indexEq
      simp [routeHeadKeys, routeTailKeys, laneSlotKeys, indexEq, noSlot]
  | some index =>
      simp [routeHeadKeys, routeTailKeys, laneSlotKeys, indexEq, refreshOverlay_lanes]

theorem valueOf_maneuverLaneKeys_linked (stack : RgdKey → List UInt8) (slot : Slot)
    (man : RgdManeuver) :
    valueOf (maneuverLaneKeys stack slot man) (.maneuver slot .linkedLaneGuidanceSlot) = none ∧
      valueOf (maneuverLaneKeys stack slot man) (.maneuver slot .linkedLaneGuidanceIndex) = none := by
  unfold maneuverLaneKeys
  split <;> simp

/-- The linked lane slot of a listed maneuver. -/
theorem BuiltFrom.linkedLane {overlay : Bool} {state : RgdState} {records : List RgdRecord}
    (built : BuiltFrom overlay state records) (maneuver : Slot) :
    valueOf records (.maneuver maneuver .linkedLaneGuidanceSlot) =
      (if maneuver ∈ state.listedSlots then
        ((state.maneuvers.slotCache maneuver).linkedLaneGuidanceIndex.bind
          state.lanes.table.find?).map fun slot => .num slot.val
      else none) ∧
    valueOf records (.maneuver maneuver .linkedLaneGuidanceIndex) =
      (if maneuver ∈ state.listedSlots then
        (state.maneuvers.slotCache maneuver).linkedLaneGuidanceIndex.map fun index => .num index
      else none) := by
  obtain ⟨stack, values⟩ := built.maneuver
  rw [values, values]
  by_cases isListed : maneuver ∈ state.listedSlots
  · simp only [isListed, if_true, writeSlotDataKeys, maneuverDataKeys, linkedLaneKeys,
      valueOf_append, (valueOf_maneuverLaneKeys_linked _ _ _).1,
      (valueOf_maneuverLaneKeys_linked _ _ _).2]
    cases (state.maneuvers.slotCache maneuver).linkedLaneGuidanceIndex with
    | none => simp
    | some linked =>
        simp
        rfl
  · simp [isListed]

theorem BuiltFrom.maneuverType {overlay : Bool} {state : RgdState} {records : List RgdRecord}
    (built : BuiltFrom overlay state records) {slot : Slot} (listed : slot ∈ state.listedSlots) :
    valueOf records (.maneuver slot .type) =
      (state.maneuvers.slotCache slot).maneuverType.map fun number => .num number := by
  obtain ⟨stack, values⟩ := built.maneuver
  rw [values, if_pos listed]
  obtain ⟨idx, -, -, typed⟩ := maneuverType_of_mem_listedSlots listed
  obtain ⟨number, typeEq⟩ := Option.isSome_iff_exists.mp typed
  simp [writeSlotDataKeys, maneuverDataKeys, typeEq]

/-- Entries of the maneuver list are live whatever the indexes are. -/
theorem BuiltFrom.listed_live {overlay : Bool} {state : RgdState} {records : List RgdRecord}
    (built : BuiltFrom overlay state records) {slot : Slot} (lists : ListsSlot records slot) :
    (∃ idx ∈ state.listedIndexes, state.maneuvers.table.key slot = idx) ∧
      (valueOf records (.maneuver slot .type)).isSome = true ∧
      (valueOf records (.maneuver slot .ver)).isSome = true := by
  have listed := built.listsSlot lists
  obtain ⟨idx, isListed, found, typed⟩ := maneuverType_of_mem_listedSlots listed
  refine ⟨⟨idx, isListed, SlotTable.find?_key found⟩, ?_, ?_⟩
  · rw [built.maneuverType listed]
    simpa using typed
  · rw [built.ver listed]
    rfl

/-- A lookup of a lane index leads to a live slot, unless the index is that of
a vacant slot and there is one. -/
theorem lane_live_iff {overlay : Bool} {state : RgdState} {records : List RgdRecord}
    (built : BuiltFrom overlay state records) (filled : LanesFilled state.lanes)
    {table : SlotTable Nat maneuverCacheSize (2 ^ 32)} {index : Nat}
    (kept : ∀ slot, table.find? index = some slot → state.lanes.table.key slot = index) :
    (∀ slot, table.find? index = some slot →
        valueOf records (.lane slot .index) = some (.num index)) ↔
      (index = emptyIndex → ∀ slot, table.key slot ≠ emptyIndex) := by
  rw [← SlotTable.find?_eq_none]
  constructor
  · rintro live rfl
    by_contra isFound
    obtain ⟨slot, found⟩ := Option.ne_none_iff_exists'.mp isFound
    exact (built.laneIndex_iff filled (kept slot found)).mp (live slot found) rfl
  · intro full slot found
    refine (built.laneIndex_iff filled (kept slot found)).mpr fun isEmpty => ?_
    have none := full isEmpty
    rw [isEmpty, none] at found
    cases found

end RgdState

namespace RgdState

/-- The references of one published slot number, given the lookup that it was
read from. -/
theorem reference_iff {slotValue : Option BusValue} {lookup : Option Slot} {index : Nat}
    {laneIndex : Slot → Option BusValue}
    (publishes : ∀ number : Int, 0 ≤ number →
      (slotValue = some (.num number) ↔ ∃ slot, lookup = some slot ∧ number = slot.val)) :
    (∀ number : Int, slotValue = some (.num number) → 0 ≤ number →
        ∃ slot : Slot, number = slot.val ∧ ∃ other : Nat,
          some (BusValue.num index) = some (.num other) ∧ laneIndex slot = some (.num other)) ↔
      ∀ slot, lookup = some slot → laneIndex slot = some (.num index) := by
  constructor
  · intro live slot found
    obtain ⟨other, same, holder, equal, shows⟩ :=
      live slot.val ((publishes _ (by omega)).mpr ⟨slot, found, rfl⟩) (by omega)
    have slotEq : slot = other := Fin.ext (by exact_mod_cast same)
    rw [slotEq, shows, equal]
  · intro live number published nonneg
    obtain ⟨slot, found, numberEq⟩ := (publishes number nonneg).mp published
    exact ⟨slot, numberEq, index, rfl, live slot found⟩

/-- The current lane slot of a frame. -/
theorem current_lane_iff {overlay : Bool} {stack : RgdKey → List UInt8}
    {currentUpd : Option RgdUpdate} {before shown : RgdState} {records : List RgdRecord}
    (written : snapshotRecords overlay stack currentUpd before = (records, shown))
    (ready : SnapshotReady shown) :
    (∀ number : Int, valueOf records (.route .laneGuidanceSlot) = some (.num number) →
        0 ≤ number → ∃ slot : Slot, number = slot.val ∧ ∃ index : Nat,
          valueOf records (.route .laneGuidanceIndex) = some (.num index) ∧
          valueOf records (.lane slot .index) = some (.num index)) ↔
      (shown.updateCache.laneGuidanceIndex = some emptyIndex → LanesFull before) := by
  have built : BuiltFrom overlay shown records := ⟨stack, currentUpd, before, written⟩
  have cacheEq := (snapshotRecords_step overlay stack currentUpd before).updateCache
  rw [written] at cacheEq
  have slotValue := @valueOf_snapshotRecords_laneSlot overlay stack currentUpd before
    (cacheEq ▸ ready.indexed)
  rw [written, ← cacheEq] at slotValue
  rw [built.laneGuidanceIndex, slotValue]
  cases current : shown.updateCache.laneGuidanceIndex with
  | none => simp
  | some index =>
      have kept : ∀ slot, before.lanes.table.find? index = some slot →
          shown.lanes.table.key slot = index := by
        intro slot found
        have key := SlotTable.find?_key found
        rw [← key]
        exact snapshotRecords_key written (by rw [← cacheEq, key]; exact current)
      have live := lane_live_iff built ready.filled kept
      rw [Option.map_some, Option.map_some, reference_iff, live, Option.some.injEq]
      · rfl
      · intro number nonneg
        rw [Option.some.injEq, BusValue.num.injEq]
        cases before.lanes.table.find? index with
        | none =>
            simp only [Option.map_none, Option.getD_none, reduceCtorEq, false_and, exists_false,
              iff_false]
            omega
        | some slot => simp [eq_comm]

/-- The linked lane slot of a maneuver. -/
theorem linked_lane_iff {overlay : Bool} {shown : RgdState} {records : List RgdRecord}
    (built : BuiltFrom overlay shown records) (filled : LanesFilled shown.lanes)
    (maneuver : Slot) :
    (∀ number : Int,
        valueOf records (.maneuver maneuver .linkedLaneGuidanceSlot) = some (.num number) →
        0 ≤ number → ∃ slot : Slot, number = slot.val ∧ ∃ index : Nat,
          valueOf records (.maneuver maneuver .linkedLaneGuidanceIndex) = some (.num index) ∧
          valueOf records (.lane slot .index) = some (.num index)) ↔
      (maneuver ∈ shown.listedSlots →
        (shown.maneuvers.slotCache maneuver).linkedLaneGuidanceIndex = some emptyIndex →
          LanesFull shown) := by
  obtain ⟨slotValue, indexValue⟩ := built.linkedLane maneuver
  rw [slotValue, indexValue]
  by_cases isListed : maneuver ∈ shown.listedSlots
  · rw [if_pos isListed, if_pos isListed]
    cases linked : (shown.maneuvers.slotCache maneuver).linkedLaneGuidanceIndex with
    | none => simp
    | some index =>
        have live := @lane_live_iff overlay shown records built filled shown.lanes.table index
          fun slot found => SlotTable.find?_key found
        rw [Option.bind_some, Option.map_some, reference_iff, live, Option.some.injEq]
        · exact ⟨fun full _ => full, fun full => full isListed⟩
        · intro number nonneg
          rw [Option.map_eq_some_iff]
          simp only [BusValue.num.injEq, eq_comm]
  · simp [isListed]

end RgdState

/-- Every slot number of a frame is live if and only if the index `0xFFFF` is
neither the current lane index nor linked by a listed maneuver, unless every
lane slot is taken.  `before` is the state in which the frame is begun. -/
theorem snapshot_references_live {overlay : Bool} {state shown : RgdState}
    {history : List HookEvent} {records : List RgdRecord} {position : Nat}
    (run : (rgdHook overlay).Run state history)
    (found : history[position]? = some (.snapshot shown records)) :
    ∃ stack currentUpd before, snapshotRecords overlay stack currentUpd before = (records, shown) ∧
      (ReferencesLive shown records ↔
        (shown.updateCache.laneGuidanceIndex = some emptyIndex → LanesFull before) ∧
        ∀ slot ∈ shown.listedSlots,
          (shown.maneuvers.slotCache slot).linkedLaneGuidanceIndex = some emptyIndex →
            LanesFull shown) := by
  obtain ⟨shownRun, built⟩ := snapshot_run_at run found
  have ready : SnapshotReady shown := by
    rcases rgdHook_ready shownRun with ready | ⟨-, none⟩
    · exact ready
    · exact absurd (by simp) (none shown records)
  obtain ⟨stack, currentUpd, before, written⟩ := built
  have built : BuiltFrom overlay shown records := ⟨stack, currentUpd, before, written⟩
  refine ⟨stack, currentUpd, before, written, ?_⟩
  constructor
  · rintro ⟨-, lane, linked⟩
    refine ⟨(current_lane_iff written ready).mp lane, fun slot => ?_⟩
    exact (linked_lane_iff built ready.filled slot).mp (linked slot)
  · rintro ⟨current, linked⟩
    refine ⟨fun slot => built.listed_live, (current_lane_iff written ready).mpr current, ?_⟩
    exact fun maneuver => (linked_lane_iff built ready.filled maneuver).mpr (linked maneuver)

/-- A 0x5201 with route state 1 and a lane index. -/
def laneIndexFrame (high low : UInt8) : List UInt8 :=
  [0x40, 0x40, 0, 17, 0x52, 0x01, 0, 5, 0, 1, 1, 0, 6, 0, 0x10, high, low]

/-- A 0x5204 with an index and one lane. -/
def laneEventFrame (high low : UInt8) : List UInt8 :=
  [0x40, 0x40, 0, 21, 0x52, 0x04, 0, 6, 0, 1, high, low, 0, 9, 0, 2, 0, 5, 0, 0, 1]

/-- The event is a snapshot that passes a test. -/
def HookEvent.snapshotPasses (test : RgdState → List RgdRecord → Bool) : HookEvent → Bool
  | .snapshot shown records => test shown records
  | _ => false

theorem exists_snapshot_of_passes {history : List HookEvent} {position : Nat}
    {test : RgdState → List RgdRecord → Bool}
    (passes : (history[position]?).any (HookEvent.snapshotPasses test) = true) :
    ∃ shown records, history[position]? = some (.snapshot shown records) ∧
      test shown records = true := by
  rw [Option.any_eq_true] at passes
  obtain ⟨event, found, tested⟩ := passes
  cases event with
  | snapshot shown records => exact ⟨shown, records, found, tested⟩
  | _ => cases tested

/-- A lane event and then an update that makes it the current one. -/
theorem snapshot_references_live_of_current_lane :
    ∃ shown records, ReferencesLive shown records ∧
      valueOf records (.route .laneGuidanceSlot) = some (.num 0) ∧
      valueOf records (.lane 0 .index) = some (.num 3) := by
  obtain ⟨state, history, run, checked⟩ :=
    (rgdHook false).exists_run_of_replay
      [.message 0x5204 (laneEventFrame 0 3) 1 (fun _ => []),
        .message 0x5201 (laneIndexFrame 0 3) 2 (fun _ => [])]
      (fun result => (result.2[6]?).any (HookEvent.snapshotPasses fun shown records =>
        decide (shown.updateCache.laneGuidanceIndex = some 3) &&
          decide (shown.listedSlots = []) &&
          decide (valueOf records (.route .laneGuidanceSlot) = some (.num 0)) &&
          decide (valueOf records (.lane 0 .index) = some (.num 3))))
      (by decide +kernel)
  obtain ⟨shown, records, found, passes⟩ := exists_snapshot_of_passes checked
  simp only [Bool.and_eq_true, decide_eq_true_eq] at passes
  obtain ⟨⟨⟨current, nothingListed⟩, slotShown⟩, indexShown⟩ := passes
  obtain ⟨stack, currentUpd, before, -, liveIff⟩ := snapshot_references_live run found
  refine ⟨shown, records, liveIff.mpr ⟨fun isEmpty => ?_, fun slot listed => ?_⟩, slotShown,
    indexShown⟩
  · rw [current] at isEmpty
    cases isEmpty
  · rw [nothingListed] at listed
    cases listed

/-- The lane index `0xFFFF` refers to a lane slot that the frame clears. -/
theorem empty_index_refers_to_vacant_slot :
    ¬ ∀ (state : RgdState) (history : List HookEvent), (rgdHook false).Run state history →
      ∀ (position : Nat) (shown : RgdState) (records : List RgdRecord),
        history[position]? = some (.snapshot shown records) → ReferencesLive shown records := by
  intro live
  obtain ⟨state, history, run, checked⟩ :=
    (rgdHook false).exists_run_of_replay
      [.message 0x5201 (laneIndexFrame 0xFF 0xFF) 1 (fun _ => [])]
      (fun result => (result.2[5]?).any (HookEvent.snapshotPasses fun _ records =>
        decide (valueOf records (.route .laneGuidanceSlot) = some (.num 0)) &&
          decide (valueOf records (.route .laneGuidanceIndex) = some (.num 0xFFFF)) &&
          decide (valueOf records (.lane 0 .index) = some (.num (-1)))))
      (by decide +kernel)
  obtain ⟨shown, records, found, passes⟩ := exists_snapshot_of_passes checked
  simp only [Bool.and_eq_true, decide_eq_true_eq] at passes
  obtain ⟨⟨slotShown, indexShown⟩, cleared⟩ := passes
  obtain ⟨slot, slotEq, index, -, laneShown⟩ :=
    (live state history run 5 shown records found).lane 0 slotShown le_rfl
  have isFirst : slot = 0 := by exact_mod_cast slotEq.symm
  rw [isFirst, cleared, Option.some.injEq, BusValue.num.injEq] at laneShown
  omega

end CarplayRgi
