import CarplayRgi.RgdHookHandler
import CarplayRgi.RgdSnapshotContents

/-!
# What each step of the hook can do

One inversion statement for the debounce decision, one for the snapshot
writer, and one frame statement for each handler.  Every invariant of the
hook is derived from these and never unfolds a handler again.
-/

namespace CarplayRgi

namespace RgdState

@[simp]
theorem noteRaw_emitted (routeState : Nat) (state : RgdState) :
    (noteRaw routeState state).zero.emittedRouteState = state.zero.emittedRouteState := rfl

@[simp]
theorem rgdCancelPendingZero_started (state : RgdState) :
    (rgdCancelPendingZero state).zero.startedMs = 0 := by
  unfold rgdCancelPendingZero
  split
  · assumption
  · rfl

/-- Cancelling touches the pending zero only. -/
theorem rgdCancelPendingZero_frame (state : RgdState) :
    ∃ deadline fromReroute, rgdCancelPendingZero state =
      { state with
        zero :=
          { state.zero with startedMs := 0, deadlineMs := deadline, fromReroute := fromReroute } } := by
  unfold rgdCancelPendingZero
  split
  · rename_i idle
    refine ⟨state.zero.deadlineMs, state.zero.fromReroute, ?_⟩
    rw [← idle]
  · exact ⟨_, _, rfl⟩

@[simp]
theorem rgdCancelPendingZero_emitted (state : RgdState) :
    (rgdCancelPendingZero state).zero.emittedRouteState = state.zero.emittedRouteState := by
  obtain ⟨deadline, fromReroute, cancelled⟩ := rgdCancelPendingZero_frame state
  rw [cancelled]

@[simp]
theorem rgdCancelPendingZero_updateCache (state : RgdState) :
    (rgdCancelPendingZero state).updateCache = state.updateCache := by
  obtain ⟨deadline, fromReroute, cancelled⟩ := rgdCancelPendingZero_frame state
  rw [cancelled]

@[simp]
theorem rgdCancelPendingZero_initialized (state : RgdState) :
    (rgdCancelPendingZero state).initialized = state.initialized := by
  obtain ⟨deadline, fromReroute, frameEq⟩ := rgdCancelPendingZero_frame state
  rw [frameEq]

@[simp]
theorem rgdCancelPendingZero_maneuvers (state : RgdState) :
    (rgdCancelPendingZero state).maneuvers = state.maneuvers := by
  obtain ⟨deadline, fromReroute, frameEq⟩ := rgdCancelPendingZero_frame state
  rw [frameEq]

@[simp]
theorem rgdCancelPendingZero_lanes (state : RgdState) :
    (rgdCancelPendingZero state).lanes = state.lanes := by
  obtain ⟨deadline, fromReroute, frameEq⟩ := rgdCancelPendingZero_frame state
  rw [frameEq]

@[simp]
theorem rgdCancelPendingZero_currentList (state : RgdState) :
    (rgdCancelPendingZero state).currentList = state.currentList := by
  obtain ⟨deadline, fromReroute, frameEq⟩ := rgdCancelPendingZero_frame state
  rw [frameEq]

@[simp]
theorem rgdCancelPendingZero_amap (state : RgdState) :
    (rgdCancelPendingZero state).amap = state.amap := by
  obtain ⟨deadline, fromReroute, frameEq⟩ := rgdCancelPendingZero_frame state
  rw [frameEq]

/-- Starting a pending zero touches the pending zero only. -/
theorem startPendingZero_frame (now : Nat) (fromReroute : Bool) (state : RgdState) :
    ∃ started deadline reroute, startPendingZero now fromReroute state =
      { state with
        zero :=
          { state.zero with
            startedMs := started, deadlineMs := deadline, fromReroute := reroute } } := by
  unfold startPendingZero
  split
  · exact ⟨_, _, _, rfl⟩
  · exact ⟨state.zero.startedMs, state.zero.deadlineMs, state.zero.fromReroute, rfl⟩

@[simp]
theorem startPendingZero_emitted (now : Nat) (fromReroute : Bool) (state : RgdState) :
    (startPendingZero now fromReroute state).zero.emittedRouteState =
      state.zero.emittedRouteState := by
  obtain ⟨started, deadline, reroute, startedEq⟩ := startPendingZero_frame now fromReroute state
  rw [startedEq]

@[simp]
theorem startPendingZero_updateCache (now : Nat) (fromReroute : Bool) (state : RgdState) :
    (startPendingZero now fromReroute state).updateCache = state.updateCache := by
  obtain ⟨started, deadline, reroute, startedEq⟩ := startPendingZero_frame now fromReroute state
  rw [startedEq]

@[simp]
theorem startPendingZero_initialized (now : Nat) (fromReroute : Bool) (state : RgdState) :
    (startPendingZero now fromReroute state).initialized = state.initialized := by
  obtain ⟨started, deadline, reroute, frameEq⟩ := startPendingZero_frame now fromReroute state
  rw [frameEq]

@[simp]
theorem startPendingZero_maneuvers (now : Nat) (fromReroute : Bool) (state : RgdState) :
    (startPendingZero now fromReroute state).maneuvers = state.maneuvers := by
  obtain ⟨started, deadline, reroute, frameEq⟩ := startPendingZero_frame now fromReroute state
  rw [frameEq]

@[simp]
theorem startPendingZero_lanes (now : Nat) (fromReroute : Bool) (state : RgdState) :
    (startPendingZero now fromReroute state).lanes = state.lanes := by
  obtain ⟨started, deadline, reroute, frameEq⟩ := startPendingZero_frame now fromReroute state
  rw [frameEq]

@[simp]
theorem startPendingZero_currentList (now : Nat) (fromReroute : Bool) (state : RgdState) :
    (startPendingZero now fromReroute state).currentList = state.currentList := by
  obtain ⟨started, deadline, reroute, frameEq⟩ := startPendingZero_frame now fromReroute state
  rw [frameEq]

@[simp]
theorem startPendingZero_amap (now : Nat) (fromReroute : Bool) (state : RgdState) :
    (startPendingZero now fromReroute state).amap = state.amap := by
  obtain ⟨started, deadline, reroute, frameEq⟩ := startPendingZero_frame now fromReroute state
  rw [frameEq]

/-- A zero that is part of a reroute keeps waiting as one. -/
theorem startPendingZero_fromReroute (now : Nat) (state : RgdState)
    (waiting : state.zero.startedMs ≠ 0 → state.zero.fromReroute = true) :
    (startPendingZero now true state).zero.fromReroute = true := by
  unfold startPendingZero
  split
  · rfl
  · rename_i started
    exact waiting started

/-- The outcomes of the debounce decision: next state, events, and whether the
update is held back. -/
inductive DebounceCase (upd : RgdUpdate) (now : Nat) (state : RgdState) :
    RgdState → List HookEvent → Bool → Prop
  | hardClear : upd.routeState = some 0 → upd.sourceSupportsRouteGuidance = some 0 →
      DebounceCase upd now state (hardClearZero (noteRaw 0 state)) [.mapReset false] false
  | passZero : upd.routeState = some 0 → upd.sourceSupportsRouteGuidance ≠ some 0 →
      state.zero.emittedRouteState = 0 →
      DebounceCase upd now state (noteRaw 0 state) [] false
  | flushZero : upd.routeState = some 0 → upd.sourceSupportsRouteGuidance ≠ some 0 →
      state.zero.emittedRouteState ≠ 0 → 0 < state.zero.lastRouteState →
      DebounceCase upd now state
        (startPendingZero now (zeroFromReroute state.zero.lastRouteState (noteRaw 0 state))
          (rgdManeuverMapReset (rgdUpdateCacheReset (noteRaw 0 state)))) [.mapReset true] true
  | holdZero : upd.routeState = some 0 → upd.sourceSupportsRouteGuidance ≠ some 0 →
      state.zero.emittedRouteState ≠ 0 → state.zero.lastRouteState = 0 →
      DebounceCase upd now state
        (startPendingZero now (zeroFromReroute state.zero.lastRouteState (noteRaw 0 state))
          (rgdUpdateCacheReset (noteRaw 0 state))) [] true
  | positive (routeState : Nat) : upd.routeState = some routeState → routeState ≠ 0 →
      DebounceCase upd now state (notePositive routeState (noteRaw routeState state)) [] false
  | evidence : upd.routeState = none → rgdUpdateHasActiveEvidence upd = true →
      DebounceCase upd now state (rgdCancelPendingZero state) [] false
  | held : upd.routeState = none → rgdUpdateHasActiveEvidence upd = false →
      upd.sourceSupportsRouteGuidance ≠ some 0 → state.zero.startedMs ≠ 0 →
      DebounceCase upd now state state [] true
  | passed : upd.routeState = none → rgdUpdateHasActiveEvidence upd = false →
      (upd.sourceSupportsRouteGuidance = some 0 ∨ state.zero.startedMs = 0) →
      DebounceCase upd now state state [] false

theorem noteRouteState_zero_case {upd : RgdUpdate} (now : Nat) (state : RgdState)
    (routeEq : upd.routeState = some 0) :
    DebounceCase upd now state
      (noteRouteState 0 now (isHardClear upd) state).1.1
      (noteRouteState 0 now (isHardClear upd) state).1.2
      (noteRouteState 0 now (isHardClear upd) state).2 := by
  by_cases hard : upd.sourceSupportsRouteGuidance = some 0
  · simpa [noteRouteState, isHardClear, hard] using
      @DebounceCase.hardClear upd now state routeEq hard
  · by_cases emitted : state.zero.emittedRouteState = 0
    · simpa [noteRouteState, isHardClear, hard, emitted] using DebounceCase.passZero routeEq hard emitted
    · by_cases previous : 0 < state.zero.lastRouteState
      · simpa [noteRouteState, suppressZero, isHardClear, hard, emitted, previous] using
          DebounceCase.flushZero routeEq hard emitted previous
      · simpa [noteRouteState, suppressZero, isHardClear, hard, emitted, previous] using
          DebounceCase.holdZero routeEq hard emitted (by omega)

theorem debounceUpdate_case (upd : RgdUpdate) (now : Nat) (state : RgdState) :
    DebounceCase upd now state (debounceUpdate upd now state).1.1
      (debounceUpdate upd now state).1.2 (debounceUpdate upd now state).2 := by
  unfold debounceUpdate
  cases routeEq : upd.routeState with
  | none =>
      by_cases evident : rgdUpdateHasActiveEvidence upd = true
      · simp only [evident, if_true]
        exact .evidence routeEq evident
      · have silent : rgdUpdateHasActiveEvidence upd = false := by simpa using evident
        by_cases hard : upd.sourceSupportsRouteGuidance = some 0
        · simpa [isHardClear, silent, hard] using DebounceCase.passed routeEq silent (.inl hard)
        · by_cases started : state.zero.startedMs = 0
          · simpa [isHardClear, silent, hard, started] using
              DebounceCase.passed routeEq silent (.inr started)
          · simpa [isHardClear, silent, hard, started] using
              DebounceCase.held routeEq silent hard started
  | some routeState =>
      by_cases zero : routeState = 0
      · subst zero
        exact noteRouteState_zero_case now state routeEq
      · simpa [noteRouteState, zero] using
          DebounceCase.positive routeState routeEq zero

theorem acceptUpdate_cases (overlay : Bool) (stack : RgdKey → List UInt8) (upd : RgdUpdate)
    (state : RgdState) :
    (upd = {} ∧ acceptUpdate overlay stack upd state =
      (noteUpdate overlay upd state, [acceptedEvent overlay upd state])) ∨
    (upd ≠ {} ∧ acceptUpdate overlay stack upd state =
      ((writeBusSnapshotFromCache overlay stack none
          (some (enrichLaneSlot upd (noteUpdate overlay upd state)).1)
          (mergedUpdate upd (noteUpdate overlay upd state))).1,
        acceptedEvent overlay upd state ::
          (writeBusSnapshotFromCache overlay stack none
            (some (enrichLaneSlot upd (noteUpdate overlay upd state)).1)
            (mergedUpdate upd (noteUpdate overlay upd state))).2)) := by
  by_cases empty : upd = {}
  · exact .inl ⟨empty, by simp [acceptUpdate, writeBusUpdatePartial, empty]⟩
  · exact .inr ⟨empty, by simp only [acceptUpdate, writeBusUpdatePartial, if_neg empty]⟩

theorem handleUpdate_cases (overlay : Bool) (stack : RgdKey → List UInt8) (now : Nat)
    (upd : RgdUpdate) (state : RgdState) :
    ∃ debounced events held,
      debounceUpdate upd now { state with haveUpdate := true } = ((debounced, events), held) ∧
      DebounceCase upd now { state with haveUpdate := true } debounced events held ∧
      ((held = true ∧
          handleUpdate overlay stack now upd state = (debounced, .routeUpdate upd :: events)) ∨
        (held = false ∧ handleUpdate overlay stack now upd state =
          ((acceptUpdate overlay stack upd debounced).1,
            .routeUpdate upd :: (events ++ (acceptUpdate overlay stack upd debounced).2)))) := by
  have outcome := debounceUpdate_case upd now { state with haveUpdate := true }
  cases debouncedEq : debounceUpdate upd now { state with haveUpdate := true } with
  | mk result held =>
      obtain ⟨debounced, events⟩ := result
      rw [debouncedEq] at outcome
      refine ⟨debounced, events, held, rfl, outcome, ?_⟩
      cases held with
      | true => exact .inl ⟨rfl, by simp [handleUpdate, debouncedEq]⟩
      | false => exact .inr ⟨rfl, by simp [handleUpdate, debouncedEq]⟩

theorem amapMetaNoteRouteUpdate_frame (upd : RgdUpdate) (hardClear : Bool) (state : RgdState) :
    ∃ amap, amapMetaNoteRouteUpdate upd hardClear state = { state with amap := amap } := by
  unfold amapMetaNoteRouteUpdate
  dsimp only
  split
  · exact ⟨_, rfl⟩
  · exact ⟨_, rfl⟩

theorem noteUpdate_frame (overlay : Bool) (upd : RgdUpdate) (state : RgdState) :
    ∃ amap, noteUpdate overlay upd state = { state with amap := amap } := by
  unfold noteUpdate
  split
  · exact amapMetaNoteRouteUpdate_frame upd _ state
  · exact ⟨state.amap, rfl⟩

theorem enrichLaneSlot_frame (upd : RgdUpdate) (state : RgdState) :
    (∃ laneSlot, (enrichLaneSlot upd state).1 = { upd with laneGuidanceSlot := laneSlot }) ∧
      LaneTouched state (enrichLaneSlot upd state).2 := by
  unfold enrichLaneSlot
  split
  · exact ⟨⟨upd.laneGuidanceSlot, rfl⟩, .refl state⟩
  · exact ⟨⟨_, rfl⟩, rgdLookupLaneSlot_touched _ state⟩

theorem rgdSlotForIapIndex_frame (idx : Nat) (state : RgdState) :
    ∃ maneuvers, (rgdSlotForIapIndex idx state).2.1 = { state with maneuvers := maneuvers } := by
  unfold rgdSlotForIapIndex
  split
  · exact ⟨_, rfl⟩
  · split
    · exact ⟨_, rfl⟩
    · exact ⟨_, rfl⟩

theorem slotAssigned_of_mem_rgdSlotForIapIndex {idx : Nat} {state : RgdState} {event : HookEvent}
    (member : event ∈ (rgdSlotForIapIndex idx state).2.2) :
    event = .slotAssigned (rgdSlotForIapIndex idx state).1 idx := by
  unfold rgdSlotForIapIndex at member ⊢
  split
  · simp_all
  · split
    · simp_all
    · simp_all

theorem rgdLaneSlotForIapIndex_frame (idx : Nat) (state : RgdState) :
    ∃ lanes, (rgdLaneSlotForIapIndex idx state).2 = { state with lanes := lanes } := by
  unfold rgdLaneSlotForIapIndex
  split
  · exact ⟨_, rfl⟩
  · split
    · exact ⟨_, rfl⟩
    · exact ⟨_, rfl⟩

theorem cacheLane_frame (lane : RgdLaneGuidance) (state : RgdState) :
    ∃ lanes, (cacheLane lane state).2 = { state with lanes := lanes } := by
  simp only [cacheLane]
  split
  · exact ⟨state.lanes, rfl⟩
  · obtain ⟨lanes, assignedEq⟩ :=
      rgdLaneSlotForIapIndex_frame (laneEventIndex lane state) state
    rw [assignedEq]
    exact ⟨_, rfl⟩

theorem activeLaneUpdate_frame (iapIdx : Nat) (slot : Option Slot) (state : RgdState) :
    (∀ upd, (activeLaneUpdate iapIdx slot state).1 = some upd →
      ∃ laneSlot, upd = { laneGuidanceSlot := laneSlot }) ∧
    LaneTouched state (activeLaneUpdate iapIdx slot state).2 := by
  cases slot with
  | some cached =>
      simp only [activeLaneUpdate]
      split
      · exact ⟨by simp, .refl state⟩
      · split
        · exact ⟨fun upd equal => ⟨_, (Option.some.inj equal).symm⟩, .refl state⟩
        · exact ⟨by simp, .refl state⟩
  | none =>
      have touched := rgdLookupLaneSlot_touched iapIdx state
      simp only [activeLaneUpdate]
      split
      · exact ⟨by simp, .refl state⟩
      · split
        · exact ⟨fun upd equal => ⟨_, (Option.some.inj equal).symm⟩, touched⟩
        · exact ⟨by simp, touched⟩

/-- Merging an update touches the cache and the stamps of the lane slots. -/
theorem mergedUpdate_frame (upd : RgdUpdate) (state : RgdState) :
    ∃ laneSlot table, table.key = state.lanes.table.key ∧ mergedUpdate upd state =
      { state with
        updateCache := rgdUpdateCacheMerge { upd with laneGuidanceSlot := laneSlot } state.updateCache
        lanes := { state.lanes with table := table } } := by
  obtain ⟨⟨laneSlot, updateEq⟩, table, keys, enrichedEq⟩ := enrichLaneSlot_frame upd state
  refine ⟨laneSlot, table, keys, ?_⟩
  unfold mergedUpdate mergeUpdate
  rw [updateEq, enrichedEq]

theorem storeManeuver_frame (idx : Nat) (man : RgdManeuver) (state : RgdState) :
    ∃ maneuvers, storeManeuver idx man state = { state with maneuvers := maneuvers } := by
  obtain ⟨maneuvers, foundEq⟩ := rgdSlotForIapIndex_frame idx state
  unfold storeManeuver
  dsimp only
  rw [foundEq]
  exact ⟨_, rfl⟩

theorem storeLane_frame (lane : RgdLaneGuidance) (state : RgdState) :
    ∃ lanes laneSlot, storeLane lane state =
      { state with
        lanes := lanes
        updateCache := { state.updateCache with laneGuidanceSlot := laneSlot } } := by
  obtain ⟨lanes, cachedEq⟩ := cacheLane_frame lane state
  obtain ⟨slotOnly, table, -, activeEq⟩ :=
    activeLaneUpdate_frame (laneEventIndex lane state) (cacheLane lane state).1
      (cacheLane lane state).2
  rw [cachedEq] at activeEq
  unfold storeLane activeLane
  split
  · rw [cachedEq, activeEq]
    exact ⟨_, state.updateCache.laneGuidanceSlot, rfl⟩
  · rename_i upd updEq
    obtain ⟨laneSlot, rfl⟩ := slotOnly upd updEq
    rw [cachedEq, activeEq]
    exact ⟨_, _, rfl⟩

/-- A frame is one of the three messages or is ignored. -/
theorem handleFrame_cases {motive : RgdState × List HookEvent → Prop} {overlay : Bool}
    {msgid : Nat} {raw : List UInt8} {now : Nat} {stack : RgdKey → List UInt8} {state : RgdState}
    (update : motive (handleUpdate overlay stack now (rgdParseUpdate raw) state))
    (maneuver : motive (handleManeuver overlay stack (rgdParseManeuver raw) state))
    (lane : motive (handleLane overlay stack (rgdParseLaneGuidance raw) state))
    (other : motive (state, [])) :
    motive (handleFrame overlay msgid raw now stack state) := by
  unfold handleFrame
  split_ifs
  · exact update
  · exact maneuver
  · exact lane
  · exact other

/-- The parts of the state that writing a snapshot leaves alone. -/
structure SnapshotKeeps (before after : RgdState) : Prop where
  initialized : after.initialized = before.initialized
  haveUpdate : after.haveUpdate = before.haveUpdate
  zero : after.zero = before.zero
  maneuvers : after.maneuvers = before.maneuvers
  updateCache : after.updateCache = before.updateCache

theorem writeBusSnapshotFromCache_keeps (overlay : Bool) (stack : RgdKey → List UInt8)
    (extraMan : Option RgdManeuver) (currentUpd : Option RgdUpdate) (state : RgdState) :
    SnapshotKeeps state (writeBusSnapshotFromCache overlay stack extraMan currentUpd state).1 := by
  rcases writeBusSnapshotFromCache_cases overlay stack extraMan currentUpd state with
    ⟨-, skipped⟩ | written
  · obtain ⟨lanes, prunedEq⟩ := rgdPruneStaleLaneCache_eq state
    rw [skipped, prunedEq]
    exact ⟨rfl, rfl, rfl, rfl, rfl⟩
  · rw [written]
    have step := rgdPruneStaleLaneCache_step overlay currentUpd
      (snapshotRecords_step overlay stack currentUpd (rgdPruneStaleLaneCache state).2)
    exact ⟨step.initialized, step.haveUpdate, step.zero, step.maneuvers, step.updateCache⟩

/-- The list after a snapshot, if a message with a list is cached. -/
theorem writeBusSnapshotFromCache_currentList (overlay : Bool) (stack : RgdKey → List UInt8)
    (extraMan : Option RgdManeuver) {currentUpd : Option RgdUpdate} {state : RgdState}
    (cached : currentUpd.bind RgdUpdate.maneuverList = none ∨ state.updateCache ≠ {}) :
    (writeBusSnapshotFromCache overlay stack extraMan currentUpd state).1.currentList =
      listAfter currentUpd state := by
  rcases writeBusSnapshotFromCache_cases overlay stack extraMan currentUpd state with
    ⟨empty, skipped⟩ | written
  · obtain ⟨lanes, prunedEq⟩ := rgdPruneStaleLaneCache_eq state
    rw [skipped, prunedEq]
    rcases cached with noList | notEmpty
    · simp [listAfter, noList]
    · exact absurd empty notEmpty
  · rw [written]
    exact (rgdPruneStaleLaneCache_step overlay currentUpd
      (snapshotRecords_step overlay stack currentUpd (rgdPruneStaleLaneCache state).2)).currentList

theorem acceptUpdate_zero (overlay : Bool) (stack : RgdKey → List UInt8) (upd : RgdUpdate)
    (state : RgdState) : (acceptUpdate overlay stack upd state).1.zero = state.zero := by
  obtain ⟨amap, notedEq⟩ := noteUpdate_frame overlay upd state
  rcases acceptUpdate_cases overlay stack upd state with ⟨-, skipped⟩ | ⟨-, written⟩
  · rw [skipped, notedEq]
  · rw [written]
    dsimp only
    rw [(writeBusSnapshotFromCache_keeps overlay stack none _ _).zero]
    obtain ⟨laneSlot, table, -, mergedEq⟩ :=
      mergedUpdate_frame upd (noteUpdate overlay upd state)
    rw [mergedEq, notedEq]

theorem acceptUpdate_currentList (overlay : Bool) (stack : RgdKey → List UInt8) (upd : RgdUpdate)
    (state : RgdState) : (acceptUpdate overlay stack upd state).1.currentList =
      (upd.maneuverList.map (List.take maxManeuverList)).or state.currentList := by
  obtain ⟨amap, notedEq⟩ := noteUpdate_frame overlay upd state
  rcases acceptUpdate_cases overlay stack upd state with ⟨empty, skipped⟩ | ⟨-, written⟩
  · rw [skipped, notedEq, empty]
    rfl
  · obtain ⟨laneSlot, table, -, mergedEq⟩ :=
      mergedUpdate_frame upd (noteUpdate overlay upd state)
    obtain ⟨⟨helper, enrichedEq⟩, -⟩ := enrichLaneSlot_frame upd (noteUpdate overlay upd state)
    have cached : (some (enrichLaneSlot upd (noteUpdate overlay upd state)).1).bind
          RgdUpdate.maneuverList = none ∨
        (mergedUpdate upd (noteUpdate overlay upd state)).updateCache ≠ {} := by
      rw [enrichedEq, mergedEq]
      cases listEq : upd.maneuverList with
      | none => exact .inl rfl
      | some list =>
          refine .inr fun empty => ?_
          have none := congrArg RgdUpdate.maneuverList empty
          simp [rgdUpdateCacheMerge] at none
    rw [written]
    dsimp only
    rw [writeBusSnapshotFromCache_currentList overlay stack none cached, listAfter, enrichedEq,
      mergedEq, notedEq]
    rfl

/-- The only events of the snapshot writer. -/
theorem mem_writeBusSnapshotFromCache {overlay : Bool} {stack : RgdKey → List UInt8}
    {extraMan : Option RgdManeuver} {currentUpd : Option RgdUpdate} {state : RgdState}
    {event : HookEvent}
    (member : event ∈ (writeBusSnapshotFromCache overlay stack extraMan currentUpd state).2) :
    event = .overflowed ∨
      event = .snapshot
        (snapshotRecords overlay stack currentUpd (rgdPruneStaleLaneCache state).2).2
        (snapshotRecords overlay stack currentUpd (rgdPruneStaleLaneCache state).2).1 := by
  rcases writeBusSnapshotFromCache_cases overlay stack extraMan currentUpd state with
    ⟨-, skipped⟩ | written
  · simp [skipped] at member
  · rw [written] at member
    dsimp only at member
    rcases sendSnapshot_cases
        (snapshotRecords overlay stack currentUpd (rgdPruneStaleLaneCache state).2).2
        (snapshotRecords overlay stack currentUpd (rgdPruneStaleLaneCache state).2).1 with
      lost | sent
    · rw [lost] at member
      exact .inl (List.mem_singleton.mp member)
    · rw [sent] at member
      exact .inr (List.mem_singleton.mp member)

theorem handleManeuver_cases (overlay : Bool) (stack : RgdKey → List UInt8) (man : RgdManeuver)
    (state : RgdState) :
    handleManeuver overlay stack man state = (rgdCancelPendingZero state, []) ∨
    ∃ idx extraMan, man.index = some idx ∧
      (rgdCancelPendingZero state).rgdCanProcessManeuverIndex idx = true ∧
      handleManeuver overlay stack man state =
        ((writeBusSnapshotFromCache overlay stack extraMan none
            (storeManeuver idx man (rgdCancelPendingZero state))).1,
          (rgdSlotForIapIndex idx (rgdCancelPendingZero state)).2.2 ++
            (writeBusSnapshotFromCache overlay stack extraMan none
              (storeManeuver idx man (rgdCancelPendingZero state))).2) := by
  simp only [handleManeuver, writeBusManeuverPartial]
  cases indexEq : man.index with
  | none => exact .inl rfl
  | some idx =>
      dsimp only
      split
      · exact .inl rfl
      · rename_i accepted
        right
        refine ⟨idx, _, rfl, ?_, rfl⟩
        simp only [Bool.or_eq_true, Bool.not_eq_true', not_or, Bool.not_eq_false] at accepted
        exact accepted.2

/-- The slot update of a lane record has no maneuver list. -/
theorem activeLane_maneuverList (lane : RgdLaneGuidance) (state : RgdState) :
    (activeLane lane state).1.bind RgdUpdate.maneuverList = none := by
  obtain ⟨slotOnly, -⟩ :=
    activeLaneUpdate_frame (laneEventIndex lane state) (cacheLane lane state).1
      (cacheLane lane state).2
  cases updEq : (activeLane lane state).1 with
  | none => rfl
  | some upd =>
      obtain ⟨laneSlot, rfl⟩ := slotOnly upd updEq
      rfl

theorem handleLane_cases (overlay : Bool) (stack : RgdKey → List UInt8) (lane : RgdLaneGuidance)
    (state : RgdState) :
    handleLane overlay stack lane state = (rgdCancelPendingZero state, []) ∨
    handleLane overlay stack lane state =
      (storeLane lane (rgdCancelPendingZero state), []) ∨
    ∃ extraMan, handleLane overlay stack lane state =
      writeBusSnapshotFromCache overlay stack extraMan
        (activeLane lane (rgdCancelPendingZero state)).1
        (storeLane lane (rgdCancelPendingZero state)) := by
  simp only [handleLane, writeBusLaneGuidancePartial]
  split
  · exact .inl rfl
  · right
    split
    · exact .inl rfl
    · exact .inr ⟨_, rfl⟩

theorem DebounceCase.initialized {upd : RgdUpdate} {now : Nat} {state next : RgdState}
    {events : List HookEvent} {held : Bool}
    (outcome : DebounceCase upd now state next events held) :
    next.initialized = state.initialized := by
  cases outcome with
  | hardClear => exact rgdCancelPendingZero_initialized _
  | passZero => rfl
  | flushZero =>
      rw [startPendingZero_initialized]
      rfl
  | holdZero =>
      rw [startPendingZero_initialized]
      rfl
  | positive routeState => exact rgdCancelPendingZero_initialized (noteRaw routeState state)
  | evidence => exact rgdCancelPendingZero_initialized state
  | held => rfl
  | passed => rfl

theorem acceptUpdate_initialized (overlay : Bool) (stack : RgdKey → List UInt8) (upd : RgdUpdate)
    (state : RgdState) :
    (acceptUpdate overlay stack upd state).1.initialized = state.initialized := by
  obtain ⟨amap, notedEq⟩ := noteUpdate_frame overlay upd state
  rcases acceptUpdate_cases overlay stack upd state with ⟨-, skipped⟩ | ⟨-, written⟩
  · rw [skipped, notedEq]
  · rw [written]
    dsimp only
    rw [(writeBusSnapshotFromCache_keeps overlay stack none _ _).initialized]
    obtain ⟨laneSlot, table, -, mergedEq⟩ :=
      mergedUpdate_frame upd (noteUpdate overlay upd state)
    rw [mergedEq, notedEq]

theorem handleFrame_initialized (overlay : Bool) (msgid : Nat) (raw : List UInt8) (now : Nat)
    (stack : RgdKey → List UInt8) (state : RgdState) :
    (handleFrame overlay msgid raw now stack state).1.initialized = state.initialized := by
  have cancelled := rgdCancelPendingZero_initialized state
  refine handleFrame_cases (motive := fun result => result.1.initialized = state.initialized)
    ?_ ?_ ?_ rfl
  · obtain ⟨debounced, events, held, -, outcome, handled⟩ :=
      handleUpdate_cases overlay stack now (rgdParseUpdate raw) state
    rcases handled with ⟨-, handled⟩ | ⟨-, handled⟩
    · rw [handled]
      exact outcome.initialized
    · rw [handled]
      exact (acceptUpdate_initialized overlay stack _ debounced).trans outcome.initialized
  · rcases handleManeuver_cases overlay stack (rgdParseManeuver raw) state with
      handled | ⟨idx, extraMan, -, -, handled⟩
    · rw [handled]
      exact cancelled
    · obtain ⟨maneuvers, storedEq⟩ :=
        storeManeuver_frame idx (rgdParseManeuver raw) (rgdCancelPendingZero state)
      rw [handled]
      dsimp only
      rw [(writeBusSnapshotFromCache_keeps overlay stack extraMan none _).initialized, storedEq]
      exact cancelled
  · obtain ⟨lanes, laneSlot, storedEq⟩ :=
      storeLane_frame (rgdParseLaneGuidance raw) (rgdCancelPendingZero state)
    rcases handleLane_cases overlay stack (rgdParseLaneGuidance raw) state with
      handled | handled | ⟨extraMan, handled⟩
    · rw [handled]
      exact cancelled
    · rw [handled, storedEq]
      exact cancelled
    · rw [handled, (writeBusSnapshotFromCache_keeps overlay stack extraMan _ _).initialized,
        storedEq]
      exact cancelled

end RgdState

end CarplayRgi
