import CarplayRgi.RgdManeuverSlots
import CarplayRgi.RgdSnapshotReferences

/-!
# What the caches hold

A cached maneuver or lane event is a parsed record, up to lanes borrowed from
another maneuver and lane texts taken from the event.  So a property of parsed
records that survives both holds of every cached record in every run.
-/

namespace CarplayRgi

namespace RgdState

/-- A property of lane events and one of maneuvers that the caches preserve. -/
structure CacheRules (laneHolds : RgdLaneGuidance → Prop) (manHolds : RgdManeuver → Prop) :
    Prop where
  emptyLane : laneHolds {}
  emptyManeuver : manHolds {}
  parsedLane : ∀ raw idx, laneHolds
    (fillLaneDescriptions { rgdParseLaneGuidance raw with laneGuidanceIndex := some idx })
  parsedManeuver : ∀ raw, manHolds (rgdParseManeuver raw)
  borrowed : ∀ man source lanes, manHolds man → manHolds source →
    source.laneGuidance = some lanes → manHolds { man with laneGuidance := some lanes }

/-- Every cached record has the property. -/
structure CachesHold (laneHolds : RgdLaneGuidance → Prop) (manHolds : RgdManeuver → Prop)
    (state : RgdState) : Prop where
  lane : ∀ slot, laneHolds (state.lanes.laneCache slot)
  maneuver : ∀ slot, manHolds (state.maneuvers.slotCache slot)

variable {laneHolds : RgdLaneGuidance → Prop} {manHolds : RgdManeuver → Prop}

theorem CachesHold.congr {before after : RgdState} (holds : CachesHold laneHolds manHolds before)
    (lanes : after.lanes.laneCache = before.lanes.laneCache)
    (maneuvers : after.maneuvers = before.maneuvers) : CachesHold laneHolds manHolds after :=
  ⟨fun slot => lanes ▸ holds.lane slot, fun slot => maneuvers ▸ holds.maneuver slot⟩

theorem cachesHold_cleared (rules : CacheRules laneHolds manHolds) {state : RgdState}
    (lanes : state.lanes = (rgdManeuverMapReset state).lanes)
    (maneuvers : state.maneuvers = (rgdManeuverMapReset state).maneuvers) :
    CachesHold laneHolds manHolds state :=
  ⟨fun _ => lanes ▸ rules.emptyLane, fun _ => maneuvers ▸ rules.emptyManeuver⟩

theorem rgdPruneStaleLaneCache_laneCache (state : RgdState) (slot : Slot) :
    (rgdPruneStaleLaneCache state).2.lanes.laneCache slot = state.lanes.laneCache slot ∨
      (rgdPruneStaleLaneCache state).2.lanes.laneCache slot = {} := by
  unfold rgdPruneStaleLaneCache
  split
  · exact .inl rfl
  · split
    · exact .inl rfl
    · dsimp only
      split
      · exact .inr rfl
      · exact .inl rfl

/-- The snapshot writer only empties lane events. -/
theorem writeBusSnapshotFromCache_laneCache (overlay : Bool) (stack : RgdKey → List UInt8)
    (extraMan : Option RgdManeuver) (currentUpd : Option RgdUpdate) (state : RgdState)
    (slot : Slot) :
    (writeBusSnapshotFromCache overlay stack extraMan currentUpd state).1.lanes.laneCache slot =
        state.lanes.laneCache slot ∨
      (writeBusSnapshotFromCache overlay stack extraMan currentUpd state).1.lanes.laneCache slot =
        {} := by
  have first := rgdPruneStaleLaneCache_laneCache state slot
  rcases writeBusSnapshotFromCache_cases overlay stack extraMan currentUpd state with
    ⟨-, skipped⟩ | written
  · rw [skipped]
    exact first
  · have second := rgdPruneStaleLaneCache_laneCache
      (adoptManeuverList currentUpd
        (writeRouteKeys (refreshOverlay overlay (rgdPruneStaleLaneCache state).2)).2) slot
    rw [adoptManeuverList_lanes, (writeRouteKeys_touched _).laneCache, refreshOverlay_lanes]
      at second
    rw [written]
    simp only [snapshotRecords]
    rw [(writeListedSlots_touched stack _ _).laneCache, listedState]
    rcases second with kept | emptied
    · rw [kept]
      exact first
    · exact .inr emptied

theorem CachesHold.snapshot (rules : CacheRules laneHolds manHolds) {state : RgdState}
    (holds : CachesHold laneHolds manHolds state) (overlay : Bool) (stack : RgdKey → List UInt8)
    (extraMan : Option RgdManeuver) (currentUpd : Option RgdUpdate) :
    CachesHold laneHolds manHolds
      (writeBusSnapshotFromCache overlay stack extraMan currentUpd state).1 := by
  refine ⟨fun slot => ?_, fun slot => ?_⟩
  · rcases writeBusSnapshotFromCache_laneCache overlay stack extraMan currentUpd state slot with
      kept | emptied
    · exact kept ▸ holds.lane slot
    · exact emptied ▸ rules.emptyLane
  · rw [(writeBusSnapshotFromCache_keeps overlay stack extraMan currentUpd state).maneuvers]
    exact holds.maneuver slot

theorem rgdSlotForIapIndex_slotCache (idx : Nat) (state : RgdState) (slot : Slot) :
    (rgdSlotForIapIndex idx state).2.1.maneuvers.slotCache slot = state.maneuvers.slotCache slot ∨
      (rgdSlotForIapIndex idx state).2.1.maneuvers.slotCache slot = {} := by
  unfold rgdSlotForIapIndex
  split
  · exact .inl rfl
  · split
    · exact .inl rfl
    · dsimp only [assignSlot]
      rw [Function.update_apply]
      split
      · exact .inr rfl
      · exact .inl rfl

/-- Lent lanes are those of the lender. -/
theorem laneGuidance_of_lendable {man : RgdManeuver} {lanes : List RgdLane}
    (lendable : lendableLanes man = some lanes) : man.laneGuidance = some lanes :=
  (Option.filter_eq_some_iff.mp lendable).1

theorem rgdResolveLinkedLanes_cachesHold (rules : CacheRules laneHolds manHolds) (slot : Slot)
    {map : ManeuverMap} (holds : ∀ other, manHolds (map.slotCache other)) (other : Slot) :
    manHolds ((rgdResolveLinkedLanes slot map).slotCache other) := by
  unfold rgdResolveLinkedLanes
  dsimp only
  split
  · rename_i linked linkedEq noLanes
    split
    · rw [rgdLookupSlot_cache]
      exact holds other
    · rename_i lanes lent
      obtain ⟨source, -, lends⟩ := Option.bind_eq_some_iff.mp lent
      dsimp only
      rw [Function.update_apply]
      split
      · exact rules.borrowed _ _ _ (holds slot) (holds source) (laneGuidance_of_lendable lends)
      · exact holds other
  · exact holds other

theorem rgdBackpropagateLinkedLanes_cachesHold (rules : CacheRules laneHolds manHolds) (slot : Slot)
    {map : ManeuverMap} (holds : ∀ other, manHolds (map.slotCache other)) (other : Slot) :
    manHolds ((rgdBackpropagateLinkedLanes slot map).slotCache other) := by
  unfold rgdBackpropagateLinkedLanes
  split
  · exact holds other
  · rename_i lanes lends
    split_ifs
    · exact holds other
    · dsimp only
      split_ifs
      · exact holds other
      · unfold takeLanes
        split_ifs
        · exact rules.borrowed _ _ _ (holds other) (holds slot) (laneGuidance_of_lendable lends)
        · exact holds other

theorem CachesHold.storeManeuver (rules : CacheRules laneHolds manHolds) {state : RgdState}
    (holds : CachesHold laneHolds manHolds state) (idx : Nat) {man : RgdManeuver}
    (parsed : manHolds man) : CachesHold laneHolds manHolds (RgdState.storeManeuver idx man state) := by
  obtain ⟨maneuvers, storedEq⟩ := storeManeuver_frame idx man state
  refine ⟨fun slot => ?_, fun slot => ?_⟩
  · rw [storedEq]
    exact holds.lane slot
  · refine rgdBackpropagateLinkedLanes_cachesHold rules _
      (rgdResolveLinkedLanes_cachesHold rules _ ?_) slot
    intro other
    dsimp only
    rw [Function.update_apply]
    split
    · exact parsed
    · rcases rgdSlotForIapIndex_slotCache idx state other with kept | emptied
      · exact kept ▸ holds.maneuver other
      · exact emptied ▸ rules.emptyManeuver

theorem CachesHold.storeLane {state : RgdState} (holds : CachesHold laneHolds manHolds state)
    {lane : RgdLaneGuidance}
    (parsed : ∀ idx, laneHolds (fillLaneDescriptions { lane with laneGuidanceIndex := some idx })) :
    CachesHold laneHolds manHolds (RgdState.storeLane lane state) := by
  obtain ⟨lanes, laneSlot, storedEq⟩ := storeLane_frame lane state
  refine ⟨fun slot => ?_, fun slot => ?_⟩
  · have touched : LaneTouched (cacheLane lane state).2 (activeLane lane state).2 :=
      (activeLaneUpdate_frame _ _ _).2
    have stored : (RgdState.storeLane lane state).lanes.laneCache =
        (cacheLane lane state).2.lanes.laneCache := by
      rw [← touched.laneCache]
      unfold RgdState.storeLane
      split <;> rfl
    rw [stored]
    unfold cacheLane
    dsimp only
    split
    · exact holds.lane slot
    · dsimp only
      rw [Function.update_apply]
      split
      · exact parsed _
      · rename_i different
        rw [((rgdLaneSlotForIapIndex_spec _ state).2 slot different).2]
        exact holds.lane slot
  · rw [storedEq]
    exact holds.maneuver slot

theorem DebounceCase.cachesHold (rules : CacheRules laneHolds manHolds) {upd : RgdUpdate}
    {now : Nat} {state after : RgdState} {events : List HookEvent} {held : Bool}
    (outcome : DebounceCase upd now state after events held)
    (holds : CachesHold laneHolds manHolds state) : CachesHold laneHolds manHolds after := by
  cases outcome with
  | hardClear =>
      exact cachesHold_cleared rules (by simp [hardClearZero]; rfl) (by simp [hardClearZero]; rfl)
  | passZero => exact holds.congr rfl rfl
  | flushZero => exact cachesHold_cleared rules (by simp; rfl) (by simp; rfl)
  | holdZero => exact holds.congr (by simp; rfl) (by simp; rfl)
  | positive => exact holds.congr (by simp [notePositive]; rfl) (by simp [notePositive]; rfl)
  | evidence => exact holds.congr (by simp) (by simp)
  | held | passed => exact holds

theorem CachesHold.accept (rules : CacheRules laneHolds manHolds) {state : RgdState}
    (holds : CachesHold laneHolds manHolds state) (overlay : Bool) (stack : RgdKey → List UInt8)
    (upd : RgdUpdate) :
    CachesHold laneHolds manHolds (acceptUpdate overlay stack upd state).1 := by
  obtain ⟨amap, notedEq⟩ := noteUpdate_frame overlay upd state
  have noted : CachesHold laneHolds manHolds (noteUpdate overlay upd state) :=
    holds.congr (by rw [notedEq]) (by rw [notedEq])
  rcases acceptUpdate_cases overlay stack upd state with ⟨-, skipped⟩ | ⟨-, written⟩
  · rw [skipped]
    exact noted
  · obtain ⟨laneSlot, table, -, mergedEq⟩ := mergedUpdate_frame upd (noteUpdate overlay upd state)
    rw [written]
    exact (noted.congr (by rw [mergedEq]) (by rw [mergedEq])).snapshot rules overlay stack none _

theorem handleFrame_cachesHold (rules : CacheRules laneHolds manHolds) (overlay : Bool)
    (msgid : Nat) (raw : List UInt8) (now : Nat) (stack : RgdKey → List UInt8) {state : RgdState}
    (holds : CachesHold laneHolds manHolds state) :
    CachesHold laneHolds manHolds (handleFrame overlay msgid raw now stack state).1 := by
  have cancelled : CachesHold laneHolds manHolds (rgdCancelPendingZero state) :=
    holds.congr (by simp) (by simp)
  refine @handleFrame_cases (fun result => CachesHold laneHolds manHolds result.1) overlay msgid
    raw now stack state ?_ ?_ ?_ holds
  · obtain ⟨debounced, events, held, -, outcome, result⟩ :=
      handleUpdate_cases overlay stack now (rgdParseUpdate raw) state
    have decided := outcome.cachesHold rules (holds.congr rfl rfl)
    rcases result with ⟨-, result⟩ | ⟨-, result⟩
    · rw [result]
      exact decided
    · rw [result]
      exact decided.accept rules overlay stack _
  · rcases handleManeuver_cases overlay stack (rgdParseManeuver raw) state with
      skipped | ⟨idx, extraMan, -, -, written⟩
    · rw [skipped]
      exact cancelled
    · rw [written]
      exact (cancelled.storeManeuver rules idx (rules.parsedManeuver raw)).snapshot rules overlay
        stack extraMan none
  · have stored := cancelled.storeLane (rules.parsedLane raw)
    rcases handleLane_cases overlay stack (rgdParseLaneGuidance raw) state with
      skipped | cached | ⟨extraMan, written⟩
    · rw [skipped]
      exact cancelled
    · rw [cached]
      exact stored
    · rw [written]
      exact stored.snapshot rules overlay stack extraMan _

theorem rgdClearState_cachesHold (rules : CacheRules laneHolds manHolds) (overlay : Bool)
    (reason : ClearReason) (state : RgdState) :
    CachesHold laneHolds manHolds (rgdClearState overlay reason state).1 := by
  cases overlay <;> exact cachesHold_cleared rules rfl rfl

end RgdState

open RgdState

/-- Every cached record of every run has the property. -/
theorem rgdHook_cachesHold {laneHolds : RgdLaneGuidance → Prop} {manHolds : RgdManeuver → Prop}
    (rules : CacheRules laneHolds manHolds) {overlay : Bool}
    {guard : RgdState → List HookEvent → HookLabel → Prop} {state : RgdState}
    {history : List HookEvent} (run : (rgdHook overlay).RunWithin guard state history) :
    CachesHold laneHolds manHolds state := by
  refine run.invariant (fun state _ => CachesHold laneHolds manHolds state)
    ⟨fun _ => rules.emptyLane, fun _ => rules.emptyManeuver⟩ ?_
  intro before after trace events label holds _ stepTo
  obtain ⟨rfl, -⟩ : (rgdHookStep overlay label before).1 = after ∧
      (rgdHookStep overlay label before).2 = events := by
    simpa [rgdHook, Prod.ext_iff] using stepTo
  cases label with
  | message msgid raw now stack =>
      refine handleFrame_cachesHold rules overlay msgid raw now stack ?_
      unfold rgdLazyInit
      split
      · exact holds
      · exact rgdClearState_cachesHold rules overlay .init _
  | tick now =>
      simp only [rgdHookStep, rgdPeriodicTick]
      split
      · exact holds.congr rfl rfl
      · exact holds
  | clear reason => exact rgdClearState_cachesHold rules overlay reason before

end CarplayRgi
