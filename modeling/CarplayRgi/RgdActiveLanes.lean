import CarplayRgi.RgdManeuverSlots
import CarplayRgi.RgdSnapshotReferences

/-!
# Active lane events

A lane event is active when it is the current one, or is listed, or is linked
by a listed maneuver.  Eviction asks for that, and falls back to any slot when
it finds no other; pruning asks only whether the index is behind the list, so
it also drops an active event.  The condition under which a message keeps
every active event is exact.
-/

namespace CarplayRgi

open RgdState

/-- The caches as a handler has updated them, and the update that the snapshot
writer is given, if it is called. -/
structure LaneWork where
  cached : RgdState
  written : Option (Option RgdUpdate)

namespace RgdState

def updateWork (overlay : Bool) (now : Nat) (upd : RgdUpdate) (state : RgdState) : LaneWork :=
  let debounced := debounceUpdate upd now { state with haveUpdate := true }
  let noted := noteUpdate overlay upd debounced.1.1
  if debounced.2 then ⟨debounced.1.1, none⟩
  else if upd = {} then ⟨noted, none⟩
  else ⟨mergedUpdate upd noted, some (some (enrichLaneSlot upd noted).1)⟩

def maneuverWork (man : RgdManeuver) (state : RgdState) : LaneWork :=
  let cancelled := rgdCancelPendingZero state
  match man.index with
  | none => ⟨cancelled, none⟩
  | some idx =>
      if acceptsManeuver man cancelled then ⟨storeManeuver idx man cancelled, some none⟩
      else ⟨cancelled, none⟩

def laneMessageWork (lane : RgdLaneGuidance) (state : RgdState) : LaneWork :=
  let cancelled := rgdCancelPendingZero state
  if lane.laneGuidanceIndex.isNone && lane.laneInformations.isNone then ⟨cancelled, none⟩
  else
    ⟨storeLane lane cancelled,
      if (cacheLane lane cancelled).1.isNone && (activeLane lane cancelled).1.isNone then none
      else some (activeLane lane cancelled).1⟩

def frameWork (overlay : Bool) (msgid : Nat) (raw : List UInt8) (now : Nat) (state : RgdState) :
    LaneWork :=
  if msgid = iap2MsgRouteGuidanceUpdate then updateWork overlay now (rgdParseUpdate raw) state
  else if msgid = iap2MsgRouteGuidanceManeuver then maneuverWork (rgdParseManeuver raw) state
  else if msgid = iap2MsgRouteGuidanceLane then laneMessageWork (rgdParseLaneGuidance raw) state
  else ⟨state, none⟩

end RgdState

/-- Events of the snapshot writer. -/
def HookEvent.isAttempt : HookEvent → Bool
  | .snapshot _ _ | .overflowed => true
  | _ => false

/-- How a handler ends: with its caches, or with what the snapshot writer
makes of them. -/
def LaneWork.EndsIn (overlay : Bool) (stack : RgdKey → List UInt8) (work : LaneWork)
    (result : RgdState × List HookEvent) : Prop :=
  match work.written with
  | none => result.1 = work.cached ∧ ∀ event ∈ result.2, event.isAttempt = false
  | some currentUpd => ∃ extraMan events, (∀ event ∈ events, event.isAttempt = false) ∧
      result =
        ((writeBusSnapshotFromCache overlay stack extraMan currentUpd work.cached).1,
          events ++ (writeBusSnapshotFromCache overlay stack extraMan currentUpd work.cached).2)

namespace RgdState

theorem debounceUpdate_quiet (upd : RgdUpdate) (now : Nat) (state : RgdState) :
    ∀ event ∈ (debounceUpdate upd now state).1.2, event.isAttempt = false := by
  have outcome := debounceUpdate_case upd now state
  cases debouncedEq : debounceUpdate upd now state with
  | mk result held =>
      obtain ⟨debounced, events⟩ := result
      rw [debouncedEq] at outcome
      cases outcome <;> simp [HookEvent.isAttempt]

theorem handleUpdate_work (overlay : Bool) (stack : RgdKey → List UInt8) (now : Nat)
    (upd : RgdUpdate) (state : RgdState) :
    (updateWork overlay now upd state).EndsIn overlay stack
      (handleUpdate overlay stack now upd state) := by
  have quiet := debounceUpdate_quiet upd now { state with haveUpdate := true }
  unfold updateWork handleUpdate LaneWork.EndsIn
  dsimp only
  split_ifs with held empty
  · refine ⟨rfl, fun event member => ?_⟩
    rcases List.mem_cons.mp member with rfl | decided
    · rfl
    · exact quiet event decided
  · refine ⟨by simp [acceptUpdate, writeBusUpdatePartial, empty], fun event member => ?_⟩
    simp only [acceptUpdate, writeBusUpdatePartial, if_pos empty, List.mem_cons, List.mem_append,
      List.not_mem_nil, or_false] at member
    rcases member with rfl | decided | rfl
    · rfl
    · exact quiet event decided
    · rfl
  · refine ⟨none, .routeUpdate upd :: ((debounceUpdate upd now { state with haveUpdate := true }).1.2 ++
      [acceptedEvent overlay upd (debounceUpdate upd now { state with haveUpdate := true }).1.1]),
      fun event member => ?_, ?_⟩
    · simp only [List.mem_cons, List.mem_append, List.not_mem_nil, or_false] at member
      rcases member with rfl | decided | rfl
      · rfl
      · exact quiet event decided
      · rfl
    · simp only [acceptUpdate, writeBusUpdatePartial, if_neg empty, List.cons_append,
        List.append_assoc, List.nil_append]

theorem handleManeuver_work (overlay : Bool) (stack : RgdKey → List UInt8) (man : RgdManeuver)
    (state : RgdState) :
    (maneuverWork man state).EndsIn overlay stack (handleManeuver overlay stack man state) := by
  unfold maneuverWork handleManeuver writeBusManeuverPartial acceptsManeuver LaneWork.EndsIn
  cases man.index with
  | none => exact ⟨rfl, by simp⟩
  | some idx =>
      dsimp only [Option.any_some]
      rw [← Bool.not_and]
      by_cases accepted : (hasWritableField man &&
        (rgdCancelPendingZero state).rgdCanProcessManeuverIndex idx) = true
      · simp only [accepted, Bool.not_true, Bool.false_eq_true, if_true, if_false]
        refine ⟨_, _, fun event member => ?_, rfl⟩
        rw [slotAssigned_of_mem_rgdSlotForIapIndex member]
        rfl
      · rw [Bool.not_eq_true] at accepted
        simp [accepted]

theorem handleLane_work (overlay : Bool) (stack : RgdKey → List UInt8) (lane : RgdLaneGuidance)
    (state : RgdState) :
    (laneMessageWork lane state).EndsIn overlay stack (handleLane overlay stack lane state) := by
  unfold laneMessageWork handleLane writeBusLaneGuidancePartial LaneWork.EndsIn
  dsimp only
  split_ifs with nothing unsent
  · exact ⟨rfl, by simp⟩
  · exact ⟨rfl, by simp⟩
  · exact ⟨_, [], by simp, rfl⟩

theorem handleFrame_work (overlay : Bool) (msgid : Nat) (raw : List UInt8) (now : Nat)
    (stack : RgdKey → List UInt8) (state : RgdState) :
    (frameWork overlay msgid raw now state).EndsIn overlay stack
      (handleFrame overlay msgid raw now stack state) := by
  unfold frameWork handleFrame
  split_ifs
  · exact handleUpdate_work ..
  · exact handleManeuver_work ..
  · exact handleLane_work ..
  · simp [LaneWork.EndsIn, TracedOp.silent]

/-- The slots that pruning against a list empties. -/
def prunes (list : Option (List Nat)) (state : RgdState) (slot : Slot) : Bool :=
  decide (state.zero.lastRouteState ≠ rgdStateRerouting) &&
    (list.getD []).min?.any fun least => state.isStaleLane least slot

theorem rgdPruneStaleLaneCache_lanes (state : RgdState) (slot : Slot) :
    (rgdPruneStaleLaneCache state).2.lanes.table.key slot =
        (if prunes state.currentList state slot then emptyIndex
          else state.lanes.table.key slot) ∧
      (rgdPruneStaleLaneCache state).2.lanes.laneCache slot =
        (if prunes state.currentList state slot then {} else state.lanes.laneCache slot) := by
  unfold rgdPruneStaleLaneCache prunes rgdMinCurrentIndex listedIndexes
  by_cases rerouting : state.zero.lastRouteState = rgdStateRerouting
  · simp [rerouting]
  · cases (state.currentList.getD []).min? with
    | none => simp
    | some least => simp [rerouting]

theorem rgdPruneStaleLaneCache_pruned (state : RgdState) :
    (rgdPruneStaleLaneCache state).1 = true ↔ ∃ slot, prunes state.currentList state slot := by
  unfold rgdPruneStaleLaneCache prunes rgdMinCurrentIndex listedIndexes
  by_cases rerouting : state.zero.lastRouteState = rgdStateRerouting
  · simp [rerouting]
  · cases (state.currentList.getD []).min? with
    | none => simp
    | some least => simp [rerouting]

/-- Only slots that hold an event are pruned. -/
theorem prunes_vacant {list : Option (List Nat)} {state : RgdState} {slot : Slot}
    (isVacant : state.lanes.table.key slot = emptyIndex) : prunes list state slot = false := by
  unfold prunes isStaleLane
  rw [isVacant]
  simp

/-- The state that the second pruning of a snapshot starts from. -/
theorem listedState_prunes (overlay : Bool) (currentUpd : Option RgdUpdate) (state : RgdState)
    (list : Option (List Nat)) (slot : Slot) :
    prunes list
        (adoptManeuverList currentUpd (writeRouteKeys (refreshOverlay overlay state)).2) slot =
      prunes list state slot ∧
    (adoptManeuverList currentUpd (writeRouteKeys (refreshOverlay overlay state)).2).currentList =
      listAfter currentUpd state ∧
    (adoptManeuverList currentUpd
      (writeRouteKeys (refreshOverlay overlay state)).2).lanes.table.key = state.lanes.table.key ∧
    (adoptManeuverList currentUpd
      (writeRouteKeys (refreshOverlay overlay state)).2).lanes.laneCache =
        state.lanes.laneCache := by
  obtain ⟨table, keys, routeEq⟩ := writeRouteKeys_touched (refreshOverlay overlay state)
  obtain ⟨highest, adoptedEq⟩ :=
    adoptManeuverList_eq currentUpd (writeRouteKeys (refreshOverlay overlay state)).2
  rw [adoptedEq, routeEq]
  cases overlay with
  | false =>
      refine ⟨?_, rfl, keys, rfl⟩
      unfold prunes isStaleLane
      dsimp only
      rw [keys]
      rfl
  | true =>
      refine ⟨?_, rfl, keys, rfl⟩
      unfold prunes isStaleLane
      dsimp only
      rw [keys]
      rfl

/-- Both prunings of a snapshot together. -/
def prunedBy (currentUpd : Option RgdUpdate) (state : RgdState) (slot : Slot) : Bool :=
  prunes state.currentList state slot || prunes (listAfter currentUpd state) state slot

theorem listAfter_pruned (currentUpd : Option RgdUpdate) (state : RgdState) :
    listAfter currentUpd (rgdPruneStaleLaneCache state).2 = listAfter currentUpd state := by
  obtain ⟨lanes, prunedEq⟩ := rgdPruneStaleLaneCache_eq state
  rw [prunedEq]
  rfl

/-- A slot that survives one pruning is pruned by another list as before. -/
theorem prunes_pruned {list : Option (List Nat)} {state : RgdState} {slot : Slot}
    (kept : prunes state.currentList state slot = false) :
    prunes list (rgdPruneStaleLaneCache state).2 slot = prunes list state slot := by
  have keyEq := (rgdPruneStaleLaneCache_lanes state slot).1
  obtain ⟨lanes, prunedEq⟩ := rgdPruneStaleLaneCache_eq state
  rw [kept] at keyEq
  rw [prunedEq] at keyEq ⊢
  simp only [Bool.false_eq_true, if_false] at keyEq
  unfold prunes isStaleLane
  dsimp only
  rw [keyEq]

/-- What a snapshot leaves in a lane slot. -/
theorem writeBusSnapshotFromCache_lanes (overlay : Bool) (stack : RgdKey → List UInt8)
    (extraMan : Option RgdManeuver) (currentUpd : Option RgdUpdate) {state : RgdState}
    (filled : LanesFilled state.lanes) (slot : Slot) :
    (writeBusSnapshotFromCache overlay stack extraMan currentUpd state).1.lanes.table.key slot =
        (if prunedBy currentUpd state slot then emptyIndex else state.lanes.table.key slot) ∧
      (writeBusSnapshotFromCache overlay stack extraMan currentUpd state).1.lanes.laneCache slot =
        (if prunedBy currentUpd state slot then {} else state.lanes.laneCache slot) := by
  have first := rgdPruneStaleLaneCache_lanes state slot
  unfold writeBusSnapshotFromCache
  dsimp only
  split
  · rename_i skipped
    simp only [Bool.and_eq_true, decide_eq_true_eq, Bool.not_eq_true', List.any_eq_false] at skipped
    obtain ⟨⟨-, noData⟩, unpruned⟩ := skipped
    have isVacant : state.lanes.table.key slot = emptyIndex := by
      by_contra used
      have kept : prunes state.currentList state slot = false := by
        by_contra stale
        have pruned := (rgdPruneStaleLaneCache_pruned state).mpr ⟨slot, by simpa using stale⟩
        rw [unpruned] at pruned
        cases pruned
      obtain ⟨index, present⟩ := filled.filled slot used
      refine noData slot (List.mem_finRange slot) ?_
      rw [rgdLaneSlotHasData, first.2, kept]
      simp [index, present]
    simp only [prunedBy, prunes_vacant isVacant, Bool.or_self] at first ⊢
    exact first
  · obtain ⟨listedTable, listedKeys, listedEq⟩ := writeListedSlots_touched stack
      (listedState overlay currentUpd (rgdPruneStaleLaneCache state).2).listedSlots
      (listedState overlay currentUpd (rgdPruneStaleLaneCache state).2)
    obtain ⟨samePrunes, listEq, keys, caches⟩ := listedState_prunes overlay currentUpd
      (rgdPruneStaleLaneCache state).2 (listAfter currentUpd state) slot
    have second := rgdPruneStaleLaneCache_lanes
      (adoptManeuverList currentUpd
        (writeRouteKeys (refreshOverlay overlay (rgdPruneStaleLaneCache state).2)).2) slot
    rw [listEq, listAfter_pruned, samePrunes, keys, caches, first.1, first.2] at second
    simp only [snapshotRecords]
    rw [listedEq]
    dsimp only
    rw [listedKeys, listedState, second.1, second.2]
    cases firstPrunes : prunes state.currentList state slot with
    | true => simp [prunedBy, firstPrunes]
    | false =>
        rw [prunes_pruned firstPrunes]
        simp [prunedBy, firstPrunes]

end RgdState

namespace RgdState

/-- The state of a message's work after its list update. -/
def listUpdated (work : LaneWork) : RgdState :=
  { work.cached with currentList := listAfter work.written.join work.cached }

/-- An active event of a slot. -/
def HoldsActiveLane (work : LaneWork) (state : RgdState) (slot : Slot) : Prop :=
  state.lanes.table.key slot ≠ emptyIndex ∧
    (listUpdated work).rgdIsActiveLaneIndex (state.lanes.table.key slot) = true

end RgdState

/-- No active event is dropped while a message is handled: the slot of one that
was cached before goes to no other index (a map reset empties it), and the
snapshot writer keeps every one that the handler leaves to it. -/
structure KeepsActiveLanes (before : RgdState) (work : LaneWork) (after : RgdState) : Prop where
  unevicted : ∀ slot, HoldsActiveLane work before slot →
    work.cached.lanes.table.key slot = before.lanes.table.key slot ∨
      work.cached.lanes.table.key slot = emptyIndex
  unpruned : ∀ slot, HoldsActiveLane work work.cached slot →
    after.lanes.table.key slot = work.cached.lanes.table.key slot ∧
      after.lanes.laneCache slot = work.cached.lanes.laneCache slot

namespace RgdState

/-- The lane index for which a message needs a slot. -/
def storedLaneIndex (msgid : Nat) (raw : List UInt8) (state : RgdState) : Option Nat :=
  let lane := rgdParseLaneGuidance raw
  if msgid = iap2MsgRouteGuidanceLane ∧ lane.laneInformations.isSome ∧
      laneEventIndex lane state ≠ emptyIndex then
    some (laneEventIndex lane state)
  else none

end RgdState

/-- When a message keeps every active event.  A new event finds its own slot,
or an empty one, or one that is not active.  If a snapshot is written outside a
reroute, the active events other than the current one are not behind the list,
neither the old one nor the new one. -/
structure LanesSafe (msgid : Nat) (raw : List UInt8) (before : RgdState) (work : LaneWork) :
    Prop where
  room : ∀ idx ∈ storedLaneIndex msgid raw before,
    before.lanes.table.find? idx = none → before.lanes.table.find? emptyIndex = none →
      before.lanes.table.HasRoom before.rgdIsActiveLaneIndex
  ahead : work.written.isSome = true → work.cached.zero.lastRouteState ≠ rgdStateRerouting →
    ∀ slot, HoldsActiveLane work work.cached slot →
      work.cached.updateCache.laneGuidanceIndex ≠ some (work.cached.lanes.table.key slot) →
        (∀ least ∈ work.cached.listedIndexes.min?, least ≤ work.cached.lanes.table.key slot) ∧
        ∀ least ∈ (listUpdated work).listedIndexes.min?,
          least ≤ work.cached.lanes.table.key slot

namespace RgdState

theorem prunes_eq_false {list : Option (List Nat)} {state : RgdState} {slot : Slot}
    (used : state.lanes.table.key slot ≠ emptyIndex) :
    prunes list state slot = false ↔
      (state.zero.lastRouteState ≠ rgdStateRerouting →
        state.updateCache.laneGuidanceIndex ≠ some (state.lanes.table.key slot) →
          ∀ least ∈ (list.getD []).min?, least ≤ state.lanes.table.key slot) := by
  unfold prunes isStaleLane
  by_cases rerouting : state.zero.lastRouteState = rgdStateRerouting
  · simp [rerouting]
  · by_cases current : state.updateCache.laneGuidanceIndex = some (state.lanes.table.key slot)
    · simp [current]
    · cases (list.getD []).min? with
      | none => simp
      | some least => simp [rerouting, current, used]

/-- The snapshot writer keeps an event when neither list prunes it. -/
theorem unpruned_iff {overlay : Bool} {stack : RgdKey → List UInt8} {work : LaneWork}
    {result : RgdState × List HookEvent} (filled : LanesFilled work.cached.lanes)
    (ends : work.EndsIn overlay stack result) {slot : Slot}
    (used : work.cached.lanes.table.key slot ≠ emptyIndex) :
    (result.1.lanes.table.key slot = work.cached.lanes.table.key slot ∧
        result.1.lanes.laneCache slot = work.cached.lanes.laneCache slot) ↔
      (work.written.isSome = true → prunedBy work.written.join work.cached slot = false) := by
  unfold LaneWork.EndsIn at ends
  cases writtenEq : work.written with
  | none =>
      rw [writtenEq] at ends
      simp only [ends.1, and_self, Option.isSome_none, Bool.false_eq_true, false_implies]
  | some currentUpd =>
      rw [writtenEq] at ends
      obtain ⟨extraMan, events, -, rfl⟩ := ends
      obtain ⟨key, cache⟩ :=
        writeBusSnapshotFromCache_lanes overlay stack extraMan currentUpd filled slot
      rw [key, cache, Option.join_some]
      cases prunedBy currentUpd work.cached slot with
      | true => simp [used.symm]
      | false => simp

theorem unpruned_iff_ahead {overlay : Bool} {stack : RgdKey → List UInt8} {work : LaneWork}
    {result : RgdState × List HookEvent} (filled : LanesFilled work.cached.lanes)
    (ends : work.EndsIn overlay stack result) :
    (∀ slot, HoldsActiveLane work work.cached slot →
        result.1.lanes.table.key slot = work.cached.lanes.table.key slot ∧
          result.1.lanes.laneCache slot = work.cached.lanes.laneCache slot) ↔
      (work.written.isSome = true → work.cached.zero.lastRouteState ≠ rgdStateRerouting →
        ∀ slot, HoldsActiveLane work work.cached slot →
          work.cached.updateCache.laneGuidanceIndex ≠ some (work.cached.lanes.table.key slot) →
            (∀ least ∈ work.cached.listedIndexes.min?,
              least ≤ work.cached.lanes.table.key slot) ∧
            ∀ least ∈ (listUpdated work).listedIndexes.min?,
              least ≤ work.cached.lanes.table.key slot) := by
  have bySlot : ∀ slot, HoldsActiveLane work work.cached slot →
      ((result.1.lanes.table.key slot = work.cached.lanes.table.key slot ∧
          result.1.lanes.laneCache slot = work.cached.lanes.laneCache slot) ↔
        (work.written.isSome = true → work.cached.zero.lastRouteState ≠ rgdStateRerouting →
          work.cached.updateCache.laneGuidanceIndex ≠ some (work.cached.lanes.table.key slot) →
            (∀ least ∈ work.cached.listedIndexes.min?,
              least ≤ work.cached.lanes.table.key slot) ∧
            ∀ least ∈ (listUpdated work).listedIndexes.min?,
              least ≤ work.cached.lanes.table.key slot)) := by
    intro slot active
    rw [unpruned_iff filled ends active.1, prunedBy, Bool.or_eq_false_iff,
      prunes_eq_false active.1, prunes_eq_false active.1]
    unfold listUpdated listedIndexes
    tauto
  constructor
  · intro keeps written steady slot active
    exact (bySlot slot active).mp (keeps slot active) written steady
  · intro ahead slot active
    exact (bySlot slot active).mpr fun written steady => ahead written steady slot active

/-- A slot keeps its index or is emptied. -/
def KeptOrEmptied (before after : RgdState) : Prop :=
  ∀ slot, after.lanes.table.key slot = before.lanes.table.key slot ∨
    after.lanes.table.key slot = emptyIndex

theorem keptOrEmptied_of_keys {before after : RgdState}
    (keys : after.lanes.table.key = before.lanes.table.key) : KeptOrEmptied before after :=
  fun _ => .inl (by rw [keys])

theorem DebounceCase.keptOrEmptied {upd : RgdUpdate} {now : Nat} {state after : RgdState}
    {events : List HookEvent} {held : Bool}
    (outcome : DebounceCase upd now state after events held) : KeptOrEmptied state after := by
  cases outcome with
  | hardClear => exact fun slot => .inr (by simp [hardClearZero]; rfl)
  | passZero => exact keptOrEmptied_of_keys rfl
  | flushZero => exact fun slot => .inr (by simp; rfl)
  | holdZero => exact keptOrEmptied_of_keys (by simp; rfl)
  | positive => exact keptOrEmptied_of_keys (by simp [notePositive]; rfl)
  | evidence => exact keptOrEmptied_of_keys (by simp)
  | held | passed => exact keptOrEmptied_of_keys rfl

theorem updateWork_keptOrEmptied (overlay : Bool) (now : Nat) (upd : RgdUpdate)
    (state : RgdState) : KeptOrEmptied state (updateWork overlay now upd state).cached := by
  have debounced : KeptOrEmptied state
      (debounceUpdate upd now { state with haveUpdate := true }).1.1 :=
    (debounceUpdate_case upd now { state with haveUpdate := true }).keptOrEmptied
  obtain ⟨amap, notedEq⟩ := noteUpdate_frame overlay upd
    (debounceUpdate upd now { state with haveUpdate := true }).1.1
  obtain ⟨laneSlot, table, keys, mergedEq⟩ := mergedUpdate_frame upd
    (noteUpdate overlay upd (debounceUpdate upd now { state with haveUpdate := true }).1.1)
  unfold updateWork
  dsimp only
  split_ifs with held empty
  · exact debounced
  · rw [notedEq]
    exact debounced
  · intro slot
    rw [mergedEq]
    dsimp only
    rw [keys, notedEq]
    exact debounced slot

theorem maneuverWork_keys (man : RgdManeuver) (state : RgdState) :
    (maneuverWork man state).cached.lanes = state.lanes := by
  unfold maneuverWork
  dsimp only
  split
  · simp
  · rename_i idx _
    split
    · obtain ⟨maneuvers, storedEq⟩ := storeManeuver_frame idx man (rgdCancelPendingZero state)
      simp [storedEq]
    · simp

theorem laneMessageWork_cached (lane : RgdLaneGuidance) (state : RgdState) :
    (laneMessageWork lane state).cached =
      if lane.laneGuidanceIndex.isNone && lane.laneInformations.isNone then
        rgdCancelPendingZero state
      else storeLane lane (rgdCancelPendingZero state) := by
  unfold laneMessageWork
  dsimp only
  split <;> rfl

theorem laneEventIndex_congr {before after : RgdState} (lane : RgdLaneGuidance)
    (list : after.currentList = before.currentList) :
    laneEventIndex lane after = laneEventIndex lane before := by
  unfold laneEventIndex listedIndexes
  rw [list]

theorem storeLane_keys (lane : RgdLaneGuidance) (state : RgdState) :
    (storeLane lane state).lanes.table.key = (cacheLane lane state).2.lanes.table.key := by
  obtain ⟨table, keys, activeEq⟩ := (activeLaneUpdate_frame (laneEventIndex lane state)
    (cacheLane lane state).1 (cacheLane lane state).2).2
  unfold storeLane activeLane
  split
  · rw [activeEq]
    exact keys
  · rw [activeEq]
    exact keys

/-- The keys of the lane slots after a lane event is stored. -/
theorem cacheLane_keys (lane : RgdLaneGuidance) (state : RgdState) :
    (cacheLane lane state).2.lanes.table.key =
      if lane.laneInformations.isSome ∧ laneEventIndex lane state ≠ emptyIndex then
        Function.update state.lanes.table.key
          (rgdLaneSlotForIapIndex (laneEventIndex lane state) state).1 (laneEventIndex lane state)
      else state.lanes.table.key := by
  unfold cacheLane
  dsimp only
  by_cases stores : lane.laneInformations.isSome ∧ laneEventIndex lane state ≠ emptyIndex
  · rw [if_neg (by simpa [← Option.isSome_iff_ne_none] using stores), if_pos stores]
    obtain ⟨key, others⟩ := rgdLaneSlotForIapIndex_spec (laneEventIndex lane state) state
    funext slot
    by_cases same : slot = (rgdLaneSlotForIapIndex (laneEventIndex lane state) state).1
    · rw [same, Function.update_self]
      exact key
    · rw [Function.update_of_ne same]
      exact (others slot same).1
  · rw [if_pos (by rw [not_and_or] at stores; simpa using stores), if_neg stores]

/-- The slot that a lane index is given. -/
theorem rgdLaneSlotForIapIndex_slot (idx : Nat) (state : RgdState) :
    (rgdLaneSlotForIapIndex idx state).1 =
      match state.lanes.table.find? idx, state.lanes.table.find? emptyIndex with
      | some slot, _ => slot
      | none, some slot => slot
      | none, none => state.lanes.table.victim state.rgdIsActiveLaneIndex := by
  unfold rgdLaneSlotForIapIndex
  cases state.lanes.table.find? idx with
  | some slot => rfl
  | none =>
      cases state.lanes.table.find? emptyIndex with
      | some slot => rfl
      | none => rfl

/-- Finding a slot evicts no active event exactly when there is room. -/
theorem unevicted_iff_room {idx : Nat} {state : RgdState} (named : idx ≠ emptyIndex) :
    (∀ slot, state.lanes.table.key slot ≠ emptyIndex →
        state.rgdIsActiveLaneIndex (state.lanes.table.key slot) = true →
        Function.update state.lanes.table.key (rgdLaneSlotForIapIndex idx state).1 idx slot =
            state.lanes.table.key slot ∨
          Function.update state.lanes.table.key (rgdLaneSlotForIapIndex idx state).1 idx slot =
            emptyIndex) ↔
      (state.lanes.table.find? idx = none → state.lanes.table.find? emptyIndex = none →
        state.lanes.table.HasRoom state.rgdIsActiveLaneIndex) := by
  rw [rgdLaneSlotForIapIndex_slot]
  cases foundEq : state.lanes.table.find? idx with
  | some found =>
      have holds := SlotTable.find?_key foundEq
      simp only [reduceCtorEq, false_implies, iff_true]
      intro slot _ _
      left
      rw [← holds, Function.update_eq_self]
  | none =>
      cases emptyEq : state.lanes.table.find? emptyIndex with
      | some empty =>
          have isVacant := SlotTable.find?_key emptyEq
          simp only [reduceCtorEq, false_implies, implies_true, iff_true]
          intro slot used _
          left
          refine Function.update_of_ne ?_ _ _
          rintro rfl
          exact used isVacant
      | none =>
          dsimp only
          rw [SlotTable.hasRoom_iff]
          simp only [true_implies]
          constructor
          · intro unevicted
            by_contra active
            have kept := unevicted (state.lanes.table.victim state.rgdIsActiveLaneIndex)
              (SlotTable.find?_eq_none.mp emptyEq _) (by simpa using active)
            rw [Function.update_self] at kept
            rcases kept with same | isEmpty
            · exact SlotTable.find?_eq_none.mp foundEq _ same.symm
            · exact named isEmpty
          · intro inactive slot _ active
            left
            refine Function.update_of_ne ?_ _ _
            rintro rfl
            rw [inactive] at active
            cases active

/-- Without a lane to store, a message evicts nothing. -/
theorem frameWork_keptOrEmptied (overlay : Bool) {msgid : Nat} {raw : List UInt8} (now : Nat)
    {state : RgdState} (nothing : storedLaneIndex msgid raw state = none) :
    KeptOrEmptied state (frameWork overlay msgid raw now state).cached := by
  unfold frameWork
  split_ifs with update maneuver lane
  · exact updateWork_keptOrEmptied overlay now _ state
  · exact keptOrEmptied_of_keys (by rw [maneuverWork_keys])
  · rw [laneMessageWork_cached]
    split_ifs
    · exact keptOrEmptied_of_keys (by simp)
    · refine keptOrEmptied_of_keys ?_
      have sameIndex := @laneEventIndex_congr state (rgdCancelPendingZero state)
        (rgdParseLaneGuidance raw) (by simp)
      unfold storedLaneIndex at nothing
      dsimp only at nothing
      rw [storeLane_keys, cacheLane_keys, sameIndex, if_neg, rgdCancelPendingZero_lanes]
      intro stores
      rw [if_pos ⟨lane, stores⟩] at nothing
      cases nothing
  · exact keptOrEmptied_of_keys rfl

theorem rgdIsActiveLaneIndex_congr {before after : RgdState} (laneIdx : Nat)
    (current : after.updateCache.laneGuidanceIndex = before.updateCache.laneGuidanceIndex)
    (list : after.currentList = before.currentList) (maneuvers : after.maneuvers = before.maneuvers) :
    after.rgdIsActiveLaneIndex laneIdx = before.rgdIsActiveLaneIndex laneIdx := by
  unfold rgdIsActiveLaneIndex rgdFindSlotForIapIndexNoTouch listedIndexes
  rw [current, list, maneuvers]

/-- A message that stores a lane event does nothing else to the slots, and
leaves alone what makes an event active. -/
theorem frameWork_stored (overlay : Bool) {msgid : Nat} {raw : List UInt8} (now : Nat)
    {state : RgdState} {idx : Nat} (stored : storedLaneIndex msgid raw state = some idx) :
    idx ≠ emptyIndex ∧
    (frameWork overlay msgid raw now state).cached.lanes.table.key =
      Function.update state.lanes.table.key (rgdLaneSlotForIapIndex idx state).1 idx ∧
    ∀ laneIdx, (listUpdated (frameWork overlay msgid raw now state)).rgdIsActiveLaneIndex laneIdx =
      state.rgdIsActiveLaneIndex laneIdx := by
  have sameIndex := @laneEventIndex_congr state (rgdCancelPendingZero state)
    (rgdParseLaneGuidance raw) (by simp)
  unfold storedLaneIndex at stored
  dsimp only at stored
  split_ifs at stored with stores
  obtain ⟨rfl, hasLanes, named⟩ := stores
  obtain rfl := Option.some.inj stored
  obtain ⟨lanes, laneSlot, storedEq⟩ :=
    storeLane_frame (rgdParseLaneGuidance raw) (rgdCancelPendingZero state)
  have work : frameWork overlay iap2MsgRouteGuidanceLane raw now state =
      laneMessageWork (rgdParseLaneGuidance raw) state := by
    simp [frameWork, iap2MsgRouteGuidanceLane, iap2MsgRouteGuidanceManeuver,
      iap2MsgRouteGuidanceUpdate]
  have named' : laneEventIndex (rgdParseLaneGuidance raw) (rgdCancelPendingZero state) ≠
      emptyIndex := by rw [sameIndex]; exact named
  rw [work]
  unfold laneMessageWork listUpdated
  dsimp only
  rw [if_neg (by simp [Option.isSome_iff_ne_none.mp hasLanes])]
  refine ⟨named, ?_, fun laneIdx => ?_⟩
  · dsimp only
    rw [storeLane_keys, cacheLane_keys, if_pos ⟨hasLanes, named'⟩, sameIndex]
    simp only [rgdCancelPendingZero_lanes]
    rw [rgdLaneSlotForIapIndex_slot, rgdLaneSlotForIapIndex_slot, rgdCancelPendingZero_lanes]
    have active : (rgdCancelPendingZero state).rgdIsActiveLaneIndex =
        state.rgdIsActiveLaneIndex := by
      funext other
      exact rgdIsActiveLaneIndex_congr other (by simp) (by simp) (by simp)
    rw [active]
  · refine rgdIsActiveLaneIndex_congr laneIdx ?_ ?_ ?_
    · dsimp only
      rw [storedEq]
      simp
    · dsimp only
      rw [storedEq, listAfter]
      split_ifs
      · simp
      · have noList := activeLane_maneuverList (rgdParseLaneGuidance raw)
          (rgdCancelPendingZero state)
        simp only [Option.join_some]
        rw [noList]
        simp
    · dsimp only
      rw [storedEq]
      simp

theorem frameWork_unevicted_iff (overlay : Bool) (msgid : Nat) (raw : List UInt8) (now : Nat)
    (state : RgdState) :
    (∀ slot, HoldsActiveLane (frameWork overlay msgid raw now state) state slot →
        (frameWork overlay msgid raw now state).cached.lanes.table.key slot =
            state.lanes.table.key slot ∨
          (frameWork overlay msgid raw now state).cached.lanes.table.key slot = emptyIndex) ↔
      ∀ idx ∈ storedLaneIndex msgid raw state,
        state.lanes.table.find? idx = none → state.lanes.table.find? emptyIndex = none →
          state.lanes.table.HasRoom state.rgdIsActiveLaneIndex := by
  cases storedEq : storedLaneIndex msgid raw state with
  | none =>
      simp only [Option.not_mem_none, false_implies, implies_true, iff_true]
      exact fun slot _ => frameWork_keptOrEmptied overlay now storedEq slot
  | some idx =>
      obtain ⟨named, keys, active⟩ := frameWork_stored overlay now storedEq
      simp only [Option.mem_some_iff, forall_eq']
      rw [← unevicted_iff_room named]
      unfold HoldsActiveLane
      simp only [keys, active, and_imp]

theorem updateWork_filled (overlay : Bool) (now : Nat) (upd : RgdUpdate) {state : RgdState}
    (ready : SnapshotReady state) :
    LanesFilled (updateWork overlay now upd state).cached.lanes := by
  have debounced : SnapshotReady (debounceUpdate upd now { state with haveUpdate := true }).1.1 :=
    (debounceUpdate_case upd now { state with haveUpdate := true }).ready (ready.congr rfl rfl)
  obtain ⟨amap, notedEq⟩ := noteUpdate_frame overlay upd
    (debounceUpdate upd now { state with haveUpdate := true }).1.1
  obtain ⟨laneSlot, table, keys, mergedEq⟩ := mergedUpdate_frame upd
    (noteUpdate overlay upd (debounceUpdate upd now { state with haveUpdate := true }).1.1)
  have noted : LanesFilled (noteUpdate overlay upd
      (debounceUpdate upd now { state with haveUpdate := true }).1.1).lanes := by
    rw [notedEq]
    exact debounced.filled
  unfold updateWork
  dsimp only
  split_ifs with held empty
  · exact debounced.filled
  · exact noted
  · rw [mergedEq]
    exact noted.touched keys

theorem frameWork_filled (overlay : Bool) (msgid : Nat) (raw : List UInt8) (now : Nat)
    {state : RgdState} (ready : SnapshotReady state) :
    LanesFilled (frameWork overlay msgid raw now state).cached.lanes := by
  have cancelled : SnapshotReady (rgdCancelPendingZero state) := ready.congr (by simp) (by simp)
  unfold frameWork
  split_ifs
  · exact updateWork_filled overlay now _ ready
  · rw [maneuverWork_keys]
    exact ready.filled
  · rw [laneMessageWork_cached]
    split_ifs
    · exact cancelled.filled
    · exact (storeLane_ready _ cancelled).filled
  · exact ready.filled

theorem keepsActiveLanes_iff (overlay : Bool) (msgid : Nat) (raw : List UInt8) (now : Nat)
    (stack : RgdKey → List UInt8) {state : RgdState} (ready : SnapshotReady state) :
    KeepsActiveLanes state (frameWork overlay msgid raw now state)
        (handleFrame overlay msgid raw now stack state).1 ↔
      LanesSafe msgid raw state (frameWork overlay msgid raw now state) := by
  have evictions := frameWork_unevicted_iff overlay msgid raw now state
  have prunings := unpruned_iff_ahead (frameWork_filled overlay msgid raw now ready)
    (handleFrame_work overlay msgid raw now stack state)
  constructor
  · rintro ⟨unevicted, unpruned⟩
    exact ⟨evictions.mp unevicted, prunings.mp unpruned⟩
  · rintro ⟨room, ahead⟩
    exact ⟨evictions.mpr room, prunings.mpr ahead⟩

end RgdState

/-- The first message finds empty lane slots. -/
theorem rgdLazyInit_ready {overlay : Bool} {state : RgdState} {history : List HookEvent}
    (run : (rgdHook overlay).Run state history) : SnapshotReady (rgdLazyInit overlay state).1 := by
  unfold rgdLazyInit
  split
  · rename_i initialized
    rcases rgdHook_ready run with ready | ⟨fresh, -⟩
    · exact ready
    · rw [fresh] at initialized
      cases initialized
  · exact rgdClearState_ready overlay .init _

/-- In every reachable state, every next message keeps the active lane events
exactly when they are safe from it. -/
theorem active_lanes_kept_iff {overlay : Bool} {state : RgdState} {history : List HookEvent}
    (run : (rgdHook overlay).Run state history) (msgid : Nat) (raw : List UInt8) (now : Nat)
    (stack : RgdKey → List UInt8) :
    KeepsActiveLanes (rgdLazyInit overlay state).1
        (frameWork overlay msgid raw now (rgdLazyInit overlay state).1)
        (rgdHookStep overlay (.message msgid raw now stack) state).1 ↔
      LanesSafe msgid raw (rgdLazyInit overlay state).1
        (frameWork overlay msgid raw now (rgdLazyInit overlay state).1) :=
  keepsActiveLanes_iff overlay msgid raw now stack (rgdLazyInit_ready run)

/-- A 0x5202 with an index, a type and a linked lane index. -/
def linkedManeuverFrame (index type linked : UInt8) : List UInt8 :=
  [0x40, 0x40, 0, 23, 0x52, 0x02, 0, 6, 0, 1, 0, index, 0, 5, 0, 3, type, 0, 6, 0, 0x0C, 0, linked]

/-- The messages before a list moves past a lane event that is still linked. -/
def linkedLaneLabels : List HookLabel :=
  [.message 0x5201 (listFrame 1 0 3) 1 fun _ => [],
    .message 0x5202 (linkedManeuverFrame 5 1 3) 2 fun _ => [],
    .message 0x5204 (laneEventFrame 0 3) 3 fun _ => []]

/-- The cached lane event 3 is linked by maneuver 5, and is pruned by the
message that lists this maneuver. -/
theorem linked_lane_pruned : ∃ state history, (rgdHook false).Run state history ∧
    (rgdLazyInit false state).1.lanes.table.key 0 = 3 ∧
    ¬ KeepsActiveLanes (rgdLazyInit false state).1
        (frameWork false 0x5201 (listFrame 1 0 5) 4 (rgdLazyInit false state).1)
        (rgdHookStep false (.message 0x5201 (listFrame 1 0 5) 4 fun _ => []) state).1 := by
  obtain ⟨state, history, run, checked⟩ := (rgdHook false).exists_run_of_replay linkedLaneLabels
    (fun result =>
      let work := frameWork false 0x5201 (listFrame 1 0 5) 4 (rgdLazyInit false result.1).1
      decide ((rgdLazyInit false result.1).1.lanes.table.key 0 = 3) &&
        decide (work.cached.lanes.table.key 0 = 3) && (listUpdated work).rgdIsActiveLaneIndex 3 &&
        decide ((rgdHookStep false (.message 0x5201 (listFrame 1 0 5) 4 fun _ => [])
          result.1).1.lanes.table.key 0 = emptyIndex))
    (by decide +kernel)
  simp only [Bool.and_eq_true, decide_eq_true_eq] at checked
  obtain ⟨⟨⟨cached, work⟩, active⟩, emptied⟩ := checked
  refine ⟨state, history, run, cached, fun keeps => ?_⟩
  have kept := (keeps.unpruned 0 ⟨by rw [work]; decide, by rw [work]; exact active⟩).1
  rw [emptied, work] at kept
  cases kept

/-- A list that does not move keeps its lane event. -/
theorem active_lanes_kept_by_same_list : ∃ state history, (rgdHook false).Run state history ∧
    (rgdLazyInit false state).1.lanes.table.key 0 = 3 ∧
    KeepsActiveLanes (rgdLazyInit false state).1
      (frameWork false 0x5201 (listFrame 1 0 3) 4 (rgdLazyInit false state).1)
      (rgdHookStep false (.message 0x5201 (listFrame 1 0 3) 4 fun _ => []) state).1 := by
  obtain ⟨state, history, run, checked⟩ := (rgdHook false).exists_run_of_replay linkedLaneLabels
    (fun result =>
      let work := frameWork false 0x5201 (listFrame 1 0 3) 4 (rgdLazyInit false result.1).1
      decide ((rgdLazyInit false result.1).1.lanes.table.key 0 = 3) &&
        decide (∀ slot, work.cached.lanes.table.key slot ≠ emptyIndex →
          work.cached.lanes.table.key slot = 3) &&
        decide (work.cached.listedIndexes = [3]) && decide ((listUpdated work).listedIndexes = [3]))
    (by decide +kernel)
  simp only [Bool.and_eq_true, decide_eq_true_eq] at checked
  obtain ⟨⟨⟨cached, only⟩, oldList⟩, newList⟩ := checked
  refine ⟨state, history, run, cached,
    (active_lanes_kept_iff run 0x5201 (listFrame 1 0 3) 4 fun _ => []).mpr ⟨?_, ?_⟩⟩
  · simp [storedLaneIndex, iap2MsgRouteGuidanceLane]
  · intro _ _ slot active _
    rw [oldList, newList, only slot active.1]
    simp

end CarplayRgi
