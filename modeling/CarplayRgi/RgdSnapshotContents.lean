import CarplayRgi.RgdHookSnapshot

/-!
# What a snapshot contains

The readers of a frame take the first record with a key.  This file computes
that record for every key of a snapshot, and states once which parts of the
state the snapshot writer changes: the lane slots, the current list and the
alignment flag of the overlay, and nothing else.
-/

namespace CarplayRgi

/-- The value of the first record with a key. -/
def valueOf (records : List RgdRecord) (key : RgdKey) : Option BusValue :=
  (records.find? fun record => decide (record.key = key)).map RgdRecord.value

@[simp]
theorem valueOf_nil (key : RgdKey) : valueOf [] key = none := rfl

@[simp]
theorem valueOf_append (first second : List RgdRecord) (key : RgdKey) :
    valueOf (first ++ second) key = (valueOf first key).or (valueOf second key) := by
  simp only [valueOf, List.find?_append]
  cases first.find? fun record => decide (record.key = key) <;> rfl

theorem valueOf_cons (record : RgdRecord) (records : List RgdRecord) (key : RgdKey) :
    valueOf (record :: records) key =
      if record.key = key then some record.value else valueOf records key := by
  simp only [valueOf, List.find?_cons]
  split_ifs <;> simp_all

theorem valueOf_eq_none {records : List RgdRecord} {key : RgdKey}
    (absent : ∀ record ∈ records, record.key ≠ key) : valueOf records key = none := by
  simpa [valueOf, List.find?_eq_none] using absent

namespace RgdState

@[simp]
theorem valueOf_numberRecord (key wanted : RgdKey) (value : Int) (records : List RgdRecord) :
    valueOf (numberRecord key value :: records) wanted =
      if key = wanted then some (.num value) else valueOf records wanted :=
  valueOf_cons _ _ _

@[simp]
theorem valueOf_stringRecord (key wanted : RgdKey) (value : List UInt8)
    (records : List RgdRecord) :
    valueOf (stringRecord key value :: records) wanted =
      if key = wanted then some (.str value) else valueOf records wanted :=
  valueOf_cons _ _ _

@[simp]
theorem valueOf_presentNumber (key wanted : RgdKey) (value : Option Int) :
    valueOf (presentNumber key value) wanted =
      if key = wanted then value.map .num else none := by
  cases value <;> simp [presentNumber]

@[simp]
theorem valueOf_presentNat (key wanted : RgdKey) (value : Option Nat) :
    valueOf (presentNat key value) wanted =
      if key = wanted then value.map fun number => .num number else none := by
  cases value <;> simp [presentNat]

@[simp]
theorem valueOf_presentString (key wanted : RgdKey) (value : Option (List UInt8)) :
    valueOf (presentString key value) wanted =
      if key = wanted then value.map .str else none := by
  cases value <;> simp [presentString]

/-- The second state is the first with other stamps on its lane slots. -/
def LaneTouched (before after : RgdState) : Prop :=
  ∃ table : SlotTable Nat maneuverCacheSize (2 ^ 32), table.key = before.lanes.table.key ∧
    after = { before with lanes := { before.lanes with table := table } }

theorem LaneTouched.refl (state : RgdState) : LaneTouched state state :=
  ⟨state.lanes.table, rfl, rfl⟩

theorem LaneTouched.trans {first second third : RgdState}
    (firstTouched : LaneTouched first second) (secondTouched : LaneTouched second third) :
    LaneTouched first third := by
  obtain ⟨middle, middleKeys, rfl⟩ := firstTouched
  obtain ⟨last, lastKeys, rfl⟩ := secondTouched
  exact ⟨last, lastKeys.trans middleKeys, rfl⟩

theorem LaneTouched.find? {before after : RgdState} (touched : LaneTouched before after)
    (idx : Nat) : after.lanes.table.find? idx = before.lanes.table.find? idx := by
  obtain ⟨table, keys, rfl⟩ := touched
  exact SlotTable.find?_congr keys idx

@[simp]
theorem rgdLookupLaneSlot_fst (idx : Nat) (state : RgdState) :
    (rgdLookupLaneSlot idx state).1 = state.lanes.table.find? idx := by
  unfold rgdLookupLaneSlot
  split <;> simp [*]

theorem rgdLookupLaneSlot_touched (idx : Nat) (state : RgdState) :
    LaneTouched state (rgdLookupLaneSlot idx state).2 := by
  unfold rgdLookupLaneSlot
  split
  · exact .refl state
  · exact ⟨_, SlotTable.touch_key _ _, rfl⟩

theorem linkedLaneKeys_touched (slot : Slot) (man : RgdManeuver) (state : RgdState) :
    LaneTouched state (linkedLaneKeys slot man state).2 := by
  unfold linkedLaneKeys
  split
  · exact .refl state
  · exact rgdLookupLaneSlot_touched _ state

theorem writeSlotDataKeys_touched (stack : RgdKey → List UInt8) (slot : Slot) (man : RgdManeuver)
    (state : RgdState) : LaneTouched state (writeSlotDataKeys stack slot man state).2 := by
  have same : (writeSlotDataKeys stack slot man state).2 = (linkedLaneKeys slot man state).2 := by
    unfold writeSlotDataKeys
    dsimp only
  rw [same]
  exact linkedLaneKeys_touched slot man state

theorem writeListedSlots_touched (stack : RgdKey → List UInt8) (slots : List Slot)
    (state : RgdState) : LaneTouched state (writeListedSlots stack slots state).2 := by
  induction slots generalizing state with
  | nil => exact .refl state
  | cons slot slots ih =>
      simp only [writeListedSlots]
      split_ifs
      · exact ih state
      · exact (writeSlotDataKeys_touched stack slot _ state).trans (ih _)

theorem laneSlotKeys_touched (upd : RgdUpdate) (state : RgdState) :
    LaneTouched state (laneSlotKeys upd state).2 := by
  unfold laneSlotKeys
  split
  · exact rgdLookupLaneSlot_touched _ state
  · exact .refl state

theorem writeRouteKeys_touched (state : RgdState) :
    LaneTouched state (writeRouteKeys state).2 :=
  laneSlotKeys_touched state.updateCache state

/-- Pruning changes the lane slots only. -/
theorem rgdPruneStaleLaneCache_eq (state : RgdState) :
    ∃ lanes, (rgdPruneStaleLaneCache state).2 = { state with lanes := lanes } := by
  unfold rgdPruneStaleLaneCache
  split
  · exact ⟨state.lanes, rfl⟩
  · split
    · exact ⟨state.lanes, rfl⟩
    · exact ⟨_, rfl⟩

/-- The current list after a snapshot. -/
def listAfter (currentUpd : Option RgdUpdate) (state : RgdState) : Option (List Nat) :=
  ((currentUpd.bind RgdUpdate.maneuverList).map (List.take maxManeuverList)).or state.currentList

theorem adoptManeuverList_eq (currentUpd : Option RgdUpdate) (state : RgdState) :
    ∃ highest, adoptManeuverList currentUpd state =
      { state with currentList := listAfter currentUpd state, highestListIndex := highest } := by
  unfold adoptManeuverList listAfter
  cases currentUpd.bind RgdUpdate.maneuverList with
  | none => exact ⟨state.highestListIndex, rfl⟩
  | some list => exact ⟨_, rfl⟩

/-- The state after a snapshot, up to the lane slots and the list maximum. -/
structure SnapshotStep (overlay : Bool) (currentUpd : Option RgdUpdate)
    (before after : RgdState) : Prop where
  initialized : after.initialized = before.initialized
  haveUpdate : after.haveUpdate = before.haveUpdate
  zero : after.zero = before.zero
  maneuvers : after.maneuvers = before.maneuvers
  updateCache : after.updateCache = before.updateCache
  currentList : after.currentList = listAfter currentUpd before
  amap : after.amap =
    if overlay then { before.amap with headAligned := before.amapHeadIsAligned } else before.amap

theorem refreshOverlay_amap (overlay : Bool) (state : RgdState) :
    (refreshOverlay overlay state).amap =
      if overlay then { state.amap with headAligned := state.amapHeadIsAligned } else state.amap := by
  cases overlay <;> rfl

theorem listedState_step (overlay : Bool) (currentUpd : Option RgdUpdate) (state : RgdState) :
    SnapshotStep overlay currentUpd state (listedState overlay currentUpd state) := by
  unfold listedState
  obtain ⟨table, -, routedEq⟩ := writeRouteKeys_touched (refreshOverlay overlay state)
  obtain ⟨highest, adoptedEq⟩ :=
    adoptManeuverList_eq currentUpd (writeRouteKeys (refreshOverlay overlay state)).2
  obtain ⟨lanes, prunedEq⟩ := rgdPruneStaleLaneCache_eq
    (adoptManeuverList currentUpd (writeRouteKeys (refreshOverlay overlay state)).2)
  rw [prunedEq, adoptedEq, routedEq]
  cases overlay <;> constructor <;> rfl

theorem SnapshotStep.laneTouched {overlay : Bool} {currentUpd : Option RgdUpdate}
    {before middle after : RgdState} (step : SnapshotStep overlay currentUpd before middle)
    (touched : LaneTouched middle after) : SnapshotStep overlay currentUpd before after := by
  obtain ⟨table, -, rfl⟩ := touched
  obtain ⟨initialized, haveUpdate, zero, maneuvers, updateCache, currentList, amap⟩ := step
  exact ⟨initialized, haveUpdate, zero, maneuvers, updateCache, currentList, amap⟩

theorem snapshotRecords_step (overlay : Bool) (stack : RgdKey → List UInt8)
    (currentUpd : Option RgdUpdate) (state : RgdState) :
    SnapshotStep overlay currentUpd state (snapshotRecords overlay stack currentUpd state).2 :=
  (listedState_step overlay currentUpd state).laneTouched (writeListedSlots_touched stack _ _)

theorem rgdPruneStaleLaneCache_step (overlay : Bool) (currentUpd : Option RgdUpdate)
    {state after : RgdState}
    (step : SnapshotStep overlay currentUpd (rgdPruneStaleLaneCache state).2 after) :
    SnapshotStep overlay currentUpd state after := by
  obtain ⟨lanes, prunedEq⟩ := rgdPruneStaleLaneCache_eq state
  rw [prunedEq] at step
  obtain ⟨initialized, haveUpdate, zero, maneuvers, updateCache, currentList, amap⟩ := step
  exact ⟨initialized, haveUpdate, zero, maneuvers, updateCache, currentList, amap⟩

/-- A snapshot is skipped when there is nothing to tell, and else sent or lost. -/
theorem writeBusSnapshotFromCache_cases (overlay : Bool) (stack : RgdKey → List UInt8)
    (extraMan : Option RgdManeuver) (currentUpd : Option RgdUpdate) (state : RgdState) :
    (state.updateCache = {} ∧
      writeBusSnapshotFromCache overlay stack extraMan currentUpd state =
        ((rgdPruneStaleLaneCache state).2, [])) ∨
    writeBusSnapshotFromCache overlay stack extraMan currentUpd state =
      ((snapshotRecords overlay stack currentUpd (rgdPruneStaleLaneCache state).2).2,
        sendSnapshot (snapshotRecords overlay stack currentUpd (rgdPruneStaleLaneCache state).2).2
          (snapshotRecords overlay stack currentUpd (rgdPruneStaleLaneCache state).2).1) := by
  simp only [writeBusSnapshotFromCache]
  split
  · rename_i skipped
    left
    obtain ⟨lanes, prunedEq⟩ := rgdPruneStaleLaneCache_eq state
    simp only [prunedEq, Bool.and_eq_true, decide_eq_true_eq] at skipped
    exact ⟨skipped.1.1.1, rfl⟩
  · exact .inr rfl

theorem sendSnapshot_cases (state : RgdState) (records : List RgdRecord) :
    sendSnapshot state records = [.overflowed] ∨
      sendSnapshot state records = [.snapshot state records] := by
  unfold sendSnapshot
  split
  · exact .inl rfl
  · exact .inr rfl

theorem sendSnapshot_of_fits {records : List RgdRecord}
    (fits : (frameText records).length ≤ busTextBuilderLargeCap) (state : RgdState) :
    sendSnapshot state records = [.snapshot state records] := by
  unfold sendSnapshot
  rw [busSendText_buildFrame, if_pos fits]

theorem key_of_mem_presentNumber {key : RgdKey} {value : Option Int} {record : RgdRecord}
    (member : record ∈ presentNumber key value) : record.key = key := by
  simp only [presentNumber, List.mem_map] at member
  obtain ⟨number, -, rfl⟩ := member
  rfl

theorem key_of_mem_presentNat {key : RgdKey} {value : Option Nat} {record : RgdRecord}
    (member : record ∈ presentNat key value) : record.key = key :=
  key_of_mem_presentNumber member

theorem key_of_mem_presentString {key : RgdKey} {value : Option (List UInt8)}
    {record : RgdRecord} (member : record ∈ presentString key value) : record.key = key := by
  simp only [presentString, List.mem_map] at member
  obtain ⟨bytes, -, rfl⟩ := member
  rfl

theorem key_of_mem_linkedLaneKeys {slot : Slot} {man : RgdManeuver} {state : RgdState}
    {record : RgdRecord} (member : record ∈ (linkedLaneKeys slot man state).1) :
    ∃ key, record.key = .maneuver slot key := by
  unfold linkedLaneKeys at member
  split at member
  · simp at member
  · rcases List.mem_cons.mp member with rfl | inSlot
    · exact ⟨_, rfl⟩
    · exact ⟨_, key_of_mem_presentNumber inSlot⟩

theorem key_of_mem_maneuverLaneKeys {stack : RgdKey → List UInt8} {slot : Slot}
    {man : RgdManeuver} {record : RgdRecord}
    (member : record ∈ maneuverLaneKeys stack slot man) : ∃ key, record.key = .maneuver slot key := by
  unfold maneuverLaneKeys at member
  split at member
  · simp only [List.mem_cons, List.not_mem_nil, or_false] at member
    rcases member with rfl | rfl | rfl | rfl | rfl | rfl <;> exact ⟨_, rfl⟩
  · simp only [List.mem_cons, List.not_mem_nil, or_false] at member
    rcases member with rfl | rfl | rfl | rfl | rfl | rfl <;> exact ⟨_, rfl⟩
  · simp at member

theorem key_of_mem_writeSlotDataKeys {stack : RgdKey → List UInt8} {slot : Slot}
    {man : RgdManeuver} {state : RgdState} {record : RgdRecord}
    (member : record ∈ (writeSlotDataKeys stack slot man state).1) :
    ∃ key, record.key = .maneuver slot key := by
  simp only [writeSlotDataKeys, maneuverDataKeys, List.mem_append, List.mem_singleton] at member
  rcases member with (((dataKeys | linked) | lanes) | exitLen) | exitInfo
  · rcases dataKeys with ((((((((((((a | a) | a) | a) | a) | a) | a) | a) | a) | a) | a) | a) | a)
    all_goals
      first
      | exact ⟨_, key_of_mem_presentNat a⟩
      | exact ⟨_, key_of_mem_presentNumber a⟩
      | exact ⟨_, key_of_mem_presentString a⟩
      | exact ⟨_, congrArg RgdRecord.key a⟩
  · exact key_of_mem_linkedLaneKeys linked
  · exact key_of_mem_maneuverLaneKeys lanes
  · exact ⟨_, key_of_mem_presentNat exitLen⟩
  · exact ⟨_, key_of_mem_presentString exitInfo⟩

theorem key_of_mem_writeListedSlots {stack : RgdKey → List UInt8} {slots : List Slot}
    {state : RgdState} {record : RgdRecord}
    (member : record ∈ (writeListedSlots stack slots state).1) :
    ∃ slot ∈ slots, ∃ key, record.key = .maneuver slot key := by
  induction slots generalizing state with
  | nil => simp [writeListedSlots] at member
  | cons slot slots ih =>
      simp only [writeListedSlots, List.mem_append] at member
      rcases member with inSlot | inRest
      · split_ifs at inSlot
        · simp at inSlot
        · exact ⟨slot, List.mem_cons_self, key_of_mem_writeSlotDataKeys inSlot⟩
      · obtain ⟨other, inSlots, key⟩ := ih inRest
        exact ⟨other, List.mem_cons_of_mem slot inSlots, key⟩

theorem key_of_mem_writeLaneDataKeys {stack : RgdKey → List UInt8} {slot : Slot}
    {lane : RgdLaneGuidance} {record : RgdRecord}
    (member : record ∈ writeLaneDataKeys stack slot lane) : ∃ key, record.key = .lane slot key := by
  unfold writeLaneDataKeys at member
  split at member
  · simp only [List.mem_cons, List.not_mem_nil, or_false] at member
    rcases member with rfl | rfl | rfl | rfl | rfl | rfl | rfl <;> exact ⟨_, rfl⟩
  · simp at member

theorem key_of_mem_writeLaneClearKeys {slot : Slot} {record : RgdRecord}
    (member : record ∈ writeLaneClearKeys slot) : ∃ key, record.key = .lane slot key := by
  simp only [writeLaneClearKeys, List.mem_cons, List.not_mem_nil, or_false] at member
  rcases member with rfl | rfl | rfl | rfl | rfl | rfl | rfl <;> exact ⟨_, rfl⟩

theorem key_of_mem_laneRecords {stack : RgdKey → List UInt8} {state : RgdState} {record : RgdRecord}
    (member : record ∈ laneRecords stack state) : ∃ slot key, record.key = .lane slot key := by
  simp only [laneRecords, List.mem_flatMap] at member
  obtain ⟨slot, -, inSlot⟩ := member
  split_ifs at inSlot
  · exact ⟨slot, key_of_mem_writeLaneDataKeys inSlot⟩
  · exact ⟨slot, key_of_mem_writeLaneClearKeys inSlot⟩

theorem key_of_mem_laneSlotKeys {upd : RgdUpdate} {state : RgdState} {record : RgdRecord}
    (member : record ∈ (laneSlotKeys upd state).1) :
    record.key = .route .laneGuidanceSlot := by
  unfold laneSlotKeys at member
  split at member
  · exact congrArg RgdRecord.key (List.mem_singleton.mp member)
  · exact key_of_mem_presentNumber member

@[simp]
theorem valueOf_laneSlotKeys_of_ne {upd : RgdUpdate} {state : RgdState} {key : RgdKey}
    (other : RgdKey.route .laneGuidanceSlot ≠ key) : valueOf (laneSlotKeys upd state).1 key = none :=
  valueOf_eq_none fun _ member => key_of_mem_laneSlotKeys member ▸ other

@[simp]
theorem valueOf_componentKeys_of_ne {ids : Option (List Nat)} {key : RgdKey}
    (count : RgdKey.route .componentCount ≠ key) (list : RgdKey.route .componentIds ≠ key) :
    valueOf (componentKeys ids) key = none := by
  cases ids <;> simp [componentKeys, count, list]

/-- A route key of a snapshot is written by the overlay, by the cached update
or by the maneuver list. -/
theorem valueOf_snapshotRecords_route (overlay : Bool) (stack : RgdKey → List UInt8)
    (currentUpd : Option RgdUpdate) (state : RgdState) (key : RouteKey) :
    valueOf (snapshotRecords overlay stack currentUpd state).1 (.route key) =
      ((valueOf (overlayKeys overlay (refreshOverlay overlay state)) (.route key)).or
        (valueOf (writeRouteKeys (refreshOverlay overlay state)).1 (.route key))).or
      (valueOf (listedState overlay currentUpd state).listKeys (.route key)) := by
  simp only [snapshotRecords]
  generalize listedState overlay currentUpd state = listed
  have noSlots : valueOf (writeListedSlots stack listed.listedSlots listed).1 (.route key) = none :=
    valueOf_eq_none fun record member equal => by
      obtain ⟨slot, -, other, keyEq⟩ := key_of_mem_writeListedSlots member
      simp [keyEq] at equal
  have noLanes : valueOf ((writeListedSlots stack listed.listedSlots listed).2.laneRecords stack)
      (.route key) = none :=
    valueOf_eq_none fun record member equal => by
      obtain ⟨slot, other, keyEq⟩ := key_of_mem_laneRecords member
      simp [keyEq] at equal
  simp only [valueOf_append, noSlots, noLanes, Option.or_none]

theorem valueOf_overlayKeys_of_ne {overlay : Bool} {state : RgdState} {key : RgdKey}
    (absent : valueOf state.amapKeys key = none) : valueOf (overlayKeys overlay state) key = none := by
  cases overlay
  · rfl
  · exact absent

theorem valueOf_listKeys_of_ne {state : RgdState} {key : RgdKey}
    (other : RgdKey.route .maneuverList ≠ key) : valueOf state.listKeys key = none := by
  unfold listKeys
  split_ifs <;> simp [maneuverListRecord, other]

@[simp]
theorem refreshOverlay_updateCache (overlay : Bool) (state : RgdState) :
    (refreshOverlay overlay state).updateCache = state.updateCache := by
  cases overlay <;> rfl

/-- The published route state is the cached one. -/
theorem valueOf_snapshotRecords_routeState (overlay : Bool) (stack : RgdKey → List UInt8)
    (currentUpd : Option RgdUpdate) (state : RgdState) :
    valueOf (snapshotRecords overlay stack currentUpd state).1 (.route .routeState) =
      state.updateCache.routeState.map fun routeState => .num routeState := by
  rw [valueOf_snapshotRecords_route, valueOf_overlayKeys_of_ne (by simp [amapKeys]),
    valueOf_listKeys_of_ne (by simp)]
  simp [writeRouteKeys, routeHeadKeys, routeTailKeys]

end RgdState

end CarplayRgi
