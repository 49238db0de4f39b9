import CarplayRgi.RgdSnapshotContents
import CarplayRgi.RgdHookCases

/-!
# The slot keys of a snapshot

A snapshot shows the cached maneuver of every slot of its maneuver list and
the lanes of every lane slot.  Every snapshot event of the hook was built by
`snapshotRecords`, so these values describe each published frame by the state
it leaves behind.
-/

namespace CarplayRgi

namespace RgdState

theorem LaneTouched.maneuvers {before after : RgdState} (touched : LaneTouched before after) :
    after.maneuvers = before.maneuvers := by
  obtain ⟨table, -, rfl⟩ := touched
  rfl

theorem LaneTouched.currentList {before after : RgdState} (touched : LaneTouched before after) :
    after.currentList = before.currentList := by
  obtain ⟨table, -, rfl⟩ := touched
  rfl

theorem LaneTouched.laneCache {before after : RgdState} (touched : LaneTouched before after) :
    after.lanes.laneCache = before.lanes.laneCache := by
  obtain ⟨table, -, rfl⟩ := touched
  rfl

theorem LaneTouched.listedSlots {before after : RgdState} (touched : LaneTouched before after) :
    after.listedSlots = before.listedSlots := by
  obtain ⟨table, -, rfl⟩ := touched
  rfl

theorem LaneTouched.updateCache {before after : RgdState} (touched : LaneTouched before after) :
    after.updateCache = before.updateCache := by
  obtain ⟨table, -, rfl⟩ := touched
  rfl

theorem linkedLaneKeys_congr {before after : RgdState} (touched : LaneTouched before after)
    (slot : Slot) (man : RgdManeuver) :
    (linkedLaneKeys slot man after).1 = (linkedLaneKeys slot man before).1 := by
  unfold linkedLaneKeys
  split
  · rfl
  · simp only [rgdLookupLaneSlot_fst, touched.find?]

/-- The keys of a slot do not depend on the stamps of the lane slots. -/
theorem writeSlotDataKeys_congr {before after : RgdState} (touched : LaneTouched before after)
    (stack : RgdKey → List UInt8) (slot : Slot) (man : RgdManeuver) :
    (writeSlotDataKeys stack slot man after).1 = (writeSlotDataKeys stack slot man before).1 := by
  simp only [writeSlotDataKeys, linkedLaneKeys_congr touched, maneuverDataKeys, publishedVer,
    touched.maneuvers]

theorem valueOf_writeSlotDataKeys_of_ne {stack : RgdKey → List UInt8} {slot other : Slot}
    {man : RgdManeuver} {state : RgdState} {key : ManeuverKey} (different : other ≠ slot) :
    valueOf (writeSlotDataKeys stack other man state).1 (.maneuver slot key) = none :=
  valueOf_eq_none fun record member equal => by
    obtain ⟨written, keyEq⟩ := key_of_mem_writeSlotDataKeys member
    rw [keyEq] at equal
    cases equal
    exact different rfl

theorem valueOf_writeListedSlots (stack : RgdKey → List UInt8) (slots : List Slot)
    (state : RgdState) (slot : Slot) (key : ManeuverKey) :
    valueOf (writeListedSlots stack slots state).1 (.maneuver slot key) =
      if slot ∈ slots ∧ state.maneuvers.slotCache slot ≠ {} then
        valueOf (writeSlotDataKeys stack slot (state.maneuvers.slotCache slot) state).1
          (.maneuver slot key)
      else none := by
  induction slots generalizing state with
  | nil => simp [writeListedSlots]
  | cons other slots ih =>
      simp only [writeListedSlots, valueOf_append]
      have touched : LaneTouched state
          (if state.maneuvers.slotCache other = {} then ([], state)
            else writeSlotDataKeys stack other (state.maneuvers.slotCache other) state).2 := by
        split_ifs
        · exact .refl state
        · exact writeSlotDataKeys_touched stack other _ state
      rw [ih, touched.maneuvers, writeSlotDataKeys_congr touched]
      by_cases same : other = slot
      · subst same
        by_cases empty : state.maneuvers.slotCache other = {}
        · simp [empty]
        · by_cases later : other ∈ slots
          · simp [empty, later]
          · simp [empty, later]
      · have written : valueOf
            (if state.maneuvers.slotCache other = {} then ([], state)
              else writeSlotDataKeys stack other (state.maneuvers.slotCache other) state).1
            (.maneuver slot key) = none := by
          split_ifs
          · rfl
          · exact valueOf_writeSlotDataKeys_of_ne same
        rw [written, Option.none_or]
        simp [List.mem_cons, Ne.symm same]

theorem maneuverType_of_mem_listedSlots {state : RgdState} {slot : Slot}
    (listed : slot ∈ state.listedSlots) :
    ∃ idx ∈ state.listedIndexes, state.maneuvers.table.find? idx = some slot ∧
      (state.maneuvers.slotCache slot).maneuverType.isSome = true := by
  simp only [listedSlots, List.mem_filterMap] at listed
  obtain ⟨idx, isListed, found⟩ := listed
  rw [Option.filter_eq_some_iff] at found
  exact ⟨idx, isListed, found.1, found.2⟩

theorem slotCache_ne_of_mem_listedSlots {state : RgdState} {slot : Slot}
    (listed : slot ∈ state.listedSlots) : state.maneuvers.slotCache slot ≠ {} := by
  obtain ⟨idx, -, -, typed⟩ := maneuverType_of_mem_listedSlots listed
  intro empty
  simp [empty] at typed

theorem valueOf_flatMap_lane {writer : Slot → List RgdRecord}
    (keys : ∀ slot, ∀ record ∈ writer slot, ∃ key, record.key = .lane slot key)
    (slots : List Slot) (slot : Slot) (key : LaneKey) :
    valueOf (slots.flatMap writer) (.lane slot key) =
      if slot ∈ slots then valueOf (writer slot) (.lane slot key) else none := by
  induction slots with
  | nil => simp
  | cons other slots ih =>
      rw [List.flatMap_cons, valueOf_append, ih]
      by_cases same : other = slot
      · subst same
        by_cases later : other ∈ slots
        · simp [later]
        · simp [later]
      · have written : valueOf (writer other) (.lane slot key) = none :=
          valueOf_eq_none fun record member equal => by
            obtain ⟨laneKey, keyEq⟩ := keys other record member
            rw [keyEq] at equal
            cases equal
            exact same rfl
        rw [written, Option.none_or]
        simp [List.mem_cons, Ne.symm same]

theorem valueOf_laneRecords (stack : RgdKey → List UInt8) (state : RgdState) (slot : Slot)
    (key : LaneKey) :
    valueOf (state.laneRecords stack) (.lane slot key) =
      valueOf
        (if state.rgdLaneSlotHasData slot then
          writeLaneDataKeys stack slot (state.lanes.laneCache slot)
          else writeLaneClearKeys slot)
        (.lane slot key) := by
  unfold laneRecords
  rw [valueOf_flatMap_lane]
  · simp
  · intro other record member
    split_ifs at member
    · exact key_of_mem_writeLaneDataKeys member
    · exact key_of_mem_writeLaneClearKeys member

/-- The records and the state left behind by writing a snapshot. -/
def BuiltFrom (overlay : Bool) (state : RgdState) (records : List RgdRecord) : Prop :=
  ∃ stack currentUpd before,
    snapshotRecords overlay stack currentUpd before = (records, state)

theorem valueOf_writeRouteKeys_maneuver (state : RgdState) (slot : Slot) (key : ManeuverKey) :
    valueOf (writeRouteKeys state).1 (.maneuver slot key) = none := by
  simp [writeRouteKeys, routeHeadKeys, routeTailKeys]

theorem valueOf_writeRouteKeys_lane (state : RgdState) (slot : Slot) (key : LaneKey) :
    valueOf (writeRouteKeys state).1 (.lane slot key) = none := by
  simp [writeRouteKeys, routeHeadKeys, routeTailKeys]

/-- The records of a slot in the maneuver list. -/
theorem BuiltFrom.maneuver {overlay : Bool} {state : RgdState} {records : List RgdRecord}
    (built : BuiltFrom overlay state records) :
    ∃ stack, ∀ slot key,
      valueOf records (.maneuver slot key) =
        if slot ∈ state.listedSlots then
          valueOf (writeSlotDataKeys stack slot (state.maneuvers.slotCache slot) state).1
            (.maneuver slot key)
        else none := by
  obtain ⟨stack, currentUpd, before, writtenEq⟩ := built
  refine ⟨stack, fun slot key => ?_⟩
  simp only [snapshotRecords, Prod.mk.injEq] at writtenEq
  obtain ⟨rfl, rfl⟩ := writtenEq
  generalize listedState overlay currentUpd before = listed
  have touched := writeListedSlots_touched stack listed.listedSlots listed
  have noLanes : valueOf ((writeListedSlots stack listed.listedSlots listed).2.laneRecords stack)
      (.maneuver slot key) = none :=
    valueOf_eq_none fun record member equal => by
      obtain ⟨other, laneKey, keyEq⟩ := key_of_mem_laneRecords member
      rw [keyEq] at equal
      cases equal
  rw [touched.listedSlots, touched.maneuvers, writeSlotDataKeys_congr touched, valueOf_append,
    valueOf_append, valueOf_append, valueOf_append, noLanes,
    valueOf_overlayKeys_of_ne (by simp [amapKeys]), valueOf_writeRouteKeys_maneuver,
    valueOf_listKeys_of_ne (by simp), valueOf_writeListedSlots]
  by_cases isListed : slot ∈ listed.listedSlots
  · simp [isListed, slotCache_ne_of_mem_listedSlots isListed]
  · simp [isListed]

/-- The records of a lane slot. -/
theorem BuiltFrom.lane {overlay : Bool} {state : RgdState} {records : List RgdRecord}
    (built : BuiltFrom overlay state records) (slot : Slot) (key : LaneKey) :
    ∃ stack : RgdKey → List UInt8, valueOf records (.lane slot key) =
      valueOf
        (if state.rgdLaneSlotHasData slot then
          writeLaneDataKeys stack slot (state.lanes.laneCache slot)
          else writeLaneClearKeys slot)
        (.lane slot key) := by
  obtain ⟨stack, currentUpd, before, writtenEq⟩ := built
  simp only [snapshotRecords, Prod.mk.injEq] at writtenEq
  obtain ⟨rfl, rfl⟩ := writtenEq
  have noSlots : valueOf (writeListedSlots stack (listedState overlay currentUpd before).listedSlots
      (listedState overlay currentUpd before)).1 (.lane slot key) = none :=
    valueOf_eq_none fun record member equal => by
      obtain ⟨other, -, maneuverKey, keyEq⟩ := key_of_mem_writeListedSlots member
      rw [keyEq] at equal
      cases equal
  refine ⟨stack, ?_⟩
  rw [valueOf_append, valueOf_append, valueOf_append, valueOf_append, noSlots,
    valueOf_overlayKeys_of_ne (by simp [amapKeys]), valueOf_writeRouteKeys_lane,
    valueOf_listKeys_of_ne (by simp), valueOf_laneRecords]
  simp

/-- The maneuver list of a frame is that of the state it leaves behind. -/
theorem BuiltFrom.maneuverList {overlay : Bool} {state : RgdState} {records : List RgdRecord}
    (built : BuiltFrom overlay state records) :
    valueOf records (.route .maneuverList) =
      if state.currentList.isSome then
        some (.str (commaBytes (state.listedSlots.map fun slot => (slot.val : Int))))
      else none := by
  obtain ⟨stack, currentUpd, before, writtenEq⟩ := built
  have routeValue := valueOf_snapshotRecords_route overlay stack currentUpd before .maneuverList
  simp only [snapshotRecords, Prod.mk.injEq] at writtenEq routeValue
  obtain ⟨rfl, rfl⟩ := writtenEq
  have touched := writeListedSlots_touched stack
    (listedState overlay currentUpd before).listedSlots (listedState overlay currentUpd before)
  rw [routeValue, touched.listedSlots, touched.currentList,
    valueOf_overlayKeys_of_ne (by simp [amapKeys])]
  have notRoute : valueOf (writeRouteKeys (refreshOverlay overlay before)).1
      (.route .maneuverList) = none := by
    simp [writeRouteKeys, routeHeadKeys, routeTailKeys]
  rw [notRoute]
  unfold listKeys
  split_ifs <;> simp [maneuverListRecord]

/-- The published version of a listed slot. -/
theorem BuiltFrom.ver {overlay : Bool} {state : RgdState} {records : List RgdRecord}
    (built : BuiltFrom overlay state records) {slot : Slot} (listed : slot ∈ state.listedSlots) :
    valueOf records (.maneuver slot .ver) = some (.num (state.publishedVer slot)) := by
  obtain ⟨stack, values⟩ := built.maneuver
  rw [values, if_pos listed]
  simp only [writeSlotDataKeys, maneuverDataKeys, valueOf_append]
  simp

theorem decimal_slot_injective {first second : Slot}
    (equal : DecimalText.decimal (first.val : Int) = DecimalText.decimal (second.val : Int)) :
    first = second := by
  have fits : ∀ slot : Slot, DecimalText.Fits 32 (slot.val : Int) := by decide
  have parsed := congrArg (DecimalText.parseSigned 32) equal
  rw [DecimalText.parseSigned_decimal, DecimalText.parseSigned_decimal,
    DecimalText.checkWidth_of_fits (fits first), DecimalText.checkWidth_of_fits (fits second),
    Option.some.injEq, Nat.cast_inj] at parsed
  exact Fin.ext parsed

/-- A printed slot list determines the slots. -/
theorem commaBytes_slots_injective {first second : List Slot}
    (equal : commaBytes (first.map fun slot => (slot.val : Int)) =
      commaBytes (second.map fun slot => (slot.val : Int))) : first = second := by
  have texts : DecimalText.commaList (first.map fun slot => (slot.val : Int)) =
      DecimalText.commaList (second.map fun slot => (slot.val : Int)) := by
    have decoded := congrArg Utf8Text.decode equal
    rwa [commaBytes, commaBytes, Utf8Text.decode_encode, Utf8Text.decode_encode] at decoded
  by_cases firstEmpty : first = []
  · subst firstEmpty
    by_contra different
    refine DecimalText.commaList_ne_nil ?_ texts.symm
    simpa using Ne.symm different
  · by_cases secondEmpty : second = []
    · subst secondEmpty
      exact absurd texts (DecimalText.commaList_ne_nil (by simpa using firstEmpty))
    · have items := congrArg (List.splitOn ',') texts
      rw [DecimalText.splitOn_commaList (by simpa using firstEmpty),
        DecimalText.splitOn_commaList (by simpa using secondEmpty), List.map_map,
        List.map_map] at items
      exact List.map_injective_iff.mpr (fun _ _ same => decimal_slot_injective same) items

/-- The maneuver list of a frame contains a slot. -/
def ListsSlot (records : List RgdRecord) (slot : Slot) : Prop :=
  ∃ slots : List Slot, valueOf records (.route .maneuverList) =
    some (.str (commaBytes (slots.map fun listed => (listed.val : Int)))) ∧ slot ∈ slots

theorem BuiltFrom.listsSlot {overlay : Bool} {state : RgdState} {records : List RgdRecord}
    (built : BuiltFrom overlay state records) {slot : Slot} (lists : ListsSlot records slot) :
    slot ∈ state.listedSlots := by
  obtain ⟨slots, listed, member⟩ := lists
  rw [built.maneuverList] at listed
  split at listed
  · simp only [Option.some.injEq, BusValue.str.injEq] at listed
    rw [commaBytes_slots_injective listed]
    exact member
  · cases listed

/-- Every snapshot of the hook was built by the snapshot writer. -/
theorem builtFrom_of_mem {overlay : Bool} {stack : RgdKey → List UInt8}
    {extraMan : Option RgdManeuver} {currentUpd : Option RgdUpdate} {state after : RgdState}
    {records : List RgdRecord}
    (member : .snapshot after records ∈
      (writeBusSnapshotFromCache overlay stack extraMan currentUpd state).2) :
    BuiltFrom overlay after records ∧
      after = (writeBusSnapshotFromCache overlay stack extraMan currentUpd state).1 := by
  rcases writeBusSnapshotFromCache_cases overlay stack extraMan currentUpd state with
    ⟨-, skipped⟩ | written
  · simp [skipped] at member
  · rw [written] at member ⊢
    dsimp only at member ⊢
    rcases sendSnapshot_cases
        (snapshotRecords overlay stack currentUpd (rgdPruneStaleLaneCache state).2).2
        (snapshotRecords overlay stack currentUpd (rgdPruneStaleLaneCache state).2).1 with
      lost | sent
    · simp [lost] at member
    · rw [sent] at member
      simp only [List.mem_singleton, HookEvent.snapshot.injEq] at member
      obtain ⟨rfl, rfl⟩ := member
      exact ⟨⟨stack, currentUpd, (rgdPruneStaleLaneCache state).2, rfl⟩, rfl⟩

end RgdState

end CarplayRgi
