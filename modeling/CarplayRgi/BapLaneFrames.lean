import CarplayRgi.BapLaneGuidance
import CarplayRgi.RgdActiveLanes
import CarplayRgi.RgdCheckedWriters
import CarplayRgi.RgdSlotReading
import CarplayRgi.RgdSnapshotCapacity
import CarplayRgi.RouteGuidanceReplay

/-!
# The lanes of a sequence of snapshots

A snapshot writes all seven records of every lane slot, so after one that is
read completely a slot has the event and the lanes of one cached lane event.
The lane slots come last in a snapshot: where the receiver's limit of 512
records falls inside the records of a slot, the slot has the event of this
snapshot and lanes of an earlier one.
-/

namespace CarplayRgi

open BapBridge DecimalText RgdState RouteGuidance Utf8Text

/-- A snapshot with the state of the hook it was built from. -/
abbrev HookSnapshot := RgdState × List RgdRecord

/-- The snapshots of a history. -/
def snapshotsOf (history : List HookEvent) : List HookSnapshot :=
  history.filterMap fun event =>
    match event with
    | .snapshot shown records => some (shown, records)
    | _ => none

theorem mem_snapshotsOf {history : List HookEvent} {snapshot : HookSnapshot} :
    snapshot ∈ snapshotsOf history ↔ .snapshot snapshot.1 snapshot.2 ∈ history := by
  unfold snapshotsOf
  rw [List.mem_filterMap]
  constructor
  · rintro ⟨event, member, isSnapshot⟩
    cases event with
    | snapshot shown records =>
        cases isSnapshot
        exact member
    | _ => cases isSnapshot
  · exact fun member => ⟨_, member, rfl⟩

/-- A snapshot that some run of the hook hands to the bus. -/
def ProducedByHook (snapshot : HookSnapshot) : Prop :=
  ∃ overlay hook history, (rgdHook overlay).Run hook history ∧ snapshot ∈ snapshotsOf history

/-- What is known of the caches behind a snapshot. -/
structure SnapshotFacts (snapshot : HookSnapshot) : Prop where
  built : ∃ overlay, BuiltFrom overlay snapshot.1 snapshot.2
  short : ListShort snapshot.1
  maneuvers : ∀ slot, ManeuverCached (snapshot.1.maneuvers.slotCache slot)
  lanes : ∀ slot, EventFits (snapshot.1.lanes.laneCache slot)

theorem ProducedByHook.facts {snapshot : HookSnapshot} (produced : ProducedByHook snapshot) :
    SnapshotFacts snapshot := by
  obtain ⟨overlay, hook, history, run, member⟩ := produced
  obtain ⟨position, found⟩ := List.mem_iff_getElem?.mp (mem_snapshotsOf.mp member)
  obtain ⟨shownRun, built⟩ := snapshot_run_at run found
  exact
    { built := ⟨overlay, built⟩
      short := rgdHook_listShort shownRun
      maneuvers := fun slot => ((rgdHook_cachesHold maneuverRules shownRun).maneuver slot).1
      lanes := (rgdHook_cachesHold writerRules shownRun).lane }

/-- The receiver after one more snapshot, with whether there has been a route
update. -/
def parseSnapshot (parsed : State × Bool) (snapshot : HookSnapshot) : State × Bool :=
  parse (parseText (frameText snapshot.2)) parsed.2 parsed.1

def parseSnapshots (snapshots : List HookSnapshot) : State :=
  (snapshots.foldl parseSnapshot (.initial, false)).1

/-- What the initial state satisfies and every snapshot keeps holds after the
snapshots. -/
theorem parseSnapshots_invariant {snapshots : List HookSnapshot} (holds : State → Prop)
    (initial : holds .initial)
    (keeps : ∀ snapshot ∈ snapshots, ∀ hasRouteUpdate state, holds state →
      holds (parse (parseText (frameText snapshot.2)) hasRouteUpdate state).1) :
    holds (parseSnapshots snapshots) := by
  suffices folded : ∀ parsed : State × Bool, holds parsed.1 →
      holds (snapshots.foldl parseSnapshot parsed).1 from folded (.initial, false) initial
  induction snapshots with
  | nil => exact fun _ before => before
  | cons snapshot snapshots ih =>
      intro parsed before
      exact ih (fun other member => keeps other (List.mem_cons_of_mem snapshot member)) _
        (keeps snapshot List.mem_cons_self _ _ before)

/-- No lanes of a maneuver itself. -/
structure NoOwnLanes (fields : ManeuverFields) : Prop where
  count : fields.laneCount ≤ 0
  directions : fields.laneDirections = none

theorem noOwnLanes_empty : NoOwnLanes {} := ⟨by decide, rfl⟩

theorem hasMCacheLaneForSlot_eq_false {state : State}
    (noLanes : ∀ slot, NoOwnLanes (state.maneuver slot)) (index : Int) :
    hasMCacheLaneForSlot state index = false := by
  unfold hasMCacheLaneForSlot
  cases slotOf index with
  | none => rfl
  | some slot =>
      rw [Option.any_some, (noLanes slot).directions]
      rfl

theorem noOwnLanes_told (stack : RgdKey → List UInt8) (shown : RgdState) (slot : Slot)
    (man : RgdManeuver) {kept : ManeuverFields} (noLanes : NoOwnLanes kept) :
    NoOwnLanes (told stack shown slot man kept) := by
  unfold told
  cases man.laneGuidanceRawLen with
  | none => exact ⟨noLanes.count, noLanes.directions⟩
  | some length => exact ⟨le_rfl, rfl⟩

theorem noOwnLanes_keptFor {shown : RgdState} {java : State} {slot : Slot}
    (noLanes : NoOwnLanes (java.maneuver slot)) : NoOwnLanes (keptFor shown java slot) := by
  unfold keptFor
  split_ifs
  · exact noOwnLanes_empty
  · exact noLanes

theorem RgdState.BuiltFrom.lists_of_mem {overlay : Bool} {shown : RgdState}
    {records : List RgdRecord} (built : BuiltFrom overlay shown records) {slot : Slot}
    (listed : slot ∈ shown.listedSlots) : ListsSlot records slot := by
  have present : shown.currentList.isSome = true := by
    by_contra absent
    rw [Bool.not_eq_true, Option.isSome_eq_false_iff, Option.isNone_iff_eq_none] at absent
    rw [listedSlots, listedIndexes, absent] at listed
    cases listed
  exact ⟨shown.listedSlots, built.maneuverList.trans (if_pos present), listed⟩

theorem SnapshotFacts.noOwnLanes {snapshot : HookSnapshot} (facts : SnapshotFacts snapshot)
    (hasRouteUpdate : Bool) {state : State} (noLanes : ∀ slot, NoOwnLanes (state.maneuver slot))
    (slot : Slot) :
    NoOwnLanes
      ((parse (parseText (frameText snapshot.2)) hasRouteUpdate state).1.maneuver slot) := by
  obtain ⟨overlay, built⟩ := facts.built
  by_cases listed : slot ∈ snapshot.1.listedSlots
  · obtain ⟨stack, parsed⟩ :=
      built.parse_slot facts.short (built.lists_of_mem listed) (facts.maneuvers slot)
    rw [parsed]
    exact noOwnLanes_told _ _ _ _ (noOwnLanes_keptFor (noLanes slot))
  · rw [built.parse_unlisted facts.short listed]
    exact noOwnLanes_keptFor (noLanes slot)

/-- The receiver's limit falls inside the records of a lane slot: the first of
them is read, and the last is not. -/
def CutsLaneSlot (records : List RgdRecord) (slot : Slot) : Prop :=
  (valueOf (records.take dataMax) (.lane slot .index)).isSome = true ∧
    valueOf (records.take dataMax) (.lane slot .laneAngles) = none

/-- The records of a lane slot. -/
def laneSlotRecords (stack : RgdKey → List UInt8) (state : RgdState) (slot : Slot) :
    List RgdRecord :=
  if state.rgdLaneSlotHasData slot then writeLaneDataKeys stack slot (state.lanes.laneCache slot)
  else writeLaneClearKeys slot

theorem key_of_mem_laneSlotRecords {stack : RgdKey → List UInt8} {state : RgdState} {slot : Slot}
    {record : RgdRecord} (member : record ∈ laneSlotRecords stack state slot) :
    ∃ key, record.key = .lane slot key := by
  unfold laneSlotRecords at member
  split_ifs at member
  · exact key_of_mem_writeLaneDataKeys member
  · exact key_of_mem_writeLaneClearKeys member

/-- The index comes first and the lane angles come last. -/
theorem laneSlotRecords_ends (stack : RgdKey → List UInt8) (state : RgdState) (slot : Slot) :
    ∃ first middle last, laneSlotRecords stack state slot = first :: middle ++ [last] ∧
      first.key = .lane slot .index ∧
      ∀ record ∈ first :: middle, record.key ≠ .lane slot .laneAngles := by
  unfold laneSlotRecords
  split_ifs with hasData
  · obtain ⟨hasIndex, hasLanes⟩ := Bool.and_eq_true_iff.mp hasData
    obtain ⟨index, indexEq⟩ := Option.isSome_iff_exists.mp hasIndex
    obtain ⟨lanes, lanesEq⟩ := Option.isSome_iff_exists.mp hasLanes
    unfold writeLaneDataKeys
    rw [indexEq, lanesEq]
    exact ⟨_, [_, _, _, _, _], _, rfl, rfl, by simp [numberRecord, stringRecord]⟩
  · exact ⟨_, [_, _, _, _, _], _, rfl, rfl, by simp [numberRecord, stringRecord]⟩

/-- The records of a lane slot stand together. -/
theorem RgdState.BuiltFrom.laneSlot {overlay : Bool} {shown : RgdState}
    {records : List RgdRecord} (built : BuiltFrom overlay shown records) (slot : Slot) :
    ∃ stack before after, records = before ++ laneSlotRecords stack shown slot ++ after ∧
      (∀ key, valueOf before (.lane slot key) = none) ∧
      ∀ key, valueOf after (.lane slot key) = none := by
  obtain ⟨stack, currentUpd, source, writtenEq⟩ := built
  simp only [snapshotRecords, Prod.mk.injEq] at writtenEq
  obtain ⟨rfl, rfl⟩ := writtenEq
  have noFront (key : LaneKey) : valueOf (overlayKeys overlay (refreshOverlay overlay source) ++
      (writeRouteKeys (refreshOverlay overlay source)).1 ++
      (listedState overlay currentUpd source).listKeys ++
      (writeListedSlots stack (listedState overlay currentUpd source).listedSlots
        (listedState overlay currentUpd source)).1) (.lane slot key) = none := by
    have noSlots : valueOf (writeListedSlots stack
        (listedState overlay currentUpd source).listedSlots
        (listedState overlay currentUpd source)).1 (.lane slot key) = none :=
      valueOf_eq_none fun record member same => by
        obtain ⟨other, -, maneuverKey, keyEq⟩ := key_of_mem_writeListedSlots member
        cases keyEq.symm.trans same
    rw [valueOf_append, valueOf_append, valueOf_append, noSlots,
      valueOf_overlayKeys_of_ne (by simp [amapKeys]), valueOf_writeRouteKeys_lane,
      valueOf_listKeys_of_ne (by simp)]
    rfl
  generalize (writeListedSlots stack (listedState overlay currentUpd source).listedSlots
    (listedState overlay currentUpd source)).2 = shown
  revert noFront
  generalize overlayKeys overlay (refreshOverlay overlay source) ++
    (writeRouteKeys (refreshOverlay overlay source)).1 ++
    (listedState overlay currentUpd source).listKeys ++
    (writeListedSlots stack (listedState overlay currentUpd source).listedSlots
      (listedState overlay currentUpd source)).1 = front
  intro noFront
  obtain ⟨earlier, later, split⟩ := List.append_of_mem (List.mem_finRange slot)
  have distinct := List.nodup_finRange maneuverCacheSize
  rw [split, List.nodup_middle, List.nodup_cons] at distinct
  have others : ∀ slots : List Slot, slot ∉ slots → ∀ key,
      valueOf (slots.flatMap (laneSlotRecords stack shown)) (.lane slot key) = none := by
    intro slots apart key
    refine valueOf_eq_none fun record member same => ?_
    obtain ⟨other, isOther, inSlot⟩ := List.mem_flatMap.mp member
    obtain ⟨otherKey, keyEq⟩ := key_of_mem_laneSlotRecords inSlot
    obtain ⟨rfl, -⟩ := RgdKey.lane.inj (keyEq.symm.trans same)
    exact apart isOther
  have lanes : shown.laneRecords stack = earlier.flatMap (laneSlotRecords stack shown) ++
      (laneSlotRecords stack shown slot ++ later.flatMap (laneSlotRecords stack shown)) := by
    have flat : shown.laneRecords stack =
        (List.finRange maneuverCacheSize).flatMap (laneSlotRecords stack shown) := rfl
    rw [flat, split, List.flatMap_append, List.flatMap_cons]
  refine ⟨stack, front ++ earlier.flatMap (laneSlotRecords stack shown),
    later.flatMap (laneSlotRecords stack shown), ?_, fun key => ?_, ?_⟩
  · rw [lanes, List.append_assoc, List.append_assoc]
  · rw [valueOf_append, noFront, Option.none_or]
    exact others earlier (fun member => distinct.1 (List.mem_append_left _ member)) key
  · exact others later fun member => distinct.1 (List.mem_append_right _ member)

theorem valueOf_take_middle {before middle after : List RgdRecord} {key : RgdKey}
    (noneBefore : valueOf before key = none) (noneAfter : valueOf after key = none)
    (count : Nat) :
    valueOf ((before ++ middle ++ after).take count) key =
      valueOf (middle.take (count - before.length)) key := by
  rw [List.take_append, valueOf_append, valueOf_take_eq_none noneAfter, Option.or_none,
    List.take_append, valueOf_append, valueOf_take_eq_none noneBefore, Option.none_or]

/-- A slot that is not cut is not read at all, or read completely. -/
theorem RgdState.BuiltFrom.laneSlot_uncut {overlay : Bool} {shown : RgdState}
    {records : List RgdRecord} (built : BuiltFrom overlay shown records) {slot : Slot}
    (uncut : ¬ CutsLaneSlot records slot) :
    (∀ key, valueOf (records.take dataMax) (.lane slot key) = none) ∨
      ∃ stack, ∀ key, valueOf (records.take dataMax) (.lane slot key) =
        valueOf (laneSlotRecords stack shown slot) (.lane slot key) := by
  obtain ⟨stack, before, after, rfl, noneBefore, noneAfter⟩ := built.laneSlot slot
  have taken (key : LaneKey) := @valueOf_take_middle before (laneSlotRecords stack shown slot)
    after _ (noneBefore key) (noneAfter key) dataMax
  obtain ⟨first, middle, last, recordsEq, isIndex, notAngles⟩ :=
    laneSlotRecords_ends stack shown slot
  unfold CutsLaneSlot at uncut
  rw [taken, taken] at uncut
  simp only [taken]
  rw [recordsEq] at uncut ⊢
  generalize dataMax - before.length = room at uncut ⊢
  rcases Nat.eq_zero_or_pos room with none | some
  · exact .inl fun key => by rw [none]; rfl
  by_cases whole : (first :: middle ++ [last]).length ≤ room
  · refine .inr ⟨stack, fun key => ?_⟩
    rw [List.take_of_length_le whole, recordsEq]
  · refine absurd ⟨?_, ?_⟩ uncut
    · obtain ⟨rest, rfl⟩ := Nat.exists_eq_add_of_lt some
      rw [Nat.zero_add, List.cons_append, List.take_succ_cons, valueOf_cons, if_pos isIndex]
      rfl
    · refine valueOf_eq_none fun record member => notAngles record ?_
      rw [List.length_append, List.length_singleton, not_le] at whole
      rw [List.take_append_of_le_length (Nat.le_of_lt_succ whole)] at member
      exact List.mem_of_mem_take member

theorem receivedInt_eq {number : Nat} (nonneg : 0 ≤ receivedInt number) :
    receivedInt number = number := by
  unfold receivedInt at nonneg ⊢
  by_cases fits : Fits 32 (number : Int)
  · rw [parseInt_decimal fits, Option.getD_some]
  · rw [parseInt, javaTrim_eq_self (decimal_visible _), parseSigned_decimal, checkWidth,
      if_neg fits] at nonneg
    exact absurd nonneg (by decide)

theorem fits_of_lt {number : Nat} (small : number < 65536) : Fits 32 (number : Int) := by
  constructor
  · norm_num
  · norm_num
    omega

theorem intListField_frameText (records : List RgdRecord) (key : RgdKey) :
    (parseText (frameText records)).intListField key =
      (valueOf (records.take dataMax) key).map fun value => intListOf value.received := by
  unfold BusData.intListField BusData.intList
  rw [has_frameText, str_frameText_take]
  cases valueOf (records.take dataMax) key <;> rfl

theorem laneAnglesField_frameText (records : List RgdRecord) (key : RgdKey) :
    (parseText (frameText records)).laneAnglesField key =
      (valueOf (records.take dataMax) key).map fun value =>
        parseLaneAnglesMatrix value.received := by
  unfold BusData.laneAnglesField
  rw [has_frameText, str_frameText_take]
  cases valueOf (records.take dataMax) key <;> rfl

/-- A number of each lane is received unchanged. -/
theorem intListOf_lanes {lanes : List RgdLane} {value : RgdLane → Int}
    (few : lanes.length ≤ maxLaneGuidance) (fits : ∀ lane ∈ lanes, Fits 32 (value lane)) :
    intListOf (receivedText (commaBytes ((lanes.take maxLaneGuidance).map value))) =
      if lanes = [] then none else some (lanes.map value) := by
  rw [List.take_of_length_le few]
  by_cases empty : lanes = []
  · subst empty
    rfl
  · have nonempty : lanes.map value ≠ [] := fun none => empty (List.map_eq_nil_iff.mp none)
    have inRange : ∀ number ∈ lanes.map value, Fits 32 number := by
      intro number member
      obtain ⟨lane, inLanes, rfl⟩ := List.mem_map.mp member
      exact fits lane inLanes
    rw [commaBytes, receivedText_encode fun char member =>
      Nat.le_of_lt (commaList_visible _ char member), intListOf_commaList nonempty inRange,
      if_neg empty]

/-- A lane slot of the receiver after the records of a cached lane event. -/
def toldLane (event : Nat) (lanes : List RgdLane) (buffer : List UInt8) : LaneFields where
  index := receivedInt event
  lanePositions := if lanes = [] then none else some (lanes.map fun lane => (lane.position : Int))
  laneCount := lanes.length
  laneDirections := if lanes = [] then none else some (lanes.map RgdLane.direction)
  laneStatus := if lanes = [] then none else some (lanes.map fun lane => (lane.status : Int))
  laneAngles := parseLaneAnglesMatrix (receivedText (laneAngles buffer lanes))

/-- The event and the lanes of a cached lane event. -/
structure CachedLanes (shown : RgdState) (slot : Slot) (event : Nat) (lanes : List RgdLane) :
    Prop where
  index : (shown.lanes.laneCache slot).laneGuidanceIndex = some event
  lanes : (shown.lanes.laneCache slot).laneInformations = some lanes

section Read

variable {records : List RgdRecord} {slot : Slot} (kept : LaneFields)

theorem readLane_absent
    (absent : ∀ key, valueOf (records.take dataMax) (.lane slot key) = none) :
    kept.read (parseText (frameText records)) slot = kept := by
  unfold LaneFields.read
  simp only [numField_frameText, intListField_frameText, laneAnglesField_frameText, absent,
    Option.map_none, Option.getD_none]

theorem readLane_cleared
    (values : ∀ key, valueOf (records.take dataMax) (.lane slot key) =
      valueOf (writeLaneClearKeys slot) (.lane slot key)) :
    kept.read (parseText (frameText records)) slot = {} := by
  have noNumber : (parseInt (decimal (-1))).getD (-1) = -1 := by decide
  have noList : intListOf (receivedText []) = none := rfl
  have noAngles : parseLaneAnglesMatrix (receivedText []) = none := rfl
  unfold LaneFields.read
  simp only [numField_frameText, intListField_frameText, laneAnglesField_frameText, values]
  simp [writeLaneClearKeys, BusValue.received, noNumber, noList, noAngles]

theorem readLane_told {stack : RgdKey → List UInt8} {lane : RgdLaneGuidance} {event : Nat}
    {lanes : List RgdLane} (index : lane.laneGuidanceIndex = some event)
    (informations : lane.laneInformations = some lanes) (fits : LanesFit lanes)
    (values : ∀ key, valueOf (records.take dataMax) (.lane slot key) =
      valueOf (writeLaneDataKeys stack slot lane) (.lane slot key)) :
    kept.read (parseText (frameText records)) slot =
      toldLane event lanes (stack (.lane slot .laneAngles)) := by
  obtain ⟨few, lanesFit⟩ := fits
  have count : parseInt (decimal (lanes.length : Int)) = some (lanes.length : Int) :=
    parseInt_decimal (fits_of_lt (few.trans_lt (by decide)))
  have positions : intListOf (receivedText (lanePositions lanes)) = _ :=
    intListOf_lanes few fun lane member => fits_of_lt (lanesFit lane member).position
  have directions : intListOf (receivedText (laneDirections lanes)) = _ :=
    intListOf_lanes few fun lane member => fits_of_fits16 (lanesFit lane member).direction
  have status : intListOf (receivedText (laneStatus lanes)) = _ :=
    intListOf_lanes few fun lane member =>
      fits_of_lt ((lanesFit lane member).status.trans (by decide))
  unfold LaneFields.read toldLane
  simp only [numField_frameText, intListField_frameText, laneAnglesField_frameText, values]
  simp [writeLaneDataKeys, index, informations, BusValue.received, count, positions, directions,
    status, receivedInt]

end Read

/-- The lists that are sent are those of the lanes.  The angles are printed
unless a single lane has none. -/
structure SendsLanes (lanes : List RgdLane) (sent : ShownLanes) : Prop where
  count : sent.count = lanes.length
  positions : sent.positions = some (lanes.map fun lane => (lane.position : Int))
  directions : sent.directions = some (lanes.map RgdLane.direction)
  status : sent.status = some (lanes.map fun lane => (lane.status : Int))
  angles : LanesPrinted lanes → sent.angles = some (lanes.map fun lane => some lane.angles)

/-- Either no slot is resolved, or it is a slot of the current lane event. -/
def ResolvesCurrent (state : State) : Prop :=
  resolveLaneGuidanceManeuverIndex state = -1 ∨
    ∃ slot : Slot, resolveLaneGuidanceManeuverIndex state = slot.val ∧
      (state.lane slot).index = state.route.laneGuidanceIndex

/-- Either no lanes are shown, or a slot of the current lane event is resolved
and the lanes that are shown are those which the hook has cached for this event. -/
def LanesBelong (snapshots : List HookSnapshot) (state : State) : Prop :=
  resolveLaneGuidanceManeuverIndex state = -1 ∧ sendLaneGuidance state = none ∨
    ∃ slot : Slot, resolveLaneGuidanceManeuverIndex state = slot.val ∧
      (state.lane slot).index = state.route.laneGuidanceIndex ∧
      ∃ snapshot ∈ snapshots, ∃ event lanes sent, CachedLanes snapshot.1 slot event lanes ∧
        (event : Int) = state.route.laneGuidanceIndex ∧
        sendLaneGuidance state = some sent ∧ SendsLanes lanes sent

/-- The lane slot is empty, or was told the lanes of one cached lane event. -/
def ToldBy (snapshots : List HookSnapshot) (slot : Slot) (fields : LaneFields) : Prop :=
  fields = {} ∨
    ∃ snapshot ∈ snapshots, ∃ event lanes buffer, CachedLanes snapshot.1 slot event lanes ∧
      LanesFit lanes ∧ fields = toldLane event lanes buffer

theorem parseRoute_lane (data : BusData) (state : State) (slot : Slot) :
    (parseRoute data state).lane slot = state.lane slot ∨
      (parseRoute data state).lane slot = {} := by
  have sourced : (parseRoute data state).lane =
      (parseSourceSupportsRg data (state.clearDirty.onRoute (parseDisconnectReason data))).lane :=
    rfl
  rw [sourced]
  unfold parseSourceSupportsRg
  split
  · exact .inl rfl
  · dsimp only
    split_ifs
    · exact .inl rfl
    · exact .inr rfl
    · exact .inl rfl

/-- A snapshot that does not cut a lane slot leaves it with one lane event. -/
theorem SnapshotFacts.toldBy {snapshots : List HookSnapshot} {snapshot : HookSnapshot}
    (facts : SnapshotFacts snapshot) (member : snapshot ∈ snapshots) {slot : Slot}
    (uncut : ¬ CutsLaneSlot snapshot.2 slot) (hasRouteUpdate : Bool) {state : State}
    (told : ToldBy snapshots slot (state.lane slot)) :
    ToldBy snapshots slot
      ((parse (parseText (frameText snapshot.2)) hasRouteUpdate state).1.lane slot) := by
  have kept : ToldBy snapshots slot
      ((parseRoute (parseText (frameText snapshot.2)) state).lane slot) := by
    rcases parseRoute_lane (parseText (frameText snapshot.2)) state slot with same | cleared
    · exact same ▸ told
    · exact .inl cleared
  rw [parse_lane]
  obtain ⟨overlay, built⟩ := facts.built
  rcases built.laneSlot_uncut uncut with absent | ⟨stack, values⟩
  · rw [readLane_absent _ absent]
    exact kept
  · unfold laneSlotRecords at values
    split_ifs at values with hasData
    · obtain ⟨hasIndex, hasLanes⟩ := Bool.and_eq_true_iff.mp hasData
      obtain ⟨event, index⟩ := Option.isSome_iff_exists.mp hasIndex
      obtain ⟨lanes, informations⟩ := Option.isSome_iff_exists.mp hasLanes
      have fits := (facts.lanes slot).lanes lanes informations
      rw [readLane_told _ index informations fits values]
      exact .inr ⟨snapshot, member, event, lanes, _, ⟨index, informations⟩, fits, rfl⟩
    · rw [readLane_cleared _ values]
      exact .inl rfl

/-- A slot of the current event that was told one lane event shows its lanes. -/
theorem lanesBelong_of_told {snapshots : List HookSnapshot} {state : State} {slot : Slot}
    (resolved : resolveLaneGuidanceManeuverIndex state = slot.val)
    (holds : HoldsCurrent state slot) (told : ToldBy snapshots slot (state.lane slot)) :
    LanesBelong snapshots state := by
  refine .inr ⟨slot, resolved, holds.index, ?_⟩
  rcases told with empty | ⟨snapshot, member, event, lanes, buffer, cached, fits, isTold⟩
  · have index := holds.index
    have announced := holds.announced
    rw [empty] at index
    rw [← index] at announced
    exact absurd announced (by decide)
  have index : receivedInt event = state.route.laneGuidanceIndex := by
    rw [← holds.index, isTold]
    rfl
  have nonempty : lanes ≠ [] := by
    rintro rfl
    have hasLanes := holds.lanes
    unfold hasLaneCacheForSlot at hasLanes
    rw [slotOf_val, Option.any_some, isTold] at hasLanes
    exact absurd hasLanes (by simp [toldLane])
  have bounded : LanesBounded lanes :=
    ⟨fits.1, fun lane inLanes => ⟨(fits.2 lane inLanes).angleCount, (fits.2 lane inLanes).angles⟩⟩
  refine ⟨snapshot, member, event, lanes, _, cached, ?_, sendLaneGuidance_of_holds holds resolved,
    ?_⟩
  · rw [← index, receivedInt_eq (index ▸ holds.announced)]
  · have positive : 0 < (lanes.length : Int) := by
      exact_mod_cast List.length_pos_iff.mpr nonempty
    rw [isTold]
    unfold toldLane
    simp only [if_neg nonempty]
    refine ⟨?_, rfl, rfl, rfl, fun printed => parse_laneAngles_of_printed bounded printed buffer⟩
    unfold laneCountOf
    rw [if_neg (not_le.mpr positive)]
    dsimp only
    rw [if_neg (not_le.mpr positive), max_eq_left positive.le]

/-- After any snapshots of the hook, no slot is resolved or one of the current
lane event is.  If no snapshot is cut inside the records of a lane slot, the
lanes that are shown belong to this event. -/
theorem shown_lanes_belong {snapshots : List HookSnapshot}
    (produced : ∀ snapshot ∈ snapshots, ProducedByHook snapshot) :
    ResolvesCurrent (parseSnapshots snapshots) ∧
      ((∀ snapshot ∈ snapshots, ∀ slot, ¬ CutsLaneSlot snapshot.2 slot) →
        LanesBelong snapshots (parseSnapshots snapshots)) := by
  have noOwnLanes : ∀ slot, NoOwnLanes ((parseSnapshots snapshots).maneuver slot) :=
    parseSnapshots_invariant (fun state => ∀ slot, NoOwnLanes (state.maneuver slot))
      (fun _ => noOwnLanes_empty) fun snapshot member hasRouteUpdate _ noLanes =>
        (produced snapshot member).facts.noOwnLanes hasRouteUpdate noLanes
  rcases resolve_cases (hasMCacheLaneForSlot_eq_false noOwnLanes) with
    none | ⟨slot, resolved, holds⟩
  · exact ⟨.inl none, fun _ => .inl ⟨none, sendLaneGuidance_of_none none⟩⟩
  · refine ⟨.inr ⟨slot, resolved, holds.index⟩, fun uncut => ?_⟩
    refine lanesBelong_of_told resolved holds ?_
    exact parseSnapshots_invariant (fun state => ToldBy snapshots slot (state.lane slot))
      (.inl rfl) fun snapshot member hasRouteUpdate _ told =>
        (produced snapshot member).facts.toldBy member (uncut snapshot member slot)
          hasRouteUpdate told

/-- A 0x5201 with a route state, a visibility, the current lane event 50 and the
maneuvers 1 to 14. -/
def fourteenFrame : List UInt8 :=
  [0x40, 0x40, 0, 66, 0x52, 0x01, 0, 5, 0, 1, 1, 0, 4, 0, 3, 0, 4, 0, 4, 0, 5, 0, 0x0F, 1,
    0, 6, 0, 0x10, 0, 50, 0, 32, 0, 0x0D, 0, 1, 0, 2, 0, 3, 0, 4, 0, 5, 0, 6, 0, 7, 0, 8, 0, 9,
    0, 10, 0, 11, 0, 12, 0, 13, 0, 14]

/-- A 0x5202 with every item and a linked lane event. -/
def fullLinkedFrame (index linked : UInt8) : List UInt8 :=
  [0x40, 0x40, 0, 71, 0x52, 0x02, 0, 6, 0, 1, 0, index, 0, 4, 0, 2, 0, 5, 0, 3, 1, 0, 4, 0, 4,
    0, 8, 0, 5, 0, 0, 0, 1, 0, 4, 0, 6, 0, 5, 0, 7, 1, 0, 5, 0, 8, 1, 0, 5, 0, 9, 1, 0, 4, 0, 0x0A,
    0, 6, 0, 0x0C, 0, linked, 0, 4, 0, 0x0D]

/-- A 0x5204 with an index and one lane in the given direction. -/
def laneTurnFrame (index direction : UInt8) : List UInt8 :=
  [0x40, 0x40, 0, 27, 0x52, 0x04, 0, 6, 0, 1, 0, index, 0, 15, 0, 2, 0, 5, 0, 0, 1,
    0, 6, 0, 3, 0, direction]

def laneTurnLabel (index direction : Nat) : HookLabel :=
  .message 0x5204 (laneTurnFrame (UInt8.ofNat index) (UInt8.ofNat direction)) 2 fun _ => []

/-- The lane events in the slots 0 to 25, which are listed or linked, and the
events 60 to 64 in the slots from 26. -/
def laneLabels : List HookLabel :=
  .message 0x5201 fourteenFrame 1 (fun _ => []) ::
    ((List.range 14).map (fun index => laneTurnLabel (index + 1) 0) ++
      (List.range 12).map (fun index => laneTurnLabel (index + 101) 0) ++
      (List.range 5).map fun index => laneTurnLabel (index + 60) 90)

def maneuverLabels : List HookLabel :=
  (List.range 14).map fun index =>
    .message 0x5202
      (fullLinkedFrame (UInt8.ofNat (index + 1)) (UInt8.ofNat (min index 11 + 101))) 3 fun _ => []

/-- A lane message whose snapshot fits the text builder and passes a test. -/
def laneSnapshotPasses (raw : List UInt8) (test : RgdState → List RgdRecord → Bool)
    (state : RgdState) : Bool :=
  let work := frameWork false 0x5204 raw 2 (rgdLazyInit false state).1
  decide (work.cached.updateCache ≠ {}) && work.written.any fun currentUpd =>
    let caches := (rgdPruneStaleLaneCache work.cached).2
    let written := snapshotRecords false (fun _ => []) currentUpd caches
    decide (headerLength + cachesCost lineLength false (fun _ => []) currentUpd caches ≤
      busTextBuilderLargeCap) && test written.2 written.1

theorem exists_snapshot_of_laneSnapshotPasses {raw : List UInt8}
    {test : RgdState → List RgdRecord → Bool} {state : RgdState}
    (passes : laneSnapshotPasses raw test state = true) :
    ∃ snapshot ∈ snapshotsOf (rgdHookStep false (.message 0x5204 raw 2 fun _ => []) state).2,
      test snapshot.1 snapshot.2 = true := by
  unfold laneSnapshotPasses at passes
  simp only [Bool.and_eq_true, decide_eq_true_eq, Option.any_eq_true] at passes
  obtain ⟨cached, currentUpd, writes, fits, passes⟩ := passes
  have ends := handleFrame_work false 0x5204 raw 2 (fun _ => []) (rgdLazyInit false state).1
  generalize frameWork false 0x5204 raw 2 (rgdLazyInit false state).1 = work at *
  unfold LaneWork.EndsIn at ends
  rw [writes] at ends
  obtain ⟨extraMan, quiet, -, resultEq⟩ := ends
  have built := writeBusSnapshotFromCache_cases false (fun _ => []) extraMan currentUpd work.cached
  generalize (rgdPruneStaleLaneCache work.cached).2 = caches at *
  rcases built with ⟨empty, -⟩ | written
  · exact absurd empty cached
  rw [← recordsCost_snapshotRecords, ← frameText_length] at fits
  generalize snapshotRecords false (fun _ => []) currentUpd caches = result at *
  have sent : HookEvent.snapshot result.2 result.1 ∈ (handleFrame false 0x5204 raw 2 (fun _ => [])
      (rgdLazyInit false state).1).2 := by
    rw [resultEq, written]
    refine List.mem_append_right _ (snapshot_mem_sendSnapshot.mpr ⟨?_, rfl, rfl⟩)
    exact ⟨_, (busSendText_buildFrame _ _).trans (if_pos fits)⟩
  have member : (result.2, result.1) ∈
      snapshotsOf (rgdHookStep false (.message 0x5204 raw 2 fun _ => []) state).2 :=
    mem_snapshotsOf.mpr (List.mem_append_right _ sent)
  exact ⟨(result.2, result.1), member, passes⟩

/-- The slot 26 with the lane event 60, whose lane goes right. -/
def showsOld (shown : RgdState) (records : List RgdRecord) : Bool :=
  decide ((shown.lanes.laneCache 26).laneGuidanceIndex = some 60) &&
    decide (valueOf (records.take dataMax) (.lane 26 .laneCount) = some (.num 1)) &&
    decide (valueOf (records.take dataMax) (.lane 26 .laneDirections) = some (.str [57, 48]))

/-- The slot 26 with the current lane event 50, of which only the index is read. -/
def showsCut (shown : RgdState) (records : List RgdRecord) : Bool :=
  decide ((shown.lanes.laneCache 26).laneGuidanceIndex = some 50) &&
    decide ((shown.lanes.laneCache 26).laneInformations.map (List.map RgdLane.direction) =
      some [45]) &&
    decide (valueOf (records.take dataMax) (.route .laneGuidanceIndex) = some (.num 50)) &&
    decide (valueOf (records.take dataMax) (.route .laneGuidanceSlot) = some (.num 26)) &&
    decide (valueOf (records.take dataMax) (.route .sourceSupportsRg) = none) &&
    decide (valueOf (records.take dataMax) (.lane 26 .index) = some (.num 50)) &&
    decide (valueOf (records.take dataMax) (.lane 26 .laneCount) = none) &&
    decide (valueOf (records.take dataMax) (.lane 26 .laneDirections) = none)

/-- One run hands out both snapshots, in this order. -/
theorem exists_cut_snapshots : ∃ hook history old cut, (rgdHook false).Run hook history ∧
    [old, cut].Sublist (snapshotsOf history) ∧
    showsOld old.1 old.2 = true ∧ showsCut cut.1 cut.2 = true := by
  obtain ⟨state, history, run, checked⟩ := (rgdHook false).exists_run_of_replay laneLabels
    (fun result => laneSnapshotPasses (laneTurnFrame 65 90) showsOld result.1 &&
      ((rgdHook false).replay (fun _ _ => true)
        (rgdHookStep false (laneTurnLabel 65 90) result.1).1 maneuverLabels).any fun later =>
          laneSnapshotPasses (laneTurnFrame 50 45) showsCut later.1)
    (by decide +kernel)
  rw [Bool.and_eq_true] at checked
  obtain ⟨old, oldMem, isOld⟩ := exists_snapshot_of_laneSnapshotPasses checked.1
  have oldRun : (rgdHook false).Run (rgdHookStep false (laneTurnLabel 65 90) state).1
      (history ++ (rgdHookStep false (laneTurnLabel 65 90) state).2) :=
    run.next trivial
      (show (rgdHook false).step state (laneTurnLabel 65 90) = some _ from rfl)
  obtain ⟨last, later, lastRun, passes⟩ :=
    TracedSystem.exists_run_of_replay_from oldRun maneuverLabels _ checked.2
  obtain ⟨cut, cutMem, isCut⟩ := exists_snapshot_of_laneSnapshotPasses passes
  have cutRun : (rgdHook false).Run (rgdHookStep false (laneTurnLabel 50 45) last).1
      (history ++ (rgdHookStep false (laneTurnLabel 65 90) state).2 ++ later ++
        (rgdHookStep false (laneTurnLabel 50 45) last).2) :=
    lastRun.next trivial
      (show (rgdHook false).step last (laneTurnLabel 50 45) = some _ from rfl)
  refine ⟨_, _, old, cut, cutRun, ?_, isOld, isCut⟩
  unfold snapshotsOf at oldMem cutMem ⊢
  rw [List.filterMap_append, List.filterMap_append, List.filterMap_append]
  have oldFirst := List.singleton_sublist.mpr
    (List.mem_append_left (snapshotsOf later) (List.mem_append_right (snapshotsOf history) oldMem))
  exact oldFirst.append (List.singleton_sublist.mpr cutMem)

theorem ProducedByHook.of_sublist {overlay : Bool} {hook : RgdState} {history : List HookEvent}
    (run : (rgdHook overlay).Run hook history) {snapshots : List HookSnapshot}
    (inOrder : snapshots.Sublist (snapshotsOf history)) :
    ∀ snapshot ∈ snapshots, ProducedByHook snapshot :=
  fun _ member => ⟨overlay, hook, history, run, inOrder.subset member⟩

theorem SnapshotFacts.no_reason {snapshot : HookSnapshot} (facts : SnapshotFacts snapshot) :
    (parseText (frameText snapshot.2)).has (RgdKey.route .disconnectReason).text = false := by
  obtain ⟨overlay, built⟩ := facts.built
  exact built.no_reason

/-- Without a word on its support, the source leaves the lane slots alone. -/
theorem parseRoute_lane_of_noSource {data : BusData}
    (noSource : data.numField (.route .sourceSupportsRg) (-1) = none) (state : State) :
    (parseRoute data state).lane = state.lane := by
  have sourced : (parseRoute data state).lane =
      (parseSourceSupportsRg data (state.clearDirty.onRoute (parseDisconnectReason data))).lane :=
    rfl
  rw [sourced, parseSourceSupportsRg, noSource]
  rfl

/-- After the cut snapshot, the slot 26 has the event 50 and the lane of the
event 60. -/
theorem parse_cut {old cut : HookSnapshot} (oldFacts : SnapshotFacts old)
    (cutFacts : SnapshotFacts cut) (isOld : showsOld old.1 old.2 = true)
    (isCut : showsCut cut.1 cut.2 = true) :
    (parseSnapshots [old, cut]).route.laneGuidanceIndex = 50 ∧
      (parseSnapshots [old, cut]).route.laneGuidanceSlot = 26 ∧
      ((parseSnapshots [old, cut]).lane 26).index = 50 ∧
      ((parseSnapshots [old, cut]).lane 26).laneCount = 1 ∧
      ((parseSnapshots [old, cut]).lane 26).laneDirections = some [90] := by
  simp only [showsOld, showsCut, Bool.and_eq_true, decide_eq_true_eq] at isOld isCut
  obtain ⟨⟨-, oldCount⟩, oldDirections⟩ := isOld
  obtain ⟨⟨⟨⟨⟨⟨-, current⟩, currentSlot⟩, noSource⟩, index⟩, noCount⟩, noDirections⟩ := isCut
  have parsed : parseSnapshots [old, cut] =
      (parse (parseText (frameText cut.2)) (parseSnapshot (.initial, false) old).2
        (parse (parseText (frameText old.2)) false .initial).1).1 := rfl
  have oldRoute := parse_route oldFacts.no_reason false
    (show State.initial.route.disconnectReason = none from rfl)
  have oldReason : (parse (parseText (frameText old.2)) false .initial).1.route.disconnectReason =
      none := by
    rw [oldRoute, RouteFields.read_reason]
    rfl
  have route := parse_route cutFacts.no_reason (parseSnapshot (.initial, false) old).2 oldReason
  have source : (parseText (frameText cut.2)).numField (.route .sourceSupportsRg) (-1) = none := by
    rw [numField_frameText, noSource]
    rfl
  have lane := parse_lane (parseText (frameText cut.2)) (parseSnapshot (.initial, false) old).2
    (parse (parseText (frameText old.2)) false .initial).1 26
  rw [parseRoute_lane_of_noSource source] at lane
  have oldLane := parse_lane (parseText (frameText old.2)) false .initial 26
  rw [parsed, route, lane, oldLane]
  unfold RouteFields.read RouteFields.readRecords LaneFields.read
  dsimp only
  simp only [numField_frameText, intListField_frameText, current, currentSlot, index, noCount,
    noDirections, oldCount, oldDirections, Option.map_some, Option.map_none, Option.getD_some,
    Option.getD_none]
  decide

/-- The lane shown for the current event 50 is that of the evicted event 60. -/
theorem cut_snapshot_shows_evicted_lane :
    ¬ ∀ (overlay : Bool) (hook : RgdState) (history : List HookEvent)
        (snapshots : List HookSnapshot), (rgdHook overlay).Run hook history →
      snapshots.Sublist (snapshotsOf history) →
        LanesBelong snapshots (parseSnapshots snapshots) := by
  intro belongs
  obtain ⟨hook, history, old, cut, run, inOrder, isOld, isCut⟩ := exists_cut_snapshots
  have produced := ProducedByHook.of_sublist run inOrder
  obtain ⟨current, currentSlot, index, count, directions⟩ :=
    parse_cut (produced old List.mem_cons_self).facts
      (produced cut (List.mem_cons_of_mem _ List.mem_cons_self)).facts isOld isCut
  have shown := belongs false hook history [old, cut] run inOrder
  generalize parseSnapshots [old, cut] = state at current currentSlot index count directions shown
  have holds : HoldsCurrent state 26 := by
    refine ⟨by rw [current]; decide, index.trans current.symm, ?_⟩
    unfold hasLaneCacheForSlot laneCacheCountForSlot
    rw [slotOf_val, Option.any_some, Option.map_some, Option.getD_some, count, directions]
    rfl
  have resolved := resolve_of_current holds currentSlot
  have sends := sendLaneGuidance_of_holds holds resolved
  rcases shown with ⟨none, -⟩ | ⟨slot, isSlot, -, snapshot, member, event, lanes, sent, cached,
    isEvent, isSent, shows⟩
  · rw [resolved] at none
    cases none
  · have same : slot = 26 := by
      rw [resolved] at isSlot
      exact Fin.ext (by exact_mod_cast isSlot.symm)
    subst same
    have isFifty : event = 50 := by
      rw [current] at isEvent
      exact_mod_cast isEvent
    subst isFifty
    rw [sends] at isSent
    obtain rfl := Option.some.inj isSent
    have shownDirections := shows.directions
    rw [directions] at shownDirections
    simp only [showsOld, showsCut, Bool.and_eq_true, decide_eq_true_eq] at isOld isCut
    rcases List.mem_cons.mp member with rfl | isLast
    · have oldEvent := cached.index
      rw [isOld.1.1] at oldEvent
      cases oldEvent
    · obtain rfl := List.mem_singleton.mp isLast
      have newDirections := isCut.1.1.1.1.1.1.2
      rw [cached.lanes, Option.map_some, ← shownDirections] at newDirections
      cases newDirections

/-- A snapshot that is read completely shows the lane of the current event. -/
theorem whole_snapshot_shows_current_lane : ∃ snapshot : HookSnapshot,
    valueOf snapshot.2 (.route .laneGuidanceIndex) = some (.num 3) ∧
      ResolvesCurrent (parseSnapshots [snapshot]) ∧
      LanesBelong [snapshot] (parseSnapshots [snapshot]) := by
  obtain ⟨state, history, run, checked⟩ := (rgdHook false).exists_run_of_replay
    [.message 0x5204 (laneEventFrame 0 3) 1 (fun _ => []),
      .message 0x5201 (laneIndexFrame 0 3) 2 (fun _ => [])]
    (fun result => (result.2[6]?).any (HookEvent.snapshotPasses fun _ records =>
      decide (valueOf records (.route .laneGuidanceIndex) = some (.num 3)) &&
        decide (∀ slot, (valueOf (records.take dataMax) (.lane slot .laneAngles)).isSome = true)))
    (by decide +kernel)
  obtain ⟨shown, records, found, passes⟩ := exists_snapshot_of_passes checked
  rw [Bool.and_eq_true, decide_eq_true_eq, decide_eq_true_eq] at passes
  obtain ⟨isCurrent, whole⟩ := passes
  have produced : ∀ snapshot ∈ [(shown, records)], ProducedByHook snapshot := by
    intro snapshot member
    rw [List.mem_singleton.mp member]
    exact ⟨false, state, history, run, mem_snapshotsOf.mpr (List.mem_of_getElem? found)⟩
  obtain ⟨resolves, belongs⟩ := shown_lanes_belong produced
  refine ⟨(shown, records), isCurrent, resolves, belongs fun snapshot member slot cut => ?_⟩
  rw [List.mem_singleton.mp member] at cut
  have angles := whole slot
  rw [cut.2] at angles
  cases angles

end CarplayRgi
