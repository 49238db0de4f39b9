import CarplayRgi.RgdActiveLanes
import CarplayRgi.RgdFrameReading
import CarplayRgi.RgdRouteSizes

/-!
# The capacity of snapshots

A snapshot has a text of at most 64 KiB and the receiver keeps at most 512
records.  Both are sums over the caches; the weights of the sum are 1 for the
records, and the length of a line for the text.
-/

namespace CarplayRgi

open DecimalText Utf8Text RgdState

section Costs

-- What a record costs, by its key and the length of its value.
variable (cost : RgdKey → Nat → Nat)

def numberCost (key : RgdKey) (value : Option Int) : Nat :=
  value.elim 0 fun number => cost key (encode (decimal number)).length

def natCost (key : RgdKey) (value : Option Nat) : Nat :=
  numberCost cost key (value.map Int.ofNat)

def stringCost (key : RgdKey) (value : Option (List UInt8)) : Nat :=
  value.elim 0 fun bytes => cost key bytes.length

namespace RgdState

/-- The lane slot that is published: looked up for a cached lane index. -/
def routeLaneSlot (state : RgdState) : Option Int :=
  match state.updateCache.laneGuidanceIndex with
  | some index =>
      some (((state.lanes.table.find? index).map fun slot => (slot.val : Int)).getD (-1))
  | none => state.updateCache.laneGuidanceSlot

def routeCost (state : RgdState) : Nat :=
  let upd := state.updateCache
  natCost cost (.route .routeState) upd.routeState +
  natCost cost (.route .maneuverState) upd.maneuverState +
  natCost cost (.route .distDestM) upd.distanceRemaining +
  natCost cost (.route .distManeuverM) upd.distToManeuver +
  natCost cost (.route .etaSeconds) upd.eta +
  natCost cost (.route .timeRemainingSeconds) upd.timeRemaining +
  stringCost cost (.route .currentRoad) upd.currentRoad +
  stringCost cost (.route .destination) upd.destination +
  natCost cost (.route .distDestUnits) upd.distanceUnits +
  natCost cost (.route .distManeuverUnits) upd.distToManeuverUnits +
  stringCost cost (.route .distDestStr) upd.distanceString +
  stringCost cost (.route .distManeuverStr) upd.distToManeuverString +
  natCost cost (.route .laneGuidanceIndex) upd.laneGuidanceIndex +
  numberCost cost (.route .laneGuidanceSlot) state.routeLaneSlot +
  natCost cost (.route .laneGuidanceTotal) upd.laneGuidanceTotal +
  natCost cost (.route .laneGuidanceShowing) upd.laneGuidanceShowing +
  stringCost cost (.route .sourceName) upd.sourceName +
  natCost cost (.route .sourceSupportsRg) upd.sourceSupportsRouteGuidance +
  natCost cost (.route .visibleInApp) upd.visibleInApp +
  natCost cost (.route .componentCount) (upd.componentIds.map List.length) +
  stringCost cost (.route .componentIds)
    (upd.componentIds.map fun ids => commaBytes (ids.map Int.ofNat)) +
  natCost cost (.route .maneuverCount) upd.maneuverCount

/-- The five numbers of the overlay. -/
def amapCost (state : RgdState) : Nat :=
  numberCost cost (.route .amapRouteGeneration) (some state.amap.routeGeneration) +
  numberCost cost (.route .amapRouteUpdateSeq) (some state.amap.routeUpdateSeq) +
  numberCost cost (.route .amapHeadIapIndex)
    (some (if state.amap.headIapIndex = emptyIndex then -1 else state.amap.headIapIndex)) +
  numberCost cost (.route .amapHeadAligned) (some (if state.amap.headAligned then 1 else 0)) +
  numberCost cost (.route .amapDistanceFresh) (some (if state.amap.distanceFresh then 1 else 0))

def listCost (state : RgdState) : Nat :=
  if state.currentList.isSome then
    cost (.route .maneuverList)
      (commaBytes (state.listedSlots.map fun slot => (slot.val : Int))).length
  else 0

/-- The lanes of a maneuver, or the empty texts of a raw linked lane item. -/
def maneuverLaneCost (stack : RgdKey → List UInt8) (slot : Slot) (man : RgdManeuver) : Nat :=
  match man.laneGuidance, man.laneGuidanceRawLen with
  | some lanes, _ =>
      numberCost cost (.maneuver slot .laneCount) (some lanes.length) +
      cost (.maneuver slot .lanePositions) (lanePositions lanes).length +
      cost (.maneuver slot .laneDirections) (laneDirections lanes).length +
      cost (.maneuver slot .laneStatus) (laneStatus lanes).length +
      cost (.maneuver slot .laneDesc) (laneDesc lanes).length +
      cost (.maneuver slot .laneAngles)
        (laneAngles (stack (.maneuver slot .laneAngles)) lanes).length
  | none, some _ =>
      numberCost cost (.maneuver slot .laneCount) (some 0) +
      cost (.maneuver slot .lanePositions) 0 + cost (.maneuver slot .laneDirections) 0 +
      cost (.maneuver slot .laneStatus) 0 + cost (.maneuver slot .laneDesc) 0 +
      cost (.maneuver slot .laneAngles) 0
  | none, none => 0

def maneuverCost (stack : RgdKey → List UInt8) (state : RgdState) (slot : Slot) : Nat :=
  let man := state.maneuvers.slotCache slot
  natCost cost (.maneuver slot .type) man.maneuverType +
  numberCost cost (.maneuver slot .turnAngle) man.exitAngle +
  numberCost cost (.maneuver slot .exitAngle) man.exitAngle +
  natCost cost (.maneuver slot .junctionType) man.junctionType +
  natCost cost (.maneuver slot .drivingSide) man.drivingSide +
  natCost cost (.maneuver slot .distance) man.distanceBetween +
  stringCost cost (.maneuver slot .distanceStr) man.distanceString +
  natCost cost (.maneuver slot .distanceUnits) man.distanceUnits +
  stringCost cost (.maneuver slot .name) man.description +
  stringCost cost (.maneuver slot .afterRoad) man.afterRoadName +
  stringCost cost (.maneuver slot .junctionAngles)
    (man.junctionAngles.map (junctionAnglesText (stack (.maneuver slot .junctionAngles)))) +
  natCost cost (.maneuver slot .ver) (some (state.publishedVer slot)) +
  natCost cost (.maneuver slot .laneGuidanceLen) man.laneGuidanceRawLen +
  natCost cost (.maneuver slot .linkedLaneGuidanceIndex) man.linkedLaneGuidanceIndex +
  numberCost cost (.maneuver slot .linkedLaneGuidanceSlot)
    (man.linkedLaneGuidanceIndex.bind fun linked =>
      (state.lanes.table.find? linked).map fun found => (found.val : Int)) +
  maneuverLaneCost cost stack slot man +
  natCost cost (.maneuver slot .exitInfoLen) man.exitInfoRawLen +
  stringCost cost (.maneuver slot .exitInfo) man.exitInfoStr

/-- A lane slot costs seven records, cached or cleared. -/
def laneCost (stack : RgdKey → List UInt8) (state : RgdState) (slot : Slot) : Nat :=
  let lane := state.lanes.laneCache slot
  match lane.laneGuidanceIndex, lane.laneInformations with
  | some index, some lanes =>
      numberCost cost (.lane slot .index) (some index) +
      numberCost cost (.lane slot .laneCount) (some lanes.length) +
      cost (.lane slot .lanePositions) (lanePositions lanes).length +
      cost (.lane slot .laneDirections) (laneDirections lanes).length +
      cost (.lane slot .laneStatus) (laneStatus lanes).length +
      cost (.lane slot .laneDesc) (laneDesc lanes).length +
      cost (.lane slot .laneAngles) (laneAngles (stack (.lane slot .laneAngles)) lanes).length
  | _, _ =>
      numberCost cost (.lane slot .index) (some (-1)) +
      numberCost cost (.lane slot .laneCount) (some (-1)) +
      cost (.lane slot .lanePositions) 0 + cost (.lane slot .laneDirections) 0 +
      cost (.lane slot .laneStatus) 0 + cost (.lane slot .laneDesc) 0 +
      cost (.lane slot .laneAngles) 0

/-- The caches of a snapshot: those that its writer starts from, and those
after the list of the message is adopted and pruned with. -/
def cachesCost (overlay : Bool) (stack : RgdKey → List UInt8) (currentUpd : Option RgdUpdate)
    (state : RgdState) : Nat :=
  let listed := listedState overlay currentUpd state
  (if overlay then amapCost cost (refreshOverlay overlay state) else 0) + routeCost cost state +
    listCost cost listed + (listed.listedSlots.map (maneuverCost cost stack listed)).sum +
    ((List.finRange maneuverCacheSize).map (laneCost cost stack listed)).sum

end RgdState

/-- The cost of records, one by one. -/
def recordsCost (records : List RgdRecord) : Nat :=
  (records.map fun record => cost record.key record.value.rendered.length).sum

@[simp]
theorem recordsCost_nil : recordsCost cost [] = 0 := rfl

@[simp]
theorem recordsCost_append (first second : List RgdRecord) :
    recordsCost cost (first ++ second) = recordsCost cost first + recordsCost cost second := by
  simp [recordsCost]

@[simp]
theorem recordsCost_numberRecord (key : RgdKey) (value : Int) (records : List RgdRecord) :
    recordsCost cost (RgdState.numberRecord key value :: records) =
      numberCost cost key (some value) + recordsCost cost records := rfl

@[simp]
theorem recordsCost_stringRecord (key : RgdKey) (value : List UInt8) (records : List RgdRecord) :
    recordsCost cost (RgdState.stringRecord key value :: records) =
      cost key value.length + recordsCost cost records := by
  simp [recordsCost, RgdState.stringRecord, BusValue.rendered]

@[simp]
theorem recordsCost_presentNumber (key : RgdKey) (value : Option Int) :
    recordsCost cost (RgdState.presentNumber key value) = numberCost cost key value := by
  cases value <;> simp [RgdState.presentNumber, numberCost]

@[simp]
theorem recordsCost_presentNat (key : RgdKey) (value : Option Nat) :
    recordsCost cost (RgdState.presentNat key value) = natCost cost key value := by
  simp [RgdState.presentNat, natCost]

@[simp]
theorem recordsCost_presentString (key : RgdKey) (value : Option (List UInt8)) :
    recordsCost cost (RgdState.presentString key value) = stringCost cost key value := by
  cases value <;> simp [RgdState.presentString, stringCost]

namespace RgdState

theorem recordsCost_writeRouteKeys (state : RgdState) :
    recordsCost cost (writeRouteKeys state).1 = routeCost cost state := by
  have components : ∀ ids : Option (List Nat), recordsCost cost (componentKeys ids) =
      natCost cost (.route .componentCount) (ids.map List.length) +
        stringCost cost (.route .componentIds) (ids.map fun ids => commaBytes (ids.map Int.ofNat)) := by
    intro ids
    cases ids <;> simp [componentKeys, natCost, numberCost, stringCost]
  have laneSlot : recordsCost cost (laneSlotKeys state.updateCache state).1 =
      numberCost cost (.route .laneGuidanceSlot) state.routeLaneSlot := by
    unfold laneSlotKeys routeLaneSlot
    cases state.updateCache.laneGuidanceIndex <;> simp
  simp only [writeRouteKeys, routeHeadKeys, routeTailKeys, recordsCost_append,
    recordsCost_presentNat, recordsCost_presentString, components, laneSlot, routeCost]
  omega

theorem recordsCost_amapKeys (state : RgdState) :
    recordsCost cost state.amapKeys = amapCost cost state := by
  simp only [amapKeys, recordsCost_numberRecord, recordsCost_nil, amapCost]
  omega

theorem recordsCost_listKeys (state : RgdState) :
    recordsCost cost state.listKeys = listCost cost state := by
  unfold listKeys listCost
  split
  · simp [maneuverListRecord]
  · rfl

theorem recordsCost_maneuverLaneKeys (stack : RgdKey → List UInt8) (slot : Slot)
    (man : RgdManeuver) :
    recordsCost cost (maneuverLaneKeys stack slot man) = maneuverLaneCost cost stack slot man := by
  unfold maneuverLaneKeys maneuverLaneCost
  cases man.laneGuidance with
  | some lanes =>
      simp only [recordsCost_numberRecord, recordsCost_stringRecord, recordsCost_nil]
      omega
  | none =>
      cases man.laneGuidanceRawLen with
      | some rawLen =>
          simp only [recordsCost_numberRecord, recordsCost_stringRecord, recordsCost_nil,
            List.length_nil]
          omega
      | none => rfl

theorem recordsCost_writeSlotDataKeys (stack : RgdKey → List UInt8) (slot : Slot)
    (state : RgdState) :
    recordsCost cost (writeSlotDataKeys stack slot (state.maneuvers.slotCache slot) state).1 =
      maneuverCost cost stack state slot := by
  have linked : ∀ man : RgdManeuver, recordsCost cost (linkedLaneKeys slot man state).1 =
      natCost cost (.maneuver slot .linkedLaneGuidanceIndex) man.linkedLaneGuidanceIndex +
        numberCost cost (.maneuver slot .linkedLaneGuidanceSlot)
          (man.linkedLaneGuidanceIndex.bind fun linked =>
            (state.lanes.table.find? linked).map fun found => (found.val : Int)) := by
    intro man
    unfold linkedLaneKeys
    cases man.linkedLaneGuidanceIndex with
    | none => rfl
    | some index => simp [natCost]
  have version : numberCost cost (.maneuver slot .ver) (some (state.publishedVer slot)) =
      natCost cost (.maneuver slot .ver) (some (state.publishedVer slot)) := rfl
  simp only [writeSlotDataKeys, maneuverDataKeys, recordsCost_append, recordsCost_presentNat,
    recordsCost_presentNumber, recordsCost_presentString, recordsCost_numberRecord,
    recordsCost_nil, recordsCost_maneuverLaneKeys, linked, version, maneuverCost]
  omega

theorem maneuverCost_congr {before after : RgdState} (touched : LaneTouched before after)
    (stack : RgdKey → List UInt8) (slot : Slot) :
    maneuverCost cost stack after slot = maneuverCost cost stack before slot := by
  simp only [maneuverCost, publishedVer, touched.maneuvers, touched.find?]

theorem recordsCost_writeListedSlots (stack : RgdKey → List UInt8) (slots : List Slot)
    (state : RgdState) (used : ∀ slot ∈ slots, state.maneuvers.slotCache slot ≠ {}) :
    recordsCost cost (writeListedSlots stack slots state).1 =
      (slots.map (maneuverCost cost stack state)).sum := by
  induction slots generalizing state with
  | nil => rfl
  | cons slot slots ih =>
      have touched := writeSlotDataKeys_touched stack slot (state.maneuvers.slotCache slot) state
      have rest := ih (writeSlotDataKeys stack slot (state.maneuvers.slotCache slot) state).2
        fun other member => by
          rw [touched.maneuvers]
          exact used other (List.mem_cons_of_mem slot member)
      simp only [writeListedSlots, if_neg (used slot List.mem_cons_self), recordsCost_append, rest,
        recordsCost_writeSlotDataKeys, List.map_cons, List.sum_cons]
      rw [List.map_congr_left fun other _ => maneuverCost_congr cost touched stack other]

theorem recordsCost_laneSlot (stack : RgdKey → List UInt8) (state : RgdState) (slot : Slot) :
    recordsCost cost
        (if state.rgdLaneSlotHasData slot then writeLaneDataKeys stack slot (state.lanes.laneCache slot)
          else writeLaneClearKeys slot) = laneCost cost stack state slot := by
  unfold rgdLaneSlotHasData writeLaneDataKeys laneCost
  dsimp only
  cases (state.lanes.laneCache slot).laneGuidanceIndex <;>
    cases (state.lanes.laneCache slot).laneInformations
  all_goals
    simp only [writeLaneClearKeys, Option.isSome_none, Option.isSome_some, Bool.and_true,
      Bool.and_false, Bool.false_eq_true, if_true, if_false, recordsCost_numberRecord,
      recordsCost_stringRecord, recordsCost_nil, List.length_nil]
    omega

theorem recordsCost_flatMap {writer : Slot → List RgdRecord} {each : Slot → Nat}
    (costs : ∀ slot, recordsCost cost (writer slot) = each slot) (slots : List Slot) :
    recordsCost cost (slots.flatMap writer) = (slots.map each).sum := by
  induction slots with
  | nil => rfl
  | cons slot slots ih =>
      rw [List.flatMap_cons, recordsCost_append, costs, ih, List.map_cons, List.sum_cons]

theorem laneCost_congr {before after : RgdState} (touched : LaneTouched before after)
    (stack : RgdKey → List UInt8) (slot : Slot) :
    laneCost cost stack after slot = laneCost cost stack before slot := by
  simp only [laneCost, touched.laneCache]

/-- The records of a snapshot cost what its caches do. -/
theorem recordsCost_snapshotRecords (overlay : Bool) (stack : RgdKey → List UInt8)
    (currentUpd : Option RgdUpdate) (state : RgdState) :
    recordsCost cost (snapshotRecords overlay stack currentUpd state).1 =
      cachesCost cost overlay stack currentUpd state := by
  have touched := writeListedSlots_touched stack (listedState overlay currentUpd state).listedSlots
    (listedState overlay currentUpd state)
  have lanes : recordsCost cost
      ((writeListedSlots stack (listedState overlay currentUpd state).listedSlots
        (listedState overlay currentUpd state)).2.laneRecords stack) =
      ((List.finRange maneuverCacheSize).map
        (laneCost cost stack (listedState overlay currentUpd state))).sum := by
    rw [laneRecords, recordsCost_flatMap cost (recordsCost_laneSlot cost stack _),
      List.map_congr_left fun slot _ => laneCost_congr cost touched stack slot]
  have route : routeCost cost (refreshOverlay overlay state) = routeCost cost state := by
    cases overlay <;> rfl
  have head : recordsCost cost (overlayKeys overlay (refreshOverlay overlay state)) =
      if overlay then amapCost cost (refreshOverlay overlay state) else 0 := by
    cases overlay
    · rfl
    · exact recordsCost_amapKeys cost _
  simp only [snapshotRecords, recordsCost_append, head, recordsCost_writeRouteKeys, route,
    recordsCost_listKeys, lanes, cachesCost]
  rw [recordsCost_writeListedSlots cost stack _ _
    fun slot listed => slotCache_ne_of_mem_listedSlots listed]

end RgdState

end Costs

theorem recordsCost_one (records : List RgdRecord) :
    recordsCost (fun _ _ => 1) records = records.length := by
  simp [recordsCost]

/-- The bytes of a line: the key, two colons, the type and the newline go with
the value. -/
def lineLength (key : RgdKey) (valueLength : Nat) : Nat :=
  (encode key.text).length + valueLength + 4

/-- The bytes of the header line. -/
def headerLength : Nat := 15

theorem frameText_length (records : List RgdRecord) :
    (frameText records).length = headerLength + recordsCost lineLength records := by
  have header : (encode "@routeguidance\n".toList).length = headerLength := by decide
  rw [frameText, List.length_append, header, List.length_flatMap]
  simp [recordsCost, render_length, lineLength]

/-- The records are published, are few enough for the receiver, and every key
is returned with its value. -/
def Received (records : List RgdRecord) : Prop :=
  ∃ payload, (buildFrame busTextBuilderLargeCap records).busSendText = some payload ∧
    records.length ≤ dataMax ∧
    ∀ key, (parseText payload).str key.text = (valueOf records key).map BusValue.received

theorem received_iff (records : List RgdRecord) :
    Received records ↔ recordsCost (fun _ _ => 1) records ≤ dataMax ∧
      headerLength + recordsCost lineLength records ≤ busTextBuilderLargeCap := by
  rw [recordsCost_one, ← frameText_length]
  unfold Received
  rw [busSendText_buildFrame]
  constructor
  · rintro ⟨payload, sent, few, -⟩
    refine ⟨few, ?_⟩
    by_contra large
    rw [if_neg large] at sent
    cases sent
  · rintro ⟨few, fits⟩
    exact ⟨frameText records, if_pos fits, few, str_frameText few⟩

namespace RgdState

/-- Caches that are within both limits. -/
def WithinCapacity (overlay : Bool) (stack : RgdKey → List UInt8) (currentUpd : Option RgdUpdate)
    (state : RgdState) : Prop :=
  cachesCost (fun _ _ => 1) overlay stack currentUpd state ≤ dataMax ∧
    headerLength + cachesCost lineLength overlay stack currentUpd state ≤ busTextBuilderLargeCap

theorem received_snapshotRecords_iff (overlay : Bool) (stack : RgdKey → List UInt8)
    (currentUpd : Option RgdUpdate) (state : RgdState) :
    Received (snapshotRecords overlay stack currentUpd state).1 ↔
      WithinCapacity overlay stack currentUpd state := by
  rw [received_iff, recordsCost_snapshotRecords, recordsCost_snapshotRecords]
  rfl

theorem snapshot_mem_sendSnapshot {state shown : RgdState} {records other : List RgdRecord} :
    HookEvent.snapshot shown other ∈ sendSnapshot state records ↔
      (∃ payload, (buildFrame busTextBuilderLargeCap records).busSendText = some payload) ∧
        shown = state ∧ other = records := by
  unfold sendSnapshot
  cases (buildFrame busTextBuilderLargeCap records).busSendText <;> simp

end RgdState

/-- A snapshot among the events that the receiver gets completely. -/
def ShowsCompleteSnapshot (events : List HookEvent) : Prop :=
  ∃ shown records, HookEvent.snapshot shown records ∈ events ∧ Received records

theorem showsCompleteSnapshot_append {quiet events : List HookEvent}
    (isQuiet : ∀ event ∈ quiet, event.isAttempt = false) :
    ShowsCompleteSnapshot (quiet ++ events) ↔ ShowsCompleteSnapshot events := by
  constructor
  · rintro ⟨shown, records, member, received⟩
    rcases List.mem_append.mp member with early | late
    · cases isQuiet _ early
    · exact ⟨shown, records, late, received⟩
  · rintro ⟨shown, records, member, received⟩
    exact ⟨shown, records, List.mem_append_right quiet member, received⟩

namespace RgdState

/-- The writer shows a complete snapshot, if it makes one at all, exactly when
the caches are within both limits. -/
theorem writeBusSnapshotFromCache_complete_iff {overlay : Bool} {stack : RgdKey → List UInt8}
    {extraMan : Option RgdManeuver} {currentUpd : Option RgdUpdate} {state : RgdState}
    (attempted : ∃ event ∈ (writeBusSnapshotFromCache overlay stack extraMan currentUpd state).2,
      event.isAttempt = true) :
    ShowsCompleteSnapshot (writeBusSnapshotFromCache overlay stack extraMan currentUpd state).2 ↔
      WithinCapacity overlay stack currentUpd (rgdPruneStaleLaneCache state).2 := by
  rcases writeBusSnapshotFromCache_cases overlay stack extraMan currentUpd state with
    ⟨-, skipped⟩ | written
  · rw [skipped] at attempted
    simp at attempted
  · rw [written, ← received_snapshotRecords_iff]
    constructor
    · rintro ⟨shown, records, member, received⟩
      obtain ⟨-, -, rfl⟩ := snapshot_mem_sendSnapshot.mp member
      exact received
    · intro received
      obtain ⟨payload, sent, -⟩ := id received
      exact ⟨_, _, snapshot_mem_sendSnapshot.mpr ⟨⟨payload, sent⟩, rfl, rfl⟩, received⟩

theorem handleFrame_complete_iff {overlay : Bool} {msgid : Nat} {raw : List UInt8} {now : Nat}
    {stack : RgdKey → List UInt8} {state : RgdState} {currentUpd : Option RgdUpdate}
    (writes : (frameWork overlay msgid raw now state).written = some currentUpd)
    (attempted : ∃ event ∈ (handleFrame overlay msgid raw now stack state).2,
      event.isAttempt = true) :
    ShowsCompleteSnapshot (handleFrame overlay msgid raw now stack state).2 ↔
      WithinCapacity overlay stack currentUpd
        (rgdPruneStaleLaneCache (frameWork overlay msgid raw now state).cached).2 := by
  have ends := handleFrame_work overlay msgid raw now stack state
  unfold LaneWork.EndsIn at ends
  rw [writes] at ends
  obtain ⟨extraMan, quiet, isQuiet, resultEq⟩ := ends
  rw [resultEq] at attempted ⊢
  rw [showsCompleteSnapshot_append isQuiet]
  refine writeBusSnapshotFromCache_complete_iff ?_
  obtain ⟨event, member, isAttempt⟩ := attempted
  rcases List.mem_append.mp member with early | late
  · rw [isQuiet event early] at isAttempt
    cases isAttempt
  · exact ⟨event, late, isAttempt⟩

theorem isAttempt_of_mem_sendSnapshot (state : RgdState) (records : List RgdRecord) :
    ∃ event ∈ sendSnapshot state records, event.isAttempt = true := by
  unfold sendSnapshot
  cases (buildFrame busTextBuilderLargeCap records).busSendText with
  | none => exact ⟨.overflowed, by simp, rfl⟩
  | some payload => exact ⟨.snapshot state records, by simp, rfl⟩

/-- The writer makes a snapshot as soon as a route update is cached. -/
theorem handleFrame_attempts {overlay : Bool} {msgid : Nat} {raw : List UInt8} {now : Nat}
    (stack : RgdKey → List UInt8) {state : RgdState} {currentUpd : Option RgdUpdate}
    (writes : (frameWork overlay msgid raw now state).written = some currentUpd)
    (cached : (frameWork overlay msgid raw now state).cached.updateCache ≠ {}) :
    ∃ event ∈ (handleFrame overlay msgid raw now stack state).2, event.isAttempt = true := by
  have ends := handleFrame_work overlay msgid raw now stack state
  unfold LaneWork.EndsIn at ends
  rw [writes] at ends
  obtain ⟨extraMan, quiet, -, resultEq⟩ := ends
  rcases writeBusSnapshotFromCache_cases overlay stack extraMan currentUpd
    (frameWork overlay msgid raw now state).cached with ⟨empty, -⟩ | written
  · exact absurd empty cached
  · obtain ⟨event, member, isAttempt⟩ := isAttempt_of_mem_sendSnapshot
      (snapshotRecords overlay stack currentUpd
        (rgdPruneStaleLaneCache (frameWork overlay msgid raw now state).cached).2).2
      (snapshotRecords overlay stack currentUpd
        (rgdPruneStaleLaneCache (frameWork overlay msgid raw now state).cached).2).1
    refine ⟨event, ?_, isAttempt⟩
    rw [resultEq, written]
    exact List.mem_append_right quiet member

end RgdState

theorem rgdHookStep_complete_iff (overlay : Bool) (msgid : Nat) (raw : List UInt8) (now : Nat)
    (stack : RgdKey → List UInt8) (state : RgdState) :
    ShowsCompleteSnapshot (rgdHookStep overlay (.message msgid raw now stack) state).2 ↔
      ShowsCompleteSnapshot
        (handleFrame overlay msgid raw now stack (rgdLazyInit overlay state).1).2 := by
  refine showsCompleteSnapshot_append ?_
  unfold rgdLazyInit rgdClearState
  split_ifs <;> simp [HookEvent.isAttempt]

/-- A 0x5201 with a list of the maneuvers 1 to 14. -/
def longListFrame : List UInt8 :=
  [0x40, 0x40, 0, 43, 0x52, 0x01, 0, 5, 0, 1, 1, 0, 32, 0, 0x0D, 0, 1, 0, 2, 0, 3, 0, 4, 0, 5, 0, 6,
    0, 7, 0, 8, 0, 9, 0, 10, 0, 11, 0, 12, 0, 13, 0, 14]

/-- A 0x5202 with every item; its texts and lists are empty. -/
def fullManeuverFrame (index : UInt8) : List UInt8 :=
  [0x40, 0x40, 0, 71, 0x52, 0x02, 0, 6, 0, 1, 0, index, 0, 4, 0, 2, 0, 5, 0, 3, 1, 0, 4, 0, 4,
    0, 8, 0, 5, 0, 0, 0, 1, 0, 4, 0, 6, 0, 5, 0, 7, 1, 0, 5, 0, 8, 1, 0, 5, 0, 9, 1, 0, 4, 0, 0x0A,
    0, 6, 0, 0x0C, 0, 1, 0, 4, 0, 0x0D]

/-- A route with 14 maneuvers, of which the last is still to be sent. -/
def longRouteLabels : List HookLabel :=
  .message 0x5201 longListFrame 1 (fun _ => []) ::
    (List.range 13).map fun index =>
      .message 0x5202 (fullManeuverFrame (UInt8.ofNat (index + 1))) 2 fun _ => []

end CarplayRgi
