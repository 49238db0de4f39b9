import CarplayRgi.RgdCachedManeuvers
import CarplayRgi.RgdTripRecords
import CarplayRgi.RouteGuidanceSlots

/-!
# Reading the maneuver slots of a snapshot

The records of the route and of at most 16 listed slots come first in a
snapshot, so the receiver has room for all of them.  What it reads of a slot is
what the cache has for it; for anything else it keeps what was in the slot.
-/

namespace CarplayRgi

open DecimalText RouteGuidance Utf8Text

namespace RgdState

theorem linkedLaneKeys_length_le (slot : Slot) (man : RgdManeuver) (state : RgdState) :
    (linkedLaneKeys slot man state).1.length ≤ 2 := by
  unfold linkedLaneKeys
  split
  · exact Nat.zero_le _
  · exact Nat.succ_le_succ (presentNumber_length_le _ _)

theorem maneuverLaneKeys_length_le (stack : RgdKey → List UInt8) (slot : Slot)
    (man : RgdManeuver) : (maneuverLaneKeys stack slot man).length ≤ 6 := by
  unfold maneuverLaneKeys
  split
  · exact le_rfl
  · exact le_rfl
  · exact Nat.zero_le _

theorem maneuverDataKeys_length_le (stack : RgdKey → List UInt8) (state : RgdState) (slot : Slot)
    (man : RgdManeuver) : (maneuverDataKeys stack state slot man).length ≤ 13 := by
  unfold maneuverDataKeys
  repeat
    refine length_append_le ?_
      (by first
        | exact presentNat_length_le _ _
        | exact presentNumber_length_le _ _
        | exact presentString_length_le _ _
        | exact le_rfl)
  exact presentNat_length_le _ _

theorem writeSlotDataKeys_length_le (stack : RgdKey → List UInt8) (slot : Slot)
    (man : RgdManeuver) (state : RgdState) :
    (writeSlotDataKeys stack slot man state).1.length ≤ 23 := by
  have data := maneuverDataKeys_length_le stack state slot man
  have linked := linkedLaneKeys_length_le slot man state
  have lanes := maneuverLaneKeys_length_le stack slot man
  have exitLen := presentNat_length_le (.maneuver slot .exitInfoLen) man.exitInfoRawLen
  have exitInfo := presentString_length_le (.maneuver slot .exitInfo) man.exitInfoStr
  simp only [writeSlotDataKeys, List.length_append]
  omega

theorem writeListedSlots_length_le (stack : RgdKey → List UInt8) (slots : List Slot)
    (state : RgdState) : (writeListedSlots stack slots state).1.length ≤ slots.length * 23 := by
  induction slots generalizing state with
  | nil => exact Nat.zero_le _
  | cons slot slots ih =>
      simp only [writeListedSlots, List.length_append, List.length_cons]
      rw [Nat.succ_mul, Nat.add_comm]
      refine Nat.add_le_add (ih _) ?_
      split_ifs
      · exact Nat.zero_le _
      · exact writeSlotDataKeys_length_le stack slot _ state

theorem listedSlots_length_le {state : RgdState} (short : ListShort state) :
    state.listedSlots.length ≤ maxManeuverList :=
  (List.length_filterMap_le _ _).trans short

/-- All records but those of the lane slots are among the first 512. -/
theorem BuiltFrom.valueOf_take {overlay : Bool} {shown : RgdState} {records : List RgdRecord}
    (built : BuiltFrom overlay shown records) (short : ListShort shown) {key : RgdKey}
    (notLane : ∀ slot laneKey, key ≠ .lane slot laneKey) :
    valueOf (records.take dataMax) key = valueOf records key := by
  obtain ⟨stack, currentUpd, before, writtenEq⟩ := built
  simp only [snapshotRecords, Prod.mk.injEq] at writtenEq
  obtain ⟨rfl, rfl⟩ := writtenEq
  have touched := writeListedSlots_touched stack
    (listedState overlay currentUpd before).listedSlots (listedState overlay currentUpd before)
  have noLanes : valueOf
      ((writeListedSlots stack (listedState overlay currentUpd before).listedSlots
        (listedState overlay currentUpd before)).2.laneRecords stack) key = none :=
    valueOf_eq_none fun record member equal => by
      obtain ⟨slot, laneKey, keyEq⟩ := key_of_mem_laneRecords member
      exact notLane slot laneKey (equal.symm.trans keyEq)
  have few := listedSlots_length_le short
  rw [touched.listedSlots] at few
  have overlayLe := length_overlayKeys overlay (refreshOverlay overlay before)
  have routeLe := writeRouteKeys_length_le (refreshOverlay overlay before)
  have slotsLe := writeListedSlots_length_le stack
    (listedState overlay currentUpd before).listedSlots (listedState overlay currentUpd before)
  have listLe : (listedState overlay currentUpd before).listKeys.length ≤ 1 := by
    unfold listKeys
    split_ifs
    · exact le_rfl
    · exact Nat.zero_le _
  refine (valueOf_append_take ?_ noLanes).trans ?_
  · simp only [List.length_append]
    have room : maxManeuverList * 23 + 28 ≤ dataMax := by decide
    have slotsFew := Nat.mul_le_mul_right 23 few
    omega
  · rw [valueOf_append _ (laneRecords stack _), noLanes, Option.or_none]

/-- What a slot without lanes has for a key. -/
def slotValue (stack : RgdKey → List UInt8) (state : RgdState) (slot : Slot) (man : RgdManeuver) :
    ManeuverKey → Option BusValue
  | .type => man.maneuverType.map fun value : Nat => .num value
  | .turnAngle | .exitAngle => man.exitAngle.map .num
  | .zLevel | .zlevel => none
  | .junctionType => man.junctionType.map fun value : Nat => .num value
  | .drivingSide => man.drivingSide.map fun value : Nat => .num value
  | .distance => man.distanceBetween.map fun value : Nat => .num value
  | .distanceStr => man.distanceString.map .str
  | .distanceUnits => man.distanceUnits.map fun value : Nat => .num value
  | .name => man.description.map .str
  | .afterRoad => man.afterRoadName.map .str
  | .junctionAngles =>
      man.junctionAngles.map fun angles =>
        .str (junctionAnglesText (stack (.maneuver slot .junctionAngles)) angles)
  | .ver => some (.num (state.publishedVer slot))
  | .laneGuidanceLen => man.laneGuidanceRawLen.map fun value : Nat => .num value
  | .linkedLaneGuidanceIndex => man.linkedLaneGuidanceIndex.map fun value : Nat => .num value
  | .linkedLaneGuidanceSlot =>
      (man.linkedLaneGuidanceIndex.bind state.lanes.table.find?).map fun found : Slot => .num found.val
  | .laneCount => man.laneGuidanceRawLen.map fun _ => .num 0
  | .lanePositions | .laneDirections | .laneStatus | .laneDesc | .laneAngles =>
      man.laneGuidanceRawLen.map fun _ => .str []
  | .exitInfoLen => man.exitInfoRawLen.map fun value : Nat => .num value
  | .exitInfo => man.exitInfoStr.map .str

/-- The keys of the linked lane, of the lanes and of the exit come last. -/
def laterKeys : List ManeuverKey :=
  [.linkedLaneGuidanceIndex, .linkedLaneGuidanceSlot, .laneCount, .lanePositions, .laneDirections,
    .laneStatus, .laneDesc, .laneAngles, .exitInfoLen, .exitInfo]

section Values

variable (stack : RgdKey → List UInt8) (state : RgdState) (slot : Slot) {man : RgdManeuver}
  (key : ManeuverKey)

theorem valueOf_maneuverDataKeys :
    valueOf (maneuverDataKeys stack state slot man) (.maneuver slot key) =
      if key ∈ laterKeys then none else slotValue stack state slot man key := by
  unfold maneuverDataKeys
  cases key <;> simp [slotValue, laterKeys, Function.comp_def]

theorem valueOf_linkedLaneKeys :
    valueOf (linkedLaneKeys slot man state).1 (.maneuver slot key) =
      if key ∈ [ManeuverKey.linkedLaneGuidanceIndex, .linkedLaneGuidanceSlot] then
        slotValue stack state slot man key
      else none := by
  unfold linkedLaneKeys
  cases linkedEq : man.linkedLaneGuidanceIndex with
  | none => cases key <;> simp [slotValue, linkedEq]
  | some linked => cases key <;> simp [slotValue, linkedEq, Function.comp_def]

theorem valueOf_maneuverLaneKeys (noLanes : man.laneGuidance = none) :
    valueOf (maneuverLaneKeys stack slot man) (.maneuver slot key) =
      if key ∈ [ManeuverKey.laneCount, .lanePositions, .laneDirections, .laneStatus, .laneDesc,
          .laneAngles] then
        slotValue stack state slot man key
      else none := by
  unfold maneuverLaneKeys
  rw [noLanes]
  cases rawEq : man.laneGuidanceRawLen with
  | none => cases key <;> simp [slotValue, rawEq]
  | some length => cases key <;> simp [slotValue, rawEq]

theorem valueOf_writeSlotDataKeys (noLanes : man.laneGuidance = none) :
    valueOf (writeSlotDataKeys stack slot man state).1 (.maneuver slot key) =
      slotValue stack state slot man key := by
  unfold writeSlotDataKeys
  dsimp only
  rw [valueOf_append, valueOf_append, valueOf_append, valueOf_append,
    valueOf_maneuverDataKeys, valueOf_linkedLaneKeys stack, valueOf_maneuverLaneKeys _ state,
    valueOf_presentNat, valueOf_presentString]
  · cases key <;> simp [laterKeys, slotValue]
  · exact noLanes

end Values

/-- A number of the cache as an `int` of the receiver. -/
def cachedInt (number : Nat) : Int := number

/-- A distance beyond the range of an `int` is not read. -/
def readDistance (number : Nat) : Int := (parseInt (decimal number)).getD (-1)

/-- A slot of the receiver after the records of a cached maneuver without lanes. -/
def told (stack : RgdKey → List UInt8) (shown : RgdState) (slot : Slot) (man : RgdManeuver)
    (kept : ManeuverFields) : ManeuverFields :=
  let turnAngle := man.exitAngle.getD kept.turnAngle
  { type := (man.maneuverType.map cachedInt).getD kept.type
    turnAngle
    zLevel := kept.zLevel
    junctionType := (man.junctionType.map cachedInt).getD kept.junctionType
    drivingSide := (man.drivingSide.map cachedInt).getD kept.drivingSide
    distance := (man.distanceBetween.map readDistance).getD kept.distance
    name := (man.description.map fun text => some (receivedText text)).getD kept.name
    afterRoad := (man.afterRoadName.map fun text => some (receivedText text)).getD kept.afterRoad
    exitInfo := (man.exitInfoStr.map fun text => some (receivedText text)).getD kept.exitInfo
    junctionAngles :=
      (man.junctionAngles.map fun angles =>
        intListOf (receivedText
          (junctionAnglesText (stack (.maneuver slot .junctionAngles)) angles))).getD
        kept.junctionAngles
    exitAngle :=
      man.exitAngle.getD (if turnAngle = kept.turnAngle then kept.exitAngle else turnAngle)
    linkedLaneGuidanceIndex :=
      (man.linkedLaneGuidanceIndex.map cachedInt).getD kept.linkedLaneGuidanceIndex
    linkedLaneGuidanceSlot :=
      ((man.linkedLaneGuidanceIndex.bind shown.lanes.table.find?).map fun found : Slot =>
        (found.val : Int)).getD kept.linkedLaneGuidanceSlot
    ver := shown.publishedVer slot
    lanePositions := (man.laneGuidanceRawLen.map fun _ => none).getD kept.lanePositions
    laneCount := (man.laneGuidanceRawLen.map fun _ => 0).getD kept.laneCount
    laneDirections := (man.laneGuidanceRawLen.map fun _ => none).getD kept.laneDirections
    laneStatus := (man.laneGuidanceRawLen.map fun _ => none).getD kept.laneStatus
    laneAngles := (man.laneGuidanceRawLen.map fun _ => none).getD kept.laneAngles }

section Told

variable {records : List RgdRecord} {slot : Slot} {key : ManeuverKey}

theorem numField_told {field : Option Int} (default : Int)
    (value : valueOf (records.take dataMax) (.maneuver slot key) = field.map .num)
    (fits : ∀ number ∈ field, Fits 32 number) :
    (parseText (frameText records)).numField (.maneuver slot key) default = field := by
  rw [numField_frameText, value]
  cases field with
  | none => rfl
  | some number =>
      have read : parseInt (decimal number) = some number := parseInt_decimal (fits number rfl)
      simp only [Option.map_some, BusValue.received, read, Option.getD_some]

theorem natField_told {field : Option Nat} (default : Int)
    (value : valueOf (records.take dataMax) (.maneuver slot key) =
      field.map fun number : Nat => .num number) (fits : NatFits field) :
    (parseText (frameText records)).numField (.maneuver slot key) default =
      field.map cachedInt := by
  refine numField_told default (value.trans ?_) ?_
  · rw [Option.map_map]
    rfl
  · intro number member
    obtain ⟨natural, isField, rfl⟩ := Option.map_eq_some_iff.mp member
    exact fits natural isField

theorem strField_told {field : Option (List UInt8)}
    (value : valueOf (records.take dataMax) (.maneuver slot key) = field.map .str) :
    (parseText (frameText records)).strField (.maneuver slot key) =
      field.map fun text => some (receivedText text) := by
  rw [strField_frameText, value, Option.map_map]
  rfl

theorem intListField_told {field : Option (List UInt8)}
    (value : valueOf (records.take dataMax) (.maneuver slot key) = field.map .str) :
    (parseText (frameText records)).intListField (.maneuver slot key) =
      field.map fun text => intListOf (receivedText text) := by
  unfold BusData.intListField BusData.intList
  rw [has_frameText, str_frameText_take, value]
  cases field with
  | none => rfl
  | some text => rfl

theorem laneAnglesField_told {field : Option (List UInt8)}
    (value : valueOf (records.take dataMax) (.maneuver slot key) = field.map .str) :
    (parseText (frameText records)).laneAnglesField (.maneuver slot key) =
      field.map fun text => parseLaneAnglesMatrix (receivedText text) := by
  unfold BusData.laneAnglesField
  rw [has_frameText, str_frameText_take, value]
  cases field with
  | none => rfl
  | some text => rfl

theorem fits_publishedVer (shown : RgdState) (slot : Slot) :
    Fits 32 (shown.publishedVer slot : Int) := by
  have small : shown.publishedVer slot ≤ 65535 := by
    unfold publishedVer
    omega
  constructor
  · norm_num
  · norm_num
    omega

/-- What the receiver reads of a slot, if the records have the values of the cache. -/
theorem read_told {stack : RgdKey → List UInt8} {shown : RgdState} {man : RgdManeuver}
    (values : ∀ key, valueOf (records.take dataMax) (.maneuver slot key) =
      slotValue stack shown slot man key)
    (cached : ManeuverCached man) (kept : ManeuverFields) :
    kept.read (parseText (frameText records)) slot = told stack shown slot man kept := by
  have type := natField_told (-1) (values .type) cached.maneuverType
  have turnAngle := numField_told (-1) (values .turnAngle) cached.exitAngle
  have exitAngle := numField_told 1000 (values .exitAngle) cached.exitAngle
  have zLevel : (parseText (frameText records)).numField (.maneuver slot .zLevel) (-1) = none :=
    @numField_told _ _ _ none (-1) (values .zLevel) fun _ member => by cases member
  have zlevel : (parseText (frameText records)).numField (.maneuver slot .zlevel) (-1) = none :=
    @numField_told _ _ _ none (-1) (values .zlevel) fun _ member => by cases member
  have junctionType := natField_told (-1) (values .junctionType) cached.junctionType
  have drivingSide := natField_told (-1) (values .drivingSide) cached.drivingSide
  have distance : (parseText (frameText records)).numField (.maneuver slot .distance) (-1) =
      man.distanceBetween.map readDistance := by
    rw [numField_frameText, values, slotValue, Option.map_map]
    rfl
  have ver := @numField_told _ _ _ (some (shown.publishedVer slot : Int)) (-1) (values .ver)
    fun number member => by
      cases member
      exact fits_publishedVer shown slot
  have linkedIndex := natField_told (-1) (values .linkedLaneGuidanceIndex) cached.linked
  have linkedSlot := @numField_told _ _ _
    ((man.linkedLaneGuidanceIndex.bind shown.lanes.table.find?).map fun found : Slot =>
      (found.val : Int)) (-1) ((values .linkedLaneGuidanceSlot).trans (by
        rw [slotValue, Option.map_map]
        rfl))
    fun number member => by
      obtain ⟨found, -, rfl⟩ := Option.map_eq_some_iff.mp member
      have fits : ∀ slot : Slot, Fits 32 (slot.val : Int) := by decide
      exact fits found
  have laneCount := @numField_told _ _ _ (man.laneGuidanceRawLen.map fun _ => 0) (-1)
    ((values .laneCount).trans (by
      rw [slotValue, Option.map_map]
      rfl))
    fun number member => by
      obtain ⟨length, -, rfl⟩ := Option.map_eq_some_iff.mp member
      decide
  have noText : ∀ laneKey, slotValue stack shown slot man laneKey =
      man.laneGuidanceRawLen.map (fun _ => .str []) →
      valueOf (records.take dataMax) (.maneuver slot laneKey) =
        (man.laneGuidanceRawLen.map fun _ => []).map .str := by
    intro laneKey isText
    rw [values, isText, Option.map_map]
    rfl
  have lanePositions := intListField_told (noText .lanePositions rfl)
  have laneDirections := intListField_told (noText .laneDirections rfl)
  have laneStatus := intListField_told (noText .laneStatus rfl)
  have laneAngles := laneAnglesField_told (noText .laneAngles rfl)
  have junctionAngles := @intListField_told _ _ _
    (man.junctionAngles.map fun angles =>
      junctionAnglesText (stack (.maneuver slot .junctionAngles)) angles)
    ((values .junctionAngles).trans (by
      rw [slotValue, Option.map_map]
      rfl))
  rw [Option.map_map] at lanePositions laneDirections laneStatus laneAngles junctionAngles
  unfold ManeuverFields.read told
  dsimp only
  rw [type, turnAngle, exitAngle, zLevel, zlevel, junctionType, drivingSide, distance, ver,
    linkedIndex, linkedSlot, laneCount, lanePositions, laneDirections, laneStatus, laneAngles,
    junctionAngles, strField_told (values .name), strField_told (values .afterRoad),
    strField_told (values .exitInfo)]
  rfl

end Told

section Frame

variable {overlay : Bool} {shown : RgdState} {records : List RgdRecord}

theorem BuiltFrom.slotValue (built : BuiltFrom overlay shown records) (short : ListShort shown)
    {slot : Slot} (listed : slot ∈ shown.listedSlots)
    (noLanes : (shown.maneuvers.slotCache slot).laneGuidance = none) :
    ∃ stack, ∀ key, valueOf (records.take dataMax) (.maneuver slot key) =
      RgdState.slotValue stack shown slot (shown.maneuvers.slotCache slot) key := by
  obtain ⟨stack, values⟩ := built.maneuver
  refine ⟨stack, fun key => ?_⟩
  rw [built.valueOf_take short fun _ _ => RgdKey.noConfusion, values, if_pos listed,
    valueOf_writeSlotDataKeys _ _ _ _ noLanes]

theorem BuiltFrom.sourceSupportsRg (built : BuiltFrom overlay shown records) :
    valueOf records (.route .sourceSupportsRg) =
      shown.updateCache.sourceSupportsRouteGuidance.map fun supports : Nat => .num supports := by
  obtain ⟨stack, currentUpd, before, writtenEq⟩ := built
  have sameCache := (snapshotRecords_step overlay stack currentUpd before).updateCache
  have value := valueOf_snapshotRecords_route overlay stack currentUpd before .sourceSupportsRg
  rw [writtenEq] at sameCache value
  rw [value, sameCache, valueOf_overlayKeys_of_ne (by simp [amapKeys]),
    valueOf_listKeys_of_ne (by simp)]
  simp [writeRouteKeys, routeHeadKeys, routeTailKeys]

/-- What a snapshot finds in a slot of the receiver: a source that ceases to
support guidance clears the slots of a route. -/
def keptFor (shown : RgdState) (java : State) (slot : Slot) : ManeuverFields :=
  if shown.updateCache.sourceSupportsRouteGuidance = some 0 ∧ java.route.sourceSupportsRg ≠ 0 ∧
      java.route.routeState ≠ 0 then {}
  else java.maneuver slot

theorem BuiltFrom.foundIn (built : BuiltFrom overlay shown records) (short : ListShort shown)
    (java : State) (slot : Slot) :
    RouteGuidance.foundIn (parseText (frameText records)) java slot = keptFor shown java slot := by
  have supports : (parseText (frameText records)).numField (.route .sourceSupportsRg) (-1) =
      shown.updateCache.sourceSupportsRouteGuidance.map fun number : Nat =>
        (parseInt (decimal number)).getD (-1) := by
    rw [numField_frameText, built.valueOf_take short fun _ _ => RgdKey.noConfusion,
      built.sourceSupportsRg, Option.map_map]
    rfl
  have clears : clearsSlots (parseText (frameText records)) java = true ↔
      shown.updateCache.sourceSupportsRouteGuidance = some 0 ∧
        java.route.sourceSupportsRg ≠ 0 ∧ java.route.routeState ≠ 0 := by
    unfold clearsSlots
    rw [supports]
    cases shown.updateCache.sourceSupportsRouteGuidance with
    | none => simp
    | some number =>
        rw [Option.map_some, Option.any_some, decide_eq_true_eq, parseInt_decimal_eq_zero_iff,
          Option.some_inj]
        constructor
        · rintro ⟨differs, isZero, onRoute⟩
          rw [(parseInt_decimal_eq_zero_iff _).mpr isZero] at differs
          exact ⟨by exact_mod_cast isZero, differs.symm, onRoute⟩
        · rintro ⟨rfl, differs, onRoute⟩
          rw [(parseInt_decimal_eq_zero_iff ((0 : Nat) : Int)).mpr rfl]
          exact ⟨differs.symm, rfl, onRoute⟩
  unfold RouteGuidance.foundIn keptFor
  exact if_congr clears rfl rfl

theorem BuiltFrom.takesSlot (built : BuiltFrom overlay shown records) (short : ListShort shown)
    {slot : Slot} (lists : ListsSlot records slot) (hasRouteUpdate : Bool) (java : State) :
    RouteGuidance.takesSlot (parseText (frameText records))
      (hasRouteUpdate || isRouteUpdateDelta (parseText (frameText records)))
      (parse (parseText (frameText records)) hasRouteUpdate java).1.route slot = true := by
  obtain ⟨slots, list, member⟩ := lists
  have nonempty : (slots.map fun listed => (listed.val : Int)) ≠ [] :=
    fun noSlots => List.ne_nil_of_mem member (List.map_eq_nil_iff.mp noSlots)
  have taken : valueOf (records.take dataMax) (.route .maneuverList) =
      some (.str (commaBytes (slots.map fun listed => (listed.val : Int)))) :=
    (built.valueOf_take short fun _ _ => RgdKey.noConfusion).trans list
  have text : receivedText (commaBytes (slots.map fun listed => (listed.val : Int))) =
      commaList (slots.map fun listed => (listed.val : Int)) :=
    receivedText_encode fun char inList => Nat.le_of_lt (commaList_visible _ char inList)
  have fits : ∀ number ∈ slots.map fun listed => (listed.val : Int), Fits 32 number := by
    have small : ∀ slot : Slot, Fits 32 (slot.val : Int) := by decide
    intro number inList
    obtain ⟨listed, -, rfl⟩ := List.mem_map.mp inList
    exact small listed
  have has : (parseText (frameText records)).has (RgdKey.route .maneuverList).text = true := by
    rw [has_frameText, taken]
    rfl
  have isList : maneuverListField (parseText (frameText records)) =
      some (some (slots.map fun listed => (listed.val : Int))) := by
    unfold maneuverListField BusData.intList
    rw [if_pos has, str_frameText_take, taken, Option.map_some, BusValue.received, text,
      Option.bind_some, intListOf_commaList nonempty fits]
    obtain ⟨first, rest, isText⟩ := List.exists_cons_of_ne_nil (commaList_ne_nil nonempty)
    rw [isText]
  exact takesSlot_of_list isList nonempty
    (List.any_eq_true.mpr ⟨.maneuverList, by decide, has⟩) hasRouteUpdate java slot

/-- A listed slot of the receiver after a snapshot. -/
theorem BuiltFrom.parse_slot (built : BuiltFrom overlay shown records) (short : ListShort shown)
    {slot : Slot} (lists : ListsSlot records slot)
    (cached : ManeuverCached (shown.maneuvers.slotCache slot)) :
    ∃ stack, ∀ hasRouteUpdate java,
      (parse (parseText (frameText records)) hasRouteUpdate java).1.maneuver slot =
        told stack shown slot (shown.maneuvers.slotCache slot) (keptFor shown java slot) := by
  obtain ⟨stack, values⟩ := built.slotValue short (built.listsSlot lists) cached.noLanes
  refine ⟨stack, fun hasRouteUpdate java => ?_⟩
  rw [parse_maneuver, if_pos (built.takesSlot short lists hasRouteUpdate java),
    built.foundIn short, read_told values cached]

/-- A slot without records is left alone. -/
theorem read_of_absent {slot : Slot}
    (absent : ∀ key, valueOf (records.take dataMax) (.maneuver slot key) = none)
    (kept : ManeuverFields) : kept.read (parseText (frameText records)) slot = kept := by
  have noNumber : ∀ key default,
      (parseText (frameText records)).numField (.maneuver slot key) default = none := by
    intro key default
    rw [numField_frameText, absent]
    rfl
  have noText : ∀ key, (parseText (frameText records)).strField (.maneuver slot key) = none := by
    intro key
    rw [strField_frameText, absent]
    rfl
  have noKey : ∀ key, ¬ (parseText (frameText records)).has (RgdKey.maneuver slot key).text = true := by
    intro key present
    rw [has_frameText, absent] at present
    cases present
  unfold ManeuverFields.read BusData.intListField BusData.laneAnglesField
  simp only [noNumber, noText, if_neg (noKey _), Option.getD_none, if_true]

theorem BuiltFrom.parse_unlisted (built : BuiltFrom overlay shown records)
    (short : ListShort shown) {slot : Slot} (unlisted : slot ∉ shown.listedSlots)
    (hasRouteUpdate : Bool) (java : State) :
    (parse (parseText (frameText records)) hasRouteUpdate java).1.maneuver slot =
      keptFor shown java slot := by
  obtain ⟨stack, values⟩ := built.maneuver
  have absent : ∀ key, valueOf (records.take dataMax) (.maneuver slot key) = none := by
    intro key
    rw [built.valueOf_take short fun _ _ => RgdKey.noConfusion, values, if_neg unlisted]
  rw [parse_maneuver, built.foundIn short, read_of_absent absent, ite_self]

end Frame

end RgdState

end CarplayRgi
