import CarplayRgi.RgdFrameReading
import CarplayRgi.RgdRouteSizes
import CarplayRgi.RouteGuidanceTrip

/-!
# The trip in a snapshot

The records of the cached route update stand in front of all slots, so the
receiver reads them from every snapshot however long it is.  A trip field of
the receiver becomes the cached one, if there is one.
-/

namespace CarplayRgi

open DecimalText

theorem str_frameText_take (records : List RgdRecord) (key : RgdKey) :
    (parseText (frameText records)).str key.text =
      (valueOf (records.take dataMax) key).map BusValue.received := by
  have cut : (parseText (frameText records)).records =
      (parseText (frameText (records.take dataMax))).records := by
    rw [parseText_frameText, parseText_frameText, List.map_take, List.take_take, Nat.min_self]
  have same : (parseText (frameText records)).str key.text =
      (parseText (frameText (records.take dataMax))).str key.text := by
    rw [BusData.str, cut]
    rfl
  rw [same, str_frameText (List.length_take_le _ _)]

theorem has_frameText (records : List RgdRecord) (key : RgdKey) :
    (parseText (frameText records)).has key.text =
      (valueOf (records.take dataMax) key).isSome := by
  rw [Bool.eq_iff_iff, BusData.has_iff, str_frameText_take, Option.isSome_map]

theorem numField_frameText (records : List RgdRecord) (key : RgdKey) (default : Int) :
    (parseText (frameText records)).numField key default =
      (valueOf (records.take dataMax) key).map fun value =>
        (parseInt value.received).getD default := by
  rw [BusData.numField, has_frameText, BusData.num, str_frameText_take]
  cases valueOf (records.take dataMax) key <;> rfl

theorem num64Field_frameText (records : List RgdRecord) (key : RgdKey) (default : Int) :
    (parseText (frameText records)).num64Field key default =
      (valueOf (records.take dataMax) key).map fun value =>
        (parseLong value.received).getD default := by
  rw [BusData.num64Field, has_frameText, BusData.num64, str_frameText_take]
  cases valueOf (records.take dataMax) key <;> rfl

theorem strField_frameText (records : List RgdRecord) (key : RgdKey) :
    (parseText (frameText records)).strField key =
      (valueOf (records.take dataMax) key).map fun value => some value.received := by
  rw [BusData.strField, has_frameText, str_frameText_take]
  cases valueOf (records.take dataMax) key <;> rfl

/-- A number of the hook as an `int` of the receiver. -/
def receivedInt (number : Nat) : Int := (parseInt (decimal number)).getD (-1)

def receivedLong (number : Nat) : Int := (parseLong (decimal number)).getD (-1)

namespace RgdUpdate

open RouteGuidance

/-- The trip of the receiver after it has been told the fields of the update. -/
def tellTrip (upd : RgdUpdate) (trip : TripFields) : TripFields where
  distDestM := (upd.distanceRemaining.map receivedInt).getD trip.distDestM
  distManeuverM := (upd.distToManeuver.map receivedInt).getD trip.distManeuverM
  etaSeconds := (upd.eta.map receivedInt).getD trip.etaSeconds
  timeRemainingSeconds := (upd.timeRemaining.map receivedLong).getD trip.timeRemainingSeconds
  currentRoad := (upd.currentRoad.map fun road => some (receivedText road)).getD trip.currentRoad
  destination :=
    (upd.destination.map fun place => some (receivedText place)).getD trip.destination

@[simp]
theorem tellTrip_empty (trip : TripFields) : ({} : RgdUpdate).tellTrip trip = trip := rfl

@[simp]
theorem tellTrip_laneSlot (upd : RgdUpdate) (slot : Option Int) (trip : TripFields) :
    ({ upd with laneGuidanceSlot := slot } : RgdUpdate).tellTrip trip = upd.tellTrip trip := rfl

theorem getD_map_orElse {Value Field : Type} (read : Value → Field) (upd cache : Option Value)
    (old : Field) :
    ((upd <|> cache).map read).getD old = (upd.map read).getD ((cache.map read).getD old) := by
  cases upd <;> rfl

/-- A merged cache tells what it held before, and then the update. -/
theorem tellTrip_merge (upd cache : RgdUpdate) (trip : TripFields) :
    (RgdState.rgdUpdateCacheMerge upd cache).tellTrip trip = upd.tellTrip (cache.tellTrip trip) := by
  simp only [tellTrip, RgdState.rgdUpdateCacheMerge, getD_map_orElse]

theorem getD_getD {Field : Type} (value : Option Field) (old : Field) :
    value.getD (value.getD old) = value.getD old := by
  cases value <;> rfl

theorem tellTrip_tellTrip (upd : RgdUpdate) (trip : TripFields) :
    upd.tellTrip (upd.tellTrip trip) = upd.tellTrip trip := by
  simp only [tellTrip, getD_getD]

end RgdUpdate

namespace RgdState

/-- The keys of the trip, and that of a disconnect. -/
def tripKeys : List RgdKey :=
  [.route .distDestM, .route .distManeuverM, .route .etaSeconds, .route .timeRemainingSeconds,
    .route .currentRoad, .route .destination, .route .disconnectReason]

/-- A key without a value has none among the first records. -/
theorem valueOf_take_eq_none {records : List RgdRecord} {key : RgdKey}
    (absent : valueOf records key = none) (count : Nat) :
    valueOf (records.take count) key = none := by
  refine valueOf_eq_none fun record member equal => ?_
  rw [valueOf, Option.map_eq_none_iff, List.find?_eq_none] at absent
  exact absent record (List.mem_of_mem_take member) (by simpa using equal)

theorem valueOf_append_take {front rest : List RgdRecord} {key : RgdKey}
    (short : front.length ≤ dataMax) (absent : valueOf rest key = none) :
    valueOf ((front ++ rest).take dataMax) key = valueOf front key := by
  rw [List.take_append, List.take_of_length_le short, valueOf_append,
    valueOf_take_eq_none absent, Option.or_none]

theorem length_overlayKeys (overlay : Bool) (state : RgdState) :
    (overlayKeys overlay state).length ≤ 5 := by
  cases overlay <;> simp [overlayKeys, amapKeys]

/-- The first records of a snapshot, and what the others do not hold. -/
theorem snapshotRecords_front (overlay : Bool) (stack : RgdKey → List UInt8)
    (currentUpd : Option RgdUpdate) (state : RgdState) :
    ∃ rest, (snapshotRecords overlay stack currentUpd state).1 =
        (overlayKeys overlay (refreshOverlay overlay state) ++ routeHeadKeys state.updateCache) ++
          rest ∧
      ∀ key ∈ tripKeys, valueOf rest key = none := by
  simp only [snapshotRecords]
  generalize listedState overlay currentUpd state = listed
  have noSlots : ∀ key, valueOf (writeListedSlots stack listed.listedSlots listed).1
      (.route key) = none := fun key => valueOf_eq_none fun record member equal => by
    obtain ⟨slot, -, other, keyEq⟩ := key_of_mem_writeListedSlots member
    simp [keyEq] at equal
  have noLanes : ∀ key, valueOf
      ((writeListedSlots stack listed.listedSlots listed).2.laneRecords stack)
      (.route key) = none := fun key => valueOf_eq_none fun record member equal => by
    obtain ⟨slot, other, keyEq⟩ := key_of_mem_laneRecords member
    simp [keyEq] at equal
  refine ⟨(laneSlotKeys state.updateCache (refreshOverlay overlay state)).1 ++
    routeTailKeys state.updateCache ++ listed.listKeys ++
    (writeListedSlots stack listed.listedSlots listed).1 ++
    (writeListedSlots stack listed.listedSlots listed).2.laneRecords stack,
    by simp [writeRouteKeys], fun key member => ?_⟩
  have noList : ∀ key, RgdKey.route .maneuverList ≠ key → valueOf listed.listKeys key = none :=
    fun _ other => valueOf_listKeys_of_ne other
  simp only [tripKeys, List.mem_cons, List.not_mem_nil, or_false] at member
  rcases member with rfl | rfl | rfl | rfl | rfl | rfl | rfl
  all_goals simp [valueOf_append, routeTailKeys, noList, noSlots, noLanes]

theorem valueOf_front_take (overlay : Bool) (stack : RgdKey → List UInt8)
    (currentUpd : Option RgdUpdate) (state : RgdState) {key : RgdKey} (isTrip : key ∈ tripKeys) :
    valueOf ((snapshotRecords overlay stack currentUpd state).1.take dataMax) key =
      valueOf (routeHeadKeys state.updateCache) key := by
  obtain ⟨rest, recordsEq, absent⟩ := snapshotRecords_front overlay stack currentUpd state
  have short : (overlayKeys overlay (refreshOverlay overlay state) ++
      routeHeadKeys state.updateCache).length ≤ dataMax := by
    have head := routeHeadKeys_length_le state.updateCache
    have front := length_overlayKeys overlay (refreshOverlay overlay state)
    rw [List.length_append]
    exact (Nat.add_le_add front head).trans (by decide)
  have noAmap : valueOf (overlayKeys overlay (refreshOverlay overlay state)) key = none := by
    refine valueOf_overlayKeys_of_ne ?_
    simp only [tripKeys, List.mem_cons, List.not_mem_nil, or_false] at isTrip
    rcases isTrip with rfl | rfl | rfl | rfl | rfl | rfl | rfl
    all_goals simp [amapKeys]
  rw [recordsEq, valueOf_append_take short (absent key isTrip), valueOf_append, noAmap,
    Option.none_or]

variable {overlay : Bool} {shown : RgdState} {records : List RgdRecord}

/-- The receiver reads the cached trip from a snapshot. -/
theorem BuiltFrom.read_trip (built : BuiltFrom overlay shown records)
    (trip : RouteGuidance.TripFields) :
    trip.read (parseText (frameText records)) = shown.updateCache.tellTrip trip := by
  obtain ⟨stack, currentUpd, before, writtenEq⟩ := built
  have sameCache : shown.updateCache = before.updateCache := by
    have step := (snapshotRecords_step overlay stack currentUpd before).updateCache
    rwa [writtenEq] at step
  have value : ∀ key ∈ tripKeys, valueOf (records.take dataMax) key =
      valueOf (routeHeadKeys before.updateCache) key := by
    intro key isTrip
    rw [← valueOf_front_take overlay stack currentUpd before isTrip, writtenEq]
  simp only [RouteGuidance.TripFields.read, numField_frameText, num64Field_frameText,
    strField_frameText, RgdUpdate.tellTrip, sameCache]
  rw [value _ (by decide), value _ (by decide), value _ (by decide), value _ (by decide),
    value _ (by decide), value _ (by decide)]
  simp only [routeHeadKeys, valueOf_append, valueOf_presentNat, valueOf_presentString,
    RgdKey.route.injEq, reduceCtorEq, if_false, if_true, Option.none_or, Option.or_none,
    Option.map_map]
  rfl

/-- A snapshot has no disconnect reason. -/
theorem BuiltFrom.no_reason (built : BuiltFrom overlay shown records) :
    (parseText (frameText records)).has (RgdKey.route .disconnectReason).text = false := by
  obtain ⟨stack, currentUpd, before, writtenEq⟩ := built
  have absent := @valueOf_front_take overlay stack currentUpd before (.route .disconnectReason)
    (by decide)
  rw [writtenEq] at absent
  rw [has_frameText, absent]
  simp [routeHeadKeys]

end RgdState

end CarplayRgi
