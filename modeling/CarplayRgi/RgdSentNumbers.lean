import CarplayRgi.RgdSlotMirror

/-!
# The numbers of a message at the receiver

A distance or a time is read from big-endian bytes, cached, printed as a
decimal and parsed again.  Only the last step can lose it: the receiver parses
the distances and the arrival time as `int`s, where a larger number becomes the
default, and the remaining time as a `long`.
-/

namespace CarplayRgi

open DecimalText RouteGuidance

/-- The items with the id that are long enough for a number of `size` bytes. -/
def numberItems (id size : Nat) (items : List Tlv) : List Tlv :=
  items.filter fun tlv => decide (tlv.id = id) && decide (size ≤ tlv.value.length)

/-- The number that a message sends in its last item with the id. -/
def sentNumber (id size : Nat) (raw : List UInt8) : Option Nat :=
  (numberItems id size (frameTlvs raw)).getLast?.map fun tlv => readBe (tlv.value.take size)

/-- A field that the items with one id set, and no other item changes. -/
theorem foldl_sentNumber {Message : Type} {step : Message → Tlv → Message}
    {field : Message → Option Nat} {id size : Nat}
    (sets : ∀ message tlv, field (step message tlv) =
      if tlv.id = id then
        whenLong size tlv.value (fun bytes => readBe (bytes.take size)) (field message)
      else field message) (items : List Tlv) (message : Message) :
    field (items.foldl step message) =
      ((numberItems id size items).getLast?.map fun tlv => readBe (tlv.value.take size)).or
        (field message) := by
  induction items using List.reverseRecOn with
  | nil => rfl
  | append_singleton items item ih =>
      rw [List.foldl_append, List.foldl_cons, List.foldl_nil, sets, numberItems,
        List.filter_append]
      by_cases isId : item.id = id
      · by_cases long : size ≤ item.value.length
        · simp [isId, long, whenLong]
        · simp [isId, long, whenLong, ih, numberItems]
      · simp [isId, ih, numberItems]

/-- A field of an update that only the items with one id set. -/
theorem rgdParseUpdate_sent {field : RgdUpdate → Option Nat} {id size : Nat}
    (sets : ∀ upd tlv, field (updateTlv upd tlv) =
      if tlv.id = id then
        whenLong size tlv.value (fun bytes => readBe (bytes.take size)) (field upd)
      else field upd) (absent : field {} = none) (raw : List UInt8) :
    field (rgdParseUpdate raw) = sentNumber id size raw := by
  rw [rgdParseUpdate, foldl_sentNumber sets, absent, Option.or_none]
  rfl

theorem rgdParseUpdate_distanceRemaining (raw : List UInt8) :
    (rgdParseUpdate raw).distanceRemaining = sentNumber 0x0007 4 raw := by
  refine @rgdParseUpdate_sent RgdUpdate.distanceRemaining 0x0007 4 (fun upd tlv => ?_) rfl raw
  unfold updateTlv
  dsimp only
  split <;> simp_all
  rfl

theorem rgdParseUpdate_distToManeuver (raw : List UInt8) :
    (rgdParseUpdate raw).distToManeuver = sentNumber 0x000A 4 raw := by
  refine @rgdParseUpdate_sent RgdUpdate.distToManeuver 0x000A 4 (fun upd tlv => ?_) rfl raw
  unfold updateTlv
  dsimp only
  split <;> simp_all
  rfl

theorem rgdParseUpdate_eta (raw : List UInt8) :
    (rgdParseUpdate raw).eta = sentNumber 0x0005 8 raw := by
  refine @rgdParseUpdate_sent RgdUpdate.eta 0x0005 8 (fun upd tlv => ?_) rfl raw
  unfold updateTlv
  dsimp only
  split <;> simp_all
  rfl

theorem rgdParseUpdate_timeRemaining (raw : List UInt8) :
    (rgdParseUpdate raw).timeRemaining = sentNumber 0x0006 8 raw := by
  refine @rgdParseUpdate_sent RgdUpdate.timeRemaining 0x0006 8 (fun upd tlv => ?_) rfl raw
  unfold updateTlv
  dsimp only
  split <;> simp_all
  rfl

/-- A field of a maneuver that only the items with one id set, whatever the
default exit angle is. -/
theorem rgdParseManeuver_sent {field : RgdManeuver → Option Nat} {id size : Nat}
    (independent : ∀ man exitAngle, field { man with exitAngle := exitAngle } = field man)
    (sets : ∀ man tlv, field (maneuverTlv man tlv) =
      if tlv.id = id then
        whenLong size tlv.value (fun bytes => readBe (bytes.take size)) (field man)
      else field man) (absent : field {} = none) (raw : List UInt8) :
    field (rgdParseManeuver raw) = sentNumber id size raw := by
  have parsed : field (rgdParseManeuver raw) = field ((frameTlvs raw).foldl maneuverTlv {}) := by
    unfold rgdParseManeuver
    dsimp only
    split
    · exact independent _ _
    · rfl
  rw [parsed, foldl_sentNumber sets, absent, Option.or_none]
  rfl

theorem rgdParseManeuver_index (raw : List UInt8) :
    (rgdParseManeuver raw).index = sentNumber 0x0001 2 raw := by
  refine @rgdParseManeuver_sent RgdManeuver.index 0x0001 2 (fun _ _ => rfl)
    (fun man tlv => ?_) rfl raw
  unfold maneuverTlv
  dsimp only
  split <;> simp_all
  rfl

theorem rgdParseManeuver_distanceBetween (raw : List UInt8) :
    (rgdParseManeuver raw).distanceBetween = sentNumber 0x0005 4 raw := by
  refine @rgdParseManeuver_sent RgdManeuver.distanceBetween 0x0005 4 (fun _ _ => rfl)
    (fun man tlv => ?_) rfl raw
  unfold maneuverTlv
  dsimp only
  split <;> simp_all
  rfl

/-- A number is parsed as it was printed, unless it is beyond the range of an
`int`. -/
theorem receivedInt_eq_iff (number : Nat) : receivedInt number = number ↔ number < 2 ^ 31 :=
  RgdState.readDistance_eq_iff number

theorem receivedLong_eq {number : Nat} (fits : number < 2 ^ 63) :
    receivedLong number = number := by
  have inRange : Fits 64 (number : Int) := by
    constructor
    · norm_num
    · norm_num
      omega
  rw [receivedLong, parseLong_decimal inRange, Option.getD_some]

theorem told_int_iff (field : Option Nat) (kept : Int) :
    (∀ number ∈ field, (field.map receivedInt).getD kept = number) ↔
      ∀ number ∈ field, number < 2 ^ 31 := by
  cases field with
  | none => simp
  | some number =>
      rw [Option.map_some, Option.getD_some]
      simpa using receivedInt_eq_iff number

theorem told_long {field : Option Nat} (kept : Int) {number : Nat} (sent : number ∈ field)
    (fits : number < 2 ^ 63) : (field.map receivedLong).getD kept = number := by
  rw [Option.mem_def.mp sent, Option.map_some, Option.getD_some, receivedLong_eq fits]

/-- The receiver has the distances and the times that the message sends; a
remaining time is promised below the range of a `long`. -/
structure TripArrives (raw : List UInt8) (trip : TripFields) : Prop where
  distDestM : ∀ number ∈ sentNumber 0x0007 4 raw, trip.distDestM = number
  distManeuverM : ∀ number ∈ sentNumber 0x000A 4 raw, trip.distManeuverM = number
  etaSeconds : ∀ number ∈ sentNumber 0x0005 8 raw, trip.etaSeconds = number
  timeRemainingSeconds : ∀ number ∈ sentNumber 0x0006 8 raw, number < 2 ^ 63 →
    trip.timeRemainingSeconds = number

/-- The distances and the arrival time of the message are `int`s. -/
structure TripFits (raw : List UInt8) : Prop where
  distDestM : ∀ number ∈ sentNumber 0x0007 4 raw, number < 2 ^ 31
  distManeuverM : ∀ number ∈ sentNumber 0x000A 4 raw, number < 2 ^ 31
  etaSeconds : ∀ number ∈ sentNumber 0x0005 8 raw, number < 2 ^ 31

namespace RgdState

/-- Once a message has been told, its numbers are there if and only if they fit. -/
theorem tellTrip_arrives_iff (raw : List UInt8) (trip : TripFields) :
    TripArrives raw ((rgdParseUpdate raw).tellTrip trip) ↔ TripFits raw := by
  unfold RgdUpdate.tellTrip
  rw [rgdParseUpdate_distanceRemaining, rgdParseUpdate_distToManeuver, rgdParseUpdate_eta,
    rgdParseUpdate_timeRemaining]
  constructor
  · rintro ⟨destination, maneuver, eta, -⟩
    exact ⟨(told_int_iff _ _).mp destination, (told_int_iff _ _).mp maneuver,
      (told_int_iff _ _).mp eta⟩
  · rintro ⟨destination, maneuver, eta⟩
    exact ⟨(told_int_iff _ _).mpr destination, (told_int_iff _ _).mpr maneuver,
      (told_int_iff _ _).mpr eta, fun _ sent promised => told_long _ sent promised⟩

theorem acceptUpdate_updateCache (overlay : Bool) (stack : RgdKey → List UInt8) (upd : RgdUpdate)
    (state : RgdState) (trip : TripFields) :
    (acceptUpdate overlay stack upd state).1.updateCache.tellTrip trip =
      upd.tellTrip (state.updateCache.tellTrip trip) := by
  obtain ⟨amap, notedEq⟩ := noteUpdate_frame overlay upd state
  rcases acceptUpdate_cases overlay stack upd state with ⟨empty, skipped⟩ | ⟨-, written⟩
  · rw [skipped, notedEq, empty, RgdUpdate.tellTrip_empty]
  · rw [written]
    dsimp only
    rw [(writeBusSnapshotFromCache_keeps overlay stack none _ _).updateCache]
    obtain ⟨laneSlot, table, -, mergedEq⟩ :=
      mergedUpdate_frame upd (noteUpdate overlay upd state)
    rw [mergedEq, notedEq]
    dsimp only
    rw [RgdUpdate.tellTrip_merge, RgdUpdate.tellTrip_laneSlot]

/-- An update that publishes a snapshot has been told to the cache. -/
theorem handleUpdate_told {overlay : Bool} {stack : RgdKey → List UInt8} {now : Nat}
    {upd : RgdUpdate} {state shown : RgdState} {records : List RgdRecord}
    (published : .snapshot shown records ∈ (handleUpdate overlay stack now upd state).2)
    (trip : TripFields) :
    ∃ before, (handleUpdate overlay stack now upd state).1.updateCache.tellTrip trip =
      upd.tellTrip before := by
  obtain ⟨debounced, events, held, -, outcome, result⟩ :=
    handleUpdate_cases overlay stack now upd state
  rcases result with ⟨-, result⟩ | ⟨-, result⟩
  · rw [result] at published
    rcases List.mem_cons.mp published with arrival | reset
    · cases arrival
    · obtain ⟨suppressed, isReset⟩ := outcome.events_eq reset
      cases isReset
  · rw [result]
    exact ⟨_, acceptUpdate_updateCache overlay stack upd debounced trip⟩

/-- A slot has the distance that the message sends. -/
def DistanceArrives (raw : List UInt8) (kept : ManeuverFields) : Prop :=
  ∀ number ∈ sentNumber 0x0005 4 raw, kept.distance = number

def DistanceFits (raw : List UInt8) : Prop := ∀ number ∈ sentNumber 0x0005 4 raw, number < 2 ^ 31

/-- A stored index is found in the slot it has been stored in. -/
theorem storeManeuver_find (idx : Nat) (man : RgdManeuver) (state : RgdState) :
    (storeManeuver idx man state).rgdFindSlotForIapIndexNoTouch idx =
      some (rgdSlotForIapIndex idx state).1 := by
  have keys := storeManeuver_key idx man state
  unfold rgdFindSlotForIapIndexNoTouch
  rcases rgdSlotForIapIndex_slot idx state with holds | ⟨nowhere, -⟩
  · rw [Function.update_eq_self_iff.mpr holds.symm] at keys
    rw [SlotTable.find?_congr keys]
    unfold rgdSlotForIapIndex at holds ⊢
    cases foundEq : state.maneuvers.table.find? idx with
    | some slot => rfl
    | none =>
        exact absurd holds (SlotTable.find?_eq_none.mp foundEq _)
  · cases foundEq : (storeManeuver idx man state).maneuvers.table.find? idx with
    | none =>
        have vacant := SlotTable.find?_eq_none.mp foundEq (rgdSlotForIapIndex idx state).1
        rw [keys, Function.update_self] at vacant
        exact absurd rfl vacant
    | some slot =>
        have holds := SlotTable.find?_key foundEq
        rw [keys] at holds
        by_contra other
        rw [Function.update_of_ne fun same => other (congrArg some same)] at holds
        exact nowhere slot holds

theorem HoldsManeuver.distanceBetween {map : ManeuverMap} {slot : Slot} {man : RgdManeuver}
    (holds : HoldsManeuver map slot man) :
    (map.slotCache slot).distanceBetween = man.distanceBetween := by
  rcases holds with cached | ⟨linked, source, lanes, -, -, -, -, cached⟩
  · rw [cached]
  · rw [cached]

/-- A maneuver that publishes a snapshot is cached in the slot of its index. -/
theorem handleManeuver_stored {overlay : Bool} {stack : RgdKey → List UInt8} {man : RgdManeuver}
    {state shown : RgdState} {records : List RgdRecord}
    (published : .snapshot shown records ∈ (handleManeuver overlay stack man state).2) {idx : Nat}
    (isIndex : man.index = some idx) {slot : Slot}
    (found : (handleManeuver overlay stack man state).1.rgdFindSlotForIapIndexNoTouch idx =
      some slot) :
    ((handleManeuver overlay stack man state).1.maneuvers.slotCache slot).distanceBetween =
      man.distanceBetween := by
  rcases handleManeuver_cases overlay stack man state with
    skipped | ⟨other, extraMan, otherIndex, -, written⟩
  · rw [skipped] at published
    cases published
  · obtain rfl : other = idx := Option.some.inj (otherIndex.symm.trans isIndex)
    rw [written] at found ⊢
    have keeps := (writeBusSnapshotFromCache_keeps overlay stack extraMan none
      (storeManeuver other man (rgdCancelPendingZero state))).maneuvers
    dsimp only at found ⊢
    rw [rgdFindSlotForIapIndexNoTouch, keeps, ← rgdFindSlotForIapIndexNoTouch,
      storeManeuver_find] at found
    rw [keeps, ← Option.some.inj found]
    exact (cacheManeuver_holds _ man _).distanceBetween

end RgdState

variable {overlay : Bool} {state shown : RgdState} {history : List HookEvent} {msgid : Nat}
  {raw : List UInt8} {now : Nat} {stack : RgdKey → List UInt8} {records : List RgdRecord}
  {rg : RouteGuidance}

open RgdState

/-- The snapshot of a message shows the state after the message. -/
theorem snapshot_of_message
    (published : .snapshot shown records ∈
      (rgdHookStep overlay (.message msgid raw now stack) state).2) :
    .snapshot shown records ∈
        (handleFrame overlay msgid raw now stack (rgdLazyInit overlay state).1).2 ∧
      shown = (handleFrame overlay msgid raw now stack (rgdLazyInit overlay state).1).1 ∧
      BuiltFrom overlay shown records := by
  obtain ⟨past, future, split⟩ := List.append_of_mem published
  obtain ⟨-, isNext, built⟩ := rgdHookStep_snapshotsLast overlay (.message msgid raw now stack)
    state past shown records future split
  refine ⟨?_, isNext, built⟩
  rcases List.mem_append.mp published with cleared | handled
  · exact absurd cleared (rgdLazyInit_noSnapshot overlay state shown records)
  · exact handled

/-- The trip that the receiver has after the snapshot of a 0x5201. -/
theorem trip_arrives_iff (receives : Receives rg)
    (published : .snapshot shown records ∈
      (rgdHookStep overlay (.message iap2MsgRouteGuidanceUpdate raw now stack) state).2) :
    TripArrives raw (onFrame evtRgdUpdate (frameText records) rg).1.state.route.trip ↔
      TripFits raw := by
  obtain ⟨handled, isNext, built⟩ := snapshot_of_message published
  rw [handleFrame, if_pos rfl] at handled isNext
  obtain ⟨before, told⟩ := handleUpdate_told handled rg.state.route.trip
  rw [(onFrame_read receives built.no_reason).2, built.read_trip, isNext, told]
  exact tellTrip_arrives_iff raw before

/-- The distance that the receiver has in the slot of the index after the
snapshot of a 0x5202 that lists the slot. -/
theorem distance_arrives_iff (run : (rgdHook overlay).Run state history) (receives : Receives rg)
    (published : .snapshot shown records ∈
      (rgdHookStep overlay (.message iap2MsgRouteGuidanceManeuver raw now stack) state).2)
    {idx : Nat} (isIndex : sentNumber 0x0001 2 raw = some idx) {slot : Slot}
    (found : shown.rgdFindSlotForIapIndexNoTouch idx = some slot)
    (lists : ListsSlot records slot) :
    DistanceArrives raw ((onFrame evtRgdUpdate (frameText records) rg).1.state.maneuver slot) ↔
      DistanceFits raw := by
  obtain ⟨handled, isNext, built⟩ := snapshot_of_message published
  have stepTo : (rgdHook overlay).step state
      (.message iap2MsgRouteGuidanceManeuver raw now stack) =
        some (shown, (rgdHookStep overlay
          (.message iap2MsgRouteGuidanceManeuver raw now stack) state).2) := by
    rw [isNext]
    rfl
  have shownRun := TracedSystem.RunWithin.next run trivial stepTo
  have cached := ((rgdHook_cachesHold maneuverRules shownRun).maneuver slot).1
  obtain ⟨texts, parsed⟩ := built.parse_slot (rgdHook_listShort shownRun) lists cached
  rw [handleFrame, if_neg (by decide), if_pos rfl] at handled isNext
  rw [isNext] at found
  have stored := handleManeuver_stored handled ((rgdParseManeuver_index raw).trans isIndex) found
  rw [← isNext, rgdParseManeuver_distanceBetween] at stored
  rw [onFrame_maneuver receives built.no_reason, parsed, told, stored]
  exact told_int_iff _ _

/-- The numbers of a message reach the receiver with the snapshot that it
publishes, if and only if its distances and its arrival time are `int`s. -/
theorem sent_numbers_arrive_iff (run : (rgdHook overlay).Run state history)
    (receives : Receives rg)
    (published : .snapshot shown records ∈
      (rgdHookStep overlay (.message msgid raw now stack) state).2) :
    (msgid = iap2MsgRouteGuidanceUpdate →
      (TripArrives raw (onFrame evtRgdUpdate (frameText records) rg).1.state.route.trip ↔
        TripFits raw)) ∧
    (msgid = iap2MsgRouteGuidanceManeuver → ∀ idx slot, sentNumber 0x0001 2 raw = some idx →
      shown.rgdFindSlotForIapIndexNoTouch idx = some slot → ListsSlot records slot →
        (DistanceArrives raw
            ((onFrame evtRgdUpdate (frameText records) rg).1.state.maneuver slot) ↔
          DistanceFits raw)) := by
  constructor
  · rintro rfl
    exact trip_arrives_iff receives published
  · rintro rfl idx slot isIndex found lists
    exact distance_arrives_iff run receives published isIndex found lists

/-- A 0x5202 with the index 5, a type and a distance. -/
def distanceBetweenFrame (first second third fourth : UInt8) : List UInt8 :=
  [0x40, 0x40, 0, 25, 0x52, 0x02, 0, 6, 0, 1, 0, 5, 0, 5, 0, 3, 1,
    0, 8, 0, 5, first, second, third, fourth]

/-- A maneuver of 500 m in the first listed slot. -/
theorem short_distance_arrives : ∃ state history, (rgdHook false).Run state history ∧
    ∃ shown records, .snapshot shown records ∈
        (rgdHookStep false (.message 0x5202 (distanceBetweenFrame 0 0 1 0xF4) 2 fun _ => []) state).2 ∧
      DistanceArrives (distanceBetweenFrame 0 0 1 0xF4)
        ((onFrame evtRgdUpdate (frameText records)
          (RouteGuidance.start .fresh).1).1.state.maneuver 0) ∧
      sentNumber 0x0005 4 (distanceBetweenFrame 0 0 1 0xF4) = some 500 := by
  obtain ⟨state, history, run, checked⟩ := (rgdHook false).exists_run_of_replay
    [.message 0x5201 (listFrame 1 0 5) 1 fun _ => []]
    (fun result =>
      ((rgdHookStep false (.message 0x5202 (distanceBetweenFrame 0 0 1 0xF4) 2 fun _ => [])
        result.1).2[1]?).any (HookEvent.snapshotPasses fun shown records =>
          listsFirstSlot records && decide (shown.rgdFindSlotForIapIndexNoTouch 5 = some 0)))
    (by decide +kernel)
  obtain ⟨shown, records, inEvents, passes⟩ := exists_snapshot_of_passes checked
  rw [Bool.and_eq_true, decide_eq_true_eq] at passes
  have published := List.mem_of_getElem? inEvents
  have receives : Receives (RouteGuidance.start .fresh).1 := ⟨rfl, rfl⟩
  have sent : sentNumber 0x0005 4 (distanceBetweenFrame 0 0 1 0xF4) = some 500 := by decide
  refine ⟨state, history, run, shown, records, published, ?_, sent⟩
  have arrives := (sent_numbers_arrive_iff run receives published).2 rfl 5 0 (by decide) passes.2
    (listsSlot_of_listsFirstSlot passes.1)
  refine arrives.mpr fun number isSent => ?_
  rw [sent] at isSent
  obtain rfl := Option.some.inj isSent
  decide

/-- A 0x5201 with the arrival time 2 ^ 31. -/
def lateArrivalFrame : List UInt8 :=
  [0x40, 0x40, 0, 18, 0x52, 0x01, 0, 12, 0, 5, 0, 0, 0, 0, 0x80, 0, 0, 0]

/-- The arrival time 2 ^ 31 does not reach the receiver. -/
theorem late_arrival_unset :
    ¬ ∀ (state : RgdState) (history : List HookEvent), (rgdHook false).Run state history →
      ∀ shown records, .snapshot shown records ∈
          (rgdHookStep false (.message 0x5201 lateArrivalFrame 1 fun _ => []) state).2 →
        ∀ rg, Receives rg → TripArrives lateArrivalFrame
          (onFrame evtRgdUpdate (frameText records) rg).1.state.route.trip := by
  intro arrives
  have passes : ((rgdHookStep false (.message 0x5201 lateArrivalFrame 1 fun _ => [])
      (rgdHook false).init).2[5]?).any (HookEvent.snapshotPasses fun _ _ => true) = true := by
    decide +kernel
  obtain ⟨shown, records, inEvents, -⟩ := exists_snapshot_of_passes passes
  have published := List.mem_of_getElem? inEvents
  have receives : Receives (RouteGuidance.start .fresh).1 := ⟨rfl, rfl⟩
  have fits := (trip_arrives_iff receives published).mp
    (arrives _ [] .start shown records published _ receives)
  have small := fits.etaSeconds (2 ^ 31) (by decide)
  exact absurd small (by decide)

end CarplayRgi
