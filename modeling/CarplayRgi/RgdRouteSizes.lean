import CarplayRgi.RgdSnapshotSlots
import CarplayRgi.RgdRouteStateDebounce

/-!
# A hard clear is always published

The fields of a parsed route update are bounded by the parser, and a hard
clear empties every slot before its snapshot is written.  The text of that
snapshot is therefore far below the capacity of the builder.
-/

namespace CarplayRgi

open DecimalText Utf8Text

theorem encode_length_le (text : List Char) : (encode text).length ≤ 4 * text.length := by
  induction text with
  | nil => simp
  | cons char text ih =>
      have charLe : (String.utf8EncodeChar char).length ≤ 4 := by
        rw [String.length_utf8EncodeChar]
        exact Char.utf8Size_le_four char
      have split : encode (char :: text) = String.utf8EncodeChar char ++ encode text := rfl
      rw [split, List.length_append, List.length_cons]
      omega

theorem decimal_length_le {number : Int} (small : number.natAbs < 2 ^ 64) :
    (decimal number).length ≤ 21 := by
  have digits : (Nat.toDigits 10 number.natAbs).length ≤ 20 :=
    (Nat.length_toDigits_le_iff (by decide) (by decide)).mpr (lt_trans small (by decide))
  unfold decimal
  split
  · rw [List.length_cons]
    omega
  · omega

/-- A value that takes at most 255 bytes. -/
def BusValue.Short (value : BusValue) : Prop := value.rendered.length ≤ 255

theorem short_num {number : Int} (small : number.natAbs < 2 ^ 64) : (BusValue.num number).Short := by
  have encoded := encode_length_le (decimal number)
  have digits := decimal_length_le small
  change (encode (decimal number)).length ≤ 255
  omega

theorem short_str {bytes : List UInt8} (short : bytes.length ≤ 255) :
    (BusValue.str bytes).Short := by
  simpa [BusValue.Short, BusValue.rendered] using short

theorem route_text_length_le (key : RouteKey) : (RgdKey.route key).text.length ≤ 22 := by
  cases key <;> decide

theorem lane_text_length_le (slot : Slot) (key : LaneKey) :
    (RgdKey.lane slot key).text.length ≤ 20 := by
  have slots : ∀ slot : Slot, (slotText slot).length ≤ 2 := by decide
  have slotLe := slots slot
  have keyLe : key.text.length ≤ 15 := by cases key <;> decide
  simp only [RgdKey.text, List.length_cons, List.length_append]
  omega

theorem render_length (record : RgdRecord) :
    record.render.length =
      (encode record.key.text).length + record.value.rendered.length + 4 := by
  simp only [RgdRecord.render, List.length_append, List.length_cons, List.length_nil]
  omega

theorem flatMap_render_length_le {records : List RgdRecord} {bound : Nat}
    (short : ∀ record ∈ records, record.render.length ≤ bound) :
    (records.flatMap RgdRecord.render).length ≤ records.length * bound := by
  induction records with
  | nil => simp
  | cons record records ih =>
      have head := short record List.mem_cons_self
      have tail := ih fun other member => short other (List.mem_cons_of_mem record member)
      simp only [List.flatMap_cons, List.length_append, List.length_cons]
      rw [Nat.add_mul]
      omega

theorem readBe_take_lt {size : Nat} (bytes : List UInt8) (fits : size ≤ 8) :
    readBe (bytes.take size) < 2 ^ 64 :=
  calc readBe (bytes.take size) < 256 ^ size := readBe_take_lt_pow size bytes
    _ ≤ 256 ^ 8 := Nat.pow_le_pow_right (by decide) fits
    _ = 2 ^ 64 := by decide

/-- A present number below `2 ^ 64`. -/
def SmallField (field : Option Nat) : Prop := ∀ value ∈ field, value < 2 ^ 64

/-- A present text of at most 255 bytes. -/
def ShortField (field : Option (List UInt8)) : Prop := ∀ text ∈ field, text.length ≤ 255

theorem smallField_whenLong {size : Nat} {value : List UInt8} {read : List UInt8 → Nat}
    {old : Option Nat} (reads : ∀ bytes, read bytes < 2 ^ 64) (before : SmallField old) :
    SmallField (whenLong size value read old) := by
  unfold whenLong
  split
  · intro number member
    cases member
    exact reads value
  · exact before

theorem shortField_some {text : List UInt8} (short : text.length ≤ 255) :
    ShortField (some text) := by
  intro other member
  cases member
  exact short

theorem boundedString_length_le {size : Nat} (fits : size ≤ 256) (value : List UInt8) :
    (boundedString size value).length ≤ 255 := by
  have taken : (boundedString size value).length ≤ (value.take (size - 1)).length :=
    (List.takeWhile_sublist _).length_le
  rw [List.length_take] at taken
  omega

theorem boundedLine_length_le {size : Nat} (fits : size ≤ 256) (value : List UInt8) :
    (boundedLine size value).length ≤ 255 := by
  unfold boundedLine replaceNewlines
  rw [List.length_take]
  omega

/-- The bounds of a parsed update. -/
structure UpdateSized (upd : RgdUpdate) : Prop where
  componentIds : ∀ ids ∈ upd.componentIds, ids.length ≤ maxComponentList ∧ ∀ id ∈ ids, id < 2 ^ 16
  routeState : SmallField upd.routeState
  maneuverState : SmallField upd.maneuverState
  currentRoad : ShortField upd.currentRoad
  destination : ShortField upd.destination
  eta : SmallField upd.eta
  timeRemaining : SmallField upd.timeRemaining
  distanceRemaining : SmallField upd.distanceRemaining
  distanceString : ShortField upd.distanceString
  distanceUnits : SmallField upd.distanceUnits
  distToManeuver : SmallField upd.distToManeuver
  distToManeuverString : ShortField upd.distToManeuverString
  distToManeuverUnits : SmallField upd.distToManeuverUnits
  maneuverCount : SmallField upd.maneuverCount
  visibleInApp : SmallField upd.visibleInApp
  laneGuidanceIndex : SmallField upd.laneGuidanceIndex
  laneGuidanceTotal : SmallField upd.laneGuidanceTotal
  laneGuidanceShowing : SmallField upd.laneGuidanceShowing
  sourceName : ShortField upd.sourceName
  sourceSupportsRouteGuidance : SmallField upd.sourceSupportsRouteGuidance
  laneGuidanceSlot : ∀ value ∈ upd.laneGuidanceSlot, value.natAbs < 2 ^ 64

theorem mem_be16Pairs_lt {bytes : List UInt8} {pair : Nat} (member : pair ∈ be16Pairs bytes) :
    pair < 2 ^ 16 := by
  induction bytes using be16Pairs.induct with
  | case1 first second rest ih =>
      simp only [be16Pairs, List.mem_cons] at member
      rcases member with rfl | later
      · simpa [readBe16] using readBe_lt [first, second]
      · exact ih later
  | case2 bytes short =>
      rw [be16Pairs.eq_2 bytes short] at member
      simp at member

theorem updateTlv_sized {upd : RgdUpdate} (sized : UpdateSized upd) (tlv : Tlv) :
    UpdateSized (updateTlv upd tlv) := by
  have byte : ∀ bytes, readByte bytes < 2 ^ 64 := fun bytes => readBe_take_lt bytes (by decide)
  have be16 : ∀ bytes, readBe16 bytes < 2 ^ 64 := fun bytes => readBe_take_lt bytes (by decide)
  have be32 : ∀ bytes, readBe32 bytes < 2 ^ 64 := fun bytes => readBe_take_lt bytes (by decide)
  have be64 : ∀ bytes, readBe64 bytes < 2 ^ 64 := fun bytes => readBe_take_lt bytes (by decide)
  unfold updateTlv
  dsimp only
  split
  · refine { sized with componentIds := ?_ }
    intro ids member
    cases member
    refine ⟨List.length_take_le _ _, fun id inIds => ?_⟩
    exact mem_be16Pairs_lt (List.mem_of_mem_take inIds)
  · exact { sized with routeState := smallField_whenLong byte sized.routeState }
  · exact { sized with maneuverState := smallField_whenLong byte sized.maneuverState }
  · exact { sized with currentRoad := shortField_some (boundedLine_length_le (by decide) _) }
  · exact { sized with destination := shortField_some (boundedLine_length_le (by decide) _) }
  · exact { sized with eta := smallField_whenLong be64 sized.eta }
  · exact { sized with timeRemaining := smallField_whenLong be64 sized.timeRemaining }
  · exact { sized with distanceRemaining := smallField_whenLong be32 sized.distanceRemaining }
  · exact { sized with distanceString := shortField_some (boundedString_length_le (by decide) _) }
  · exact { sized with distanceUnits := smallField_whenLong byte sized.distanceUnits }
  · exact { sized with distToManeuver := smallField_whenLong be32 sized.distToManeuver }
  · exact
      { sized with distToManeuverString := shortField_some (boundedString_length_le (by decide) _) }
  · exact { sized with distToManeuverUnits := smallField_whenLong byte sized.distToManeuverUnits }
  · exact { sized with }
  · exact { sized with maneuverCount := smallField_whenLong be16 sized.maneuverCount }
  · exact { sized with visibleInApp := smallField_whenLong byte sized.visibleInApp }
  · exact { sized with laneGuidanceIndex := smallField_whenLong be16 sized.laneGuidanceIndex }
  · exact { sized with laneGuidanceTotal := smallField_whenLong be16 sized.laneGuidanceTotal }
  · exact { sized with laneGuidanceShowing := smallField_whenLong byte sized.laneGuidanceShowing }
  · exact { sized with sourceName := shortField_some (boundedLine_length_le (by decide) _) }
  · exact
      { sized with
        sourceSupportsRouteGuidance := smallField_whenLong byte sized.sourceSupportsRouteGuidance }
  · exact sized

theorem rgdParseUpdate_sized (frame : List UInt8) : UpdateSized (rgdParseUpdate frame) := by
  unfold rgdParseUpdate
  have absent : UpdateSized {} := by
    constructor <;> simp [SmallField, ShortField]
  generalize frameTlvs frame = items
  induction items using List.reverseRecOn with
  | nil => exact absent
  | append_singleton items item ih =>
      rw [List.foldl_append]
      exact updateTlv_sized ih item

namespace RgdState

theorem short_of_mem_presentNumber {key : RgdKey} {field : Option Int} {record : RgdRecord}
    (small : ∀ value ∈ field, value.natAbs < 2 ^ 64) (member : record ∈ presentNumber key field) :
    record.value.Short := by
  simp only [presentNumber, List.mem_map, Option.mem_toList] at member
  obtain ⟨value, present, rfl⟩ := member
  exact short_num (small value present)

theorem short_of_mem_presentNat {key : RgdKey} {field : Option Nat} {record : RgdRecord}
    (small : SmallField field) (member : record ∈ presentNat key field) : record.value.Short := by
  refine short_of_mem_presentNumber (fun value present => ?_) member
  obtain ⟨number, isPresent, rfl⟩ := Option.mem_map.mp present
  simpa using small number isPresent

theorem short_of_mem_presentString {key : RgdKey} {field : Option (List UInt8)}
    {record : RgdRecord} (short : ShortField field) (member : record ∈ presentString key field) :
    record.value.Short := by
  simp only [presentString, List.mem_map, Option.mem_toList] at member
  obtain ⟨value, present, rfl⟩ := member
  exact short_str (short value present)

theorem commaList_length_le {numbers : List Int} (small : ∀ number ∈ numbers, number.natAbs < 2 ^ 16) :
    (commaList numbers).length ≤ numbers.length * 7 := by
  unfold commaList
  have lengthEq : (numbers.map decimal).length = numbers.length := List.length_map decimal
  rw [← lengthEq]
  refine joinWith_length_le fun item member => ?_
  obtain ⟨number, inNumbers, rfl⟩ := List.mem_map.mp member
  have digits : (Nat.toDigits 10 number.natAbs).length ≤ 5 :=
    (Nat.length_toDigits_le_iff (by decide) (by decide)).mpr
      (lt_trans (small number inNumbers) (by decide))
  unfold decimal
  split
  · rw [List.length_cons]
    omega
  · omega

theorem short_of_mem_componentKeys {ids : Option (List Nat)} {record : RgdRecord}
    (small : ∀ list ∈ ids, list.length ≤ maxComponentList ∧ ∀ id ∈ list, id < 2 ^ 16)
    (member : record ∈ componentKeys ids) : record.value.Short := by
  cases ids with
  | none => simp [componentKeys] at member
  | some list =>
      obtain ⟨lengthLe, idLt⟩ := small list rfl
      unfold maxComponentList at lengthLe
      simp only [componentKeys, List.mem_cons, List.not_mem_nil, or_false] at member
      rcases member with rfl | rfl
      · refine short_num ?_
        simp only [Int.natAbs_natCast]
        omega
      · have encoded := encode_length_le (commaList (list.map Int.ofNat))
        have listed : (commaList (list.map Int.ofNat)).length ≤ (list.map Int.ofNat).length * 7 := by
          refine commaList_length_le fun number inList => ?_
          obtain ⟨id, inIds, rfl⟩ := List.mem_map.mp inList
          exact idLt id inIds
        rw [List.length_map] at listed
        refine short_str ?_
        change (encode (commaList (list.map Int.ofNat))).length ≤ 255
        omega

theorem routeHeadKeys_short {upd : RgdUpdate} (sized : UpdateSized upd) :
    ∀ record ∈ routeHeadKeys upd, record.value.Short := by
  intro record member
  simp only [routeHeadKeys, List.mem_append] at member
  rcases member with ((((((((((((a | a) | a) | a) | a) | a) | a) | a) | a) | a) | a) | a) | a)
  · exact short_of_mem_presentNat sized.routeState a
  · exact short_of_mem_presentNat sized.maneuverState a
  · exact short_of_mem_presentNat sized.distanceRemaining a
  · exact short_of_mem_presentNat sized.distToManeuver a
  · exact short_of_mem_presentNat sized.eta a
  · exact short_of_mem_presentNat sized.timeRemaining a
  · exact short_of_mem_presentString sized.currentRoad a
  · exact short_of_mem_presentString sized.destination a
  · exact short_of_mem_presentNat sized.distanceUnits a
  · exact short_of_mem_presentNat sized.distToManeuverUnits a
  · exact short_of_mem_presentString sized.distanceString a
  · exact short_of_mem_presentString sized.distToManeuverString a
  · exact short_of_mem_presentNat sized.laneGuidanceIndex a

theorem routeTailKeys_short {upd : RgdUpdate} (sized : UpdateSized upd) :
    ∀ record ∈ routeTailKeys upd, record.value.Short := by
  intro record member
  simp only [routeTailKeys, List.mem_append] at member
  rcases member with (((((a | a) | a) | a) | a) | a) | a
  · exact short_of_mem_presentNat sized.laneGuidanceTotal a
  · exact short_of_mem_presentNat sized.laneGuidanceShowing a
  · exact short_of_mem_presentString sized.sourceName a
  · exact short_of_mem_presentNat sized.sourceSupportsRouteGuidance a
  · exact short_of_mem_presentNat sized.visibleInApp a
  · exact short_of_mem_componentKeys sized.componentIds a
  · exact short_of_mem_presentNat sized.maneuverCount a

theorem natAbs_slotOrNone (slot : Option Slot) :
    ((slot.map fun found => (found.val : Int)).getD (-1)).natAbs < 2 ^ 64 := by
  cases slot with
  | none => decide
  | some found =>
      have foundLt := found.isLt
      unfold maneuverCacheSize at foundLt
      simp only [Option.map_some, Option.getD_some, Int.natAbs_natCast]
      omega

theorem laneSlotKeys_short {upd : RgdUpdate} (sized : UpdateSized upd) (state : RgdState) :
    ∀ record ∈ (laneSlotKeys upd state).1, record.value.Short := by
  intro record member
  unfold laneSlotKeys at member
  split at member
  · rw [List.mem_singleton.mp member]
    exact short_num (natAbs_slotOrNone _)
  · exact short_of_mem_presentNumber sized.laneGuidanceSlot member

theorem writeRouteKeys_short {state : RgdState} (sized : UpdateSized state.updateCache) :
    ∀ record ∈ (writeRouteKeys state).1, record.value.Short := by
  intro record member
  simp only [writeRouteKeys, List.mem_append] at member
  rcases member with (head | laneSlot) | tail
  · exact routeHeadKeys_short sized record head
  · exact laneSlotKeys_short sized state record laneSlot
  · exact routeTailKeys_short sized record tail

theorem presentNumber_length_le (key : RgdKey) (field : Option Int) :
    (presentNumber key field).length ≤ 1 := by
  cases field <;> simp [presentNumber]

theorem presentNat_length_le (key : RgdKey) (field : Option Nat) :
    (presentNat key field).length ≤ 1 :=
  presentNumber_length_le key _

theorem presentString_length_le (key : RgdKey) (field : Option (List UInt8)) :
    (presentString key field).length ≤ 1 := by
  cases field <;> simp [presentString]

theorem laneSlotKeys_length_le (upd : RgdUpdate) (state : RgdState) :
    (laneSlotKeys upd state).1.length ≤ 1 := by
  unfold laneSlotKeys
  split
  · simp
  · exact presentNumber_length_le _ _

theorem componentKeys_length_le (ids : Option (List Nat)) : (componentKeys ids).length ≤ 2 := by
  cases ids <;> simp [componentKeys]

theorem length_append_le {first second : List RgdRecord} {bound : Nat}
    (firstLe : first.length ≤ bound) (secondLe : second.length ≤ 1) :
    (first ++ second).length ≤ bound + 1 := by
  rw [List.length_append]
  omega

theorem routeHeadKeys_length_le (upd : RgdUpdate) : (routeHeadKeys upd).length ≤ 13 := by
  unfold routeHeadKeys
  repeat
    refine length_append_le ?_
      (by first | exact presentNat_length_le _ _ | exact presentString_length_le _ _)
  exact presentNat_length_le _ _

theorem routeTailKeys_length_le (upd : RgdUpdate) : (routeTailKeys upd).length ≤ 8 := by
  have components := componentKeys_length_le upd.componentIds
  have before : (presentNat (.route .laneGuidanceTotal) upd.laneGuidanceTotal ++
      presentNat (.route .laneGuidanceShowing) upd.laneGuidanceShowing ++
      presentString (.route .sourceName) upd.sourceName ++
      presentNat (.route .sourceSupportsRg) upd.sourceSupportsRouteGuidance ++
      presentNat (.route .visibleInApp) upd.visibleInApp).length ≤ 5 := by
    repeat
      refine length_append_le ?_
        (by first | exact presentNat_length_le _ _ | exact presentString_length_le _ _)
    exact presentNat_length_le _ _
  refine length_append_le ?_ (presentNat_length_le _ _)
  rw [List.length_append]
  omega

theorem writeRouteKeys_length_le (state : RgdState) : (writeRouteKeys state).1.length ≤ 22 := by
  have head := routeHeadKeys_length_le state.updateCache
  have laneSlot := laneSlotKeys_length_le state.updateCache state
  have tail := routeTailKeys_length_le state.updateCache
  simp only [writeRouteKeys, List.length_append]
  omega

/-- Route records with short values. -/
theorem routeRecords_size_le {records : List RgdRecord}
    (keys : ∀ record ∈ records, ∃ key, record.key = .route key)
    (short : ∀ record ∈ records, record.value.Short) :
    (records.flatMap RgdRecord.render).length ≤ records.length * 347 := by
  refine flatMap_render_length_le fun record member => ?_
  obtain ⟨key, keyEq⟩ := keys record member
  have valueLe := short record member
  have textLe := route_text_length_le key
  have encoded := encode_length_le (RgdKey.route key).text
  unfold BusValue.Short at valueLe
  rw [render_length, keyEq]
  omega

theorem key_of_mem_writeRouteKeys {state : RgdState} {record : RgdRecord}
    (member : record ∈ (writeRouteKeys state).1) : ∃ key, record.key = .route key := by
  simp only [writeRouteKeys, routeHeadKeys, routeTailKeys, List.mem_append, or_assoc] at member
  rcases member with a | a | a | a | a | a | a | a | a | a | a | a | a | a | a | a | a | a | a | a | a
  all_goals first
    | exact ⟨_, key_of_mem_presentNat a⟩
    | exact ⟨_, key_of_mem_presentString a⟩
    | exact ⟨_, key_of_mem_laneSlotKeys a⟩
    | skip
  cases ids : state.updateCache.componentIds with
  | none => simp [componentKeys, ids] at a
  | some list =>
      simp only [componentKeys, ids, List.mem_cons, List.not_mem_nil, or_false] at a
      rcases a with rfl | rfl <;> exact ⟨_, rfl⟩

theorem laneClearKeys_size_le (slots : List Slot) :
    ((slots.flatMap writeLaneClearKeys).flatMap RgdRecord.render).length ≤
      slots.length * 1176 := by
  have minusOne : (encode (decimal (-1))).length ≤ 84 := by decide
  have one : ∀ slot, ((writeLaneClearKeys slot).flatMap RgdRecord.render).length ≤ 7 * 168 := by
    intro slot
    refine flatMap_render_length_le fun record member => ?_
    obtain ⟨key, keyEq⟩ := key_of_mem_writeLaneClearKeys member
    have textLe := lane_text_length_le slot key
    have encoded := encode_length_le (RgdKey.lane slot key).text
    have valueLe : record.value.rendered.length ≤ 84 := by
      simp only [writeLaneClearKeys, List.mem_cons, List.not_mem_nil, or_false] at member
      rcases member with rfl | rfl | rfl | rfl | rfl | rfl | rfl
      all_goals first | exact minusOne | exact Nat.zero_le 84
    rw [render_length, keyEq]
    omega
  induction slots with
  | nil => simp
  | cons slot slots ih =>
      have head := one slot
      rw [List.flatMap_cons, List.flatMap_append, List.length_append, List.length_cons, Nat.add_mul]
      omega

/-- No maneuver type and no lanes are cached. -/
structure SlotsEmpty (state : RgdState) : Prop where
  maneuvers : ∀ slot, (state.maneuvers.slotCache slot).maneuverType = none
  lanes : ∀ slot, state.lanes.laneCache slot = {}

/-- The Amap metadata of reachable states. -/
structure AmapSmall (amap : AmapMeta) : Prop where
  generation : amap.routeGeneration < 2 ^ 64
  updateSeq : amap.routeUpdateSeq < 2 ^ 64
  head : amap.headIapIndex < 2 ^ 64

theorem SlotsEmpty.listedSlots {state : RgdState} (empty : SlotsEmpty state) :
    state.listedSlots = [] := by
  rw [List.eq_nil_iff_forall_not_mem]
  intro slot listed
  obtain ⟨idx, -, -, typed⟩ := maneuverType_of_mem_listedSlots listed
  rw [empty.maneuvers slot] at typed
  cases typed

theorem SlotsEmpty.laneRecords {state : RgdState} (empty : SlotsEmpty state)
    (stack : RgdKey → List UInt8) :
    state.laneRecords stack = (List.finRange maneuverCacheSize).flatMap writeLaneClearKeys := by
  unfold RgdState.laneRecords
  congr 1
  funext slot
  simp [rgdLaneSlotHasData, empty.lanes slot]

theorem rgdPruneStaleLaneCache_slotsEmpty {state : RgdState} (empty : SlotsEmpty state) :
    SlotsEmpty (rgdPruneStaleLaneCache state).2 := by
  unfold rgdPruneStaleLaneCache
  split
  · exact empty
  · split
    · exact empty
    · refine ⟨empty.maneuvers, fun slot => ?_⟩
      dsimp only
      split_ifs
      · rfl
      · exact empty.lanes slot

theorem LaneTouched.slotsEmpty {before after : RgdState} (touched : LaneTouched before after)
    (empty : SlotsEmpty before) : SlotsEmpty after := by
  refine ⟨?_, ?_⟩
  · rw [touched.maneuvers]
    exact empty.maneuvers
  · rw [touched.laneCache]
    exact empty.lanes

theorem refreshOverlay_slotsEmpty (overlay : Bool) {state : RgdState} (empty : SlotsEmpty state) :
    SlotsEmpty (refreshOverlay overlay state) := by
  cases overlay
  · exact empty
  · exact ⟨empty.maneuvers, empty.lanes⟩

theorem listedState_slotsEmpty (overlay : Bool) (currentUpd : Option RgdUpdate) {state : RgdState}
    (empty : SlotsEmpty state) : SlotsEmpty (listedState overlay currentUpd state) := by
  have routed := (writeRouteKeys_touched (refreshOverlay overlay state)).slotsEmpty
    (refreshOverlay_slotsEmpty overlay empty)
  obtain ⟨highest, adoptedEq⟩ :=
    adoptManeuverList_eq currentUpd (writeRouteKeys (refreshOverlay overlay state)).2
  refine rgdPruneStaleLaneCache_slotsEmpty ?_
  rw [adoptedEq]
  exact ⟨routed.maneuvers, routed.lanes⟩

theorem overlayKeys_size_le {overlay : Bool} {state : RgdState}
    (amapSmall : overlay = true → AmapSmall state.amap) :
    ((overlayKeys overlay state).flatMap RgdRecord.render).length ≤ 5 * 347 := by
  cases overlay with
  | false => simp [overlayKeys]
  | true =>
      have small := amapSmall rfl
      have bool : ∀ flag : Bool, (if flag = true then (1 : Int) else 0).natAbs < 2 ^ 64 := by
        decide
      have head : (if state.amap.headIapIndex = emptyIndex then (-1 : Int)
          else state.amap.headIapIndex).natAbs < 2 ^ 64 := by
        split
        · decide
        · simpa using small.head
      have keysLe : (state.amapKeys.flatMap RgdRecord.render).length ≤
          state.amapKeys.length * 347 := by
        refine routeRecords_size_le ?_ ?_
        · simp [amapKeys, numberRecord]
        · intro record member
          simp only [amapKeys, List.mem_cons, List.not_mem_nil, or_false] at member
          rcases member with rfl | rfl | rfl | rfl | rfl
          · exact short_num (by simpa using small.generation)
          · exact short_num (by simpa using small.updateSeq)
          · exact short_num head
          · exact short_num (bool _)
          · exact short_num (bool _)
      exact keysLe

theorem listKeys_size_le {state : RgdState} (empty : SlotsEmpty state) :
    (state.listKeys.flatMap RgdRecord.render).length ≤ 347 := by
  unfold listKeys
  rw [empty.listedSlots]
  split
  · refine (routeRecords_size_le ?_ ?_).trans (by simp)
    · simp [maneuverListRecord, stringRecord]
    · intro record member
      rw [List.mem_singleton.mp member]
      exact short_str (by simp [commaBytes, commaList])
  · simp

/-- A snapshot without maneuvers and lanes fits the builder. -/
theorem snapshotRecords_fits (overlay : Bool) (stack : RgdKey → List UInt8)
    (currentUpd : Option RgdUpdate) {state : RgdState} (empty : SlotsEmpty state)
    (sized : UpdateSized state.updateCache) (small : overlay = true → AmapSmall state.amap) :
    (frameText (snapshotRecords overlay stack currentUpd state).1).length ≤
      busTextBuilderLargeCap := by
  have listedEmpty := listedState_slotsEmpty overlay currentUpd empty
  have noSlots : writeListedSlots stack (listedState overlay currentUpd state).listedSlots
      (listedState overlay currentUpd state) = ([], listedState overlay currentUpd state) := by
    rw [listedEmpty.listedSlots]
    rfl
  have overlaySize : ((overlayKeys overlay (refreshOverlay overlay state)).flatMap
      RgdRecord.render).length ≤ 5 * 347 := by
    refine overlayKeys_size_le fun isOverlay => ?_
    subst isOverlay
    exact ⟨(small rfl).generation, (small rfl).updateSeq, (small rfl).head⟩
  have routeKeys : ∀ record ∈ (writeRouteKeys (refreshOverlay overlay state)).1,
      ∃ key, record.key = .route key := fun record member => key_of_mem_writeRouteKeys member
  have routeSize := routeRecords_size_le routeKeys
    (writeRouteKeys_short (by rw [refreshOverlay_updateCache]; exact sized))
  have routeLength := writeRouteKeys_length_le (refreshOverlay overlay state)
  have listSize := listKeys_size_le listedEmpty
  have laneSize := laneClearKeys_size_le (List.finRange maneuverCacheSize)
  rw [List.length_finRange] at laneSize
  have header : (encode "@routeguidance\n".toList).length = 15 := by decide
  simp only [snapshotRecords, noSlots, listedEmpty.laneRecords, frameText, List.flatMap_append,
    List.length_append, header, List.flatMap_nil, List.length_nil]
  unfold maneuverCacheSize at laneSize ⊢
  unfold busTextBuilderLargeCap
  omega

theorem amapMetaNextNonzero_lt (value : Nat) : amapMetaNextNonzero value < 2 ^ 64 := by
  unfold amapMetaNextNonzero
  have wrapped := Nat.mod_lt (value + 1) (show 2 ^ 32 > 0 by decide)
  dsimp only
  split
  · decide
  · exact lt_trans wrapped (by decide)

theorem rgdUpdateCacheMerge_empty (upd : RgdUpdate) : rgdUpdateCacheMerge upd {} = upd := by
  simp [rgdUpdateCacheMerge]

theorem enrichLaneSlot_sized {upd : RgdUpdate} (sized : UpdateSized upd) (state : RgdState) :
    UpdateSized (enrichLaneSlot upd state).1 := by
  unfold enrichLaneSlot
  split
  · exact sized
  · refine { sized with laneGuidanceSlot := ?_ }
    intro value member
    cases member
    exact natAbs_slotOrNone _

/-- The snapshot of a hard clear fits the builder. -/
theorem hardClear_fits (overlay : Bool) (stack : RgdKey → List UInt8) {upd : RgdUpdate}
    {state : RgdState} (sized : UpdateSized upd) (hard : isHardClear upd = true)
    (empty : SlotsEmpty state) (noCache : state.updateCache = {}) :
    (frameText (snapshotRecords overlay stack
        (some (enrichLaneSlot upd (noteUpdate overlay upd state)).1)
        (rgdPruneStaleLaneCache (mergedUpdate upd (noteUpdate overlay upd state))).2).1).length ≤
      busTextBuilderLargeCap := by
  have notedEmpty : SlotsEmpty (noteUpdate overlay upd state) := by
    obtain ⟨amap, notedEq⟩ := noteUpdate_frame overlay upd state
    rw [notedEq]
    exact ⟨empty.maneuvers, empty.lanes⟩
  have notedCache : (noteUpdate overlay upd state).updateCache = {} := by
    obtain ⟨amap, notedEq⟩ := noteUpdate_frame overlay upd state
    rw [notedEq]
    exact noCache
  have notedSmall : overlay = true → AmapSmall (noteUpdate overlay upd state).amap := by
    intro isOverlay
    simp only [noteUpdate, isOverlay, if_true, amapMetaNoteRouteUpdate, hard]
    exact ⟨amapMetaNextNonzero_lt _, amapMetaNextNonzero_lt _,
      show emptyIndex < 2 ^ 64 by decide⟩
  generalize noteUpdate overlay upd state = noted at *
  obtain ⟨-, touched⟩ := enrichLaneSlot_frame upd noted
  have mergedEmpty : SlotsEmpty (mergedUpdate upd noted) := by
    have enriched := touched.slotsEmpty notedEmpty
    exact ⟨enriched.maneuvers, enriched.lanes⟩
  obtain ⟨lanes, prunedEq⟩ := rgdPruneStaleLaneCache_eq (mergedUpdate upd noted)
  refine snapshotRecords_fits overlay stack _ (rgdPruneStaleLaneCache_slotsEmpty mergedEmpty) ?_ ?_
  · rw [prunedEq]
    simp only [mergedUpdate, mergeUpdate, touched.updateCache, notedCache,
      rgdUpdateCacheMerge_empty]
    exact enrichLaneSlot_sized sized noted
  · intro isOverlay
    obtain ⟨laneSlot, table, -, mergedEq⟩ := mergedUpdate_frame upd noted
    rw [prunedEq, mergedEq]
    exact notedSmall isOverlay

end RgdState

end CarplayRgi
