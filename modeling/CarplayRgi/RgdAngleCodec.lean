import CarplayRgi.BusTextCodec
import CarplayRgi.RgdCachedRecords
import CarplayRgi.RgdParsedLanes

/-!
# Angle lists through a frame

The angles of all lanes are one text: commas within a lane, bars between
lanes.  Nothing is printed for a single lane without angles, nor for an empty
list of junction angles; the text is then whatever the buffer held.
-/

namespace CarplayRgi

open DecimalText Utf8Text RgdState

theorem commaList_visible (numbers : List Int) :
    ∀ char ∈ commaList numbers, 0x20 < char.toNat := by
  intro char member
  rcases mem_joinWith member with rfl | ⟨item, itemMem, inItem⟩
  · decide
  · obtain ⟨number, -, rfl⟩ := List.mem_map.mp itemMem
    exact decimal_visible number char inItem

theorem mapM_parseInt_decimal {numbers : List Int} (fits : ∀ number ∈ numbers, Fits 32 number) :
    (numbers.map decimal).mapM parseInt = some numbers := by
  induction numbers with
  | nil => rfl
  | cons number numbers ih =>
      rw [List.map_cons, List.mapM_cons, parseInt_decimal (fits number List.mem_cons_self),
        ih fun other member => fits other (List.mem_cons_of_mem number member)]
      rfl

theorem parseCsvIntList_commaList {numbers : List Int}
    (fits : ∀ number ∈ numbers, Fits 32 number) :
    parseCsvIntList (commaList numbers) = some numbers := by
  rw [parseCsvIntList, javaTrim_eq_self (commaList_visible numbers)]
  by_cases empty : numbers = []
  · subst empty
    rfl
  · rw [if_neg (commaList_ne_nil empty), splitOn_commaList empty, mapM_parseInt_decimal fits]

theorem encode_joinWith {separator : Char} {byte : UInt8}
    (ascii : String.utf8EncodeChar separator = [byte]) (items : List (List Char)) :
    encode (joinWith separator items) = List.intercalate [byte] (items.map encode) := by
  induction items with
  | nil => rfl
  | cons item items ih =>
      cases items with
      | nil => simp [List.intercalate]
      | cons second rest =>
          have head : encode (separator :: joinWith separator (second :: rest)) =
              [byte] ++ encode (joinWith separator (second :: rest)) := by
            rw [← ascii]
            rfl
          rw [joinWith_cons_cons, encode_append, head, ih]
          simp [List.intercalate]

/-- The lists that are printed for the lanes. -/
def laneAngleTexts (lanes : List RgdLane) : List (List Char) :=
  (lanes.take maxLaneGuidance).map fun lane => commaList (lane.angles.take maxLaneAngles)

theorem laneAnglesPrinted_eq (lanes : List RgdLane) :
    laneAnglesPrinted lanes = encode (joinWith '|' (laneAngleTexts lanes)) := by
  rw [encode_joinWith (show String.utf8EncodeChar '|' = [124] by decide), laneAngleTexts,
    List.map_map]
  rfl

theorem fits_of_fits16 {number : Int} (fits : Fits 16 number) : Fits 32 number := by
  obtain ⟨low, high⟩ := fits
  norm_num at low high
  constructor
  · norm_num
    omega
  · norm_num
    omega

/-- Angles that the parser can have read. -/
def AnglesBounded (cap : Nat) (angles : List Int) : Prop :=
  angles.length ≤ cap ∧ ∀ angle ∈ angles, Fits 16 angle

theorem AnglesBounded.fits {cap : Nat} {angles : List Int} (bounded : AnglesBounded cap angles) :
    ∀ angle ∈ angles, Fits 32 angle :=
  fun angle member => fits_of_fits16 (bounded.2 angle member)

/-- Lanes that the parser can have read. -/
def LanesBounded (lanes : List RgdLane) : Prop :=
  lanes.length ≤ maxLaneGuidance ∧ ∀ lane ∈ lanes, AnglesBounded maxLaneAngles lane.angles

theorem laneAngleTexts_eq {lanes : List RgdLane} (bounded : LanesBounded lanes) :
    laneAngleTexts lanes = lanes.map fun lane => commaList lane.angles := by
  rw [laneAngleTexts, List.take_of_length_le bounded.1]
  refine List.map_congr_left fun lane member => ?_
  rw [List.take_of_length_le (bounded.2 lane member).1]

theorem laneAngleTexts_free (lanes : List RgdLane) : ∀ text ∈ laneAngleTexts lanes, '|' ∉ text := by
  intro text member
  obtain ⟨lane, -, rfl⟩ := List.mem_map.mp member
  exact not_mem_commaList (by decide) (by decide) (by decide)

theorem laneAngleTexts_visible (lanes : List RgdLane) :
    ∀ char ∈ joinWith '|' (laneAngleTexts lanes), 0x20 ≤ char.toNat := by
  intro char member
  rcases mem_joinWith member with rfl | ⟨text, textMem, inText⟩
  · decide
  · obtain ⟨lane, -, rfl⟩ := List.mem_map.mp textMem
    exact Nat.le_of_lt (commaList_visible _ char inText)

theorem joinWith_eq_nil {separator : Char} {items : List (List Char)} :
    joinWith separator items = [] ↔ items = [] ∨ items = [[]] := by
  match items with
  | [] => simp
  | [item] => simp
  | first :: second :: rest => simp [joinWith_cons_cons]

/-- Only a single lane can leave nothing to print. -/
def LanesPrinted (lanes : List RgdLane) : Prop :=
  lanes ≠ [] ∧ ∀ only, lanes = [only] → only.angles ≠ []

theorem commaList_eq_nil {numbers : List Int} : commaList numbers = [] ↔ numbers = [] := by
  constructor
  · intro printed
    by_contra nonempty
    exact commaList_ne_nil nonempty printed
  · rintro rfl
    rfl

theorem lanesPrinted_iff {lanes : List RgdLane} (bounded : LanesBounded lanes) :
    LanesPrinted lanes ↔ joinWith '|' (laneAngleTexts lanes) ≠ [] := by
  rw [Ne, joinWith_eq_nil, laneAngleTexts_eq bounded, LanesPrinted]
  match lanes with
  | [] => simp
  | [only] => simp [commaList_eq_nil]
  | first :: second :: rest => simp

theorem laneAngles_of_printed {lanes : List RgdLane} (bounded : LanesBounded lanes)
    (printed : LanesPrinted lanes) (uninitialised : List UInt8) :
    laneAngles uninitialised lanes = encode (joinWith '|' (laneAngleTexts lanes)) := by
  have text := (lanesPrinted_iff bounded).mp printed
  rw [laneAngles, if_neg printed.1, laneAnglesPrinted_eq, if_neg]
  rwa [encode_eq_nil]

theorem laneAngles_of_not_printed {lanes : List RgdLane} (bounded : LanesBounded lanes)
    (nothing : ¬ LanesPrinted lanes) (uninitialised : List UInt8) :
    laneAngles uninitialised lanes = if lanes = [] then [] else uninitialised := by
  have text : joinWith '|' (laneAngleTexts lanes) = [] := by
    by_contra printed
    exact nothing ((lanesPrinted_iff bounded).mpr printed)
  rw [laneAngles, laneAnglesPrinted_eq, text, encode_nil]
  simp

/-- A published value is read back: whatever the buffers held, the text reads
as `value`, and it is the same text. -/
structure ReadsBack {Value : Type*} (written : (RgdKey → List UInt8) → Option BusValue)
    (read : List Char → Value) (value : Value) : Prop where
  exact : ∀ stack, ∃ text, written stack = some (.str text) ∧ read (receivedText text) = value
  determined : ∀ first second, written first = written second

/-- The lane angles of a lane slot, as they are published. -/
def writtenLaneAngles (slot : Slot) (lane : RgdLaneGuidance) (stack : RgdKey → List UInt8) :
    Option BusValue :=
  valueOf (writeLaneDataKeys stack slot lane) (.lane slot .laneAngles)

/-- The junction angles of a maneuver slot, as they are published. -/
def writtenJunctionAngles (state : RgdState) (slot : Slot) (man : RgdManeuver)
    (stack : RgdKey → List UInt8) : Option BusValue :=
  valueOf (writeSlotDataKeys stack slot man state).1 (.maneuver slot .junctionAngles)

theorem writtenLaneAngles_eq {slot : Slot} {lane : RgdLaneGuidance} {lanes : List RgdLane}
    (index : lane.laneGuidanceIndex.isSome = true) (lanesEq : lane.laneInformations = some lanes)
    (stack : RgdKey → List UInt8) :
    writtenLaneAngles slot lane stack =
      some (.str (laneAngles (stack (.lane slot .laneAngles)) lanes)) := by
  obtain ⟨idx, indexEq⟩ := Option.isSome_iff_exists.mp index
  simp [writtenLaneAngles, writeLaneDataKeys, indexEq, lanesEq]

theorem writtenJunctionAngles_eq {state : RgdState} {slot : Slot} {man : RgdManeuver}
    {angles : List Int} (anglesEq : man.junctionAngles = some angles)
    (stack : RgdKey → List UInt8) :
    writtenJunctionAngles state slot man stack =
      some (.str (junctionAnglesText (stack (.maneuver slot .junctionAngles)) angles)) := by
  simp [writtenJunctionAngles, writeSlotDataKeys, maneuverDataKeys, anglesEq]

/-- Printed lane angles are received unchanged. -/
theorem parse_laneAngles_of_printed {lanes : List RgdLane} (bounded : LanesBounded lanes)
    (printed : LanesPrinted lanes) (uninitialised : List UInt8) :
    parseLaneAnglesMatrix (receivedText (laneAngles uninitialised lanes)) =
      some (lanes.map fun one => some one.angles) := by
  have text := (lanesPrinted_iff bounded).mp printed
  have nonempty : laneAngleTexts lanes ≠ [] := by
    intro none
    rw [none] at text
    exact text rfl
  rw [laneAngles_of_printed bounded printed, receivedText_encode (laneAngleTexts_visible lanes),
    parseLaneAnglesMatrix, if_neg text, splitOn_joinWith (laneAngleTexts_free lanes) nonempty,
    laneAngleTexts_eq bounded, List.map_map]
  congr 1
  refine List.map_congr_left fun one member => ?_
  exact parseCsvIntList_commaList (bounded.2 one member).fits

theorem laneAngles_readsBack_iff {slot : Slot} {lane : RgdLaneGuidance} {lanes : List RgdLane}
    (index : lane.laneGuidanceIndex.isSome = true) (lanesEq : lane.laneInformations = some lanes)
    (bounded : LanesBounded lanes) :
    ReadsBack (writtenLaneAngles slot lane) parseLaneAnglesMatrix
        (some (lanes.map fun one => some one.angles)) ↔ LanesPrinted lanes := by
  have writtenEq := @writtenLaneAngles_eq slot lane lanes index lanesEq
  constructor
  · intro reads
    by_contra nothing
    by_cases empty : lanes = []
    · obtain ⟨text, isText, read⟩ := reads.exact fun _ => []
      rw [writtenEq, laneAngles_of_not_printed bounded nothing, if_pos empty] at isText
      obtain rfl := BusValue.str.inj (Option.some.inj isText)
      cases read
    · have same := reads.determined (fun _ => []) fun _ => [65]
      rw [writtenEq, writtenEq, laneAngles_of_not_printed bounded nothing,
        laneAngles_of_not_printed bounded nothing, if_neg empty, if_neg empty] at same
      cases same
  · intro printed
    refine ⟨fun stack => ⟨_, writtenEq stack, ?_⟩, fun first second => ?_⟩
    · exact parse_laneAngles_of_printed bounded printed _
    · rw [writtenEq, writtenEq, laneAngles_of_printed bounded printed,
        laneAngles_of_printed bounded printed]

theorem junctionAngles_readsBack_iff {state : RgdState} {slot : Slot} {man : RgdManeuver}
    {angles : List Int} (anglesEq : man.junctionAngles = some angles)
    (bounded : AnglesBounded maxManeuverList angles) :
    ReadsBack (writtenJunctionAngles state slot man) intListOf (some angles) ↔ angles ≠ [] := by
  have writtenEq := @writtenJunctionAngles_eq state slot man angles anglesEq
  constructor
  · rintro reads rfl
    have same := reads.determined (fun _ => []) fun _ => [65]
    rw [writtenEq, writtenEq] at same
    cases same
  · intro nonempty
    refine ⟨fun stack => ⟨_, writtenEq stack, ?_⟩, fun first second => ?_⟩
    · rw [junctionAnglesText, if_neg nonempty, commaBytes,
        receivedText_encode fun char member => Nat.le_of_lt (commaList_visible angles char member),
        intListOf_commaList nonempty bounded.fits]
    · simp only [writtenEq, junctionAnglesText, if_neg nonempty]

/-- One lane that the parser can have read. -/
def LaneBounded (lane : RgdLane) : Prop := AnglesBounded maxLaneAngles lane.angles

theorem rgdParseLaneInformationValue_bounded (value : List UInt8) {outMax : Nat}
    (small : outMax ≤ maxLaneGuidance) :
    (rgdParseLaneInformationValue value outMax).length ≤ outMax ∧
      ∀ lane ∈ rgdParseLaneInformationValue value outMax, LaneBounded lane := by
  obtain ⟨short, parsed⟩ := rgdParseLaneInformationValue_parsed value small
  exact ⟨short, fun lane member => ⟨(parsed lane member).angleCount, (parsed lane member).angles⟩⟩

/-- Cached lanes are bounded. -/
def EventBounded (lane : RgdLaneGuidance) : Prop :=
  ∀ lanes ∈ lane.laneInformations, LanesBounded lanes

theorem laneGuidanceTlv_bounded {lane : RgdLaneGuidance} (bounded : EventBounded lane) (tlv : Tlv) :
    EventBounded (laneGuidanceTlv lane tlv) := by
  unfold laneGuidanceTlv
  split
  · exact bounded
  · exact bounded
  · rintro lanes ⟨⟩
    have old : LanesBounded (lane.laneInformations.getD []) := by
      cases lanesEq : lane.laneInformations with
      | none => exact ⟨Nat.zero_le _, fun _ member => by cases member⟩
      | some lanes => exact bounded lanes lanesEq
    obtain ⟨short, parsed⟩ := rgdParseLaneInformationValue_bounded tlv.value
      (Nat.sub_le maxLaneGuidance (lane.laneInformations.getD []).length)
    refine ⟨?_, fun one member => ?_⟩
    · have room := old.1
      simp only [List.length_append]
      omega
    · rcases List.mem_append.mp member with earlier | isNew
      · exact old.2 one earlier
      · exact parsed one isNew
  · exact bounded
  · exact bounded

theorem rgdParseLaneGuidance_bounded (raw : List UInt8) : EventBounded (rgdParseLaneGuidance raw) := by
  unfold rgdParseLaneGuidance
  suffices folded : ∀ (items : List Tlv) (lane : RgdLaneGuidance), EventBounded lane →
      EventBounded (items.foldl laneGuidanceTlv lane) from
    folded (frameTlvs raw) {} fun _ member => by cases member
  intro items
  induction items with
  | nil => exact fun _ bounded => bounded
  | cons item items ih => exact fun lane bounded => ih _ (laneGuidanceTlv_bounded bounded item)

/-- Filling in texts leaves the angles alone. -/
theorem EventBounded.filled {lane : RgdLaneGuidance} (bounded : EventBounded lane) :
    EventBounded (fillLaneDescriptions lane) := by
  unfold fillLaneDescriptions
  split
  · intro lanes member
    obtain ⟨old, oldMem, rfl⟩ := Option.map_eq_some_iff.mp member
    have oldBounded := bounded old oldMem
    refine ⟨by simpa using oldBounded.1, fun one member => ?_⟩
    obtain ⟨source, sourceMem, rfl⟩ := List.mem_map.mp member
    split <;> exact oldBounded.2 source sourceMem
  · exact bounded

/-- Cached junction angles are bounded. -/
def JunctionBounded (man : RgdManeuver) : Prop :=
  ∀ angles ∈ man.junctionAngles, AnglesBounded maxManeuverList angles

theorem be16Pairs_fits (bytes : List UInt8) :
    ∀ angle ∈ (be16Pairs bytes).map asInt16, Fits 16 angle := by
  induction bytes using be16Pairs.induct with
  | case1 first second rest ih =>
      intro angle member
      rw [be16Pairs, List.map_cons] at member
      rcases List.mem_cons.mp member with rfl | inRest
      · exact fits_asInt16 (readBe16_lt _)
      · exact ih angle inRest
  | case2 bytes short =>
      intro angle member
      rw [be16Pairs] at member
      · cases member
      · exact short

theorem maneuverTlv_bounded {man : RgdManeuver} (bounded : JunctionBounded man) (tlv : Tlv) :
    JunctionBounded (maneuverTlv man tlv) := by
  unfold maneuverTlv
  split
  case h_11 =>
    rintro angles ⟨⟩
    refine ⟨List.length_take_le .., fun angle member => ?_⟩
    rcases List.mem_append.mp (List.mem_of_mem_take member) with earlier | isNew
    · cases anglesEq : man.junctionAngles with
      | none =>
          rw [anglesEq] at earlier
          cases earlier
      | some old =>
          rw [anglesEq] at earlier
          exact (bounded old anglesEq).2 angle earlier
    · exact be16Pairs_fits tlv.value angle isNew
  all_goals exact bounded

theorem rgdParseManeuver_bounded (raw : List UInt8) : JunctionBounded (rgdParseManeuver raw) := by
  have folded : ∀ (items : List Tlv) (man : RgdManeuver), JunctionBounded man →
      JunctionBounded (items.foldl maneuverTlv man) := by
    intro items
    induction items with
    | nil => exact fun _ bounded => bounded
    | cons item items ih => exact fun man bounded => ih _ (maneuverTlv_bounded bounded item)
  have parsed := folded (frameTlvs raw) {} fun _ member => by cases member
  unfold rgdParseManeuver
  dsimp only
  split <;> exact parsed

/-- Parsed angles stay bounded in the caches. -/
theorem angleRules : CacheRules EventBounded JunctionBounded where
  emptyLane := fun _ member => by cases member
  emptyManeuver := fun _ member => by cases member
  parsedLane := fun raw _ => EventBounded.filled (rgdParseLaneGuidance_bounded raw)
  parsedManeuver := rgdParseManeuver_bounded
  borrowed := fun _ _ _ holds _ _ => holds

/-- The angle texts of a frame come from the caches shown, and are read back
exactly when something is printed for them. -/
structure AnglesPublished (shown : RgdState) (records : List RgdRecord) : Prop where
  lane : ∀ slot lanes, shown.rgdLaneSlotHasData slot = true →
    (shown.lanes.laneCache slot).laneInformations = some lanes →
    (∃ stack, valueOf records (.lane slot .laneAngles) =
      writtenLaneAngles slot (shown.lanes.laneCache slot) stack) ∧
    (ReadsBack (writtenLaneAngles slot (shown.lanes.laneCache slot)) parseLaneAnglesMatrix
        (some (lanes.map fun one => some one.angles)) ↔
      lanes ≠ [] ∧ ∀ only, lanes = [only] → only.angles ≠ [])
  junction : ∀ slot angles, slot ∈ shown.listedSlots →
    (shown.maneuvers.slotCache slot).junctionAngles = some angles →
    (∃ stack, valueOf records (.maneuver slot .junctionAngles) =
      writtenJunctionAngles shown slot (shown.maneuvers.slotCache slot) stack) ∧
    (ReadsBack (writtenJunctionAngles shown slot (shown.maneuvers.slotCache slot)) intListOf
        (some angles) ↔ angles ≠ [])

theorem published_angles_read_back_iff {overlay : Bool} {state : RgdState}
    {history : List HookEvent} (run : (rgdHook overlay).Run state history) {position : Nat}
    {shown : RgdState} {records : List RgdRecord}
    (published : history[position]? = some (.snapshot shown records)) :
    AnglesPublished shown records := by
  obtain ⟨shownRun, built⟩ := snapshot_run_at run published
  have holds := rgdHook_cachesHold angleRules shownRun
  refine ⟨fun slot lanes hasData lanesEq => ⟨?_, ?_⟩, fun slot angles listed anglesEq => ⟨?_, ?_⟩⟩
  · obtain ⟨stack, valueEq⟩ := built.lane slot .laneAngles
    refine ⟨stack, ?_⟩
    rw [valueEq, if_pos hasData]
    rfl
  · rw [rgdLaneSlotHasData, Bool.and_eq_true] at hasData
    exact laneAngles_readsBack_iff hasData.1 lanesEq (holds.lane slot lanes lanesEq)
  · obtain ⟨stack, valueEq⟩ := built.maneuver
    refine ⟨stack, ?_⟩
    rw [valueEq, if_pos listed]
    rfl
  · exact junctionAngles_readsBack_iff anglesEq (holds.maneuver slot angles anglesEq)

/-- A 0x5204 with index 3 and two lanes, of which the first has the angle 40. -/
def lanePairFrame : List UInt8 :=
  [0x40, 0x40, 0, 32, 0x52, 0x04, 0, 6, 0, 1, 0, 3, 0, 20, 0, 2, 0, 5, 0, 0, 1, 0, 6, 0, 2, 0, 40,
    0, 5, 0, 0, 2]

/-- The lanes shown in slot 0, without their texts. -/
def shownAngles (shown : RgdState) : Option (List (List Int)) :=
  (shown.lanes.laneCache 0).laneInformations.map fun lanes => lanes.map RgdLane.angles

theorem published_angles_of_lane_pair :
    ∃ shown records lanes, AnglesPublished shown records ∧
      (shown.lanes.laneCache 0).laneInformations = some lanes ∧
      ReadsBack (writtenLaneAngles 0 (shown.lanes.laneCache 0)) parseLaneAnglesMatrix
        (some (lanes.map fun one => some one.angles)) := by
  obtain ⟨state, history, run, checked⟩ := (rgdHook false).exists_run_of_replay
    [.message 0x5204 lanePairFrame 1 (fun _ => [65])]
    (fun result => (result.2[3]?).any (HookEvent.snapshotPasses fun shown _ =>
      shown.rgdLaneSlotHasData 0 && decide (shownAngles shown = some [[40], []])))
    (by decide +kernel)
  obtain ⟨shown, records, found, passes⟩ := exists_snapshot_of_passes checked
  simp only [Bool.and_eq_true, decide_eq_true_eq] at passes
  obtain ⟨hasData, angles⟩ := passes
  obtain ⟨lanes, lanesEq, anglesEq⟩ := Option.map_eq_some_iff.mp angles
  have published := published_angles_read_back_iff run found
  refine ⟨shown, records, lanes, published, lanesEq,
    (published.lane 0 lanes hasData lanesEq).2.mpr ⟨?_, ?_⟩⟩
  · rintro rfl
    cases anglesEq
  · rintro only rfl
    simp at anglesEq

/-- A lane without angles is published with what the buffer held, here an
angle of 40. -/
theorem single_lane_publishes_buffer :
    ¬ ∀ (state : RgdState) (history : List HookEvent), (rgdHook false).Run state history →
      ∀ (position : Nat) (shown : RgdState) (records : List RgdRecord) (slot : Slot)
        (lanes : List RgdLane) (text : List UInt8),
        history[position]? = some (.snapshot shown records) →
        shown.rgdLaneSlotHasData slot = true →
        (shown.lanes.laneCache slot).laneInformations = some lanes →
        valueOf records (.lane slot .laneAngles) = some (.str text) →
          parseLaneAnglesMatrix (receivedText text) =
            some (lanes.map fun one => some one.angles) := by
  intro readsBack
  obtain ⟨state, history, run, checked⟩ := (rgdHook false).exists_run_of_replay
    [.message 0x5204 (laneEventFrame 0 3) 1 (fun _ => [52, 48])]
    (fun result => (result.2[3]?).any (HookEvent.snapshotPasses fun shown records =>
      shown.rgdLaneSlotHasData 0 && decide (shownAngles shown = some [[]]) &&
        decide (valueOf records (.lane 0 .laneAngles) = some (.str [52, 48]))))
    (by decide +kernel)
  obtain ⟨shown, records, found, passes⟩ := exists_snapshot_of_passes checked
  simp only [Bool.and_eq_true, decide_eq_true_eq] at passes
  obtain ⟨⟨hasData, angles⟩, text⟩ := passes
  obtain ⟨lanes, lanesEq, anglesEq⟩ := Option.map_eq_some_iff.mp angles
  have read := readsBack state history run 3 shown records 0 lanes [52, 48] found hasData lanesEq text
  have shownText : lanes.map (fun one => some one.angles) = [some []] := by
    have mapped := congrArg (List.map some) anglesEq
    rw [List.map_map] at mapped
    exact mapped
  rw [shownText] at read
  exact absurd read (by decide +kernel)

end CarplayRgi
