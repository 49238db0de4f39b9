import CarplayRgi.RgdCachedUpdates
import CarplayRgi.RgdCheckedParsers
import CarplayRgi.RgdLineFields

/-!
# The writers with checked offsets

The snapshot writers print their lists into local buffers at a running offset.
The caches hold what the parsers can have stored, so in every reachable state
each offset is inside its buffer, and each buffer then holds the whole text.
-/

namespace CarplayRgi

open ByteBuffers CheckedBuffers DecimalText Utf8Text RgdState

def numeralBytes (number : Int) : List UInt8 := encode (decimal number)

/-- The prints of a list of numbers, `"%s%d"` for each with a comma in front of
all but the first. -/
def numeralPrints (numbers : List Int) : List (List UInt8) :=
  separated [44] (numbers.map numeralBytes)

/-- The prints of the lane angles: a bar in front of every lane but the first. -/
def anglePrints : List RgdLane → List (List UInt8)
  | [] => []
  | first :: rest =>
      numeralPrints (first.angles.take maxLaneAngles) ++
        rest.flatMap fun lane => [124] :: numeralPrints (lane.angles.take maxLaneAngles)

/-- The text in a buffer of `size` bytes after some prints; `mem` is what the
memory from the buffer on held before. -/
def printedText? (size : Nat) (mem : List UInt8) (prints : List (List UInt8)) :
    Option (List UInt8) :=
  (printAll? 0 size (mem, 0) prints).map fun out => cString out.1

/-- The text of a lane buffer, which is cleared when there is no lane. -/
def laneText? (size : Nat) (mem : List UInt8) (lanes : List RgdLane) (prints : List (List UInt8)) :
    Option (List UInt8) :=
  (printAll? 0 size (mem, 0) prints).map fun out =>
    cString (if lanes = [] then memcpy out.1 0 [0] else out.1)

/-- The text of a list buffer, whose loop ends four bytes before the end. -/
def listText? (mem : List UInt8) (numbers : List Int) : Option (List UInt8) :=
  if numbers = [] then some []
  else (printUntil? 0 4 128 (mem, 0) (numeralPrints numbers)).map fun out => cString out.1

theorem flatten_numeralPrints (numbers : List Int) :
    (numeralPrints numbers).flatten = commaBytes numbers := by
  rw [numeralPrints, flatten_separated, commaBytes, commaList,
    encode_joinWith (show String.utf8EncodeChar ',' = [44] by decide), List.map_map]
  rfl

theorem flatten_anglePrints (lanes : List RgdLane) :
    (anglePrints lanes).flatten =
      List.intercalate [124] (lanes.map fun lane => commaBytes (lane.angles.take maxLaneAngles)) := by
  cases lanes with
  | nil => rfl
  | cons first rest =>
      have later : (rest.flatMap fun lane =>
            [124] :: numeralPrints (lane.angles.take maxLaneAngles)).flatten =
          ((rest.map fun lane => commaBytes (lane.angles.take maxLaneAngles)).map
            ([124] ++ ·)).flatten := by
        induction rest with
        | nil => rfl
        | cons lane rest ih =>
            rw [List.flatMap_cons, List.flatten_append, ih, List.flatten_cons,
              flatten_numeralPrints]
            rfl
      rw [anglePrints, List.flatten_append, flatten_numeralPrints, later, flatten_map_append]
      rfl

theorem numeralBytes_ne_nil (number : Int) : numeralBytes number ≠ [] :=
  fun empty => decimal_ne_nil number (encode_eq_nil.mp empty)

theorem ne_nil_of_mem_numeralPrints {numbers : List Int} {print : List UInt8}
    (member : print ∈ numeralPrints numbers) : print ≠ [] := by
  cases numbers with
  | nil => cases member
  | cons first rest =>
      rcases List.mem_cons.mp member with rfl | later
      · exact numeralBytes_ne_nil first
      · obtain ⟨text, -, rfl⟩ := List.mem_map.mp later
        exact List.cons_ne_nil _ _

theorem ne_nil_of_mem_anglePrints {lanes : List RgdLane} {print : List UInt8}
    (member : print ∈ anglePrints lanes) : print ≠ [] := by
  cases lanes with
  | nil => cases member
  | cons first rest =>
      rcases List.mem_append.mp member with inFirst | inRest
      · exact ne_nil_of_mem_numeralPrints inFirst
      · obtain ⟨lane, -, inLane⟩ := List.mem_flatMap.mp inRest
        rcases List.mem_cons.mp inLane with rfl | inAngles
        · exact List.cons_ne_nil _ _
        · exact ne_nil_of_mem_numeralPrints inAngles

theorem numeralPrints_eq_nil {numbers : List Int} : numeralPrints numbers = [] ↔ numbers = [] := by
  rw [numeralPrints, separated_eq_nil, List.map_eq_nil_iff]

theorem length_encode_of_ascii {text : List Char} (ascii : ∀ char ∈ text, char.toNat < 128) :
    (encode text).length = text.length := by
  induction text with
  | nil => rfl
  | cons char text ih =>
      have small := ascii char List.mem_cons_self
      have one : (String.utf8EncodeChar char).length = 1 := by
        rw [String.length_utf8EncodeChar, Char.utf8Size_eq_one_iff, UInt32.le_iff_toNat_le]
        exact Nat.le_of_lt_succ small
      have later := ih fun other member => ascii other (List.mem_cons_of_mem char member)
      have split : encode (char :: text) = String.utf8EncodeChar char ++ encode text := rfl
      rw [split, List.length_append, one, later, List.length_cons]
      omega

theorem length_numeralBytes_le {number : Int} (small : number.natAbs < 2 ^ 16) :
    (numeralBytes number).length ≤ 6 := by
  have ascii : ∀ char ∈ decimal number, char.toNat < 128 := by
    intro char member
    rcases decimal_chars member with rfl | digit
    · decide
    · simp only [Char.isDigit, Bool.and_eq_true, decide_eq_true_eq] at digit
      exact Nat.lt_of_le_of_lt (UInt32.le_iff_toNat_le.mp digit.2) (by decide)
  have digits : (Nat.toDigits 10 number.natAbs).length ≤ 5 :=
    (Nat.length_toDigits_le_iff (by decide) (by decide)).mpr (lt_trans small (by decide))
  rw [numeralBytes, length_encode_of_ascii ascii]
  unfold decimal
  split
  · rw [List.length_cons]
    omega
  · omega

theorem length_commaBytes_le {numbers : List Int} {count : Nat} (short : numbers.length ≤ count)
    (small : ∀ number ∈ numbers, number.natAbs < 2 ^ 16) :
    (commaBytes numbers).length ≤ count * 7 := by
  have texts : ∀ text ∈ numbers.map numeralBytes, text.length ≤ 6 := by
    intro text member
    obtain ⟨number, inNumbers, rfl⟩ := List.mem_map.mp member
    exact length_numeralBytes_le (small number inNumbers)
  have joined : (List.intercalate [44] (numbers.map numeralBytes)).length ≤
      (numbers.map numeralBytes).length * 7 := length_intercalate_le texts
  rw [← flatten_numeralPrints, numeralPrints, flatten_separated]
  rw [List.length_map] at joined
  omega

theorem natAbs_lt_of_fits16 {number : Int} (fits : Fits 16 number) : number.natAbs < 2 ^ 16 := by
  obtain ⟨low, high⟩ := fits
  norm_num at low high
  omega

theorem cString_printed {prints : List (List UInt8)} {mem tail : List UInt8}
    (noZero : 0 ∉ prints.flatten)
    (behind : prints = [] ∧ tail = mem ∨ prints ≠ [] ∧ ∃ later, tail = 0 :: later) :
    cString (prints.flatten ++ tail) = if prints = [] then cString mem else prints.flatten := by
  rcases behind with ⟨rfl, rfl⟩ | ⟨printed, later, rfl⟩
  · rfl
  · rw [if_neg printed, cString_append_zero, cString_eq_self noZero]

theorem printedText?_eq {size : Nat} {prints : List (List UInt8)} (mem : List UInt8)
    (room : prints.flatten.length < size) (noZero : 0 ∉ prints.flatten) :
    printedText? size mem prints =
      some (if prints = [] then cString mem else prints.flatten) := by
  obtain ⟨tail, printed, behind⟩ := printAll?_eq 0 room
  rw [printedText?, printed, Option.map_some, cString_printed noZero behind]

theorem laneText?_eq {size : Nat} {prints : List (List UInt8)} (mem : List UInt8)
    (lanes : List RgdLane) (room : prints.flatten.length < size) (noZero : 0 ∉ prints.flatten) :
    laneText? size mem lanes prints =
      some (if lanes = [] then []
        else if prints = [] then cString mem else prints.flatten) := by
  obtain ⟨tail, printed, behind⟩ := printAll?_eq 0 room
  rw [laneText?, printed, Option.map_some]
  by_cases empty : lanes = []
  · rw [if_pos empty, if_pos empty]
    rfl
  · rw [if_neg empty, if_neg empty, cString_printed noZero behind]

theorem zero_notMem_commaBytes (numbers : List Int) : 0 ∉ commaBytes numbers := by
  intro member
  have isNul := mem_encode_ascii member (by decide)
  exact absurd (commaList_visible numbers _ isNul) (by decide)

/-- A text of lane values, one number for each lane. -/
theorem laneText?_numerals {lanes : List RgdLane} (mem : List UInt8) (value : RgdLane → Int)
    (small : ∀ lane ∈ lanes, (value lane).natAbs < 2 ^ 16) :
    laneText? 128 mem lanes (numeralPrints ((lanes.take maxLaneGuidance).map value)) =
      some (commaBytes ((lanes.take maxLaneGuidance).map value)) := by
  have short : ((lanes.take maxLaneGuidance).map value).length ≤ maxLaneGuidance := by
    rw [List.length_map]
    exact List.length_take_le _ _
  have below := length_commaBytes_le short fun number member => by
    obtain ⟨lane, inLanes, rfl⟩ := List.mem_map.mp member
    exact small lane (List.mem_of_mem_take inLanes)
  unfold maxLaneGuidance at below
  rw [laneText?_eq mem lanes (by rw [flatten_numeralPrints]; unfold maxLaneGuidance; omega)
    (by rw [flatten_numeralPrints]; exact zero_notMem_commaBytes _), flatten_numeralPrints]
  congr 1
  by_cases empty : lanes = []
  · rw [if_pos empty, empty]
    rfl
  · have printed : numeralPrints ((lanes.take maxLaneGuidance).map value) ≠ [] := by
      rw [ne_eq, numeralPrints_eq_nil, List.map_eq_nil_iff, List.take_eq_nil_iff]
      exact fun either => either.elim (by decide) empty
    rw [if_neg empty, if_neg printed]

theorem listText?_eq {numbers : List Int} (mem : List UInt8)
    (short : numbers.length ≤ maxManeuverList)
    (small : ∀ number ∈ numbers, number.natAbs < 2 ^ 16) :
    listText? mem numbers = some (commaBytes numbers) := by
  unfold listText?
  by_cases empty : numbers = []
  · rw [if_pos empty, empty]
    rfl
  · have below := length_commaBytes_le short small
    unfold maxManeuverList at below
    have printed := printedText?_eq mem
      (by rw [flatten_numeralPrints]; omega : (numeralPrints numbers).flatten.length < 128)
      (by rw [flatten_numeralPrints]; exact zero_notMem_commaBytes _)
    rw [if_neg empty, printUntil?_eq _ (by rw [flatten_numeralPrints]; dsimp only; omega)]
    refine printed.trans ?_
    rw [if_neg fun nothing => empty (numeralPrints_eq_nil.mp nothing), flatten_numeralPrints]

/-- The bounds of a cached lane. -/
structure LaneFits (lane : RgdLane) : Prop where
  position : lane.position < 65536
  direction : Fits 16 lane.direction
  status : lane.status < 256
  angleCount : lane.angles.length ≤ maxLaneAngles
  angles : ∀ angle ∈ lane.angles, Fits 16 angle
  descriptionLength : lane.description.length ≤ 63
  descriptionText : 0 ∉ lane.description

/-- The bounds of cached lanes. -/
def LanesFit (lanes : List RgdLane) : Prop :=
  lanes.length ≤ maxLaneGuidance ∧ ∀ lane ∈ lanes, LaneFits lane

theorem ParsedLane.fits {lane : RgdLane} (parsed : ParsedLane lane) : LaneFits lane where
  position := parsed.position
  direction := parsed.direction
  status := parsed.status
  angleCount := parsed.angleCount
  angles := parsed.angles
  descriptionLength := by
    rw [parsed.description]
    exact Nat.zero_le _
  descriptionText := by
    rw [parsed.description]
    exact List.not_mem_nil

/-- The lanes and the text of an event. -/
structure EventFits (lane : RgdLaneGuidance) : Prop where
  lanes : ∀ lanes ∈ lane.laneInformations, LanesFit lanes
  description : ∀ text ∈ lane.laneGuidanceDescription, text.length ≤ 63 ∧ 0 ∉ text

theorem laneGuidanceTlv_eventFits {lane : RgdLaneGuidance} (fits : EventFits lane) (tlv : Tlv) :
    EventFits (laneGuidanceTlv lane tlv) := by
  unfold laneGuidanceTlv
  split
  · exact ⟨fits.lanes, fits.description⟩
  · exact ⟨fits.lanes, fits.description⟩
  · refine ⟨?_, fits.description⟩
    rintro lanes ⟨⟩
    have old : LanesFit (lane.laneInformations.getD []) := by
      cases lanesEq : lane.laneInformations with
      | none => exact ⟨Nat.zero_le _, fun _ member => by cases member⟩
      | some lanes => exact fits.lanes lanes lanesEq
    obtain ⟨short, parsed⟩ := rgdParseLaneInformationValue_parsed tlv.value
      (Nat.sub_le maxLaneGuidance (lane.laneInformations.getD []).length)
    refine ⟨?_, fun one member => ?_⟩
    · have room := old.1
      rw [List.length_append]
      omega
    · rcases List.mem_append.mp member with earlier | isNew
      · exact old.2 one earlier
      · exact (parsed one isNew).fits
  · refine ⟨fits.lanes, ?_⟩
    rintro text ⟨⟩
    refine ⟨?_, zero_notMem_cString _⟩
    have taken : (boundedString 64 tlv.value).length ≤ (tlv.value.take 63).length :=
      (List.takeWhile_sublist _).length_le
    rw [List.length_take] at taken
    omega
  · exact fits

/-- What every item keeps holds of the parsed record. -/
theorem foldl_holds {Record : Type} {step : Record → Tlv → Record} (holds : Record → Prop)
    {start : Record} (first : holds start) (keeps : ∀ out tlv, holds out → holds (step out tlv))
    (items : List Tlv) : holds (items.foldl step start) := by
  induction items generalizing start with
  | nil => exact first
  | cons item items ih => exact ih (keeps start item first)

theorem eventFits_empty : EventFits {} where
  lanes := fun _ member => by cases member
  description := fun _ member => by cases member

theorem rgdParseLaneGuidance_eventFits (raw : List UInt8) :
    EventFits (rgdParseLaneGuidance raw) := by
  unfold rgdParseLaneGuidance
  exact foldl_holds EventFits eventFits_empty
    (fun _ tlv fits => laneGuidanceTlv_eventFits fits tlv) (frameTlvs raw)

/-- Filling in texts keeps the bounds. -/
theorem EventFits.filled {lane : RgdLaneGuidance} (fits : EventFits lane) :
    EventFits (fillLaneDescriptions lane) := by
  unfold fillLaneDescriptions
  split
  · rename_i first rest textEq
    obtain ⟨short, noZero⟩ := fits.description _ textEq
    refine ⟨fun lanes member => ?_, fits.description⟩
    obtain ⟨old, oldMem, rfl⟩ := Option.map_eq_some_iff.mp member
    obtain ⟨count, oldFits⟩ := fits.lanes old oldMem
    refine ⟨by rwa [List.length_map], fun one inLanes => ?_⟩
    obtain ⟨source, sourceMem, rfl⟩ := List.mem_map.mp inLanes
    have sourceFits := oldFits source sourceMem
    split
    · exact { sourceFits with descriptionLength := short, descriptionText := noZero }
    · exact sourceFits
  · exact fits

/-- What the writers print of the caches stays bounded. -/
theorem writerRules :
    CacheRules EventFits fun man =>
      JunctionBounded man ∧ ∀ lanes ∈ man.laneGuidance, LanesFit lanes where
  emptyLane := eventFits_empty
  emptyManeuver := ⟨angleRules.emptyManeuver, fun _ member => by cases member⟩
  parsedLane raw idx := by
    have parsed := rgdParseLaneGuidance_eventFits raw
    exact EventFits.filled ⟨parsed.lanes, parsed.description⟩
  parsedManeuver raw := by
    refine ⟨rgdParseManeuver_bounded raw, ?_⟩
    rw [(rgdParseManeuver_cached raw).noLanes]
    exact fun _ member => by cases member
  borrowed man source lanes kept lender lends := by
    refine ⟨kept.1, ?_⟩
    rintro other ⟨⟩
    exact lender.2 lanes lends

/-- Every offset of the lane writers is inside its buffer, and nothing is cut. -/
structure LanesChecked (lanes : List RgdLane) : Prop where
  positions : ∀ mem, laneText? 128 mem lanes
    (numeralPrints ((lanes.take maxLaneGuidance).map fun lane => (lane.position : Int))) =
      some (lanePositions lanes)
  directions : ∀ mem, laneText? 128 mem lanes
    (numeralPrints ((lanes.take maxLaneGuidance).map RgdLane.direction)) =
      some (laneDirections lanes)
  status : ∀ mem, laneText? 128 mem lanes
    (numeralPrints ((lanes.take maxLaneGuidance).map fun lane => (lane.status : Int))) =
      some (laneStatus lanes)
  desc : ∀ mem, laneText? 600 mem lanes
    (separated [124] ((lanes.take maxLaneGuidance).map RgdLane.description)) =
      some (laneDesc lanes)
  angles : ∀ mem, laneText? 1200 mem lanes (anglePrints (lanes.take maxLaneGuidance)) =
    some (laneAngles (cString mem) lanes)

theorem laneDesc_checked {lanes : List RgdLane} (fits : LanesFit lanes) (mem : List UInt8) :
    laneText? 600 mem lanes
        (separated [124] ((lanes.take maxLaneGuidance).map RgdLane.description)) =
      some (laneDesc lanes) := by
  have texts : ∀ text ∈ (lanes.take maxLaneGuidance).map RgdLane.description,
      text.length ≤ 63 := by
    intro text member
    obtain ⟨lane, inLanes, rfl⟩ := List.mem_map.mp member
    exact (fits.2 lane (List.mem_of_mem_take inLanes)).descriptionLength
  have below : (laneDesc lanes).length ≤ _ := length_intercalate_le texts
  have noZero : 0 ∉ laneDesc lanes := by
    intro member
    rcases mem_intercalate member with inBar | ⟨text, inTexts, inText⟩
    · exact absurd inBar (by decide)
    · obtain ⟨lane, inLanes, rfl⟩ := List.mem_map.mp inTexts
      exact (fits.2 lane (List.mem_of_mem_take inLanes)).descriptionText inText
  have count : ((lanes.take maxLaneGuidance).map RgdLane.description).length ≤ 8 := by
    rw [List.length_map]
    exact List.length_take_le _ _
  rw [List.length_singleton] at below
  rw [laneText?_eq mem lanes (by rw [flatten_separated]; change (laneDesc lanes).length < 600; omega)
    (by rw [flatten_separated]; exact noZero), flatten_separated]
  congr 1
  by_cases empty : lanes = []
  · rw [if_pos empty, empty]
    rfl
  · have printed : separated [124] ((lanes.take maxLaneGuidance).map RgdLane.description) ≠ [] := by
      rw [ne_eq, separated_eq_nil, List.map_eq_nil_iff, List.take_eq_nil_iff]
      exact fun either => either.elim (by decide) empty
    rw [if_neg empty, if_neg printed]
    rfl

theorem laneAngles_checked {lanes : List RgdLane} (fits : LanesFit lanes) (mem : List UInt8) :
    laneText? 1200 mem lanes (anglePrints (lanes.take maxLaneGuidance)) =
      some (laneAngles (cString mem) lanes) := by
  have flat : (anglePrints (lanes.take maxLaneGuidance)).flatten = laneAnglesPrinted lanes :=
    flatten_anglePrints _
  have texts : ∀ text ∈ (lanes.take maxLaneGuidance).map fun lane =>
      commaBytes (lane.angles.take maxLaneAngles), text.length ≤ 112 := by
    intro text member
    obtain ⟨lane, inLanes, rfl⟩ := List.mem_map.mp member
    have laneFits := fits.2 lane (List.mem_of_mem_take inLanes)
    exact length_commaBytes_le (List.length_take_le maxLaneAngles _) fun angle inAngles =>
      natAbs_lt_of_fits16 (laneFits.angles angle (List.mem_of_mem_take inAngles))
  have below : (laneAnglesPrinted lanes).length ≤ _ := length_intercalate_le texts
  have noZero : 0 ∉ laneAnglesPrinted lanes := by
    intro member
    rcases mem_intercalate member with inBar | ⟨text, inTexts, inText⟩
    · exact absurd inBar (by decide)
    · obtain ⟨lane, -, rfl⟩ := List.mem_map.mp inTexts
      exact zero_notMem_commaBytes _ inText
  have count : ((lanes.take maxLaneGuidance).map fun lane =>
      commaBytes (lane.angles.take maxLaneAngles)).length ≤ 8 := by
    rw [List.length_map]
    exact List.length_take_le _ _
  have nothing : anglePrints (lanes.take maxLaneGuidance) = [] ↔ laneAnglesPrinted lanes = [] := by
    rw [← flat, List.flatten_eq_nil_iff]
    constructor
    · intro empty print member
      rw [empty] at member
      cases member
    · intro empty
      by_contra printed
      obtain ⟨print, inPrints⟩ := List.exists_mem_of_ne_nil _ printed
      exact ne_nil_of_mem_anglePrints inPrints (empty print inPrints)
  rw [List.length_singleton] at below
  rw [laneText?_eq mem lanes (by rw [flat]; omega) (by rw [flat]; exact noZero), flat, laneAngles]
  simp only [nothing]

theorem lanesChecked_of_fits {lanes : List RgdLane} (fits : LanesFit lanes) :
    LanesChecked lanes where
  positions mem := laneText?_numerals mem _ fun lane member => by
    have small := (fits.2 lane member).position
    rw [Int.natAbs_natCast]
    omega
  directions mem := laneText?_numerals mem _ fun lane member =>
    natAbs_lt_of_fits16 (fits.2 lane member).direction
  status mem := laneText?_numerals mem _ fun lane member => by
    have small := (fits.2 lane member).status
    rw [Int.natAbs_natCast]
    omega
  desc := laneDesc_checked fits
  angles := laneAngles_checked fits

/-- Every offset of the writers is inside its buffer in this state, and every
buffer then holds the text that is published. -/
structure WritersChecked (state : RgdState) : Prop where
  junctionAngles : ∀ mem slot angles,
    (state.maneuvers.slotCache slot).junctionAngles = some angles →
      printedText? 128 mem (numeralPrints angles) =
        some (junctionAnglesText (cString mem) angles)
  maneuverLanes : ∀ slot lanes,
    (state.maneuvers.slotCache slot).laneGuidance = some lanes → LanesChecked lanes
  eventLanes : ∀ slot lanes,
    (state.lanes.laneCache slot).laneInformations = some lanes → LanesChecked lanes
  componentIds : ∀ mem ids, state.updateCache.componentIds = some ids →
    listText? mem (ids.map Int.ofNat) = some (commaBytes (ids.map Int.ofNat))
  maneuverList : ∀ mem,
    listText? mem (state.listedSlots.map fun slot => (slot.val : Int)) =
      some (commaBytes (state.listedSlots.map fun slot => (slot.val : Int)))

/-- The counts of the parsed records fit the arrays. -/
structure CountsFit (buf : List UInt8) : Prop where
  updateIds : ∀ ids ∈ (rgdParseUpdate buf).componentIds, ids.length ≤ maxComponentList
  maneuverList : ∀ list ∈ (rgdParseUpdate buf).maneuverList, list.length ≤ maxManeuverList
  maneuverIds : ∀ ids ∈ (rgdParseManeuver buf).componentIds, ids.length ≤ maxComponentList
  junctionAngles : ∀ angles ∈ (rgdParseManeuver buf).junctionAngles,
    angles.length ≤ maxManeuverList
  laneIds : ∀ ids ∈ (rgdParseLaneGuidance buf).componentIds, ids.length ≤ maxComponentList
  lanes : ∀ lanes ∈ (rgdParseLaneGuidance buf).laneInformations,
    lanes.length ≤ maxLaneGuidance ∧ ∀ lane ∈ lanes, lane.angles.length ≤ maxLaneAngles

theorem maneuverTlv_idsFit {man : RgdManeuver}
    (fits : ∀ ids ∈ man.componentIds, ids.length ≤ maxComponentList) (tlv : Tlv) :
    ∀ ids ∈ (maneuverTlv man tlv).componentIds, ids.length ≤ maxComponentList := by
  unfold maneuverTlv
  split
  case h_1 =>
    rintro ids ⟨⟩
    exact List.length_take_le _ _
  all_goals exact fits

theorem updateTlv_listFits {upd : RgdUpdate}
    (fits : ∀ list ∈ upd.maneuverList, list.length ≤ maxManeuverList) (tlv : Tlv) :
    ∀ list ∈ (updateTlv upd tlv).maneuverList, list.length ≤ maxManeuverList := by
  unfold updateTlv
  split
  case h_14 =>
    rintro list ⟨⟩
    exact List.length_take_le _ _
  all_goals exact fits

theorem laneGuidanceTlv_idsFit {lane : RgdLaneGuidance}
    (fits : ∀ ids ∈ lane.componentIds, ids.length ≤ maxComponentList) (tlv : Tlv) :
    ∀ ids ∈ (laneGuidanceTlv lane tlv).componentIds, ids.length ≤ maxComponentList := by
  unfold laneGuidanceTlv
  split
  case h_1 =>
    rintro ids ⟨⟩
    exact List.length_take_le _ _
  all_goals exact fits

theorem countsFit (buf : List UInt8) : CountsFit buf where
  updateIds := fun ids member => ((rgdParseUpdate_numbers buf).componentIds ids member).1
  maneuverList :=
    foldl_holds (fun upd : RgdUpdate => ∀ list ∈ upd.maneuverList, list.length ≤ maxManeuverList)
      (fun _ member => by cases member) (fun _ tlv fits => updateTlv_listFits fits tlv)
      (frameTlvs buf)
  maneuverIds := by
    have parsed : ∀ ids ∈ ((frameTlvs buf).foldl maneuverTlv {}).componentIds,
        ids.length ≤ maxComponentList :=
      foldl_holds (fun man : RgdManeuver => ∀ ids ∈ man.componentIds, ids.length ≤ maxComponentList)
        (fun _ member => by cases member) (fun _ tlv fits => maneuverTlv_idsFit fits tlv)
        (frameTlvs buf)
    unfold rgdParseManeuver
    dsimp only
    split_ifs
    · exact parsed
    · exact parsed
  junctionAngles := fun angles member => (rgdParseManeuver_bounded buf angles member).1
  laneIds :=
    foldl_holds
      (fun lane : RgdLaneGuidance => ∀ ids ∈ lane.componentIds, ids.length ≤ maxComponentList)
      (fun _ member => by cases member) (fun _ tlv fits => laneGuidanceTlv_idsFit fits tlv)
      (frameTlvs buf)
  lanes := fun lanes member => by
    obtain ⟨count, fits⟩ := (rgdParseLaneGuidance_eventFits buf).lanes lanes member
    exact ⟨count, fun lane inLanes => (fits lane inLanes).angleCount⟩

theorem writersChecked {overlay : Bool} {state : RgdState} {history : List HookEvent}
    (run : (rgdHook overlay).Run state history) : WritersChecked state := by
  have caches := rgdHook_cachesHold writerRules run
  have numbers := rgdHook_updateHolds numberRules run
  have short := rgdHook_listShort run
  refine
    { junctionAngles := fun mem slot angles anglesEq => ?_
      maneuverLanes := fun slot lanes lanesEq =>
        lanesChecked_of_fits ((caches.maneuver slot).2 lanes lanesEq)
      eventLanes := fun slot lanes lanesEq =>
        lanesChecked_of_fits ((caches.lane slot).lanes lanes lanesEq)
      componentIds := fun mem ids idsEq => ?_
      maneuverList := fun mem => ?_ }
  · obtain ⟨count, fits⟩ := (caches.maneuver slot).1 angles anglesEq
    have below := length_commaBytes_le count fun angle member => natAbs_lt_of_fits16 (fits angle member)
    unfold maxManeuverList at below
    rw [printedText?_eq mem (by rw [flatten_numeralPrints]; omega)
      (by rw [flatten_numeralPrints]; exact zero_notMem_commaBytes _), flatten_numeralPrints,
      junctionAnglesText]
    simp only [numeralPrints_eq_nil]
  · obtain ⟨count, small⟩ := numbers.componentIds ids idsEq
    refine listText?_eq mem ?_ fun number member => ?_
    · rw [List.length_map]
      exact count.trans (by decide)
    · obtain ⟨id, inIds, rfl⟩ := List.mem_map.mp member
      exact small id inIds
  · refine listText?_eq mem ?_ fun number member => ?_
    · rw [List.length_map]
      exact (List.length_filterMap_le _ _).trans short
    · obtain ⟨slot, -, rfl⟩ := List.mem_map.mp member
      have slotLt := slot.isLt
      unfold maneuverCacheSize at slotLt
      rw [Int.natAbs_natCast]
      omega

/-- The parsers read and store inside their bounds, and so do the writers in
every reachable state. -/
theorem parsers_and_writers_inside :
    (∀ buf, checkedParseUpdate buf = some (rgdParseUpdate buf) ∧
        checkedParseManeuver buf = some (rgdParseManeuver buf) ∧
        checkedParseLaneGuidance buf = some (rgdParseLaneGuidance buf) ∧ CountsFit buf) ∧
      ∀ overlay state history, (rgdHook overlay).Run state history → WritersChecked state :=
  ⟨fun buf => ⟨checkedParseUpdate_eq buf, checkedParseManeuver_eq buf,
      checkedParseLaneGuidance_eq buf, countsFit buf⟩,
    fun _ _ _ run => writersChecked run⟩

end CarplayRgi
