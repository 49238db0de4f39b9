import CarplayRgi.DecimalText
import CarplayRgi.RgdTlv
import Mathlib.Tactic.NormNum

/-!
# Lanes as the parser reads them

A lane is reset when it is opened and changed item by item.  Every value that
an item can give a field is bounded by the bytes that it is read from, so the
lanes of a scan are bounded at every step.
-/

namespace CarplayRgi

open DecimalText

theorem fits_asInt16 {value : Nat} (small : value < 65536) : Fits 16 (asInt16 value) := by
  unfold Fits asInt16
  split
  · constructor
    · norm_num
    · norm_num
      omega
  · constructor
    · norm_num
      omega
    · norm_num
      omega

theorem fits_byte (byte : UInt8) : Fits 16 (byte.toNat : Int) := by
  have small := byte.toNat_lt
  constructor
  · norm_num
  · norm_num
    omega

theorem laneAngleValues_fits (bytes : List UInt8) : ∀ angle ∈ laneAngleValues bytes, Fits 16 angle := by
  induction bytes using laneAngleValues.induct with
  | case1 first second rest ih =>
      intro angle member
      rcases List.mem_cons.mp member with rfl | inRest
      · exact fits_asInt16 (readBe16_lt _)
      · exact ih angle inRest
  | case2 last =>
      intro angle member
      obtain rfl := List.mem_singleton.mp member
      exact fits_byte last
  | case3 =>
      intro angle member
      cases member

theorem highlightDirection_fits (value : List UInt8) : Fits 16 (highlightDirection value) := by
  unfold highlightDirection
  split
  · decide
  · exact fits_byte _
  · exact fits_asInt16 (readBe16_lt _)

/-- The bounds of a parsed lane; its text comes later, from the event. -/
structure ParsedLane (lane : RgdLane) : Prop where
  position : lane.position < 65536
  direction : Fits 16 lane.direction
  status : lane.status < 256
  angleCount : lane.angles.length ≤ maxLaneAngles
  angles : ∀ angle ∈ lane.angles, Fits 16 angle
  description : lane.description = []

theorem parsedLane_reset {position : Nat} (small : position < maxLaneGuidance) :
    ParsedLane (rgdLaneReset position) where
  position := small.trans (by decide)
  direction := (by decide : Fits 16 1000)
  status := Nat.zero_lt_succ _
  angleCount := Nat.zero_le _
  angles := fun _ member => by cases member
  description := rfl

theorem ParsedLane.addAngle {lane : RgdLane} (parsed : ParsedLane lane) (highlight : Bool)
    {angle : Int} (fits : Fits 16 angle) : ParsedLane (addLaneAngle highlight lane angle) := by
  unfold addLaneAngle
  split
  · exact parsed
  · rename_i room
    refine { parsed with direction := ?_, angleCount := ?_, angles := fun other member => ?_ }
    · dsimp only
      split
      · exact fits
      · exact parsed.direction
    · rw [List.length_append, List.length_singleton]
      omega
    · rcases List.mem_append.mp member with earlier | isLast
      · exact parsed.angles other earlier
      · rw [List.mem_singleton.mp isLast]
        exact fits

theorem ParsedLane.foldl_addAngle {angles : List Int} (fits : ∀ angle ∈ angles, Fits 16 angle)
    (highlight : Bool) {lane : RgdLane} (parsed : ParsedLane lane) :
    ParsedLane (angles.foldl (addLaneAngle highlight) lane) := by
  induction angles generalizing lane with
  | nil => exact parsed
  | cons angle angles ih =>
      exact ih (fun other member => fits other (List.mem_cons_of_mem angle member))
        (parsed.addAngle highlight (fits angle List.mem_cons_self))

/-- The lanes of a scan, as far as it has come. -/
def ScanParsed (outMax : Nat) (scan : LaneScan) : Prop :=
  scan.lanes.length ≤ outMax ∧ ∀ lane ∈ scan.lanes, ParsedLane lane

theorem ScanParsed.openLane {outMax : Nat} (small : outMax ≤ maxLaneGuidance) {scan : LaneScan}
    (parsed : ScanParsed outMax scan) : ScanParsed outMax (scan.openLane outMax) := by
  unfold LaneScan.openLane
  split
  · exact parsed
  · rename_i room
    refine ⟨?_, fun lane member => ?_⟩
    · simp only [List.length_append, List.length_singleton]
      omega
    · rcases List.mem_append.mp member with earlier | isNew
      · exact parsed.2 lane earlier
      · rw [List.mem_singleton.mp isNew]
        exact parsedLane_reset (by omega)

theorem ScanParsed.updateLane {outMax : Nat} {scan : LaneScan}
    (parsed : ScanParsed outMax scan) {change : RgdLane → RgdLane}
    (changes : ∀ lane, ParsedLane lane → ParsedLane (change lane)) :
    ScanParsed outMax (scan.updateLane change) := by
  unfold LaneScan.updateLane
  split
  · exact parsed
  · refine ⟨by simpa using parsed.1, fun lane member => ?_⟩
    obtain ⟨position, inside, rfl⟩ := List.mem_iff_getElem.mp member
    rw [List.length_modify] at inside
    rw [List.getElem_modify]
    split
    · exact changes _ (parsed.2 _ (List.getElem_mem inside))
    · exact parsed.2 _ (List.getElem_mem inside)

/-- The lane that an item belongs to, opened when there is none yet. -/
theorem ScanParsed.current {outMax : Nat} (small : outMax ≤ maxLaneGuidance) {scan : LaneScan}
    (parsed : ScanParsed outMax scan) :
    ScanParsed outMax (if scan.lanes = [] then scan.openLane outMax else scan) := by
  split
  · exact parsed.openLane small
  · exact parsed

theorem laneInformationStep_parsed {outMax : Nat} (small : outMax ≤ maxLaneGuidance)
    {scan : LaneScan} (parsed : ScanParsed outMax scan) (tlv : Tlv) :
    ScanParsed outMax (laneInformationStep outMax scan tlv) := by
  unfold laneInformationStep
  split
  · exact parsed
  · split
    · refine (parsed.openLane small).updateLane fun lane laneParsed => ?_
      split
      · exact laneParsed
      · exact { laneParsed with position := (UInt8.toNat_lt _).trans (by decide) }
      · exact { laneParsed with position := readBe16_lt _ }
    · refine (parsed.current small).updateLane fun lane laneParsed => ?_
      split
      · exact laneParsed
      · exact { laneParsed with status := UInt8.toNat_lt _ }
    · exact (parsed.current small).updateLane fun lane laneParsed =>
        laneParsed.foldl_addAngle (laneAngleValues_fits tlv.value) _
    · have current := parsed.current small
      revert current
      generalize (if scan.lanes = [] then scan.openLane outMax else scan) = current
      intro currentParsed
      dsimp only
      split
      · exact currentParsed
      · exact @ScanParsed.updateLane outMax current currentParsed
          (fun lane => { lane with direction := highlightDirection tlv.value })
          fun lane laneParsed =>
            { laneParsed with direction := highlightDirection_fits tlv.value }
    · exact parsed

theorem rgdParseLaneInformationValue_parsed (value : List UInt8) {outMax : Nat}
    (small : outMax ≤ maxLaneGuidance) :
    (rgdParseLaneInformationValue value outMax).length ≤ outMax ∧
      ∀ lane ∈ rgdParseLaneInformationValue value outMax, ParsedLane lane := by
  unfold rgdParseLaneInformationValue
  suffices folded : ∀ (items : List Tlv) (scan : LaneScan), ScanParsed outMax scan →
      ScanParsed outMax (items.foldl (laneInformationStep outMax) scan) from
    folded (tlvs value) {} ⟨Nat.zero_le _, fun _ member => by cases member⟩
  intro items
  induction items with
  | nil => exact fun _ parsed => parsed
  | cons item items ih => exact fun scan parsed => ih _ (laneInformationStep_parsed small parsed item)

end CarplayRgi
