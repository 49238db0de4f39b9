import Mathlib.Algebra.Group.Nat.Defs
import Mathlib.Data.List.Induction
import Mathlib.Tactic.Common

/-!
# Route-guidance messages of the phone

The three iAP2 messages 0x5201, 0x5202 and 0x5204 are a six-byte header and a
sequence of length-prefixed items.  A field of the parsed record is present
when an item that is long enough has set it; the record keeps the last value.
C strings are modelled by their bytes before the terminating zero.
-/

namespace CarplayRgi

/-- Big-endian value of a byte string. -/
def readBe (bytes : List UInt8) : Nat :=
  bytes.foldl (fun value byte => value * 256 + byte.toNat) 0

def readBe16 (bytes : List UInt8) : Nat := readBe (bytes.take 2)

def readBe32 (bytes : List UInt8) : Nat := readBe (bytes.take 4)

def readBe64 (bytes : List UInt8) : Nat := readBe (bytes.take 8)

theorem readBe_lt (bytes : List UInt8) : readBe bytes < 256 ^ bytes.length := by
  induction bytes using List.reverseRecOn with
  | nil => simp [readBe]
  | append_singleton bytes byte ih =>
      have byteLt := byte.toNat_lt
      have step : readBe (bytes ++ [byte]) = readBe bytes * 256 + byte.toNat := by
        simp [readBe]
      rw [step, List.length_append, List.length_singleton, Nat.pow_succ]
      omega

theorem readBe_take_lt_pow (size : Nat) (bytes : List UInt8) :
    readBe (bytes.take size) < 256 ^ size :=
  Nat.lt_of_lt_of_le (readBe_lt _)
    (Nat.pow_le_pow_right (by decide) (List.length_take_le size bytes))

theorem readBe16_lt (bytes : List UInt8) : readBe16 bytes < 65536 :=
  readBe_take_lt_pow 2 bytes

/-- The value of a 16-bit pattern read as a signed integer. -/
def asInt16 (value : Nat) : Int :=
  if value < 32768 then value else value - 65536

structure Tlv where
  id : Nat
  value : List UInt8
  deriving DecidableEq

/-- The items before the first malformed one.  Every item consumes at least
four bytes, so the length of the input is enough fuel. -/
def tlvsWithin : Nat → List UInt8 → List Tlv
  | 0, _ => []
  | fuel + 1, bytes =>
      let tlvLen := readBe16 bytes
      if bytes.length < 4 ∨ tlvLen < 4 ∨ bytes.length < tlvLen then []
      else
        ⟨readBe16 (bytes.drop 2), (bytes.take tlvLen).drop 4⟩ ::
          tlvsWithin fuel (bytes.drop tlvLen)

def tlvs (bytes : List UInt8) : List Tlv :=
  tlvsWithin bytes.length bytes

/-- The items after the iAP2 header. -/
def frameTlvs (frame : List UInt8) : List Tlv :=
  tlvs (frame.drop 6)

/-- The big-endian pairs of a byte string; an odd last byte is left out. -/
def be16Pairs : List UInt8 → List Nat
  | first :: second :: rest => readBe16 [first, second] :: be16Pairs rest
  | _ => []

def cString (bytes : List UInt8) : List UInt8 :=
  bytes.takeWhile (· != 0)

/-- The copy loop of `replace_newlines`, with `written` bytes already in the
256-byte scratch buffer. -/
def replaceNewlinesFrom : Nat → List UInt8 → List UInt8
  | _, [] => []
  | written, byte :: rest =>
      if 252 ≤ written then []
      else if byte = 13 ∧ rest.head? = some 10 then
        [32, 47, 32] ++
          match rest with
          | [] => []
          | _ :: later => replaceNewlinesFrom (written + 3) later
      else if byte = 10 ∨ byte = 13 then
        [32, 47, 32] ++ replaceNewlinesFrom (written + 3) rest
      else byte :: replaceNewlinesFrom (written + 1) rest

/-- Newlines become `" / "`; the result fits a buffer of `size` bytes. -/
def replaceNewlines (size : Nat) (text : List UInt8) : List UInt8 :=
  (replaceNewlinesFrom 0 text).take (size - 1)

/-- A string item copied into a buffer of `size` bytes. -/
def boundedString (size : Nat) (value : List UInt8) : List UInt8 :=
  cString (value.take (size - 1))

def boundedLine (size : Nat) (value : List UInt8) : List UInt8 :=
  replaceNewlines size (boundedString size value)

/-- `copy_printable_string_preview`. -/
def copyPrintableStringPreview (size : Nat) (value : List UInt8) : List UInt8 :=
  (boundedString size value).map fun byte =>
    if 0x80 ≤ byte.toNat ∨ (0x20 ≤ byte.toNat ∧ byte.toNat ≤ 0x7E) then byte else 63

def maxManeuverList : Nat := 16
def maxComponentList : Nat := 8
def maxLaneGuidance : Nat := 8
def maxLaneAngles : Nat := 16

/-- One lane of a 0x5204 message. -/
structure RgdLane where
  position : Nat
  direction : Int
  status : Nat
  angles : List Int
  description : List UInt8
  deriving DecidableEq

/-- A parsed 0x5204 message. -/
structure RgdLaneGuidance where
  componentIds : Option (List Nat) := none
  laneGuidanceIndex : Option Nat := none
  laneInformations : Option (List RgdLane) := none
  laneGuidanceDescription : Option (List UInt8) := none
  deriving DecidableEq

/-- A parsed 0x5201 message, and the merged cache of such messages.
`laneGuidanceSlot` is not part of the message. -/
structure RgdUpdate where
  componentIds : Option (List Nat) := none
  routeState : Option Nat := none
  maneuverState : Option Nat := none
  currentRoad : Option (List UInt8) := none
  destination : Option (List UInt8) := none
  eta : Option Nat := none
  timeRemaining : Option Nat := none
  distanceRemaining : Option Nat := none
  distanceString : Option (List UInt8) := none
  distanceUnits : Option Nat := none
  distToManeuver : Option Nat := none
  distToManeuverString : Option (List UInt8) := none
  distToManeuverUnits : Option Nat := none
  maneuverCount : Option Nat := none
  maneuverList : Option (List Nat) := none
  visibleInApp : Option Nat := none
  laneGuidanceIndex : Option Nat := none
  laneGuidanceTotal : Option Nat := none
  laneGuidanceShowing : Option Nat := none
  sourceName : Option (List UInt8) := none
  sourceSupportsRouteGuidance : Option Nat := none
  laneGuidanceSlot : Option Int := none
  deriving DecidableEq

/-- A parsed 0x5202 message.  `laneGuidance` is not part of the message. -/
structure RgdManeuver where
  componentIds : Option (List Nat) := none
  index : Option Nat := none
  description : Option (List UInt8) := none
  maneuverType : Option Nat := none
  afterRoadName : Option (List UInt8) := none
  distanceBetween : Option Nat := none
  distanceString : Option (List UInt8) := none
  distanceUnits : Option Nat := none
  drivingSide : Option Nat := none
  junctionType : Option Nat := none
  junctionAngles : Option (List Int) := none
  exitAngle : Option Int := none
  laneGuidanceRawLen : Option Nat := none
  exitInfoRawLen : Option Nat := none
  exitInfoStr : Option (List UInt8) := none
  laneGuidance : Option (List RgdLane) := none
  linkedLaneGuidanceIndex : Option Nat := none
  deriving DecidableEq

def rgdLaneReset (fallbackPosition : Nat) : RgdLane where
  position := fallbackPosition
  direction := 1000
  status := 0
  angles := []
  description := []

/-- The scan of one LaneInformations item: the lanes so far, whether the last
lane has a highlight of its own, and whether the lane limit stopped the scan. -/
structure LaneScan where
  lanes : List RgdLane := []
  laneHasHighlight : Bool := false
  stopped : Bool := false

namespace LaneScan

def openLane (scan : LaneScan) (outMax : Nat) : LaneScan :=
  if outMax ≤ scan.lanes.length then { scan with stopped := true }
  else
    { scan with
      lanes := scan.lanes ++ [rgdLaneReset scan.lanes.length]
      laneHasHighlight := false }

/-- Change the current lane; a stopped scan no longer changes. -/
def updateLane (scan : LaneScan) (change : RgdLane → RgdLane) : LaneScan :=
  if scan.stopped then scan
  else { scan with lanes := scan.lanes.modify (scan.lanes.length - 1) change }

end LaneScan

/-- The signed angles of a laneAngles item; an odd last byte counts alone. -/
def laneAngleValues : List UInt8 → List Int
  | first :: second :: rest => asInt16 (readBe16 [first, second]) :: laneAngleValues rest
  | [last] => [(last.toNat : Int)]
  | [] => []

/-- The first angle stands in for the direction until a highlight arrives. -/
def addLaneAngle (laneHasHighlight : Bool) (lane : RgdLane) (angle : Int) : RgdLane :=
  if maxLaneAngles ≤ lane.angles.length then lane
  else
    { lane with
      angles := lane.angles ++ [angle]
      direction :=
        if !laneHasHighlight && decide (lane.direction = 1000) then angle else lane.direction }

/-- The highlighted direction: two bytes signed, a single byte unsigned. -/
def highlightDirection (value : List UInt8) : Int :=
  match value with
  | [] => 1000
  | [byte] => byte.toNat
  | first :: second :: _ => asInt16 (readBe16 [first, second])

def laneInformationStep (outMax : Nat) (scan : LaneScan) (tlv : Tlv) : LaneScan :=
  if scan.stopped then scan
  else
    match tlv.id with
    | 0x0000 =>
        (scan.openLane outMax).updateLane fun lane =>
          match tlv.value with
          | [] => lane
          | [byte] => { lane with position := byte.toNat }
          | first :: second :: _ => { lane with position := readBe16 [first, second] }
    | 0x0001 =>
        (if scan.lanes = [] then scan.openLane outMax else scan).updateLane fun lane =>
          match tlv.value with
          | [] => lane
          | byte :: _ => { lane with status := byte.toNat }
    | 0x0002 =>
        let current := if scan.lanes = [] then scan.openLane outMax else scan
        current.updateLane fun lane =>
          (laneAngleValues tlv.value).foldl (addLaneAngle current.laneHasHighlight) lane
    | 0x0003 =>
        let current := if scan.lanes = [] then scan.openLane outMax else scan
        if tlv.value = [] ∨ current.stopped = true then current
        else
          { current.updateLane fun lane =>
              { lane with direction := highlightDirection tlv.value } with
            laneHasHighlight := true }
    | _ => scan

/-- The lanes of one LaneInformations item, at most `outMax` of them. -/
def rgdParseLaneInformationValue (value : List UInt8) (outMax : Nat) : List RgdLane :=
  ((tlvs value).foldl (laneInformationStep outMax) {}).lanes

/-- Set a field from an item of at least `size` bytes, else keep it. -/
def whenLong {Value : Type*} (size : Nat) (value : List UInt8)
    (read : List UInt8 → Value) (old : Option Value) : Option Value :=
  if size ≤ value.length then some (read value) else old

def readByte (value : List UInt8) : Nat := readBe (value.take 1)

def updateTlv (upd : RgdUpdate) (tlv : Tlv) : RgdUpdate :=
  let value := tlv.value
  match tlv.id with
  | 0x0000 => { upd with componentIds := some ((be16Pairs value).take maxComponentList) }
  | 0x0001 => { upd with routeState := whenLong 1 value readByte upd.routeState }
  | 0x0002 => { upd with maneuverState := whenLong 1 value readByte upd.maneuverState }
  | 0x0003 => { upd with currentRoad := some (boundedLine 256 value) }
  | 0x0004 => { upd with destination := some (boundedLine 256 value) }
  | 0x0005 => { upd with eta := whenLong 8 value readBe64 upd.eta }
  | 0x0006 => { upd with timeRemaining := whenLong 8 value readBe64 upd.timeRemaining }
  | 0x0007 => { upd with distanceRemaining := whenLong 4 value readBe32 upd.distanceRemaining }
  | 0x0008 => { upd with distanceString := some (boundedString 64 value) }
  | 0x0009 => { upd with distanceUnits := whenLong 1 value readByte upd.distanceUnits }
  | 0x000A => { upd with distToManeuver := whenLong 4 value readBe32 upd.distToManeuver }
  | 0x000B => { upd with distToManeuverString := some (boundedString 64 value) }
  | 0x000C => { upd with distToManeuverUnits := whenLong 1 value readByte upd.distToManeuverUnits }
  | 0x000D => { upd with maneuverList := some ((be16Pairs value).take maxManeuverList) }
  | 0x000E => { upd with maneuverCount := whenLong 2 value readBe16 upd.maneuverCount }
  | 0x000F => { upd with visibleInApp := whenLong 1 value readByte upd.visibleInApp }
  | 0x0010 => { upd with laneGuidanceIndex := whenLong 2 value readBe16 upd.laneGuidanceIndex }
  | 0x0011 => { upd with laneGuidanceTotal := whenLong 2 value readBe16 upd.laneGuidanceTotal }
  | 0x0012 => { upd with laneGuidanceShowing := whenLong 1 value readByte upd.laneGuidanceShowing }
  | 0x0013 => { upd with sourceName := some (boundedLine 64 value) }
  | 0x0014 =>
      { upd with
        sourceSupportsRouteGuidance :=
          whenLong 1 value readByte upd.sourceSupportsRouteGuidance }
  | _ => upd

/-- `rgd_parse_update`. -/
def rgdParseUpdate (frame : List UInt8) : RgdUpdate :=
  (frameTlvs frame).foldl updateTlv {}

def maneuverTlv (man : RgdManeuver) (tlv : Tlv) : RgdManeuver :=
  let value := tlv.value
  match tlv.id with
  | 0x0000 => { man with componentIds := some ((be16Pairs value).take maxComponentList) }
  | 0x0001 => { man with index := whenLong 2 value readBe16 man.index }
  | 0x0002 => { man with description := some (boundedLine 256 value) }
  | 0x0003 => { man with maneuverType := whenLong 1 value readByte man.maneuverType }
  | 0x0004 => { man with afterRoadName := some (boundedLine 256 value) }
  | 0x0005 => { man with distanceBetween := whenLong 4 value readBe32 man.distanceBetween }
  | 0x0006 => { man with distanceString := some (boundedString 64 value) }
  | 0x0007 => { man with distanceUnits := whenLong 1 value readByte man.distanceUnits }
  | 0x0008 => { man with drivingSide := whenLong 1 value readByte man.drivingSide }
  | 0x0009 => { man with junctionType := whenLong 1 value readByte man.junctionType }
  -- One angle per repeated item: the angles accumulate.
  | 0x000A =>
      { man with
        junctionAngles :=
          some ((man.junctionAngles.getD [] ++ (be16Pairs value).map asInt16).take
            maxManeuverList) }
  | 0x000B =>
      { man with exitAngle := whenLong 2 value (fun bytes => asInt16 (readBe16 bytes))
                   man.exitAngle }
  | 0x000C =>
      { man with
        laneGuidanceRawLen := some value.length
        linkedLaneGuidanceIndex := whenLong 2 value readBe16 man.linkedLaneGuidanceIndex }
  | 0x000D =>
      { man with
        exitInfoRawLen := some value.length
        exitInfoStr := some (copyPrintableStringPreview 257 value) }
  | _ => man

/-- `rgd_parse_maneuver`: an indexed maneuver without an exit angle gets the
sentinel 1000. -/
def rgdParseManeuver (frame : List UInt8) : RgdManeuver :=
  let man := (frameTlvs frame).foldl maneuverTlv {}
  if man.index.isSome && man.exitAngle.isNone then { man with exitAngle := some 1000 } else man

def laneGuidanceTlv (lane : RgdLaneGuidance) (tlv : Tlv) : RgdLaneGuidance :=
  let value := tlv.value
  match tlv.id with
  | 0x0000 =>
      let old := lane.componentIds.getD []
      let trailing := if value.length % 2 = 1 then [readBe (value.drop (value.length - 1))] else []
      { lane with
        componentIds := some ((old ++ be16Pairs value ++ trailing).take maxComponentList) }
  | 0x0001 =>
      { lane with laneGuidanceIndex := whenLong 1 value readBe16 lane.laneGuidanceIndex }
  | 0x0002 =>
      let old := lane.laneInformations.getD []
      { lane with
        laneInformations :=
          some (old ++ rgdParseLaneInformationValue value (maxLaneGuidance - old.length)) }
  | 0x0003 => { lane with laneGuidanceDescription := some (boundedString 64 value) }
  | _ => lane

/-- `rgd_parse_lane_guidance`. -/
def rgdParseLaneGuidance (frame : List UInt8) : RgdLaneGuidance :=
  (frameTlvs frame).foldl laneGuidanceTlv {}

end CarplayRgi
