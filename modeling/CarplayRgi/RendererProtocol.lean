import CarplayRgi.DecimalText
import CarplayRgi.RendererMapper
import Mathlib.Tactic.IntervalCases

/-!
# Commands for the renderer

A maneuver goes to the renderer as a packet of 48 bytes: a command, flags, and
a payload with bytes, signed 16-bit numbers and a list of angles.  The sender
and the reader are written in two languages, and a third function takes the
direction of a roundabout from what is read.
-/

namespace CarplayRgi

open DecimalText ManeuverMapper

def rendererPktSize : Nat := 48

abbrev RendererPacket := Fin rendererPktSize → UInt8

/-- A cast to a byte. -/
def lowByte (number : Int) : UInt8 :=
  UInt8.ofNat (number % 256).toNat

-- Comparing two of these by their definitions would count down from the moduli.
/-- A cast of a byte to a signed number. -/
@[irreducible]
def signedByte (byte : UInt8) : Int :=
  Int.bmod byte.toNat 256

/-- A cast of two bytes to a signed number. -/
@[irreducible]
def signedBe16 (high low : UInt8) : Int :=
  Int.bmod (256 * high.toNat + low.toNat) 65536

namespace RendererPacket

def zero : RendererPacket := fun _ => 0

def put (offset : Nat) (byte : UInt8) (pkt : RendererPacket) : RendererPacket := fun index =>
  if index.val = offset then byte else pkt index

def putBe16 (offset : Nat) (number : Int) (pkt : RendererPacket) : RendererPacket :=
  (pkt.put offset (lowByte (number / 256))).put (offset + 1) (lowByte number)

/-- The byte at an offset of the packet. -/
def byteAt (pkt : RendererPacket) (offset : Nat) : UInt8 :=
  if inside : offset < rendererPktSize then pkt ⟨offset, inside⟩ else 0

/-- The angles from an offset on, as long as they fit. -/
def putAngles : Nat → List Int → RendererPacket → RendererPacket
  | _, [], pkt => pkt
  | offset, angle :: angles, pkt =>
      if rendererPktSize ≤ offset + 1 then pkt
      else putAngles (offset + 2) angles (pkt.putBe16 offset angle)

def payload (pkt : RendererPacket) (index : Nat) : UInt8 :=
  pkt.byteAt (index + 2)

end RendererPacket

def cmdManeuver : UInt8 := 0x01
def cmdPreloadManeuver : UInt8 := 0x07

def manFlagSetPersp : UInt8 := 0x01
def manFlagBargraph : UInt8 := 0x02

/-- `MAX_JUNCTION_ANGLES`. -/
def maxJunctionAngles : Nat := 18

open RendererPacket in
def sendManeuverCommand (command : UInt8) (icon direction exitAngle drivingSide : Int)
    (junctionAngles : Option (List Int)) (bargraphLevel bargraphMode perspective : Int) :
    RendererPacket :=
  let flags : UInt8 :=
    (if 0 < bargraphMode then manFlagBargraph else 0) |||
      (if 0 ≤ perspective then manFlagSetPersp else 0)
  let angles := (junctionAngles.getD []).take maxJunctionAngles
  let header := (((((zero.put 0 command).put 1 flags).put 2 (lowByte icon)).put 3
    (lowByte direction)).putBe16 4 exitAngle).put 6 (lowByte drivingSide)
  let listed := putAngles 8 angles (header.put 7 (lowByte angles.length))
  let viewed := if 0 ≤ perspective then listed.put 45 (lowByte perspective) else listed
  if 0 < bargraphMode then
    (viewed.put 46 (lowByte bargraphLevel)).put 47 (lowByte bargraphMode)
  else viewed

/-- `maneuver_state_t`, with as many junction angles as it counts. -/
structure ManeuverState where
  icon : Int
  exitAngle : Int
  direction : Int
  drivingSide : Int
  junctionAngles : List Int
  deriving DecidableEq

def decodeManeuver (pkt : RendererPacket) : ManeuverState where
  icon := (pkt.payload 0).toNat
  direction := signedByte (pkt.payload 1)
  exitAngle := signedBe16 (pkt.payload 2) (pkt.payload 3)
  drivingSide := (pkt.payload 4).toNat
  junctionAngles :=
    (List.range (min (pkt.payload 5).toNat maxJunctionAngles)).map fun index =>
      signedBe16 (pkt.payload (6 + 2 * index)) (pkt.payload (7 + 2 * index))

section Fields

variable (pkt : RendererPacket)

theorem decodeManeuver_icon : (decodeManeuver pkt).icon = (pkt.payload 0).toNat :=
  rfl

theorem decodeManeuver_direction : (decodeManeuver pkt).direction = signedByte (pkt.payload 1) :=
  rfl

theorem decodeManeuver_exitAngle :
    (decodeManeuver pkt).exitAngle = signedBe16 (pkt.payload 2) (pkt.payload 3) :=
  rfl

theorem decodeManeuver_drivingSide : (decodeManeuver pkt).drivingSide = (pkt.payload 4).toNat :=
  rfl

end Fields

/-- The first of the angles, a turn apart, that lies above another. -/
def turnAbove (start finish : Int) : Int :=
  if finish ≤ start then turnAbove start (finish + 360) else finish
termination_by (start + 1 - finish).toNat
decreasing_by omega

def turnBelow (start finish : Int) : Int :=
  if start ≤ finish then turnBelow start (finish - 360) else finish
termination_by (finish + 1 - start).toNat
decreasing_by omega

/-- `roundabout_arc_range`, in whole degrees: both angles are, and an arc below
0.01 radians is one of less than a degree. -/
def roundaboutArcRange (entry exit drivingSide : Int) : Int × Int :=
  if drivingSide = 0 then
    let finish := turnAbove entry exit
    (entry, if finish - entry < 1 then finish + 360 else finish)
  else
    let finish := turnBelow entry exit
    (entry, if entry - finish < 1 then finish - 360 else finish)

theorem lt_turnAbove (start finish : Int) : start < turnAbove start finish := by
  fun_induction turnAbove start finish with
  | case1 finish below ih => exact ih
  | case2 finish above => omega

theorem turnBelow_lt (start finish : Int) : turnBelow start finish < start := by
  fun_induction turnBelow start finish with
  | case1 finish above ih => exact ih
  | case2 finish below => omega

/-- Traffic on the right goes around counterclockwise. -/
theorem arcRange_counterclockwise (entry exit : Int) :
    (roundaboutArcRange entry exit 0).1 < (roundaboutArcRange entry exit 0).2 := by
  have above := lt_turnAbove entry exit
  simp only [roundaboutArcRange, if_true]
  split_ifs
  · omega
  · exact above

theorem arcRange_clockwise (entry exit : Int) {drivingSide : Int} (other : drivingSide ≠ 0) :
    (roundaboutArcRange entry exit drivingSide).2 <
      (roundaboutArcRange entry exit drivingSide).1 := by
  have below := turnBelow_lt entry exit
  simp only [roundaboutArcRange, if_neg other]
  split_ifs
  · omega
  · exact below

theorem toNat_lowByte (number : Int) : ((lowByte number).toNat : Int) = number % 256 := by
  have nonneg : 0 ≤ number % 256 := Int.emod_nonneg number (by omega)
  have small : number % 256 < 256 := Int.emod_lt_of_pos number (by omega)
  rw [lowByte, UInt8.toNat_ofNat', Nat.mod_eq_of_lt (by omega)]
  omega

theorem toNat_lowByte_of_small {number : Nat} (small : number < 256) :
    (lowByte number).toNat = number := by
  have read := toNat_lowByte number
  omega

theorem signedByte_lowByte {number : Int} (fits : Fits 8 number) :
    signedByte (lowByte number) = number := by
  obtain ⟨low, high⟩ := fits
  have wrapped : signedByte (lowByte number) = Int.bmod number 256 := by
    unfold signedByte
    rw [toNat_lowByte]
    exact Int.emod_bmod number 256
  rw [wrapped]
  exact Int.bmod_eq_of_le_mul_two (by omega) (by omega)

theorem signedBe16_bytes {number : Int} (fits : Fits 16 number) :
    signedBe16 (lowByte (number / 256)) (lowByte number) = number := by
  obtain ⟨low, high⟩ := fits
  have joined : 256 * (number / 256 % 256) + number % 256 = number % 65536 := by omega
  have wrapped : signedBe16 (lowByte (number / 256)) (lowByte number) =
      Int.bmod number 65536 := by
    unfold signedBe16
    rw [toNat_lowByte, toNat_lowByte, joined]
    exact Int.emod_bmod number 65536
  rw [wrapped]
  exact Int.bmod_eq_of_le_mul_two (by omega) (by omega)

namespace RendererPacket

variable (pkt : RendererPacket)

theorem byteAt_put_same {offset : Nat} (inside : offset < rendererPktSize) (byte : UInt8) :
    (pkt.put offset byte).byteAt offset = byte := by
  rw [byteAt, dif_pos inside, put, if_pos rfl]

theorem byteAt_put_other {offset other : Nat} (differ : other ≠ offset) (byte : UInt8) :
    (pkt.put offset byte).byteAt other = pkt.byteAt other := by
  unfold byteAt
  split_ifs with inside
  · exact if_neg differ
  · rfl

theorem byteAt_putBe16_other {offset other : Nat} (before : other ≠ offset)
    (after : other ≠ offset + 1) (number : Int) :
    (pkt.putBe16 offset number).byteAt other = pkt.byteAt other := by
  rw [putBe16, byteAt_put_other _ after, byteAt_put_other _ before]

theorem byteAt_putAngles_before {offset other : Nat} (before : other < offset)
    (angles : List Int) : (putAngles offset angles pkt).byteAt other = pkt.byteAt other := by
  induction angles generalizing offset pkt with
  | nil => rfl
  | cons angle angles ih =>
      rw [putAngles]
      split_ifs
      · rfl
      · rw [ih _ (by omega), byteAt_putBe16_other pkt (by omega) (by omega)]

/-- The number in two bytes. -/
def be16At (offset : Nat) : Int :=
  signedBe16 (pkt.byteAt offset) (pkt.byteAt (offset + 1))

theorem be16At_putBe16 {offset : Nat} (inside : offset + 1 < rendererPktSize) {number : Int}
    (fits : Fits 16 number) : (pkt.putBe16 offset number).be16At offset = number := by
  rw [be16At, putBe16, byteAt_put_same _ inside, byteAt_put_other _ (by omega),
    byteAt_put_same _ (by omega), signedBe16_bytes fits]

/-- Every angle of the list is where it has been put. -/
theorem map_be16At_putAngles {offset : Nat} {angles : List Int}
    (inside : offset + 2 * angles.length ≤ rendererPktSize)
    (fits : ∀ angle ∈ angles, Fits 16 angle) :
    (List.range angles.length).map
      (fun index => (putAngles offset angles pkt).be16At (offset + 2 * index)) = angles := by
  induction angles generalizing offset pkt with
  | nil => rfl
  | cons angle angles ih =>
      rw [List.length_cons] at inside
      rw [putAngles, if_neg (by omega), List.length_cons, List.range_succ_eq_map, List.map_cons,
        List.map_map]
      refine List.cons_eq_cons.mpr ⟨?_, ?_⟩
      · have high := byteAt_putAngles_before (pkt.putBe16 offset angle)
          (show offset < offset + 2 by omega) angles
        have low := byteAt_putAngles_before (pkt.putBe16 offset angle)
          (show offset + 1 < offset + 2 by omega) angles
        have head := be16At_putBe16 pkt (show offset + 1 < rendererPktSize by omega)
          (fits angle List.mem_cons_self)
        rw [Nat.mul_zero, Nat.add_zero]
        exact (congrArg₂ signedBe16 high low).trans head
      · have later : (List.range angles.length).map (fun index =>
            (putAngles (offset + 2) angles (pkt.putBe16 offset angle)).be16At
              (offset + 2 + 2 * index)) = angles :=
          ih _ (by omega) fun other member => fits other (List.mem_cons_of_mem angle member)
        refine Eq.trans (List.map_congr_left fun index _ => ?_) later
        have moved : offset + 2 * (index + 1) = offset + 2 + 2 * index := by omega
        rewrite [Function.comp_apply, Nat.succ_eq_add_one, moved]
        rfl

end RendererPacket

/-- What the sender is called with. -/
structure ManeuverArguments where
  icon : Int
  direction : Int
  exitAngle : Int
  drivingSide : Int
  junctionAngles : Option (List Int)
  bargraphLevel : Int
  bargraphMode : Int
  perspective : Int
  iconRange : 0 ≤ icon ∧ icon ≤ 7
  directionRange : -1 ≤ direction ∧ direction ≤ 1
  exitAngleFits : Fits 16 exitAngle
  drivingSideRange : -1 ≤ drivingSide ∧ drivingSide ≤ 1
  angleCount : (junctionAngles.getD []).length ≤ maxJunctionAngles
  anglesFit : ∀ angle ∈ junctionAngles.getD [], Fits 16 angle

namespace ManeuverArguments

open RendererPacket

variable (command : UInt8) (man : ManeuverArguments)

def angles : List Int := man.junctionAngles.getD []

def packet : RendererPacket :=
  sendManeuverCommand command man.icon man.direction man.exitAngle man.drivingSide
    man.junctionAngles man.bargraphLevel man.bargraphMode man.perspective

/-- The flags of what else comes with the maneuver. -/
def flags : UInt8 :=
  (if 0 < man.bargraphMode then manFlagBargraph else 0) |||
    (if 0 ≤ man.perspective then manFlagSetPersp else 0)

def headed : RendererPacket :=
  ((((((zero.put 0 command).put 1 man.flags).put 2 (lowByte man.icon)).put 3
    (lowByte man.direction)).putBe16 4 man.exitAngle).put 6 (lowByte man.drivingSide)).put 7
    (lowByte man.angles.length)

theorem take_angles : (man.junctionAngles.getD []).take maxJunctionAngles = man.angles :=
  List.take_of_length_le man.angleCount

/-- The packet with its angles, and with the perspective. -/
def listed : RendererPacket := putAngles 8 man.angles (man.headed command)

def viewed : RendererPacket :=
  if 0 ≤ man.perspective then (man.listed command).put 45 (lowByte man.perspective)
  else man.listed command

theorem packet_eq :
    man.packet command =
      if 0 < man.bargraphMode then
        ((man.viewed command).put 46 (lowByte man.bargraphLevel)).put 47 (lowByte man.bargraphMode)
      else man.viewed command := by
  unfold packet sendManeuverCommand
  rw [take_angles]
  rfl

/-- What comes after the angles does not reach into them. -/
theorem byteAt_packet {offset : Nat} (before : offset < 45) :
    (man.packet command).byteAt offset = (man.listed command).byteAt offset := by
  have seen : (man.viewed command).byteAt offset = (man.listed command).byteAt offset := by
    unfold viewed
    split_ifs
    · exact byteAt_put_other _ (show offset ≠ 45 by omega) _
    · rfl
  rw [packet_eq]
  split_ifs
  · rw [byteAt_put_other _ (show offset ≠ 47 by omega),
      byteAt_put_other _ (show offset ≠ 46 by omega), seen]
  · exact seen

theorem byteAt_header {offset : Nat} (before : offset < 8) :
    (man.packet command).byteAt offset = (man.headed command).byteAt offset := by
  rw [byteAt_packet command man (by omega)]
  exact byteAt_putAngles_before _ before man.angles

theorem be16At_angles :
    (List.range man.angles.length).map
      (fun index => (man.packet command).be16At (8 + 2 * index)) = man.angles := by
  have count : man.angles.length ≤ maxJunctionAngles := man.angleCount
  refine Eq.trans (List.map_congr_left fun index member => ?_)
    (map_be16At_putAngles (man.headed command) (show 8 + 2 * man.angles.length ≤ 48 by
      rw [maxJunctionAngles] at count
      omega) man.anglesFit)
  have inside := List.mem_range.mp member
  rw [maxJunctionAngles] at count
  unfold be16At
  rw [byteAt_packet command man (by omega), byteAt_packet command man (by omega)]
  rfl

/-- The fields before the angles. -/
theorem payload_header :
    (man.packet command).payload 0 = lowByte man.icon ∧
      (man.packet command).payload 1 = lowByte man.direction ∧
      (man.packet command).payload 2 = lowByte (man.exitAngle / 256) ∧
      (man.packet command).payload 3 = lowByte man.exitAngle ∧
      (man.packet command).payload 4 = lowByte man.drivingSide ∧
      (man.packet command).payload 5 = lowByte man.angles.length := by
  simp only [payload, byteAt_header command man (show 0 + 2 < 8 by decide),
    byteAt_header command man (show 1 + 2 < 8 by decide),
    byteAt_header command man (show 2 + 2 < 8 by decide),
    byteAt_header command man (show 3 + 2 < 8 by decide),
    byteAt_header command man (show 4 + 2 < 8 by decide),
    byteAt_header command man (show 5 + 2 < 8 by decide)]
  exact ⟨rfl, rfl, rfl, rfl, rfl, rfl⟩

theorem decoded_icon : (decodeManeuver (man.packet command)).icon = man.icon := by
  have range := man.iconRange
  have byte := toNat_lowByte man.icon
  rw [decodeManeuver_icon, (payload_header command man).1]
  omega

theorem decoded_direction : (decodeManeuver (man.packet command)).direction = man.direction := by
  obtain ⟨low, high⟩ := man.directionRange
  rw [decodeManeuver_direction, (payload_header command man).2.1]
  exact signedByte_lowByte ⟨by omega, by omega⟩

theorem decoded_exitAngle : (decodeManeuver (man.packet command)).exitAngle = man.exitAngle := by
  obtain ⟨-, -, high, low, -, -⟩ := payload_header command man
  rw [decodeManeuver_exitAngle, high, low]
  exact signedBe16_bytes man.exitAngleFits

/-- A side that is not known comes out as 255. -/
theorem decoded_drivingSide :
    (decodeManeuver (man.packet command)).drivingSide = man.drivingSide % 256 := by
  rw [decodeManeuver_drivingSide, (payload_header command man).2.2.2.2.1]
  exact toNat_lowByte man.drivingSide

theorem decoded_junctionAngles :
    (decodeManeuver (man.packet command)).junctionAngles = man.angles := by
  have count : man.angles.length ≤ maxJunctionAngles := man.angleCount
  have counted : min ((man.packet command).payload 5).toNat maxJunctionAngles =
      man.angles.length := by
    rw [(payload_header command man).2.2.2.2.2, toNat_lowByte_of_small (by
      rw [maxJunctionAngles] at count
      omega), min_eq_left count]
  unfold decodeManeuver
  dsimp only
  rw [counted]
  refine Eq.trans (List.map_congr_left fun index _ => ?_) (be16At_angles command man)
  unfold be16At payload
  have high : 6 + 2 * index + 2 = 8 + 2 * index := by omega
  have low : 7 + 2 * index + 2 = 8 + 2 * index + 1 := by omega
  rw [high, low]

/-- What is sent is read back, with traffic on the right for a side that is not
known, and a roundabout goes around as the other display shows it. -/
structure RoundTrips : Prop where
  icon : (decodeManeuver (man.packet command)).icon = man.icon
  direction : (decodeManeuver (man.packet command)).direction = man.direction
  exitAngle : (decodeManeuver (man.packet command)).exitAngle = man.exitAngle
  junctionAngles : (decodeManeuver (man.packet command)).junctionAngles = man.angles
  drivingSide : (decodeManeuver (man.packet command)).drivingSide =
    if man.drivingSide = -1 then 0 else man.drivingSide
  circulates : ∀ mt turnAngle entry exit, isRoundaboutExit mt = true →
    let shown := (map mt turnAngle junctionRoundabout man.drivingSide).1
    let arc := roundaboutArcRange entry exit (decodeManeuver (man.packet command)).drivingSide
    (shown = roundaboutTrsRight → arc.1 < arc.2) ∧ (shown = roundaboutTrsLeft → arc.2 < arc.1)

theorem map_roundaboutExit {mt : Int} (isExit : isRoundaboutExit mt = true)
    (turnAngle drivingSide : Int) :
    (map mt turnAngle junctionRoundabout drivingSide).1 =
      if drivingSide = drivingSideLeft then roundaboutTrsLeft else roundaboutTrsRight := by
  have range : 28 ≤ mt ∧ mt ≤ 46 := of_decide_eq_true isExit
  have notGlobal : mapGlobal mt turnAngle drivingSide = none := by
    obtain ⟨low, high⟩ := range
    interval_cases mt
    all_goals rfl
  have notExit : mt ≠ mtExitRoundabout := by
    rw [mtExitRoundabout]
    omega
  rw [map, notGlobal]
  dsimp only
  rw [if_pos (by decide), if_neg (by decide), mapRoundabout, if_neg notExit, if_pos isExit]

/-- A maneuver comes through if and only if its driving side is known. -/
theorem round_trips_iff : RoundTrips command man ↔ man.drivingSide ≠ -1 := by
  obtain ⟨low, high⟩ := man.drivingSideRange
  have side := decoded_drivingSide command man
  constructor
  · intro comes unknown
    have read := comes.drivingSide
    rw [side, unknown, if_pos rfl] at read
    exact absurd read (by decide)
  · intro known
    have kept : (decodeManeuver (man.packet command)).drivingSide = man.drivingSide := by
      rw [side]
      omega
    refine ⟨decoded_icon command man, decoded_direction command man, decoded_exitAngle command man,
      decoded_junctionAngles command man, by rw [kept, if_neg known], ?_⟩
    intro mt turnAngle entry exit isExit
    dsimp only
    rw [kept, map_roundaboutExit isExit]
    by_cases onLeft : man.drivingSide = drivingSideLeft
    · rw [if_pos onLeft]
      refine ⟨fun other => absurd other (by decide), fun _ => ?_⟩
      exact arcRange_clockwise entry exit (by rw [onLeft]; decide)
    · rw [if_neg onLeft]
      have onRight : man.drivingSide = 0 := by
        rw [drivingSideLeft] at onLeft
        omega
      rw [onRight]
      exact ⟨fun _ => arcRange_counterclockwise entry exit, fun other => absurd other (by decide)⟩

/-- The first exit of a roundabout, from a state without a driving side. -/
def sideless : ManeuverArguments where
  icon := RendererMapper.iconRoundabout
  direction := 0
  exitAngle := 90
  drivingSide := -1
  junctionAngles := none
  bargraphLevel := 0
  bargraphMode := 0
  perspective := 1
  iconRange := by decide
  directionRange := by decide
  exitAngleFits := by decide
  drivingSideRange := by decide
  angleCount := by decide
  anglesFit := by decide

theorem sideless_does_not_come_through : ¬ ∀ command man, RoundTrips command man := by
  intro comes
  have read := (comes cmdManeuver sideless).drivingSide
  rw [decoded_drivingSide] at read
  exact absurd read (by decide)

end ManeuverArguments

end CarplayRgi
