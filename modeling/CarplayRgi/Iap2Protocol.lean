import CarplayRgi.RgdTlv

/-!
# iAP2 frames and their items

A frame is a six-byte header and a sequence of items, each with a 16-bit
length that counts its own header.  The functions that build frames return the
bytes that they write.  Pointers into a buffer are offsets, and a value of no
bytes is a null pointer.
-/

namespace CarplayRgi

namespace Iap2

def writeBe16 (value : Nat) : List UInt8 :=
  [UInt8.ofNat (value / 256), UInt8.ofNat value]

/-- `iap2_build_tlv`; nothing is written where it returns 0. -/
def iap2BuildTlv (outMax tlvId : Nat) (value : List UInt8) : Option (List UInt8) :=
  if outMax < 4 + value.length then none
  else some (writeBe16 (4 + value.length) ++ (writeBe16 tlvId ++ value))

/-- `iap2_build_frame`. -/
def iap2BuildFrame (outMax msgid : Nat) (payload : List UInt8) : Option (List UInt8) :=
  if outMax < 6 + payload.length then none
  else some (0x40 :: 0x40 :: (writeBe16 (6 + payload.length) ++ (writeBe16 msgid ++ payload)))

/-- An item that a parser yields: the offset of its value, if it has one, and
the length of the value. -/
structure Iap2Tlv where
  id : Nat
  len : Nat
  value : Option Nat
  valueLen : Nat

namespace Iap2Tlv

/-- The item at an offset, whose length has been checked. -/
def atOffset (buf : List UInt8) (off : Nat) : Iap2Tlv where
  id := readBe16 (buf.drop (off + 2))
  len := readBe16 (buf.drop off)
  value := if 4 < readBe16 (buf.drop off) then some (off + 4) else none
  valueLen := readBe16 (buf.drop off) - 4

/-- The bytes of the value. -/
def bytes (buf : List UInt8) (tlv : Iap2Tlv) : List UInt8 :=
  match tlv.value with
  | none => []
  | some off => (buf.drop off).take tlv.valueLen

/-- The item with its bytes. -/
def read (buf : List UInt8) (tlv : Iap2Tlv) : Tlv := ⟨tlv.id, tlv.bytes buf⟩

/-- The value lies in the buffer. -/
def Inside (buf : List UInt8) (tlv : Iap2Tlv) : Prop :=
  ∀ off ∈ tlv.value, off + tlv.valueLen ≤ buf.length

end Iap2Tlv

/-- `iap2_parse_tlv` at an offset, with the number of bytes from there on. -/
def iap2ParseTlv (buf : List UInt8) (off len : Nat) : Option Iap2Tlv :=
  if len < 4 then none
  else if readBe16 (buf.drop off) < 4 ∨ len < readBe16 (buf.drop off) then none
  else some (Iap2Tlv.atOffset buf off)

structure Iap2TlvIter where
  data : List UInt8
  offset : Nat

/-- `iap2_tlv_iter_init`: the header is skipped. -/
def iap2TlvIterInit (frame : List UInt8) : Iap2TlvIter :=
  if 6 < frame.length then ⟨frame.drop 6, 0⟩ else ⟨[], 0⟩

/-- `iap2_tlv_iter_next`. -/
def iap2TlvIterNext (iter : Iap2TlvIter) : Option (Iap2Tlv × Iap2TlvIter) :=
  if iter.data.length < iter.offset + 4 then none
  else
    (iap2ParseTlv iter.data iter.offset (iter.data.length - iter.offset)).map fun tlv =>
      (tlv, { iter with offset := iter.offset + tlv.len })

/-- What the calls of `iap2_tlv_iter_next` yield until it returns false. -/
inductive Iterates : Iap2TlvIter → List Iap2Tlv → Prop
  | ends {iter : Iap2TlvIter} : iap2TlvIterNext iter = none → Iterates iter []
  | yields {iter later : Iap2TlvIter} {tlv : Iap2Tlv} {rest : List Iap2Tlv} :
      iap2TlvIterNext iter = some (tlv, later) → Iterates later rest → Iterates iter (tlv :: rest)

/-- The loop that `iap2_find_tlv` and `iap2_find_tlv_offset` have in common.  It
returns the offset of the item; every round passes at least four bytes. -/
def findTlvFrom (payload : List UInt8) (tlvId : Nat) : Nat → Nat → Option Nat
  | 0, _ => none
  | fuel + 1, off =>
      if payload.length < off + 4 then none
      else
        let tlen := readBe16 (payload.drop off)
        if tlen < 4 ∨ payload.length < off + tlen then none
        else if readBe16 (payload.drop (off + 2)) = tlvId then some off
        else findTlvFrom payload tlvId fuel (off + tlen)

/-- `iap2_find_tlv`. -/
def iap2FindTlv (payload : List UInt8) (tlvId : Nat) : Option Iap2Tlv :=
  if payload.length < 4 then none
  else (findTlvFrom payload tlvId payload.length 0).map (Iap2Tlv.atOffset payload)

/-- `iap2_find_tlv_offset`: the offset, and what is written to `out_len`. -/
def iap2FindTlvOffset (payload : List UInt8) (tlvId : Nat) : Nat × Option Nat :=
  if payload.length < 4 then (0, none)
  else
    match findTlvFrom payload tlvId payload.length 0 with
    | none => (0, none)
    | some off => (off, some (readBe16 (payload.drop off)))

structure Iap2Frame where
  offset : Nat
  frameLen : Nat
  msgid : Nat
  payload : Option Nat
  payloadLen : Nat
  deriving DecidableEq

/-- The sync and length tests at an offset. -/
def framePasses (buf : List UInt8) (i : Nat) : Bool :=
  let flen := readBe16 (buf.drop (i + 2))
  decide (buf[i]? = some 0x40) && decide (buf[i + 1]? = some 0x40) && decide (6 ≤ flen) &&
    decide (i + flen ≤ buf.length)

def frameAt (buf : List UInt8) (i : Nat) : Iap2Frame :=
  let flen := readBe16 (buf.drop (i + 2))
  { offset := i
    frameLen := flen
    msgid := readBe16 (buf.drop (i + 4))
    payload := if 6 < flen then some (i + 6) else none
    payloadLen := if 6 < flen then flen - 6 else 0 }

/-- `iap2_find_frame_at`. -/
def iap2FindFrameAt (buf : List UInt8) (startOff : Nat) : Option Iap2Frame :=
  if buf.length < 6 then none
  else (((List.range (buf.length - 5)).drop startOff).find? (framePasses buf)).map (frameAt buf)

/-- `iap2_find_frame`. -/
def iap2FindFrame (buf : List UInt8) : Option Iap2Frame := iap2FindFrameAt buf 0

namespace Iap2Frame

/-- The bytes of a frame that has been found. -/
def bytes (buf : List UInt8) (frame : Iap2Frame) : List UInt8 :=
  (buf.drop frame.offset).take frame.frameLen

def payloadBytes (buf : List UInt8) (frame : Iap2Frame) : List UInt8 :=
  match frame.payload with
  | none => []
  | some off => (buf.drop off).take frame.payloadLen

end Iap2Frame

end Iap2

end CarplayRgi
