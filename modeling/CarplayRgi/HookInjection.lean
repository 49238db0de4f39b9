import CarplayRgi.ByteBuffers
import CarplayRgi.HookRegistry
import CarplayRgi.Iap2TlvCodec
import Mathlib.Algebra.GroupWithZero.Nat

/-!
# Injected frames

The hook keeps the link header of a frame that the phone's stack has sent, and
puts it in front of its own frames.  The length in the stored header and its
checksum are patched for the new packet, and the frame is followed by a
checksum of its own.
-/

namespace CarplayRgi

namespace HookInjection

open ByteBuffers Iap2

/-- The sum in a `uint8_t`. -/
def byteSum (bytes : List UInt8) : UInt8 := bytes.foldl (fun sum byte => sum + byte) 0

/-- `iap2_cksum_neg`. -/
def iap2CksumNeg (bytes : List UInt8) : UInt8 := 0 - byteSum bytes

/-- The scan of `iap2_patch_link_header`: the offset of the length field and
its old value.  Only offset 2 ends it. -/
def scanLength (buf : List UInt8) (prefixLen : Nat) : Option (Nat × Nat) :=
  (List.range (prefixLen - 1)).findSome? fun i =>
    if i = 2 ∨ 0 < readBe16 (buf.drop i) then
      if i = 2 then some (i, readBe16 (buf.drop i)) else none
    else none

/-- `iap2_patch_link_header`. -/
def iap2PatchLinkHeader (buf : List UInt8) (prefixLen newTotalLen : Nat) : List UInt8 :=
  if prefixLen < 9 then buf
  else
    match scanLength buf prefixLen with
    | none => buf
    | some (matchOff, oldLen) =>
        if 0 < oldLen then
          let patched := memcpy buf matchOff (writeBe16 newTotalLen)
          memcpy patched (prefixLen - 1) [iap2CksumNeg (patched.take (prefixLen - 1))]
        else buf

/-- `malloc`: a block of the size asked for, with any contents. -/
abbrev Malloc := (size : Nat) → Option { block : List UInt8 // block.length = size }

/-- The injection context: the stored prefix, and whether there is a transport
to send on. -/
structure InjectionContext where
  prefixBuf : Option (List UInt8) := none
  transportSelf : Bool := false
  valid : Bool := false

def maxPrefixLen : Nat := 64

/-- `store_injection_context`. -/
def storeInjectionContext (malloc : Malloc) (transportSelf : Bool) (buf : List UInt8)
    (frameOffset : Nat) : InjectionContext where
  prefixBuf :=
    if 0 < frameOffset ∧ frameOffset ≤ maxPrefixLen then
      (malloc frameOffset).map fun block => memcpy block.1 0 (buf.take frameOffset)
    else none
  transportSelf := transportSelf
  valid := transportSelf

/-- What the injection reads of the framework; `real_transport_send` returns
its result code for the bytes. -/
structure Framework where
  initialized : Bool
  inject : InjectionContext
  realTransportSend : Option (List UInt8 → Int)

/-- The packet in its buffer. -/
def buildPacket (block stored frame : List UInt8) : List UInt8 :=
  let total := stored.length + frame.length + 1
  let out := memcpy block 0 stored
  let out := memcpy out stored.length frame
  let out := memcpy out (stored.length + frame.length) [iap2CksumNeg frame]
  iap2PatchLinkHeader out stored.length total

/-- `hook_inject_frame`: the result, and the bytes given to the transport. -/
def hookInjectFrame (malloc : Malloc) (framework : Framework) (frame : List UInt8) :
    HookResult × Option (List UInt8) :=
  if frame.length < 6 then (.errParam, none)
  else if framework.initialized = false then (.errInit, none)
  else if framework.inject.valid = false ∨ framework.inject.transportSelf = false then
    (.errIo, none)
  else
    match framework.realTransportSend with
    | none => (.errIo, none)
    | some send =>
        let answer (bytes : List UInt8) : HookResult := if send bytes ≠ 0 then .errIo else .ok
        match framework.inject.prefixBuf with
        | some (first :: rest) =>
            let stored := first :: rest
            match malloc (stored.length + frame.length + 1) with
            | none => (.errMemory, none)
            | some block =>
                let out := buildPacket block.1 stored frame
                (answer out, some out)
        | _ => (answer frame, some frame)

/-- The sum of the bytes as a number. -/
def total (bytes : List UInt8) : Nat := (bytes.map UInt8.toNat).sum

theorem total_append (first second : List UInt8) :
    total (first ++ second) = total first + total second := by
  rw [total, List.map_append, List.sum_append]
  rfl

theorem toNat_byteSum (bytes : List UInt8) : (byteSum bytes).toNat = total bytes % 256 := by
  induction bytes using List.reverseRecOn with
  | nil => rfl
  | append_singleton bytes byte ih =>
      have lastSum : byteSum (bytes ++ [byte]) = byteSum bytes + byte := by
        rw [byteSum, List.foldl_append]
        rfl
      have single : total [byte] = byte.toNat := by simp [total]
      rw [lastSum, UInt8.toNat_add, ih, total_append, single, Nat.mod_add_mod]

theorem toNat_iap2CksumNeg (bytes : List UInt8) :
    ((iap2CksumNeg bytes).toNat : Int) = -(total bytes : Int) % 256 := by
  have sum := toNat_byteSum bytes
  rw [iap2CksumNeg, UInt8.toNat_sub]
  simp only [UInt8.toNat_zero]
  omega

/-- A sum together with its negated checksum is zero. -/
theorem total_concat_iap2CksumNeg (bytes : List UInt8) :
    total (bytes ++ [iap2CksumNeg bytes]) % 256 = 0 := by
  have negated := toNat_iap2CksumNeg bytes
  have single : total [iap2CksumNeg bytes] = (iap2CksumNeg bytes).toNat := by simp [total]
  rw [total_append, single]
  omega

/-- The buffer before the header is patched. -/
theorem copied_eq {block stored frame : List UInt8}
    (size : block.length = stored.length + frame.length + 1) :
    memcpy (memcpy (memcpy block 0 stored) stored.length frame) (stored.length + frame.length)
      [iap2CksumNeg frame] = stored ++ (frame ++ [iap2CksumNeg frame]) := by
  have withPrefix : memcpy block 0 stored = stored ++ block.drop stored.length := by
    simp [memcpy]
  have withFrame : memcpy (stored ++ block.drop stored.length) stored.length frame =
      (stored ++ frame) ++ block.drop (stored.length + frame.length) := by
    rw [memcpy_append, List.drop_drop, List.append_assoc]
  have noneLeft : (block.drop (stored.length + frame.length)).drop 1 = [] := by
    rw [List.drop_drop, ← size, List.drop_length]
  have whole := memcpy_append (stored ++ frame) (block.drop (stored.length + frame.length))
    [iap2CksumNeg frame]
  rw [List.length_append, List.length_singleton, noneLeft, List.append_nil] at whole
  rw [withPrefix, withFrame, whole, List.append_assoc]

/-- The scan finds the length field at offset 2. -/
theorem scanLength_eq (buf : List UInt8) {prefixLen : Nat} (long : 9 ≤ prefixLen) :
    scanLength buf prefixLen = some (2, readBe16 (buf.drop 2)) := by
  obtain ⟨further, rfl⟩ := Nat.exists_eq_add_of_le' long
  have positions : List.range (further + 9 - 1) =
      0 :: 1 :: 2 :: (List.range (further + 5)).map (· + 3) := by
    rw [show further + 9 - 1 = 3 + (further + 5) by omega, List.range_add]
    simp [List.range_succ, Nat.add_comm]
  rw [scanLength, positions]
  simp

/-- The bytes of a prefix: two of sync, the length field, and the last one for
the checksum. -/
theorem exists_prefix_bytes {stored : List UInt8} (long : 9 ≤ stored.length) :
    ∃ sync1 sync2 high low middle checksum,
      stored = sync1 :: sync2 :: high :: low :: (middle ++ [checksum]) := by
  match stored, long with
  | sync1 :: sync2 :: high :: low :: next :: rest, _ =>
      exact ⟨sync1, sync2, high, low, (next :: rest).dropLast, (next :: rest).getLast (by simp),
        by rw [List.dropLast_append_getLast]⟩

/-- The prefix with its length and checksum patched. -/
def patchedPrefix (sync1 sync2 : UInt8) (middle : List UInt8) (total : Nat) : List UInt8 :=
  let counted := sync1 :: sync2 :: (writeBe16 total ++ middle)
  counted ++ [iap2CksumNeg counted]

theorem iap2PatchLinkHeader_eq (sync1 sync2 high low checksum : UInt8) (middle rest : List UInt8)
    (long : 4 ≤ middle.length) (newTotalLen : Nat)
    (lengthField : 0 < readBe16 [high, low]) :
    iap2PatchLinkHeader (sync1 :: sync2 :: high :: low :: (middle ++ checksum :: rest))
        (middle.length + 5) newTotalLen =
      patchedPrefix sync1 sync2 middle newTotalLen ++ rest := by
  have oldLen : readBe16 ((sync1 :: sync2 :: high :: low :: (middle ++ checksum :: rest)).drop 2) =
      readBe16 [high, low] := rfl
  rw [iap2PatchLinkHeader, if_neg (by omega), scanLength_eq _ (by omega), oldLen]
  simp only [if_pos lengthField]
  have withLength : memcpy (sync1 :: sync2 :: high :: low :: (middle ++ checksum :: rest)) 2
      (writeBe16 newTotalLen) =
      (sync1 :: sync2 :: (writeBe16 newTotalLen ++ middle)) ++ checksum :: rest := by
    simp [memcpy, writeBe16]
  have counted : middle.length + 5 - 1 =
      (sync1 :: sync2 :: (writeBe16 newTotalLen ++ middle)).length := by
    simp [length_writeBe16]
    omega
  rw [withLength, counted, List.take_left, memcpy_append]
  simp [patchedPrefix]

/-- What a receiver needs of a packet that carries a message behind a stored
prefix. -/
structure LinkPacket (stored message packet : List UInt8) : Prop where
  length : packet.length = stored.length + message.length + 1
  lengthField : readBe16 (packet.drop 2) = packet.length
  headerSum : total (packet.take stored.length) % 256 = 0
  unchanged : ∀ i < stored.length, i ≠ 2 → i ≠ 3 → i ≠ stored.length - 1 →
    packet[i]? = stored[i]?
  messageKept : (packet.drop stored.length).take message.length = message
  trailer : ∃ trailer, packet.drop (stored.length + message.length) = [trailer] ∧
    (trailer.toNat : Int) = -(total message : Int) % 256 ∧
    total (message ++ [trailer]) % 256 = 0

theorem getElem?_patchedPrefix {sync1 sync2 high low checksum : UInt8} {middle : List UInt8}
    (newTotalLen : Nat) {i : Nat} (inside : i < middle.length + 4) (notHigh : i ≠ 2)
    (notLow : i ≠ 3) :
    (patchedPrefix sync1 sync2 middle newTotalLen)[i]? =
      (sync1 :: sync2 :: high :: low :: (middle ++ [checksum]))[i]? := by
  match i, inside, notHigh, notLow with
  | 0, _, _, _ => rfl
  | 1, _, _, _ => rfl
  | position + 4, inside, _, _ =>
      have inMiddle : position < middle.length := by omega
      simp [patchedPrefix, writeBe16, List.getElem?_append_left inMiddle]

theorem linkPacket_patchedPrefix (sync1 sync2 high low checksum : UInt8)
    (middle message : List UInt8) {newTotalLen : Nat}
    (isTotal : newTotalLen = middle.length + 5 + message.length + 1)
    (small : newTotalLen ≤ 65535) :
    LinkPacket (sync1 :: sync2 :: high :: low :: (middle ++ [checksum])) message
      (patchedPrefix sync1 sync2 middle newTotalLen ++ (message ++ [iap2CksumNeg message])) := by
  have storedLength : (sync1 :: sync2 :: high :: low :: (middle ++ [checksum])).length =
      middle.length + 5 := by
    simp
  have patchedLength : (patchedPrefix sync1 sync2 middle newTotalLen).length =
      middle.length + 5 := by
    simp [patchedPrefix, length_writeBe16]
    omega
  have packetLength : (patchedPrefix sync1 sync2 middle newTotalLen ++
      (message ++ [iap2CksumNeg message])).length = newTotalLen := by
    rw [List.length_append, patchedLength, List.length_append, List.length_singleton]
    omega
  have fieldBytes : (patchedPrefix sync1 sync2 middle newTotalLen ++
      (message ++ [iap2CksumNeg message])).drop 2 =
        writeBe16 newTotalLen ++ (middle ++ [iap2CksumNeg (sync1 :: sync2 ::
          (writeBe16 newTotalLen ++ middle))] ++ (message ++ [iap2CksumNeg message])) := by
    simp [patchedPrefix]
  constructor
  · rw [storedLength, packetLength, isTotal]
  · rw [fieldBytes, readBe16_writeBe16, packetLength, Nat.mod_eq_of_lt (by omega)]
  · rw [storedLength, ← patchedLength, List.take_left]
    exact total_concat_iap2CksumNeg _
  · intro i inside notHigh notLow notChecksum
    rw [storedLength] at inside notChecksum
    rw [List.getElem?_append_left (by rw [patchedLength]; exact inside)]
    exact getElem?_patchedPrefix _ (by omega) notHigh notLow
  · rw [storedLength, ← patchedLength, List.drop_left, List.take_left]
  · refine ⟨iap2CksumNeg message, ?_, toNat_iap2CksumNeg message,
      total_concat_iap2CksumNeg message⟩
    rw [storedLength, ← List.drop_drop, ← patchedLength, List.drop_left, List.drop_left]

theorem linkPacket_buildPacket {block stored frame : List UInt8} (long : 9 ≤ stored.length)
    (lengthField : readBe16 (stored.drop 2) ≠ 0)
    (small : stored.length + frame.length + 1 ≤ 65535)
    (size : block.length = stored.length + frame.length + 1) :
    LinkPacket stored frame (buildPacket block stored frame) := by
  obtain ⟨sync1, sync2, high, low, middle, checksum, rfl⟩ := exists_prefix_bytes long
  have storedLength : (sync1 :: sync2 :: high :: low :: (middle ++ [checksum])).length =
      middle.length + 5 := by
    simp
  have patched := iap2PatchLinkHeader_eq sync1 sync2 high low checksum middle
    (frame ++ [iap2CksumNeg frame]) (by omega) (middle.length + 5 + frame.length + 1)
    (Nat.pos_of_ne_zero lengthField)
  have built : buildPacket block (sync1 :: sync2 :: high :: low :: (middle ++ [checksum])) frame =
      patchedPrefix sync1 sync2 middle (middle.length + 5 + frame.length + 1) ++
        (frame ++ [iap2CksumNeg frame]) := by
    rw [← patched]
    simp only [buildPacket]
    rw [copied_eq size, storedLength]
    simp
  rw [built]
  exact linkPacket_patchedPrefix sync1 sync2 high low checksum middle frame rfl (by omega)

/-- Everything that `hook_inject_frame` asks for before it sends behind a
stored prefix. -/
structure CanInject (malloc : Malloc) (framework : Framework) (stored frame : List UInt8) :
    Prop where
  long : 6 ≤ frame.length
  initialized : framework.initialized = true
  valid : framework.inject.valid = true
  transportSelf : framework.inject.transportSelf = true
  sends : framework.realTransportSend ≠ none
  memory : malloc (stored.length + frame.length + 1) ≠ none

/-- With a stored prefix the bytes for the transport are those of
`buildPacket`. -/
theorem hookInjectFrame_packet {malloc : Malloc} {framework : Framework}
    {stored frame packet : List UInt8} (held : framework.inject.prefixBuf = some stored)
    (nonempty : stored ≠ []) (sent : (hookInjectFrame malloc framework frame).2 = some packet) :
    ∃ block : List UInt8, block.length = stored.length + frame.length + 1 ∧
      packet = buildPacket block stored frame := by
  cases stored with
  | nil => exact absurd rfl nonempty
  | cons first rest =>
      simp only [hookInjectFrame, held] at sent
      split_ifs at sent
      cases hasSend : framework.realTransportSend with
      | none => simp [hasSend] at sent
      | some send =>
          simp only [hasSend] at sent
          cases allocated : malloc ((first :: rest).length + frame.length + 1) with
          | none =>
              simp only [allocated] at sent
              exact absurd sent.symm (Option.some_ne_none packet)
          | some block =>
              simp only [allocated, Option.some.injEq] at sent
              exact ⟨block.1, block.2, sent.symm⟩

theorem hookInjectFrame_isSome {malloc : Malloc} {framework : Framework}
    {stored frame : List UInt8} (held : framework.inject.prefixBuf = some stored)
    (nonempty : stored ≠ []) (can : CanInject malloc framework stored frame) :
    (hookInjectFrame malloc framework frame).2 ≠ none := by
  obtain ⟨long, initialized, valid, transportSelf, sends, memory⟩ := can
  cases stored with
  | nil => exact absurd rfl nonempty
  | cons first rest =>
      cases hasSend : framework.realTransportSend with
      | none => exact absurd hasSend sends
      | some send =>
          cases allocated : malloc ((first :: rest).length + frame.length + 1) with
          | none => exact absurd allocated memory
          | some block =>
              simp only [List.length_cons] at allocated
              simp [hookInjectFrame, held, hasSend, allocated, initialized, valid, transportSelf,
                Nat.not_lt.mpr long]

/-- A packet behind a stored prefix carries the message, with a length field, a
header checksum and a trailer that a receiver accepts; and it is sent whenever
the injection gets through its checks. -/
theorem injected_packet_accepted (malloc : Malloc) {framework : Framework} {stored : List UInt8}
    (held : framework.inject.prefixBuf = some stored) (long : 9 ≤ stored.length)
    (lengthField : readBe16 (stored.drop 2) ≠ 0) (message : List UInt8)
    (small : stored.length + message.length + 1 ≤ 65535) :
    (∀ packet, (hookInjectFrame malloc framework message).2 = some packet →
        LinkPacket stored message packet) ∧
      (CanInject malloc framework stored message →
        (hookInjectFrame malloc framework message).2 ≠ none) := by
  have nonempty : stored ≠ [] := List.ne_nil_of_length_pos (by omega)
  constructor
  · intro packet sent
    obtain ⟨block, size, rfl⟩ := hookInjectFrame_packet held nonempty sent
    exact linkPacket_buildPacket long lengthField small size
  · exact hookInjectFrame_isSome held nonempty

/-- Blocks of zeros. -/
def zeroedMalloc : Malloc := fun size => some ⟨List.replicate size 0, List.length_replicate⟩

/-- The framework after it has seen a packet with a link header of nine bytes. -/
def listening : Framework where
  initialized := true
  inject := storeInjectionContext zeroedMalloc true
    [0xFF, 0x5A, 0x00, 0x10, 0x40, 0x01, 0x02, 0x0A, 0x4A, 0x40, 0x40, 0x00, 0x06, 0x52, 0x02, 0x26]
    9
  realTransportSend := some fun _ => 0

theorem stop_message_accepted :
    ∃ packet, (hookInjectFrame zeroedMalloc listening [0x40, 0x40, 0, 6, 0x52, 3]).2 = some packet ∧
      LinkPacket [0xFF, 0x5A, 0x00, 0x10, 0x40, 0x01, 0x02, 0x0A, 0x4A]
        [0x40, 0x40, 0, 6, 0x52, 3] packet := by
  obtain ⟨accepted, isSent⟩ := injected_packet_accepted zeroedMalloc
    (show listening.inject.prefixBuf =
      some [0xFF, 0x5A, 0x00, 0x10, 0x40, 0x01, 0x02, 0x0A, 0x4A] by decide)
    (by decide) (by decide) [0x40, 0x40, 0, 6, 0x52, 3] (by decide)
  obtain ⟨packet, sent⟩ := Option.ne_none_iff_exists'.mp
    (isSent ⟨by decide, rfl, rfl, rfl, Option.some_ne_none _, Option.some_ne_none _⟩)
  exact ⟨packet, sent, accepted packet sent⟩

end HookInjection

end CarplayRgi
