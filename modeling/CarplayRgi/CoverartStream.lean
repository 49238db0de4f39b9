import Mathlib.Data.List.Basic

/-!
# Cover art in the reads of a file descriptor

What is read from a descriptor is searched for packets.  The payload of the
session that has begun an image is collected, and the image is handed over
when its end has come.  Memory is taken to be there when it is asked for.
-/

namespace CarplayRgi

namespace Coverart

def jpegSoi : List UInt8 := [0xFF, 0xD8]

def jpegEoi : List UInt8 := [0xFF, 0xD9]

/-- `my_memmem`: the offset of the first occurrence. -/
def myMemmem (needle : List UInt8) : List UInt8 → Option Nat
  | [] => if needle.isEmpty then some 0 else none
  | byte :: haystack =>
      if needle.isPrefixOf (byte :: haystack) then some 0
      else (myMemmem needle haystack).map (· + 1)

theorem myMemmem_le {needle haystack : List UInt8} {offset : Nat}
    (found : myMemmem needle haystack = some offset) :
    offset + needle.length ≤ haystack.length := by
  induction haystack generalizing offset with
  | nil =>
      rw [myMemmem] at found
      split_ifs at found with empty
      rw [List.isEmpty_iff] at empty
      rw [← Option.some.inj found, empty]
      exact Nat.le_refl _
  | cons byte haystack ih =>
      rw [myMemmem] at found
      split_ifs at found with here
      · rw [← Option.some.inj found, Nat.zero_add]
        exact (List.isPrefixOf_iff_prefix.mp here).length_le
      · obtain ⟨later, foundLater, shifted⟩ := Option.map_eq_some_iff.mp found
        have := ih foundLater
        rw [List.length_cons]
        omega

/-- What comes later does not move the first occurrence. -/
theorem myMemmem_append {needle haystack : List UInt8} {offset : Nat}
    (found : myMemmem needle haystack = some offset) (more : List UInt8) :
    myMemmem needle (haystack ++ more) = some offset := by
  induction haystack generalizing offset with
  | nil =>
      rw [myMemmem] at found
      split_ifs at found with empty
      rw [List.isEmpty_iff] at empty
      subst empty
      rw [← Option.some.inj found]
      cases more with
      | nil | cons => rfl
  | cons byte haystack ih =>
      rw [myMemmem] at found
      rw [List.cons_append, myMemmem]
      split_ifs at found with here
      · have hereToo : needle.isPrefixOf (byte :: (haystack ++ more)) = true :=
          List.isPrefixOf_iff_prefix.mpr
            ((List.isPrefixOf_iff_prefix.mp here).trans (List.prefix_append _ _))
        rw [if_pos hereToo, found]
      · obtain ⟨later, foundLater, shifted⟩ := Option.map_eq_some_iff.mp found
        have notYet : ¬ needle.isPrefixOf (byte :: (haystack ++ more)) = true := by
          intro hereToo
          apply here
          have isPrefix := List.isPrefixOf_iff_prefix.mp hereToo
          have fits := myMemmem_le foundLater
          apply List.isPrefixOf_iff_prefix.mpr
          apply List.prefix_of_prefix_length_le isPrefix (List.prefix_append (byte :: haystack) more)
          rw [List.length_cons]
          omega
        rw [if_neg notYet, ih foundLater, ← shifted]
        rfl

/-- The first image that has begun and ended. -/
def completeImage (jpeg : List UInt8) : Option (List UInt8) :=
  (myMemmem jpegSoi jpeg).bind fun soi =>
    (myMemmem jpegEoi (jpeg.drop soi)).map fun eoi => (jpeg.drop soi).take (eoi + 2)

theorem completeImage_append {jpeg image : List UInt8}
    (complete : completeImage jpeg = some image) (more : List UInt8) :
    completeImage (jpeg ++ more) = some image := by
  obtain ⟨soi, begins, ends⟩ := Option.bind_eq_some_iff.mp complete
  obtain ⟨eoi, found, taken⟩ := Option.map_eq_some_iff.mp ends
  have soiFits : soi ≤ jpeg.length := by
    have := myMemmem_le begins
    omega
  have eoiFits : eoi + 2 ≤ (jpeg.drop soi).length := myMemmem_le found
  unfold completeImage
  rw [myMemmem_append begins more, Option.bind_some, List.drop_append_of_le_length soiFits,
    myMemmem_append found more, Option.map_some, List.take_append_of_le_length eoiFits, taken]

/-- The session that is listened to, and what it has sent of an image. -/
structure Assembly where
  targetSession : Option UInt8
  jpeg : List UInt8
  deriving DecidableEq

def Assembly.idle : Assembly := ⟨none, []⟩

def coverartMaxJpeg : Nat := 32 * 1024 * 1024

/-- The payload, between the header with its wrapper and the trailer. -/
def payload (packet : List UInt8) : List UInt8 :=
  (packet.drop 11).take (packet.length - 12)

def sessionId (packet : List UInt8) : UInt8 :=
  packet.getD 7 0

/-- A session that sends the start of an image is listened to. -/
def lockSession (packet : List UInt8) (assembly : Assembly) : Assembly :=
  if assembly.targetSession = none ∧ (myMemmem jpegSoi (payload packet)).isSome then
    { assembly with targetSession := some (sessionId packet) }
  else assembly

/-- A packet is added, unless the image grows too large. -/
def collect (packet : List UInt8) (assembly : Assembly) : Option Assembly :=
  if 12 < packet.length then
    let locked := lockSession packet assembly
    if locked.targetSession = some (sessionId packet) then
      if coverartMaxJpeg < locked.jpeg.length + (payload packet).length then none
      else some { locked with jpeg := locked.jpeg ++ payload packet }
    else some locked
  else some assembly

def jpegKeepMax : Nat := 10 * 1024 * 1024

/-- A complete image is handed over, and one that has grown too large is
dropped. -/
def extract (assembly : Assembly) : Assembly × Option (List UInt8) :=
  match completeImage assembly.jpeg with
  | some image => (.idle, some image)
  | none => (if jpegKeepMax < assembly.jpeg.length then .idle else assembly, none)

/-- The loop over the buffer: what is left of it, what has been collected, and
whether there has been a packet. -/
structure Parsed where
  rest : List UInt8
  assembly : Assembly
  isCarplay : Bool
  deriving DecidableEq

/-- The packets of a buffer.  The flag tells whether something has been processed
before.  A round takes at least one byte, so that the length of the buffer is fuel
enough. -/
def processPackets : Nat → Bool → Parsed → Parsed
  | 0, _, parsed => parsed
  | fuel + 1, processed, parsed =>
      match parsed.rest with
      | first :: second :: high :: low :: _ =>
          let skipByte := processPackets fuel true { parsed with rest := parsed.rest.drop 1 }
          let packetLen := 256 * high.toNat + low.toNat
          let packet := parsed.rest.take packetLen
          let accept :=
            match collect packet parsed.assembly with
            | none => { parsed with assembly := .idle, isCarplay := true }
            | some assembly =>
                processPackets fuel true
                  { rest := parsed.rest.drop packetLen, assembly, isCarplay := true }
          if first ≠ 0xFF ∨ second ≠ 0x5A then skipByte
          else if packetLen < 4 then skipByte
          else if parsed.rest.length < packetLen then parsed
          else
            match parsed.rest.drop packetLen with
            | next :: afterNext :: _ =>
                if next ≠ 0xFF ∨ afterNext ≠ 0x5A then skipByte else accept
            | _ => if processed then parsed else accept
      | _ => parsed

structure StreamState where
  raw : List UInt8
  rawCap : Nat
  assembly : Assembly
  isCarplayStream : Bool
  probeCalls : Nat
  deriving DecidableEq

def StreamState.fresh : StreamState := ⟨[], 0, .idle, false, 0⟩

def streamBufMax : Nat := 1024 * 1024

def fdProbeLimit : Nat := 64

/-- `while (new_cap < need) new_cap *= 2`, from a capacity above zero. -/
def growCap (need : Nat) : Nat → Nat → Nat
  | 0, cap => cap
  | fuel + 1, cap => if cap < need then growCap need fuel (cap * 2) else cap

/-- The packets and then the image of a buffer.  A descriptor that has shown no
packet often enough loses its stream. -/
def processRaw (st : StreamState) : Option StreamState × Option (List UInt8) :=
  let parsed := processPackets st.raw.length false ⟨st.raw, st.assembly, st.isCarplayStream⟩
  let extracted := extract parsed.assembly
  let probeCalls := if parsed.isCarplay then st.probeCalls else st.probeCalls + 1
  if parsed.isCarplay = false ∧ fdProbeLimit ≤ probeCalls then (none, extracted.2)
  else
    (some
      { raw := parsed.rest
        rawCap := st.rawCap
        assembly := extracted.1
        isCarplayStream := parsed.isCarplay
        probeCalls }, extracted.2)

def handleStreamData (buf : List UInt8) (st : StreamState) :
    Option StreamState × Option (List UInt8) :=
  let need := st.raw.length + buf.length
  if st.rawCap < need then
    let newCap := growCap need need (if st.rawCap = 0 then 65536 else st.rawCap * 2)
    if streamBufMax < newCap then (some { st with raw := [] }, none)
    else processRaw { st with raw := st.raw ++ buf, rawCap := newCap }
  else processRaw { st with raw := st.raw ++ buf }

/-- A descriptor: whether it is skipped, and its stream once it has one. -/
structure FdState where
  skip : Bool
  stream : Option StreamState
  deriving DecidableEq

def FdState.fresh : FdState := ⟨false, none⟩

/-- A read.  A descriptor that is known to carry packets is never skipped. -/
def fdRead (iap2 : Bool) (buf : List UInt8) (fd : FdState) : FdState × Option (List UInt8) :=
  if buf = [] ∨ (iap2 = false ∧ fd.skip = true) then (fd, none)
  else
    let handled := handleStreamData buf (fd.stream.getD .fresh)
    match handled.1 with
    | none => (⟨true, none⟩, handled.2)
    | some st => (⟨fd.skip, some st⟩, handled.2)

/-- The images that are handed to the worker. -/
def handedOver (iap2 : Bool) : FdState → List (List UInt8) → List (List UInt8)
  | _, [] => []
  | fd, read :: reads =>
      (fdRead iap2 read fd).2.toList ++ handedOver iap2 (fdRead iap2 read fd).1 reads

end Coverart

end CarplayRgi
