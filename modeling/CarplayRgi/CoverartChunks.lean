import CarplayRgi.CoverartStream

/-!
# Cover art however the stream is cut

A stream of packets is read in pieces.  The last packet that has come waits for
the beginning of the next one, unless it is the first of its read, and a read
hands over at most one image.  This file compares the images with those of one
packet a read.
-/

namespace CarplayRgi

namespace Coverart

/-- A packet, by what stands behind its header. -/
structure IapPacket where
  body : List UInt8
  short : body.length + 4 < 65536

namespace IapPacket

variable (packet : IapPacket)

def size : Nat := packet.body.length + 4

def bytes : List UInt8 :=
  0xFF :: 0x5A :: UInt8.ofNat (packet.size / 256) :: UInt8.ofNat packet.size :: packet.body

theorem bytes_length : packet.bytes.length = packet.size :=
  rfl

theorem packetLen_bytes :
    256 * (UInt8.ofNat (packet.size / 256)).toNat + (UInt8.ofNat packet.size).toNat =
      packet.size := by
  have short : packet.size < 65536 := packet.short
  rw [UInt8.toNat_ofNat', UInt8.toNat_ofNat']
  omega

end IapPacket

/-- The bytes of a stream. -/
def stream (packets : List IapPacket) : List UInt8 :=
  packets.flatMap IapPacket.bytes

theorem stream_cons (packet : IapPacket) (packets : List IapPacket) :
    stream (packet :: packets) = packet.bytes ++ stream packets :=
  rfl

/-- What has come of a stream begins with a sync, when it has two bytes. -/
theorem sync_of_split {packets : List IapPacket} {rest future : List UInt8}
    (split : rest ++ future = stream packets) :
    rest.length < 2 ∨ ∃ tail, rest = 0xFF :: 0x5A :: tail := by
  match rest with
  | [] => exact .inl Nat.zero_lt_two
  | [_] => exact .inl Nat.one_lt_two
  | first :: second :: tail =>
      cases packets with
      | nil => cases split
      | cons packet packets =>
          rw [stream_cons, IapPacket.bytes] at split
          simp only [List.cons_append, List.cons.injEq] at split
          exact .inr ⟨tail, by rw [split.1, split.2.1]⟩

/-- What has come of a stream whose first packet is complete. -/
theorem rest_of_split {packet : IapPacket} {rest future more : List UInt8}
    (split : rest ++ future = packet.bytes ++ more) (complete : packet.size ≤ rest.length) :
    ∃ behind, rest = packet.bytes ++ behind ∧ behind ++ future = more := by
  obtain ⟨behind, restEq⟩ : packet.bytes <+: rest :=
    List.prefix_of_prefix_length_le (List.prefix_append _ more)
      (split ▸ List.prefix_append rest future) complete
  refine ⟨behind, restEq.symm, ?_⟩
  rw [← restEq, List.append_assoc] at split
  exact List.append_cancel_left split

/-- A packet is added, however large the image grows. -/
def gather (packet : List UInt8) (assembly : Assembly) : Assembly :=
  let locked := lockSession packet assembly
  if locked.targetSession = some (sessionId packet) then
    { locked with jpeg := locked.jpeg ++ payload packet }
  else locked

def gatherAll (packets : List IapPacket) (assembly : Assembly) : Assembly :=
  packets.foldl (fun assembly packet => gather packet.bytes assembly) assembly

theorem lockSession_jpeg (packet : List UInt8) (assembly : Assembly) :
    (lockSession packet assembly).jpeg = assembly.jpeg := by
  unfold lockSession
  split_ifs
  all_goals rfl

theorem payload_length (packet : List UInt8) : (payload packet).length ≤ packet.length := by
  rw [payload, List.length_take, List.length_drop]
  omega

theorem gather_jpeg (packet : List UInt8) (assembly : Assembly) :
    ∃ more, (gather packet assembly).jpeg = assembly.jpeg ++ more ∧
      more.length ≤ packet.length := by
  unfold gather
  dsimp only
  split_ifs
  · exact ⟨payload packet, by rw [lockSession_jpeg], payload_length packet⟩
  · exact ⟨[], by rw [lockSession_jpeg, List.append_nil], Nat.zero_le _⟩

/-- A packet without a payload adds nothing. -/
theorem gather_short {packet : List UInt8} (short : ¬ 12 < packet.length) (assembly : Assembly) :
    gather packet assembly = assembly := by
  have nothing : payload packet = [] := by
    rw [payload, Nat.sub_eq_zero_of_le (Nat.le_of_not_lt short), List.take_zero]
  have notLocked : lockSession packet assembly = assembly := by
    rw [lockSession, nothing]
    exact if_neg (by simp [myMemmem, jpegSoi])
  unfold gather
  dsimp only
  rw [notLocked, nothing, List.append_nil]
  exact ite_self assembly

theorem collect_eq {packet : List UInt8} {assembly : Assembly}
    (fits : assembly.jpeg.length + packet.length ≤ coverartMaxJpeg) :
    collect packet assembly = some (gather packet assembly) := by
  unfold collect
  split_ifs with long
  · have within : ¬ coverartMaxJpeg <
        (lockSession packet assembly).jpeg.length + (payload packet).length := by
      have := payload_length packet
      rw [lockSession_jpeg]
      omega
    unfold gather
    dsimp only
    rw [if_neg within]
    split_ifs
    all_goals rfl
  · rw [gather_short long]

theorem gatherAll_jpeg (packets : List IapPacket) (assembly : Assembly) :
    assembly.jpeg <+: (gatherAll packets assembly).jpeg := by
  induction packets generalizing assembly with
  | nil => exact List.prefix_rfl
  | cons packet packets ih =>
      obtain ⟨more, jpeg, -⟩ := gather_jpeg packet.bytes assembly
      exact (jpeg ▸ List.prefix_append _ more).trans (ih (gather packet.bytes assembly))

section Loop

variable (fuel : Nat) (processed : Bool) {assembly : Assembly} {seen : Bool}

theorem process_short {rest : List UInt8} (short : rest.length < 4) :
    processPackets fuel processed ⟨rest, assembly, seen⟩ = ⟨rest, assembly, seen⟩ := by
  cases fuel with
  | zero => rfl
  | succ fuel =>
      match rest with
      | [] | [_] | [_, _] | [_, _, _] => rfl
      | _ :: _ :: _ :: _ :: _ =>
          simp only [List.length_cons] at short
          omega

/-- An incomplete packet waits. -/
theorem process_wait {packet : IapPacket} {rest future more : List UInt8}
    (split : rest ++ future = packet.bytes ++ more) (waits : rest.length < packet.size) :
    processPackets fuel processed ⟨rest, assembly, seen⟩ = ⟨rest, assembly, seen⟩ := by
  cases fuel with
  | zero => rfl
  | succ fuel =>
      match rest with
      | [] | [_] | [_, _] | [_, _, _] => rfl
      | first :: second :: high :: low :: tail =>
          rw [IapPacket.bytes] at split
          simp only [List.cons_append, List.cons.injEq] at split
          obtain ⟨rfl, rfl, rfl, rfl, -⟩ := split
          have long : 4 ≤ packet.size := Nat.le_add_left 4 _
          simp only [processPackets, packet.packetLen_bytes]
          rw [if_neg (by decide), if_neg (by omega), if_pos waits]

/-- A complete packet with nothing but the end of the buffer or a packet behind
it. -/
theorem process_complete {packet : IapPacket} {rest : List UInt8} {after : Assembly}
    (ahead : rest.length < 2 ∨ ∃ tail, rest = 0xFF :: 0x5A :: tail)
    (collected : collect packet.bytes assembly = some after) :
    processPackets (fuel + 1) processed ⟨packet.bytes ++ rest, assembly, seen⟩ =
      if rest.length < 2 ∧ processed = true then ⟨packet.bytes ++ rest, assembly, seen⟩
      else processPackets fuel true ⟨rest, after, true⟩ := by
  have long : 4 ≤ packet.size := Nat.le_add_left 4 _
  have packetTaken : (packet.bytes ++ rest).take packet.size = packet.bytes :=
    List.take_left' packet.bytes_length
  have behind : (packet.bytes ++ rest).drop packet.size = rest :=
    List.drop_left' packet.bytes_length
  have complete : ¬ (packet.bytes ++ rest).length < packet.size := by
    rw [List.length_append, packet.bytes_length]
    omega
  have bytes : packet.bytes ++ rest = 0xFF :: 0x5A :: UInt8.ofNat (packet.size / 256) ::
      UInt8.ofNat packet.size :: (packet.body ++ rest) :=
    rfl
  rw [bytes] at packetTaken behind complete ⊢
  simp only [processPackets, packet.packetLen_bytes, packetTaken, behind, collected]
  rw [if_neg (by decide), if_neg (by omega), if_neg complete]
  rcases ahead with short | ⟨tail, rfl⟩
  · match rest, short with
    | [], _ | [_], _ => cases processed <;> rfl
  · have goesOn : ¬ ((0xFF :: 0x5A :: tail : List UInt8).length < 2 ∧ processed = true) := by
      simp only [List.length_cons]
      omega
    rw [if_neg goesOn]
    exact if_neg (by decide)

end Loop

/-- How many packets are taken behind the first one, of which so many bytes have
come. -/
def readyBehind : Nat → List IapPacket → Nat
  | _, [] => 0
  | buffered, packet :: packets =>
      if packet.size + 2 ≤ buffered then readyBehind (buffered - packet.size) packets + 1 else 0

/-- How many packets a read takes. -/
def ready : Nat → List IapPacket → Nat
  | _, [] => 0
  | buffered, packet :: packets =>
      if packet.size ≤ buffered then readyBehind (buffered - packet.size) packets + 1 else 0

theorem gatherAll_cons (packet : IapPacket) (packets : List IapPacket) (assembly : Assembly) :
    gatherAll (packet :: packets) assembly = gatherAll packets (gather packet.bytes assembly) :=
  rfl

/-- A packet leaves room for what is behind it. -/
theorem gather_room {packet : IapPacket} {rest : List UInt8} {assembly : Assembly}
    (room : assembly.jpeg.length + (packet.bytes ++ rest).length ≤ coverartMaxJpeg) :
    collect packet.bytes assembly = some (gather packet.bytes assembly) ∧
      (gather packet.bytes assembly).jpeg.length + rest.length ≤ coverartMaxJpeg := by
  obtain ⟨more, jpeg, added⟩ := gather_jpeg packet.bytes assembly
  rw [List.length_append] at room
  constructor
  · exact collect_eq (by omega)
  · rw [jpeg, List.length_append]
    omega

theorem process_behind {packets : List IapPacket} {rest future : List UInt8}
    {assembly : Assembly} {fuel : Nat} (split : rest ++ future = stream packets)
    (enough : rest.length ≤ fuel)
    (room : assembly.jpeg.length + rest.length ≤ coverartMaxJpeg) :
    ∃ behind, rest = stream (packets.take (readyBehind rest.length packets)) ++ behind ∧
      processPackets fuel true ⟨rest, assembly, true⟩ =
        ⟨behind, gatherAll (packets.take (readyBehind rest.length packets)) assembly, true⟩ := by
  induction packets generalizing rest assembly fuel with
  | nil =>
      have empty : rest = [] := (List.append_eq_nil_iff.mp split).1
      subst empty
      exact ⟨[], rfl, process_short fuel true (by decide)⟩
  | cons packet packets ih =>
      have long : 4 ≤ packet.size := Nat.le_add_left 4 _
      rw [stream_cons] at split
      by_cases complete : packet.size ≤ rest.length
      · obtain ⟨behind, rfl, splitBehind⟩ := rest_of_split split complete
        obtain ⟨collected, roomBehind⟩ := gather_room room
        rw [List.length_append, packet.bytes_length] at enough
        obtain ⟨fuel, rfl⟩ : ∃ less, fuel = less + 1 := ⟨fuel - 1, by omega⟩
        by_cases waits : behind.length < 2
        · have count : readyBehind (packet.bytes ++ behind).length (packet :: packets) = 0 := by
            rw [readyBehind, List.length_append, packet.bytes_length, if_neg (by omega)]
          rw [count, process_complete fuel true (sync_of_split splitBehind) collected,
            if_pos ⟨waits, rfl⟩]
          exact ⟨packet.bytes ++ behind, rfl, rfl⟩
        · have enoughBehind : behind.length ≤ fuel := by omega
          obtain ⟨left, taken, processed⟩ := ih splitBehind enoughBehind roomBehind
          have count : readyBehind (packet.bytes ++ behind).length (packet :: packets) =
              readyBehind behind.length packets + 1 := by
            rw [readyBehind, List.length_append, packet.bytes_length, Nat.add_sub_cancel_left,
              if_pos (by omega)]
          rw [count, process_complete fuel true (sync_of_split splitBehind) collected,
            if_neg (fun held => waits held.1), processed]
          refine ⟨left, ?_, rfl⟩
          rw [List.take_succ_cons, stream_cons, List.append_assoc, ← taken]
      · rw [process_wait fuel true split (by omega), readyBehind, if_neg (by omega)]
        exact ⟨rest, rfl, rfl⟩

theorem process_ready {packets : List IapPacket} {rest future : List UInt8}
    {assembly : Assembly} {seen : Bool} (split : rest ++ future = stream packets)
    (room : assembly.jpeg.length + rest.length ≤ coverartMaxJpeg) :
    ∃ behind, rest = stream (packets.take (ready rest.length packets)) ++ behind ∧
      processPackets rest.length false ⟨rest, assembly, seen⟩ =
        ⟨behind, gatherAll (packets.take (ready rest.length packets)) assembly,
          seen || decide (0 < ready rest.length packets)⟩ := by
  cases packets with
  | nil =>
      have empty : rest = [] := (List.append_eq_nil_iff.mp split).1
      subst empty
      exact ⟨[], rfl, by cases seen <;> rfl⟩
  | cons packet packets =>
      have long : 4 ≤ packet.size := Nat.le_add_left 4 _
      rw [stream_cons] at split
      by_cases complete : packet.size ≤ rest.length
      · obtain ⟨behind, rfl, splitBehind⟩ := rest_of_split split complete
        obtain ⟨collected, roomBehind⟩ := gather_room room
        obtain ⟨fuel, fuelEq⟩ : ∃ less, (packet.bytes ++ behind).length = less + 1 :=
          ⟨packet.size - 1 + behind.length, by
            rw [List.length_append, packet.bytes_length]
            omega⟩
        have enough : behind.length ≤ fuel := by
          rw [List.length_append, packet.bytes_length] at fuelEq
          omega
        obtain ⟨left, taken, processed⟩ := process_behind splitBehind enough roomBehind
        have count : ready (packet.bytes ++ behind).length (packet :: packets) =
            readyBehind behind.length packets + 1 := by
          rw [ready, List.length_append, packet.bytes_length, Nat.add_sub_cancel_left,
            if_pos (by omega)]
        rw [count, fuelEq, process_complete fuel false (sync_of_split splitBehind) collected,
          if_neg (by simp), processed]
        refine ⟨left, ?_, ?_⟩
        · rw [List.take_succ_cons, stream_cons, List.append_assoc, ← taken]
        · rw [List.take_succ_cons, gatherAll_cons, decide_eq_true (Nat.succ_pos _), Bool.or_true]
      · rw [process_wait _ false split (by omega), ready, if_neg complete]
        exact ⟨rest, rfl, by cases seen <;> rfl⟩

/-- The images of packets that are read one by one. -/
def deliver : List IapPacket → Assembly → Assembly × List (List UInt8)
  | [], assembly => (assembly, [])
  | packet :: packets, assembly =>
      let extracted := extract (gather packet.bytes assembly)
      let later := deliver packets extracted.1
      (later.1, extracted.2.toList ++ later.2)

theorem deliver_append (first second : List IapPacket) (assembly : Assembly) :
    deliver (first ++ second) assembly =
      ((deliver second (deliver first assembly).1).1,
        (deliver first assembly).2 ++ (deliver second (deliver first assembly).1).2) := by
  induction first generalizing assembly with
  | nil => rfl
  | cons packet first ih =>
      rw [List.cons_append, deliver, ih]
      simp only [deliver, List.append_assoc]

/-- Nothing is left to be handed over or to be dropped. -/
structure Settled (assembly : Assembly) : Prop where
  incomplete : completeImage assembly.jpeg = none
  small : assembly.jpeg.length ≤ jpegKeepMax

theorem settled_idle : Settled .idle where
  incomplete := rfl
  small := Nat.zero_le _

theorem extract_settled {assembly : Assembly} (settled : Settled assembly) :
    extract assembly = (assembly, none) := by
  unfold extract
  rw [settled.incomplete]
  dsimp only
  rw [if_neg (Nat.not_lt.mpr settled.small)]

theorem settled_extract (assembly : Assembly) : Settled (extract assembly).1 := by
  unfold extract
  cases complete : completeImage assembly.jpeg with
  | some image => exact settled_idle
  | none =>
      dsimp only
      split_ifs with large
      · exact settled_idle
      · exact ⟨complete, Nat.le_of_not_lt large⟩

theorem settled_deliver {assembly : Assembly} (settled : Settled assembly)
    (packets : List IapPacket) : Settled (deliver packets assembly).1 := by
  induction packets generalizing assembly with
  | nil => exact settled
  | cons packet packets ih => exact ih (settled_extract _)

/-- Whether an image begins in the packet. -/
def IapPacket.begins (packet : IapPacket) : Bool :=
  (myMemmem jpegSoi (payload packet.bytes)).isSome

/-- Behind a packet that ends an image no other image begins, and no packet comes
behind one that makes an unfinished image too large. -/
def groupFits : List IapPacket → Assembly → Bool
  | [], _ => true
  | packet :: packets, assembly =>
      let gathered := gather packet.bytes assembly
      if (completeImage gathered.jpeg).isSome then packets.all fun later => !later.begins
      else
        (packets.isEmpty || decide (gathered.jpeg.length ≤ jpegKeepMax)) &&
          groupFits packets gathered

theorem gather_idle {packet : IapPacket} (noImage : packet.begins = false) :
    gather packet.bytes .idle = .idle := by
  have notLocked : lockSession packet.bytes .idle = .idle := by
    unfold lockSession
    unfold IapPacket.begins at noImage
    exact if_neg fun locks => by
      rw [noImage] at locks
      exact absurd locks.2 (by decide)
  unfold gather
  dsimp only
  rw [notLocked]
  exact if_neg (by simp [Assembly.idle])

theorem deliver_idle {packets : List IapPacket}
    (noImage : (packets.all fun later => !later.begins) = true) :
    deliver packets .idle = (.idle, []) := by
  induction packets with
  | nil => rfl
  | cons packet packets ih =>
      rw [List.all_cons, Bool.and_eq_true, Bool.not_eq_true'] at noImage
      rw [deliver, gather_idle noImage.1, extract_settled settled_idle, ih noImage.2]
      rfl

/-- Packets that fit are handed over together as they are one by one. -/
theorem deliver_group {packets : List IapPacket} {assembly : Assembly}
    (settled : Settled assembly) (fits : groupFits packets assembly = true) :
    deliver packets assembly =
      ((extract (gatherAll packets assembly)).1,
        (extract (gatherAll packets assembly)).2.toList) := by
  induction packets generalizing assembly with
  | nil =>
      change (assembly, []) = ((extract assembly).1, (extract assembly).2.toList)
      rw [extract_settled settled]
      rfl
  | cons packet packets ih =>
      rw [groupFits] at fits
      rw [deliver, gatherAll_cons]
      cases complete : completeImage (gather packet.bytes assembly).jpeg with
      | some image =>
          rw [complete, Option.isSome_some, if_pos rfl] at fits
          obtain ⟨more, jpeg⟩ := gatherAll_jpeg packets (gather packet.bytes assembly)
          have later : completeImage (gatherAll packets (gather packet.bytes assembly)).jpeg =
              some image := by
            rw [← jpeg]
            exact completeImage_append complete more
          simp only [extract, complete, later, deliver_idle fits, List.append_nil]
      | none =>
          rw [complete, Option.isSome_none, if_neg (by simp), Bool.and_eq_true,
            Bool.or_eq_true, decide_eq_true_eq] at fits
          cases packets with
          | nil => simp only [deliver, gatherAll, List.foldl_nil, List.append_nil]
          | cons second packets =>
              have settledNext : Settled (gather packet.bytes assembly) :=
                ⟨complete, fits.1.resolve_left (by simp)⟩
              rw [extract_settled settledNext, ih settledNext fits.2]
              rfl

/-- The capacities that the buffer can have. -/
def CapFits (cap : Nat) : Prop :=
  cap = 0 ∨ cap ∈ [65536, 131072, 262144, 524288, 1048576]

theorem growCap_fits {need cap : Nat} (fits : need ≤ streamBufMax)
    (member : cap ∈ [65536, 131072, 262144, 524288, 1048576]) (fuel : Nat) :
    growCap need fuel cap ∈ [65536, 131072, 262144, 524288, 1048576] := by
  induction fuel generalizing cap with
  | zero => exact member
  | succ fuel ih =>
      rw [growCap]
      split_ifs with grows
      · apply ih
        unfold streamBufMax at fits
        simp only [List.mem_cons, List.not_mem_nil, or_false] at member ⊢
        omega
      · exact member

/-- A capacity that has to grow. -/
theorem startCap_fits {cap need : Nat} (fits : CapFits cap) (room : need ≤ streamBufMax)
    (grows : cap < need) :
    (if cap = 0 then 65536 else cap * 2) ∈ [65536, 131072, 262144, 524288, 1048576] := by
  unfold CapFits at fits
  unfold streamBufMax at room
  simp only [List.mem_cons, List.not_mem_nil, or_false] at fits ⊢
  split_ifs with unset <;> omega

theorem handleStreamData_room {st : StreamState} {buf : List UInt8} (fits : CapFits st.rawCap)
    (room : st.raw.length + buf.length ≤ streamBufMax) :
    ∃ cap, CapFits cap ∧
      handleStreamData buf st = processRaw { st with raw := st.raw ++ buf, rawCap := cap } := by
  by_cases grows : st.rawCap < st.raw.length + buf.length
  · have member := growCap_fits room (startCap_fits fits room grows) (st.raw.length + buf.length)
    refine ⟨_, .inr member, ?_⟩
    have small : ¬ streamBufMax < growCap (st.raw.length + buf.length)
        (st.raw.length + buf.length) (if st.rawCap = 0 then 65536 else st.rawCap * 2) := by
      unfold streamBufMax
      simp only [List.mem_cons, List.not_mem_nil, or_false] at member
      omega
    unfold handleStreamData
    dsimp only
    rw [if_pos grows, if_neg small]
  · refine ⟨st.rawCap, fits, ?_⟩
    unfold handleStreamData
    dsimp only
    rw [if_neg grows]

/-- How far a stream has been read. -/
structure Progress where
  remaining : List IapPacket
  buffered : Nat
  assembly : Assembly
  seen : Bool
  probes : Nat

namespace Progress

def start (packets : List IapPacket) : Progress := ⟨packets, 0, .idle, false, 0⟩

/-- The packets that a read takes. -/
def taken (len : Nat) (progress : Progress) : List IapPacket :=
  progress.remaining.take (ready (progress.buffered + len) progress.remaining)

def next (len : Nat) (progress : Progress) : Progress :=
  let count := ready (progress.buffered + len) progress.remaining
  let seen := progress.seen || decide (0 < count)
  { remaining := progress.remaining.drop count
    buffered := progress.buffered + len - (stream (progress.taken len)).length
    assembly := (deliver (progress.taken len) progress.assembly).1
    seen
    probes := if seen then progress.probes else progress.probes + 1 }

/-- A read that fits into the buffer, takes a group that fits, and is not the last
of too many without a packet. -/
def readFits (len : Nat) (progress : Progress) : Bool :=
  decide (progress.buffered + len ≤ streamBufMax) &&
    groupFits (progress.taken len) progress.assembly &&
    ((progress.next len).seen || decide ((progress.next len).probes < fdProbeLimit))

/-- Every read fits, and no image ends in a packet that still waits after the last
one. -/
def readsFit : List Nat → Progress → Bool
  | [], progress => (deliver progress.remaining progress.assembly).2.isEmpty
  | len :: lens, progress =>
      if len = 0 then readsFit lens progress
      else progress.readFits len && readsFit lens (progress.next len)

end Progress

/-- The stream of a descriptor stands where the progress does. -/
structure Follows (progress : Progress) (future : List UInt8) (st : StreamState) : Prop where
  split : st.raw ++ future = stream progress.remaining
  buffered : st.raw.length = progress.buffered
  assembly : st.assembly = progress.assembly
  settled : Settled progress.assembly
  seen : st.isCarplayStream = progress.seen
  probes : st.probeCalls = progress.probes
  cap : CapFits st.rawCap

theorem follows_start (packets : List IapPacket) :
    Follows (.start packets) (stream packets) .fresh where
  split := rfl
  buffered := rfl
  assembly := rfl
  settled := settled_idle
  seen := rfl
  probes := rfl
  cap := .inl rfl

/-- A read that fits keeps the stream where the progress is, and hands over what
its packets would have handed over one by one. -/
theorem processRaw_follows {progress : Progress} {read future : List UInt8} {st : StreamState}
    {cap : Nat} (follows : Follows progress (read ++ future) st) (capFits : CapFits cap)
    (fits : progress.readFits read.length = true) :
    ∃ after, (processRaw { st with raw := st.raw ++ read, rawCap := cap }).1 = some after ∧
      Follows (progress.next read.length) future after ∧
      (processRaw { st with raw := st.raw ++ read, rawCap := cap }).2.toList =
        (deliver (progress.taken read.length) progress.assembly).2 := by
  simp only [Progress.readFits, Bool.and_eq_true, decide_eq_true_eq, Bool.or_eq_true] at fits
  obtain ⟨⟨within, group⟩, probed⟩ := fits
  have length : (st.raw ++ read).length = progress.buffered + read.length := by
    rw [List.length_append, follows.buffered]
  have split : (st.raw ++ read) ++ future = stream progress.remaining := by
    rw [List.append_assoc, follows.split]
  have room : st.assembly.jpeg.length + (st.raw ++ read).length ≤ coverartMaxJpeg := by
    have small := follows.settled.small
    unfold jpegKeepMax at small
    unfold streamBufMax at within
    unfold coverartMaxJpeg
    rw [follows.assembly, length]
    omega
  obtain ⟨behind, rest, processed⟩ := process_ready split room
  rw [length] at rest processed
  have delivered := deliver_group follows.settled group
  have processedSame : processPackets (st.raw ++ read).length false
      ⟨st.raw ++ read, st.assembly, st.isCarplayStream⟩ =
      ⟨behind, gatherAll (progress.taken read.length) progress.assembly,
        (progress.next read.length).seen⟩ := by
    rw [length, processed, follows.assembly, follows.seen]
    rfl
  have kept : ¬ ((progress.next read.length).seen = false ∧
      fdProbeLimit ≤ (progress.next read.length).probes) := by
    rintro ⟨unseen, many⟩
    rcases probed with seen | few
    · rw [unseen] at seen
      cases seen
    · omega
  have probes : (if (progress.next read.length).seen then st.probeCalls else st.probeCalls + 1) =
      (progress.next read.length).probes := by
    rw [follows.probes]
    rfl
  have assembly : (extract (gatherAll (progress.taken read.length) progress.assembly)).1 =
      (progress.next read.length).assembly := by
    change _ = (deliver (progress.taken read.length) progress.assembly).1
    rw [delivered]
  have result : processRaw { st with raw := st.raw ++ read, rawCap := cap } =
      (some
        { raw := behind
          rawCap := cap
          assembly := (progress.next read.length).assembly
          isCarplayStream := (progress.next read.length).seen
          probeCalls := (progress.next read.length).probes },
        (extract (gatherAll (progress.taken read.length) progress.assembly)).2) := by
    unfold processRaw
    dsimp only
    rw [processedSame]
    dsimp only
    rw [probes, if_neg kept, assembly]
  rw [result]
  refine ⟨_, rfl, ?_, by rw [delivered]⟩
  constructor
  · have whole : stream (progress.taken read.length) ++ (behind ++ future) =
        stream (progress.taken read.length) ++
          stream (progress.remaining.drop (ready (progress.buffered + read.length)
            progress.remaining)) := by
      rw [← List.append_assoc, Progress.taken, ← rest, split, stream, stream, stream,
        ← List.flatMap_append, List.take_append_drop]
    exact List.append_cancel_left whole
  · have sum := congrArg List.length rest
    rw [length, List.length_append] at sum
    change behind.length = progress.buffered + read.length -
      (stream (progress.taken read.length)).length
    unfold Progress.taken
    omega
  · rfl
  · exact settled_deliver follows.settled _
  · rfl
  · rfl
  · exact capFits

theorem fdRead_follows {iap2 : Bool} {progress : Progress} {read future : List UInt8}
    {fd : FdState} (notSkipped : fd.skip = false) (some : read ≠ [])
    (follows : Follows progress (read ++ future) (fd.stream.getD .fresh))
    (fits : progress.readFits read.length = true) :
    (fdRead iap2 read fd).1.skip = false ∧
      Follows (progress.next read.length) future ((fdRead iap2 read fd).1.stream.getD .fresh) ∧
      (fdRead iap2 read fd).2.toList =
        (deliver (progress.taken read.length) progress.assembly).2 := by
  have within : (fd.stream.getD .fresh).raw.length + read.length ≤ streamBufMax := by
    simp only [Progress.readFits, Bool.and_eq_true, decide_eq_true_eq] at fits
    rw [follows.buffered]
    exact fits.1.1
  obtain ⟨cap, capFits, handled⟩ := handleStreamData_room follows.cap within
  obtain ⟨after, stays, followsAfter, images⟩ := processRaw_follows follows capFits fits
  unfold fdRead
  rw [if_neg (by simp [some, notSkipped])]
  dsimp only
  rw [handled, stays]
  exact ⟨notSkipped, followsAfter, images⟩

/-- The images of a run whose reads fit are those of its packets one by one. -/
theorem handedOver_eq {iap2 : Bool} {reads : List (List UInt8)} {progress : Progress}
    {fd : FdState} (notSkipped : fd.skip = false)
    (follows : Follows progress reads.flatten (fd.stream.getD .fresh))
    (fit : progress.readsFit (reads.map List.length) = true) :
    handedOver iap2 fd reads = (deliver progress.remaining progress.assembly).2 := by
  induction reads generalizing progress fd with
  | nil => exact (List.isEmpty_iff.mp fit).symm
  | cons read reads ih =>
      rw [List.map_cons, Progress.readsFit] at fit
      rw [List.flatten_cons] at follows
      rw [handedOver]
      by_cases empty : read = []
      · subst empty
        have nothing : fdRead iap2 [] fd = (fd, none) := if_pos (.inl rfl)
        rw [nothing]
        exact ih notSkipped follows fit
      · rw [if_neg (fun zero => empty (List.eq_nil_of_length_eq_zero zero)),
          Bool.and_eq_true] at fit
        obtain ⟨notSkippedAfter, followsAfter, images⟩ :=
          fdRead_follows notSkipped empty follows fit.1
        rw [ih notSkippedAfter followsAfter fit.2, images]
        have parts := deliver_append (progress.taken read.length)
          (progress.remaining.drop (ready (progress.buffered + read.length) progress.remaining))
          progress.assembly
        rw [Progress.taken, List.take_append_drop] at parts
        rw [parts]
        rfl

/-- One packet a read always fits. -/
theorem readsFit_packets {packets : List IapPacket} {progress : Progress}
    (remaining : progress.remaining = packets) (empty : progress.buffered = 0) :
    progress.readsFit (packets.map IapPacket.size) = true := by
  induction packets generalizing progress with
  | nil =>
      rw [List.map_nil, Progress.readsFit, remaining]
      rfl
  | cons packet packets ih =>
      have short : packet.size < 65536 := packet.short
      have long : 4 ≤ packet.size := Nat.le_add_left 4 _
      have count : ready (progress.buffered + packet.size) progress.remaining = 1 := by
        have noMore : readyBehind 0 packets = 0 := by
          cases packets with
          | nil => rfl
          | cons second packets => exact if_neg (by omega)
        rw [remaining, empty, Nat.zero_add, ready, if_pos (Nat.le_refl _), Nat.sub_self, noMore]
      have taken : progress.taken packet.size = [packet] := by
        rw [Progress.taken, count, remaining]
        rfl
      have seen : (progress.next packet.size).seen = true := by
        unfold Progress.next
        dsimp only
        rw [count]
        exact Bool.or_true _
      have group : groupFits [packet] progress.assembly = true := by
        unfold groupFits
        dsimp only
        split_ifs
        all_goals rfl
      rw [List.map_cons, Progress.readsFit, if_neg (by omega), Bool.and_eq_true]
      constructor
      · rw [Progress.readFits, taken, group, seen, empty, Nat.zero_add,
          decide_eq_true (by unfold streamBufMax; omega)]
        rfl
      · apply ih
        · unfold Progress.next
          dsimp only
          rw [count, remaining]
          rfl
        · change progress.buffered + packet.size - (stream (progress.taken packet.size)).length = 0
          rw [taken, empty, stream_cons, List.length_append, packet.bytes_length]
          omega

/-- Where every read fits, the images do not depend on how a stream is cut. -/
theorem chunking_invisible (iap2 : Bool) (packets : List IapPacket) (reads : List (List UInt8))
    (whole : reads.flatten = stream packets)
    (fit : (Progress.start packets).readsFit (reads.map List.length) = true) :
    handedOver iap2 .fresh reads = handedOver iap2 .fresh (packets.map IapPacket.bytes) := by
  have single : (packets.map IapPacket.bytes).map List.length = packets.map IapPacket.size := by
    rw [List.map_map]
    rfl
  have follows : Follows (.start packets) reads.flatten .fresh := whole ▸ follows_start packets
  have followsSingle : Follows (.start packets) (packets.map IapPacket.bytes).flatten .fresh := by
    rw [← List.flatMap_def]
    exact follows_start packets
  rw [handedOver_eq rfl follows fit,
    handedOver_eq rfl followsSingle (single ▸ readsFit_packets rfl rfl)]

/-- A packet with a wrapper, its session and a trailer. -/
def packetOf (session : UInt8) (content : List UInt8) (short : content.length < 1024) :
    IapPacket where
  body := [0x40, 0, 0, session, 0, 0, 0x80] ++ content ++ [0]
  short := by
    rw [List.length_append, List.length_append, List.length_cons, List.length_cons,
      List.length_cons, List.length_cons, List.length_cons, List.length_cons, List.length_cons,
      List.length_nil, List.length_singleton]
    omega

/-- An image in two packets, one in a third packet, and a packet of another
session. -/
def twoImages : List IapPacket :=
  [packetOf 5 [0xFF, 0xD8, 0xFF, 0xE0] (by decide), packetOf 5 [1, 0xFF, 0xD9] (by decide),
    packetOf 6 [0xFF, 0xD8, 2, 0xFF, 0xD9] (by decide), packetOf 7 [3] (by decide)]

/-- Cuts in a header, before the last byte of two packets, and behind a sync. -/
def cutReads : List (List UInt8) :=
  [(stream twoImages).take 3, ((stream twoImages).drop 3).take 12,
    ((stream twoImages).drop 15).take 18, ((stream twoImages).drop 33).take 14,
    (stream twoImages).drop 47]

theorem cutReads_invisible :
    (Progress.start twoImages).readsFit (cutReads.map List.length) = true ∧
      handedOver false .fresh cutReads =
        handedOver false .fresh (twoImages.map IapPacket.bytes) :=
  ⟨by decide +kernel,
    chunking_invisible false twoImages cutReads (by decide +kernel) (by decide +kernel)⟩

/-- Of two images in one read the second one is lost. -/
theorem second_image_lost :
    ¬ ∀ (iap2 : Bool) (packets : List IapPacket) (reads : List (List UInt8)),
      reads.flatten = stream packets →
      handedOver iap2 .fresh reads = handedOver iap2 .fresh (packets.map IapPacket.bytes) := by
  intro invisible
  have same := invisible false twoImages [stream twoImages] (List.append_nil _)
  have lost : handedOver false .fresh [stream twoImages] =
      [[0xFF, 0xD8, 0xFF, 0xE0, 1, 0xFF, 0xD9]] := by decide +kernel
  have both : handedOver false .fresh (twoImages.map IapPacket.bytes) =
      [[0xFF, 0xD8, 0xFF, 0xE0, 1, 0xFF, 0xD9], [0xFF, 0xD8, 2, 0xFF, 0xD9]] := by
    decide +kernel
  rw [lost, both] at same
  cases same

end Coverart

end CarplayRgi
