import CarplayRgi.JavaText
import CarplayRgi.Rasters
import CarplayRgi.RgdTlv
import CarplayRgi.StreamParsers
import Mathlib.Tactic.Ring

/-!
# The picture of the cover art

A decoded image is fitted into a square without being stretched, and written as
a PNG of three chunks.  What is written stays in the buffer that has been taken
for it, and a reader of the format finds the fitted image in it again.  The
compression is a parameter, as is the rounding of the fitted size.
-/

namespace CarplayRgi

namespace Coverart

def crcBit (crc : UInt32) : UInt32 :=
  (crc >>> 1) ^^^ (0xEDB88320 &&& -(crc &&& 1))

def crcByte (crc : UInt32) (byte : UInt8) : UInt32 :=
  Nat.repeat crcBit 8 (crc ^^^ byte.toUInt32)

/-- `crc32_bytes`. -/
def crc32Bytes (data : List UInt8) : UInt32 :=
  ~~~(data.foldl crcByte 0xFFFFFFFF)

/-- What is called of zlib. -/
structure Zlib where
  crc32 : UInt32 → List UInt8 → UInt32
  compressBound : Nat → Nat
  compress2 : Nat → List UInt8 → Option (List UInt8)
  uncompress : List UInt8 → Option (List UInt8)

/-- What zlib promises: a checksum that goes on from one piece to the next, and
compressed data that fits the bound and can be uncompressed. -/
structure Zlib.Documented (zlib : Zlib) : Prop where
  crc32 : ∀ crc buf, zlib.crc32 crc buf = ~~~(buf.foldl crcByte (~~~crc))
  uncompress : ∀ capacity source dest,
    zlib.compress2 capacity source = some dest → zlib.uncompress dest = some source
  capacity : ∀ capacity source dest,
    zlib.compress2 capacity source = some dest → dest.length ≤ capacity
  compressBound : ∀ size, zlib.compressBound size ≤
    size + size / 2 ^ 12 + size / 2 ^ 14 + size / 2 ^ 25 + 13

/-- The checksum of pieces, one call for each of them. -/
def pngCrc (zlib : Zlib) (pieces : List (List UInt8)) : UInt32 :=
  pieces.foldl zlib.crc32 (zlib.crc32 0 [])

/-- The running checksum is the one of the hook over all pieces. -/
theorem pngCrc_eq {zlib : Zlib} (documented : zlib.Documented) (pieces : List (List UInt8)) :
    pngCrc zlib pieces = crc32Bytes pieces.flatten := by
  suffices general : ∀ crc, pieces.foldl zlib.crc32 (~~~crc) =
      ~~~(pieces.flatten.foldl crcByte crc) by
    have start : zlib.crc32 0 [] = ~~~(0xFFFFFFFF : UInt32) := documented.crc32 0 []
    rw [pngCrc, start, general, crc32Bytes]
  induction pieces with
  | nil => intro crc; rfl
  | cons piece pieces ih =>
      intro crc
      rw [List.foldl_cons, documented.crc32, UInt32.not_not, ih, List.flatten_cons,
        List.foldl_append]

/-- A byte of the source, and 0 outside of it, where C says nothing. -/
def byteAt (src : List UInt8) (p : Int) : UInt8 :=
  if p < 0 then 0 else src.getD p.toNat 0

/-- The three bytes of a pixel. -/
def pixelAt (src : List UInt8) (p : Int) : List UInt8 :=
  [byteAt src p, byteAt src (p + 1), byteAt src (p + 2)]

/-- Where a pixel of a row comes from.  A product that overflows wraps around,
where C says nothing. -/
def sourcePlace (sw dw : Nat) (srcY : Int) (x : Nat) : Int :=
  let sx := (wrapInt (x * sw)).tdiv dw
  wrapInt (wrapInt (srcY * sw) * 3) + wrapInt (sx * 3)

/-- A row of `dw` pixels, each of them the nearest one of a row of the source. -/
def resizedRow (src : List UInt8) (sw dw : Nat) (srcY : Int) : List UInt8 :=
  (List.range dw).flatMap fun x => pixelAt src (sourcePlace sw dw srcY x)

/-- The row of the source that is shown in a row. -/
def sourceRow (sh dh : Nat) (flip : Bool) (y : Nat) : Int :=
  let sy := (wrapInt (y * sh)).tdiv dh
  if flip then wrapInt (sh - 1 - sy) else sy

/-- `resize_rgb`.  The rows of the destination follow each other, which is where
`y * dw * 3` puts them in a canvas of fewer than `2 ^ 31` bytes. -/
def resizeRgb (src : List UInt8) (sw sh dw dh : Nat) (flip : Bool) : List UInt8 :=
  (List.range dh).flatMap fun y => resizedRow src sw dw (sourceRow sh dh flip y)

/-- A fitted size is at least one pixel and no larger than the canvas. -/
def clamped (rounded : Int) (limit : Nat) : Nat :=
  let atLeastOne := if rounded < 1 then 1 else rounded
  if atLeastOne > limit then limit else atLeastOne.toNat

/-- `resize_rgb_contain`, with the size that the rounding of doubles has given,
and whether there is memory for the fitted image. -/
def resizeRgbContain (rounded : Int × Int) (memory : Bool) (src : List UInt8)
    (sw sh dw dh : Nat) (flip : Bool) : List UInt8 :=
  let black := List.replicate (dw * dh * 3) 0
  if memory = false then black
  else
    let nw := clamped rounded.1 dw
    let nh := clamped rounded.2 dh
    let x0 := (dw - nw) / 2
    let y0 := (dh - nh) / 2
    Raster.blit black (resizeRgb src sw sh nw nh flip) (dw * 3) (nw * 3) (x0 * 3) y0 nh

def be32 (value : Nat) : List UInt8 :=
  [UInt8.ofNat (value / 2 ^ 24), UInt8.ofNat (value / 2 ^ 16), UInt8.ofNat (value / 2 ^ 8),
    UInt8.ofNat value]

def pngSignature : List UInt8 := [0x89, 0x50, 0x4E, 0x47, 0x0D, 0x0A, 0x1A, 0x0A]

/-- `IHDR`, `IDAT` and `IEND`. -/
def ihdrType : List UInt8 := [0x49, 0x48, 0x44, 0x52]

def idatType : List UInt8 := [0x49, 0x44, 0x41, 0x54]

def iendType : List UInt8 := [0x49, 0x45, 0x4E, 0x44]

/-- The form of the pixels: eight bits of red, green and blue. -/
def rgbForm : List UInt8 := [8, 2, 0, 0, 0]

def rawLen (w h : Nat) : Nat := h * (w * 3 + 1)

/-- The size of the buffer. -/
def maxPng (w h : Nat) : Nat := 8 + 25 + rawLen w h + 1024

/-- Every row behind the number of its filter. -/
def rawRows (rgb : List UInt8) (w h : Nat) : List UInt8 :=
  (List.range h).flatMap fun y => 0 :: (rgb.drop (y * w * 3)).take (w * 3)

/-- Whether there is memory for the buffer, the rows and the compressed rows. -/
structure PngMemory where
  buf : Bool
  raw : Bool
  comp : Bool

/-- `build_png`: all that has been put into the buffer. -/
def buildPng (zlib : Zlib) (memory : PngMemory) (rgb : List UInt8) (w h : Nat) :
    Option (List UInt8) :=
  if w = 0 ∨ h = 0 then none
  else if memory.buf = false then none
  else
    let ihdr := be32 w ++ be32 h ++ rgbForm
    let begun := pngSignature ++ (be32 13 ++ ihdrType ++ ihdr ++
      be32 (pngCrc zlib [ihdrType, ihdr]).toNat)
    if memory.raw = false then none
    else if memory.comp = false then none
    else
      match zlib.compress2 (zlib.compressBound (rawLen w h)) (rawRows rgb w h) with
      | none => none
      | some comp =>
          some (begun ++
            (be32 comp.length ++ idatType ++ comp ++
              be32 (pngCrc zlib [idatType, comp]).toNat) ++
            (be32 0 ++ iendType ++ be32 (pngCrc zlib [iendType]).toNat))

structure PngChunk where
  type : List UInt8
  data : List UInt8
  deriving DecidableEq

/-- A chunk behind its size, if its checksum is right. -/
def chunkBehind (size : Nat) (behind : List UInt8) : Found UInt8 PngChunk :=
  if behind.length < 4 + size + 4 then .incomplete
  else if readBe32 (behind.drop (4 + size)) = (crc32Bytes (behind.take (4 + size))).toNat then
    .item ⟨behind.take 4, (behind.drop 4).take size⟩ (behind.drop (4 + size + 4))
  else .refused

def nextChunk (stream : List UInt8) : Found UInt8 PngChunk :=
  if stream.length < 4 then .incomplete
  else chunkBehind (readBe32 stream) (stream.drop 4)

structure Picture where
  width : Nat
  height : Nat
  rgb : List UInt8
  deriving DecidableEq

/-- The rows without the numbers of their filters, all of which are to be 0. -/
def unfiltered (w : Nat) : Nat → List UInt8 → Option (List UInt8)
  | 0, [] => some []
  | 0, _ :: _ => none
  | _ + 1, [] => none
  | h + 1, filter :: rest =>
      if filter = 0 ∧ w * 3 ≤ rest.length then
        (unfiltered w h (rest.drop (w * 3))).map (rest.take (w * 3) ++ ·)
      else none

/-- The picture of a header, of chunks with data, and of an end. -/
def pictureOf (zlib : Zlib) : List PngChunk → Option Picture
  | [] => none
  | header :: rest =>
      let w := readBe32 header.data
      let h := readBe32 (header.data.drop 4)
      if header.type = ihdrType ∧ header.data.length = 13 ∧ header.data.drop 8 = rgbForm ∧
          rest.getLast? = some ⟨iendType, []⟩ ∧
          ∀ chunk ∈ rest.dropLast, chunk.type = idatType then
        (zlib.uncompress (rest.dropLast.flatMap PngChunk.data)).bind fun raw =>
          (unfiltered w h raw).map fun rgb => ⟨w, h, rgb⟩
      else none

theorem length_be32 (value : Nat) : (be32 value).length = 4 := rfl

theorem readBe32_be32 {value : Nat} (fits : value < 2 ^ 32) (rest : List UInt8) :
    readBe32 (be32 value ++ rest) = value := by
  have taken : (be32 value ++ rest).take 4 = be32 value := List.take_left' (length_be32 value)
  rw [readBe32, taken]
  simp only [readBe, be32, List.foldl_cons, List.foldl_nil, UInt8.toNat_ofNat']
  omega

theorem readBe32_append {bytes : List UInt8} (long : 4 ≤ bytes.length) (more : List UInt8) :
    readBe32 (bytes ++ more) = readBe32 bytes := by
  rw [readBe32, List.take_append_of_le_length long, readBe32]

theorem chunkBehind_append {size : Nat} {behind : List UInt8}
    (found : chunkBehind size behind ≠ .incomplete) (more : List UInt8) :
    chunkBehind size (behind ++ more) = (chunkBehind size behind).before more := by
  have whole : ¬ behind.length < 4 + size + 4 := fun short => found (if_pos short)
  have sum : readBe32 ((behind ++ more).drop (4 + size)) = readBe32 (behind.drop (4 + size)) := by
    rw [List.drop_append_of_le_length (by omega), readBe32_append]
    rw [List.length_drop]
    omega
  have type : (behind ++ more).take 4 = behind.take 4 := List.take_append_of_le_length (by omega)
  have data : ((behind ++ more).drop 4).take size = (behind.drop 4).take size := by
    rw [List.drop_append_of_le_length (by omega), List.take_append_of_le_length]
    rw [List.length_drop]
    omega
  unfold chunkBehind
  rw [if_neg (by rw [List.length_append]; omega), if_neg whole, sum,
    List.take_append_of_le_length (by omega), type, data, List.drop_append_of_le_length (by omega)]
  split
  · rfl
  · rfl

theorem chunkBehind_shorter {size : Nat} {behind rest : List UInt8} {chunk : PngChunk}
    (found : chunkBehind size behind = .item chunk rest) : rest.length ≤ behind.length := by
  unfold chunkBehind at found
  split_ifs at found with short right
  injection found with _ restEq
  rw [← restEq, List.length_drop]
  exact Nat.sub_le _ _

/-- The chunks of a PNG file behind its signature. -/
def pngChunks : StreamParser UInt8 PngChunk :=
  .ofStable nextChunk rfl
    (by
      intro stream chunk rest found
      unfold nextChunk at found
      split_ifs at found with short
      have fewer := chunkBehind_shorter found
      rw [List.length_drop] at fewer
      omega)
    (by
      intro stream more found
      have whole : ¬ stream.length < 4 := fun short => found (if_pos short)
      unfold nextChunk at found ⊢
      rw [if_neg whole] at found
      rw [if_neg (by rw [List.length_append]; omega), if_neg whole, readBe32_append (by omega),
        List.drop_append_of_le_length (by omega), chunkBehind_append found])

theorem next_pngChunks (stream : List UInt8) : pngChunks.next stream = nextChunk stream := rfl

/-- The picture of a whole file. -/
def readPng (zlib : Zlib) (bytes : List UInt8) : Option Picture :=
  let read := pngChunks.drain (bytes.drop 8)
  if bytes.take 8 = pngSignature ∧ read.2 = .fresh then pictureOf zlib read.1 else none

/-- A chunk as `build_png` writes it. -/
def chunkBytes (chunk : PngChunk) : List UInt8 :=
  be32 chunk.data.length ++ (chunk.type ++ chunk.data ++
    be32 (crc32Bytes (chunk.type ++ chunk.data)).toNat)

theorem chunkBehind_written {type data sumBytes : List UInt8} (four : type.length = 4)
    (fourBytes : sumBytes.length = 4)
    (sum : ∀ more, readBe32 (sumBytes ++ more) = (crc32Bytes (type ++ data)).toNat)
    (more : List UInt8) :
    chunkBehind data.length (type ++ data ++ sumBytes ++ more) = .item ⟨type, data⟩ more := by
  have front : (type ++ data).length = 4 + data.length := by rw [List.length_append, four]
  have long : (type ++ data ++ sumBytes).length = 4 + data.length + 4 := by
    rw [List.length_append, front, fourBytes]
  have behindFront : (type ++ data ++ sumBytes ++ more).drop (4 + data.length) =
      sumBytes ++ more := by
    rw [List.append_assoc]
    exact List.drop_left' front
  have inFront : (type ++ data ++ sumBytes ++ more).take (4 + data.length) = type ++ data := by
    rw [List.append_assoc]
    exact List.take_left' front
  have first : (type ++ data ++ sumBytes ++ more).take 4 = type := by
    simp only [List.append_assoc]
    exact List.take_left' four
  have second : ((type ++ data ++ sumBytes ++ more).drop 4).take data.length = data := by
    simp only [List.append_assoc]
    rw [List.drop_left' four]
    exact List.take_left
  unfold chunkBehind
  rw [if_neg (by rw [List.length_append, long]; omega), behindFront, inFront, if_pos (sum more),
    first, second, List.drop_left' long]

theorem reads_chunkBytes {chunk : PngChunk} (four : chunk.type.length = 4)
    (fits : chunk.data.length < 2 ^ 32) : pngChunks.Reads (chunkBytes chunk) chunk := by
  intro more
  have behind : (chunkBytes chunk ++ more).drop 4 = chunk.type ++ chunk.data ++
      be32 (crc32Bytes (chunk.type ++ chunk.data)).toNat ++ more := by
    rw [chunkBytes, List.append_assoc]
    exact List.drop_left' (length_be32 _)
  have size : readBe32 (chunkBytes chunk ++ more) = chunk.data.length := by
    rw [chunkBytes, List.append_assoc]
    exact readBe32_be32 fits _
  have long : ¬ (chunkBytes chunk ++ more).length < 4 := by
    rw [chunkBytes, List.append_assoc, List.length_append, length_be32]
    omega
  rw [next_pngChunks, nextChunk, if_neg long, size, behind,
    chunkBehind_written four (length_be32 _)
      (fun more => readBe32_be32 (crc32Bytes (chunk.type ++ chunk.data)).toNat_lt more)]

/-- The rows come back without their filters. -/
theorem unfiltered_rawRows (w h : Nat) (rgb : List UInt8) (whole : rgb.length = h * w * 3) :
    unfiltered w h (rawRows rgb w h) = some rgb := by
  induction h generalizing rgb with
  | zero =>
      have nothing : rgb = [] := List.eq_nil_of_length_eq_zero (by omega)
      rw [nothing]
      rfl
  | succ h ih =>
      have enough : h * w * 3 + w * 3 = rgb.length := by rw [whole, Nat.succ_mul]; ring
      have later : rawRows (rgb.drop (w * 3)) w h =
          (List.range h).flatMap fun y => 0 :: (rgb.drop ((y + 1) * w * 3)).take (w * 3) := by
        unfold rawRows
        congr 1
        funext y
        rw [List.drop_drop]
        congr 3
        ring
      have rows : rawRows rgb w (h + 1) =
          0 :: (rgb.take (w * 3) ++ rawRows (rgb.drop (w * 3)) w h) := by
        rw [later, rawRows, List.range_succ_eq_map, List.flatMap_cons, List.flatMap_map]
        simp
      have front : (rgb.take (w * 3)).length = w * 3 := by
        rw [List.length_take]
        omega
      rw [rows, unfiltered, if_pos ⟨rfl, by rw [List.length_append, front]; omega⟩,
        List.drop_left' front, List.take_left' front, ih _ (by rw [List.length_drop]; omega)]
      rw [Option.map_some, List.take_append_drop]

def headerChunk (w h : Nat) : PngChunk := ⟨ihdrType, be32 w ++ be32 h ++ rgbForm⟩

/-- What has been written are the signature and three chunks. -/
theorem buildPng_chunks {zlib : Zlib} (documented : zlib.Documented) {memory : PngMemory}
    {rgb png : List UInt8} {w h : Nat} (built : buildPng zlib memory rgb w h = some png) :
    ∃ comp, zlib.compress2 (zlib.compressBound (rawLen w h)) (rawRows rgb w h) = some comp ∧
      png = pngSignature ++
        [headerChunk w h, ⟨idatType, comp⟩, ⟨iendType, []⟩].flatMap chunkBytes := by
  unfold buildPng at built
  dsimp only at built
  split_ifs at built with empty noBuf noRaw noComp
  cases compressed : zlib.compress2 (zlib.compressBound (rawLen w h)) (rawRows rgb w h) with
  | none =>
      rw [compressed] at built
      cases built
  | some comp =>
      rw [compressed] at built
      refine ⟨comp, rfl, (Option.some.inj built).symm.trans ?_⟩
      simp only [pngCrc_eq documented, headerChunk, chunkBytes, List.flatMap_cons,
        List.flatMap_nil, List.flatten_cons, List.flatten_nil, List.append_nil, List.append_assoc,
        List.length_append, length_be32, List.length_nil]
      rfl

/-- A built picture is read as what it has been built from. -/
theorem readPng_buildPng {zlib : Zlib} (documented : zlib.Documented) {memory : PngMemory}
    {rgb png : List UInt8} {w h : Nat} (small : rawLen w h < 2 ^ 31)
    (whole : rgb.length = h * w * 3) (built : buildPng zlib memory rgb w h = some png) :
    readPng zlib png = some ⟨w, h, rgb⟩ := by
  have positive : ¬ (w = 0 ∨ h = 0) := by
    intro empty
    rw [buildPng, if_pos empty] at built
    cases built
  rw [not_or] at positive
  obtain ⟨comp, compressed, rfl⟩ := buildPng_chunks documented built
  have wide : w < 2 ^ 32 := by
    have : w * 3 + 1 ≤ rawLen w h := Nat.le_mul_of_pos_left _ (Nat.pos_of_ne_zero positive.2)
    omega
  have high : h < 2 ^ 32 := by
    have : h ≤ rawLen w h := Nat.le_mul_of_pos_right _ (Nat.succ_pos _)
    omega
  have fits : comp.length < 2 ^ 32 := by
    have bound := Nat.le_trans (documented.capacity _ _ _ compressed) (documented.compressBound _)
    omega
  have chunks : pngChunks.drain
      ([headerChunk w h, ⟨idatType, comp⟩, ⟨iendType, []⟩].flatMap chunkBytes) =
        ([headerChunk w h, ⟨idatType, comp⟩, ⟨iendType, []⟩], .fresh) := by
    refine StreamParser.drain_outputs fun chunk member => ?_
    simp only [List.mem_cons, List.not_mem_nil, or_false] at member
    rcases member with rfl | rfl | rfl
    · exact reads_chunkBytes rfl (by decide : (13 : Nat) < 2 ^ 32)
    · exact reads_chunkBytes rfl fits
    · exact reads_chunkBytes rfl (by decide : (0 : Nat) < 2 ^ 32)
  have data : zlib.uncompress ([(⟨idatType, comp⟩ : PngChunk), ⟨iendType, []⟩].dropLast.flatMap
      PngChunk.data) = some (rawRows rgb w h) := by
    have middle : [(⟨idatType, comp⟩ : PngChunk), ⟨iendType, []⟩].dropLast.flatMap PngChunk.data =
        comp := List.append_nil comp
    rw [middle]
    exact documented.uncompress _ _ _ compressed
  have widthRead : readBe32 (headerChunk w h).data = w := by
    rw [headerChunk, List.append_assoc]
    exact readBe32_be32 wide _
  have heightRead : readBe32 ((headerChunk w h).data.drop 4) = h := by
    have behind : (headerChunk w h).data.drop 4 = be32 h ++ rgbForm := rfl
    rw [behind]
    exact readBe32_be32 high _
  have header : (headerChunk w h).type = ihdrType ∧ (headerChunk w h).data.length = 13 ∧
      (headerChunk w h).data.drop 8 = rgbForm ∧
      [(⟨idatType, comp⟩ : PngChunk), ⟨iendType, []⟩].getLast? = some ⟨iendType, []⟩ ∧
      ∀ chunk ∈ [(⟨idatType, comp⟩ : PngChunk), ⟨iendType, []⟩].dropLast,
        chunk.type = idatType :=
    ⟨rfl, rfl, rfl, rfl, fun chunk member => by rw [List.mem_singleton.mp member]⟩
  have behind : (pngSignature ++ [headerChunk w h, ⟨idatType, comp⟩, ⟨iendType, []⟩].flatMap
      chunkBytes).drop 8 =
        [headerChunk w h, ⟨idatType, comp⟩, ⟨iendType, []⟩].flatMap chunkBytes :=
    List.drop_left' rfl
  unfold readPng
  dsimp only
  rw [behind, chunks, if_pos ⟨List.take_left' rfl, rfl⟩, pictureOf]
  rw [if_pos header, data, Option.bind_some, widthRead, heightRead,
    unfiltered_rawRows w h rgb whole, Option.map_some]

/-- The buffer is large enough for pictures of less than 3 MiB. -/
theorem length_buildPng_le {zlib : Zlib} (documented : zlib.Documented) {memory : PngMemory}
    {rgb png : List UInt8} {w h : Nat} (small : rawLen w h < 3 * 2 ^ 20)
    (built : buildPng zlib memory rgb w h = some png) : png.length ≤ maxPng w h := by
  obtain ⟨comp, compressed, rfl⟩ := buildPng_chunks documented built
  have bound := Nat.le_trans (documented.capacity _ _ _ compressed) (documented.compressBound _)
  have long : (pngSignature ++ [headerChunk w h, ⟨idatType, comp⟩, ⟨iendType, []⟩].flatMap
      chunkBytes).length = 57 + comp.length := by
    simp only [List.flatMap_cons, List.flatMap_nil, chunkBytes, headerChunk, List.length_append,
      length_be32, List.length_nil, pngSignature, ihdrType, idatType, iendType, rgbForm,
      List.length_cons]
    omega
  rw [long, maxPng]
  omega

theorem clamped_le (rounded : Int) {limit : Nat} (positive : 0 < limit) :
    clamped rounded limit ≤ limit := by
  unfold clamped
  dsimp only
  split_ifs <;> omega

theorem mul_div_lt {place size limit : Nat} (below : place < limit) (positive : 0 < size) :
    place * size / limit < size := by
  rw [Nat.div_lt_iff_lt_mul (Nat.lt_of_le_of_lt (Nat.zero_le place) below), Nat.mul_comm size]
  exact Nat.mul_lt_mul_of_pos_right below positive

/-- The row of the source that is to be shown in a row. -/
def shownRow (sh dh : Nat) (flip : Bool) (y : Nat) : Nat :=
  if flip then sh - 1 - y * sh / dh else y * sh / dh

theorem shownRow_lt {sh dh y : Nat} (flip : Bool) (row : y < dh) (positive : 0 < sh) :
    shownRow sh dh flip y < sh := by
  have below := mul_div_lt row positive
  unfold shownRow
  generalize y * sh / dh = sy at below ⊢
  split <;> omega

/-- An image as it has been decoded: three bytes for each of its pixels. -/
structure Decoded (src : List UInt8) (sw sh : Nat) : Prop where
  whole : src.length = sh * (sw * 3)
  wide : 0 < sw
  high : 0 < sh

/-- No product of `int`s overflows while an image is resized. -/
structure Counted (sw sh dw dh : Nat) : Prop where
  columns : dw * sw < 2 ^ 31
  rows : dh * sh < 2 ^ 31
  bytes : sh * (sw * 3) < 2 ^ 31

theorem Counted.clamped {sw sh dw dh : Nat} (counted : Counted sw sh dw dh) (rounded : Int × Int)
    (wide : 0 < dw) (high : 0 < dh) :
    Counted sw sh (clamped rounded.1 dw) (clamped rounded.2 dh) where
  columns :=
    Nat.lt_of_le_of_lt (Nat.mul_le_mul_right sw (clamped_le rounded.1 wide)) counted.columns
  rows := Nat.lt_of_le_of_lt (Nat.mul_le_mul_right sh (clamped_le rounded.2 high)) counted.rows
  bytes := counted.bytes

theorem length_resizedRow (src : List UInt8) (sw dw : Nat) (srcY : Int) :
    (resizedRow src sw dw srcY).length = dw * 3 :=
  Raster.length_rows _ dw fun _ _ => rfl

theorem length_resizeRgb (src : List UInt8) (sw sh dw dh : Nat) (flip : Bool) :
    (resizeRgb src sw sh dw dh flip).length = dh * (dw * 3) :=
  Raster.length_rows _ dh fun _ _ => length_resizedRow ..

theorem wrapInt_natCast {value : Nat} (fits : value < 2 ^ 31) : wrapInt value = value :=
  wrapInt_eq (by omega) (by omega)

theorem byteAt_natCast (src : List UInt8) (p : Nat) : byteAt src p = src.getD p 0 := by
  rw [byteAt, if_neg (by omega), Int.toNat_natCast]

theorem getElem?_resizedRow (src : List UInt8) {sw sh dw dh srcY x c : Nat}
    (counted : Counted sw sh dw dh) (wide : 0 < sw) (row : srcY < sh) (column : x < dw)
    (channel : c < 3) :
    (resizedRow src sw dw srcY)[x * 3 + c]? =
      some (src.getD (Raster.place (sw * 3) (x * sw / dw * 3 + c) srcY) 0) := by
  have start : Raster.place (sw * 3) (x * sw / dw * 3 + c) srcY =
      srcY * sw * 3 + x * sw / dw * 3 + c := by
    unfold Raster.place
    ring
  have pixel : (resizedRow src sw dw srcY)[Raster.place 3 c x]? =
      (pixelAt src (sourcePlace sw dw srcY x))[c]? :=
    Raster.getElem?_rows _ (fun _ _ => rfl) channel column
  have product : x * sw < 2 ^ 31 :=
    Nat.lt_of_le_of_lt (Nat.mul_le_mul_right sw (Nat.le_of_lt column)) counted.columns
  have rowStart : srcY * (sw * 3) + sw * 3 ≤ sh * (sw * 3) := by
    rw [← Nat.succ_mul]
    exact Nat.mul_le_mul_right _ row
  have inSource := mul_div_lt column wide
  have offset : sourcePlace sw dw srcY x = ((srcY * sw * 3 + x * sw / dw * 3 : Nat) : Int) := by
    have bytes := counted.bytes
    have assoc : srcY * (sw * 3) = srcY * sw * 3 := (Nat.mul_assoc srcY sw 3).symm
    unfold sourcePlace
    dsimp only
    rw [← Int.natCast_mul x, wrapInt_natCast product, ← Int.ofNat_tdiv, ← Int.natCast_mul srcY,
      wrapInt_natCast (by omega)]
    generalize x * sw / dw = sx at *
    generalize srcY * sw = offset at *
    rw [wrapInt_eq (by omega) (by omega), wrapInt_eq (by omega) (by omega)]
    omega
  rw [start]
  refine pixel.trans ?_
  rw [offset]
  match c, channel with
  | 0, _ | 1, _ | 2, _ => exact congrArg some (byteAt_natCast src _)

theorem sourceRow_eq {sw sh dw dh y : Nat} (counted : Counted sw sh dw dh) (flip : Bool)
    (row : y < dh) (high : 0 < sh) :
    sourceRow sh dh flip y = (shownRow sh dh flip y : Int) := by
  have product : y * sh < 2 ^ 31 :=
    Nat.lt_of_le_of_lt (Nat.mul_le_mul_right sh (Nat.le_of_lt row)) counted.rows
  have small : sh < 2 ^ 31 :=
    Nat.lt_of_le_of_lt (Nat.le_mul_of_pos_left sh (Nat.lt_of_le_of_lt (Nat.zero_le y) row))
      counted.rows
  have below := mul_div_lt row high
  unfold sourceRow shownRow
  dsimp only
  rw [← Int.natCast_mul, wrapInt_natCast product, ← Int.ofNat_tdiv]
  generalize y * sh / dh = sy at below ⊢
  cases flip with
  | false => rfl
  | true =>
      rw [if_pos rfl, if_pos rfl, wrapInt_eq (by omega) (by omega)]
      omega

/-- A byte of the resized image is one of the source. -/
theorem getElem?_resizeRgb {src : List UInt8} {sw sh dw dh : Nat} (decoded : Decoded src sw sh)
    (counted : Counted sw sh dw dh) (flip : Bool) {x y c : Nat} (column : x < dw) (row : y < dh)
    (channel : c < 3) :
    (resizeRgb src sw sh dw dh flip)[Raster.place (dw * 3) (x * 3 + c) y]? =
      src[Raster.place (sw * 3) (x * sw / dw * 3 + c) (shownRow sh dh flip y)]? := by
  have inside : Raster.place (sw * 3) (x * sw / dw * 3 + c) (shownRow sh dh flip y) <
      src.length := by
    have := mul_div_lt column decoded.wide
    rw [decoded.whole]
    exact Raster.place_lt (by omega) (shownRow_lt flip row decoded.high)
  have inRow : (resizeRgb src sw sh dw dh flip)[Raster.place (dw * 3) (x * 3 + c) y]? =
      (resizedRow src sw dw (sourceRow sh dh flip y))[x * 3 + c]? :=
    Raster.getElem?_rows _ (fun _ _ => length_resizedRow ..) (by omega) row
  rw [inRow, sourceRow_eq counted flip row decoded.high,
    getElem?_resizedRow src counted decoded.wide (shownRow_lt flip row decoded.high) column channel,
    List.getD_eq_getElem?_getD, List.getElem?_eq_getElem inside, Option.getD_some]

/-- The byte that a fitted picture of the source shows at a place. -/
def fittedByte (src : List UInt8) (sw sh dw dh nw nh : Nat) (flip : Bool) (x y c : Nat) :
    Option UInt8 :=
  let x0 := (dw - nw) / 2
  let y0 := (dh - nh) / 2
  if x0 ≤ x ∧ x < x0 + nw ∧ y0 ≤ y ∧ y < y0 + nh then
    src[Raster.place (sw * 3) ((x - x0) * sw / nw * 3 + c) (shownRow sh nh flip (y - y0))]?
  else some 0

/-- The pixels show the source in a centred box of the fitted size, and black
around it. -/
def ShowsFitted (rgb src : List UInt8) (sw sh w h : Nat) (rounded : Int × Int) (flip : Bool) :
    Prop :=
  ∀ x y c, x < w → y < h → c < 3 → rgb[Raster.place (w * 3) (x * 3 + c) y]? =
    fittedByte src sw sh w h (clamped rounded.1 w) (clamped rounded.2 h) flip x y c

theorem length_resizeRgbContain (rounded : Int × Int) (memory : Bool) (src : List UInt8)
    {sw sh dw dh : Nat} (wide : 0 < dw) (high : 0 < dh) (flip : Bool) :
    (resizeRgbContain rounded memory src sw sh dw dh flip).length = dh * (dw * 3) := by
  have black : (List.replicate (dw * dh * 3) (0 : UInt8)).length = dh * (dw * 3) := by
    rw [List.length_replicate]
    ring
  have columns := clamped_le rounded.1 wide
  have rows := clamped_le rounded.2 high
  unfold resizeRgbContain
  dsimp only
  split
  · exact black
  · exact Raster.length_blit black (length_resizeRgb ..) (by omega) (by omega) (Nat.le_refl _)

theorem getElem?_resizeRgbContain {src : List UInt8} {sw sh dw dh : Nat}
    (decoded : Decoded src sw sh) (counted : Counted sw sh dw dh) (rounded : Int × Int)
    (flip : Bool) {x y c : Nat} (column : x < dw) (row : y < dh) (channel : c < 3) :
    (resizeRgbContain rounded true src sw sh dw dh flip)[Raster.place (dw * 3) (x * 3 + c) y]? =
      fittedByte src sw sh dw dh (clamped rounded.1 dw) (clamped rounded.2 dh) flip x y c := by
  have wide := Nat.lt_of_le_of_lt (Nat.zero_le x) column
  have high := Nat.lt_of_le_of_lt (Nat.zero_le y) row
  have columns := clamped_le rounded.1 wide
  have rows := clamped_le rounded.2 high
  have fitted := counted.clamped rounded wide high
  have black : (List.replicate (dw * dh * 3) (0 : UInt8)).length = dh * (dw * 3) := by
    rw [List.length_replicate]
    ring
  have inside : Raster.place (dw * 3) (x * 3 + c) y < dw * dh * 3 := by
    calc
      Raster.place (dw * 3) (x * 3 + c) y < dh * (dw * 3) := Raster.place_lt (by omega) row
      _ = dw * dh * 3 := by ring
  unfold resizeRgbContain fittedByte
  dsimp only
  generalize clamped rounded.1 dw = nw at columns fitted ⊢
  generalize clamped rounded.2 dh = nh at rows fitted ⊢
  rw [if_neg Bool.noConfusion, Raster.getElem?_blit black (length_resizeRgb ..) (by omega) (by omega)
    (Nat.le_refl _) (by omega)]
  by_cases within : (dw - nw) / 2 ≤ x ∧ x < (dw - nw) / 2 + nw ∧ (dh - nh) / 2 ≤ y ∧
      y < (dh - nh) / 2 + nh
  · have offset : x * 3 + c - (dw - nw) / 2 * 3 = (x - (dw - nw) / 2) * 3 + c := by omega
    rw [if_pos within, if_pos (by omega), offset,
      getElem?_resizeRgb decoded fitted flip (by omega) (by omega) channel]
  · rw [if_neg within, if_neg (by omega), List.getElem?_replicate, if_pos inside]

/-- What has been built of a fitted image stays in the buffer and is read as the
picture of its size that shows the source in a centred box, and black around it. -/
theorem fitted_picture_read {zlib : Zlib} (documented : zlib.Documented) {memory : PngMemory}
    {src png : List UInt8} {sw sh w h : Nat} (decoded : Decoded src sw sh)
    (counted : Counted sw sh w h) (rounded : Int × Int) (flip : Bool)
    (small : rawLen w h < 3 * 2 ^ 20)
    (built : buildPng zlib memory (resizeRgbContain rounded true src sw sh w h flip) w h =
      some png) :
    png.length ≤ maxPng w h ∧ ∃ rgb, readPng zlib png = some ⟨w, h, rgb⟩ ∧
      ShowsFitted rgb src sw sh w h rounded flip := by
  have positive : ¬ (w = 0 ∨ h = 0) := by
    intro empty
    rw [buildPng, if_pos empty] at built
    cases built
  rw [not_or] at positive
  have long : (resizeRgbContain rounded true src sw sh w h flip).length = h * w * 3 := by
    rw [length_resizeRgbContain rounded true src (Nat.pos_of_ne_zero positive.1)
      (Nat.pos_of_ne_zero positive.2) flip, Nat.mul_assoc]
  exact ⟨length_buildPng_le documented small built, _,
    readPng_buildPng documented (Nat.lt_trans small (by decide)) long built,
    fun x y c column row channel =>
      getElem?_resizeRgbContain decoded counted rounded flip column row channel⟩

/-- One row of a red pixel and a black one, and what zlib makes of it. -/
def redRow : List UInt8 := [0, 255, 0, 0, 0, 0, 0]

def redRowCompressed : List UInt8 :=
  [120, 1, 99, 248, 207, 0, 2, 0, 6, 1, 1, 0]

/-- As much of zlib as this row needs. -/
def redRowZlib : Zlib where
  crc32 := fun crc buf => ~~~(buf.foldl crcByte (~~~crc))
  compressBound := fun size => size + size / 2 ^ 12 + size / 2 ^ 14 + size / 2 ^ 25 + 13
  compress2 := fun capacity source =>
    if source = redRow ∧ redRowCompressed.length ≤ capacity then some redRowCompressed else none
  uncompress := fun dest => if dest = redRowCompressed then some redRow else none

theorem documented_redRowZlib : redRowZlib.Documented where
  crc32 := fun _ _ => rfl
  uncompress := by
    intro capacity source dest compressed
    dsimp only [redRowZlib] at compressed ⊢
    split_ifs at compressed with enough
    rw [← Option.some.inj compressed, if_pos rfl, enough.1]
  capacity := by
    intro capacity source dest compressed
    dsimp only [redRowZlib] at compressed
    split_ifs at compressed with enough
    rw [← Option.some.inj compressed]
    exact enough.2
  compressBound := fun _ => Nat.le_refl _

theorem red_picture_read : ∃ png,
    buildPng redRowZlib ⟨true, true, true⟩
      (resizeRgbContain (1, 1) true [255, 0, 0] 1 1 2 1 false) 2 1 = some png ∧
    png.length ≤ maxPng 2 1 ∧ ∃ rgb, readPng redRowZlib png = some ⟨2, 1, rgb⟩ ∧
      rgb[0]? = some 255 ∧ rgb[3]? = some 0 := by
  have decoded : Decoded [255, 0, 0] 1 1 := ⟨rfl, by decide, by decide⟩
  have counted : Counted 1 1 2 1 := ⟨by decide, by decide, by decide⟩
  have small : rawLen 2 1 < 3 * 2 ^ 20 := by decide
  obtain ⟨png, built⟩ : ∃ png, buildPng redRowZlib ⟨true, true, true⟩
      (resizeRgbContain (1, 1) true [255, 0, 0] 1 1 2 1 false) 2 1 = some png := ⟨_, rfl⟩
  obtain ⟨fits, rgb, read, shown⟩ :=
    fitted_picture_read documented_redRowZlib decoded counted (1, 1) false small built
  exact ⟨png, built, fits, rgb, read, shown 0 0 0 (by decide) (by decide) (by decide),
    shown 1 0 0 (by decide) (by decide) (by decide)⟩

end Coverart

end CarplayRgi
