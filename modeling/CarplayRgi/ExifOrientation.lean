import Mathlib.Data.PNat.Basic
import CarplayRgi.RgdCheckedParsers

/-!
# The orientation in a cover image

The cover art hook walks over the markers of a JPEG file and looks for the
orientation entry of its Exif segment.  Every read goes through a check against
the length of the data here.  The IFD offset is a 32-bit number from the file,
and its bounds check adds two to it modulo 2^32: an offset next to 2^32 passes
the check and the number of entries is then read outside of the data.
-/

namespace CarplayRgi

namespace ExifOrientation

open CheckedBuffers

def exifHeader : List UInt8 := [0x45, 0x78, 0x69, 0x66, 0, 0]

/-- Whether a byte order mark says little endian. -/
def byteOrder? (mark : List UInt8) : Option Bool :=
  if mark = [0x49, 0x49] then some true
  else if mark = [0x4D, 0x4D] then some false
  else none

def readOrdered (littleEndian : Bool) (bytes : List UInt8) : Nat :=
  readBe (if littleEndian then bytes.reverse else bytes)

def numberAt? (littleEndian : Bool) (data : List UInt8) (start size : Nat) : Option Nat :=
  (slice? data start size).map (readOrdered littleEndian)

/-- The two bytes are read at offsets of their own, each computed in 32 bits. -/
def numEntries? (littleEndian : Bool) (data : List UInt8) (tiff ifdOffset : Nat) :
    Option Nat := do
  let first ← byteAt? data (tiff + ifdOffset)
  let second ← byteAt? data (tiff + (ifdOffset + 1) % 2 ^ 32)
  pure (if littleEndian then first + second * 256 else first * 256 + second)

/-- The entries of the IFD: `some none` when none of them is the orientation. -/
def findOrientation? (littleEndian : Bool) (data : List UInt8) (tiff tiffSize : Nat) :
    Nat → Nat → Option (Option Nat)
  | 0, _ => some none
  | left + 1, entryOffset =>
      if entryOffset + 12 ≤ tiffSize then do
        let tag ← numberAt? littleEndian data (tiff + entryOffset) 2
        if tag = 0x0112 then do
          let value ← numberAt? littleEndian data (tiff + entryOffset + 8) 2
          pure (some (if 1 ≤ value ∧ value ≤ 8 then value else 0))
        else findOrientation? littleEndian data tiff tiffSize left (entryOffset + 12)
      else some none

/-- The TIFF structure: `some none` when the marker loop goes on behind it. -/
def tiffOrientation? (data : List UInt8) (tiff tiffSize : Nat) : Option (Option Nat) :=
  if tiffSize < 8 then some (some 0)
  else do
    let mark ← slice? data tiff 2
    match byteOrder? mark with
    | none => some (some 0)
    | some littleEndian => do
        let ifdOffset ← numberAt? littleEndian data (tiff + 4) 4
        if tiffSize < (ifdOffset + 2) % 2 ^ 32 then some (some 0)
        else do
          let numEntries ← numEntries? littleEndian data tiff ifdOffset
          findOrientation? littleEndian data tiff tiffSize numEntries ((ifdOffset + 2) % 2 ^ 32)

/-- The value of an APP1 segment. -/
def app1Orientation? (data : List UInt8) (seg segSize : Nat) : Option (Option Nat) :=
  if segSize < 6 then some none
  else do
    let header ← slice? data seg 6
    if header = exifHeader then tiffOrientation? data (seg + 6) (segSize - 6) else some none

/-- How one pass of the marker loop ends. -/
inductive Pass where
  | advance (count : ℕ+)
  | done (orientation : Nat)

def markerPass? (data : List UInt8) (pos : Nat) : Option Pass := do
  let lead ← byteAt? data pos
  if lead ≠ 0xFF then some (.advance 1)
  else do
    let marker ← byteAt? data (pos + 1)
    if marker = 0xFF then some (.advance 1)
    else if marker = 0xD9 ∨ marker = 0xDA then some (.done 0)
    else if (0xD0 ≤ marker ∧ marker ≤ 0xD7) ∨ marker = 0xD8 ∨ marker = 0x01 then
      some (.advance 2)
    else if data.length < pos + 4 then some (.done 0)
    else do
      let segLen ← readBe16At? data (pos + 2)
      if segLen < 2 ∨ data.length < pos + 2 + segLen then some (.done 0)
      else do
        let found ← if marker = 0xE1 ∧ 8 ≤ segLen then
            app1Orientation? data (pos + 4) (segLen - 2)
          else some none
        match found with
        | some orientation => some (.done orientation)
        | none => some (.advance ⟨2 + segLen, Nat.add_pos_left Nat.two_pos segLen⟩)

def markerLoop? (data : List UInt8) (pos : Nat) : Option Nat :=
  if pos + 4 < data.length then
    match markerPass? data pos with
    | none => none
    | some (.done orientation) => some orientation
    | some (.advance count) => markerLoop? data (pos + count)
  else some 0
termination_by data.length - pos
decreasing_by
  have forward := count.pos
  omega

def getJpegOrientation? (data : List UInt8) : Option Nat :=
  if data.length < 12 then some 0
  else do
    let first ← byteAt? data 0
    let second ← byteAt? data 1
    if first ≠ 0xFF ∨ second ≠ 0xD8 then some 0 else markerLoop? data 2

/-- A read that stays inside and, when it settles the orientation, gives one of
the values of the tag or zero. -/
def Settles (found : Option (Option Nat)) : Prop :=
  ∃ result, found = some result ∧ ∀ orientation ∈ result, orientation ≤ 8

theorem settles_goOn : Settles (some none) := ⟨none, rfl, by simp⟩

theorem settles_some {orientation : Nat} (bounded : orientation ≤ 8) :
    Settles (some (some orientation)) :=
  ⟨some orientation, rfl, by simpa using bounded⟩

theorem readOrdered_lt (littleEndian : Bool) (bytes : List UInt8) :
    readOrdered littleEndian bytes < 256 ^ bytes.length := by
  cases littleEndian with
  | false => exact readBe_lt bytes
  | true => simpa [readOrdered] using readBe_lt bytes.reverse

theorem numberAt?_of_le (littleEndian : Bool) {data : List UInt8} {start size : Nat}
    (inside : start + size ≤ data.length) :
    ∃ value, numberAt? littleEndian data start size = some value ∧ value < 256 ^ size := by
  refine ⟨readOrdered littleEndian ((data.drop start).take size), ?_, ?_⟩
  · rw [numberAt?, slice?_of_le inside]
    rfl
  · have bound := readOrdered_lt littleEndian ((data.drop start).take size)
    rwa [List.length_take, List.length_drop, Nat.min_eq_left (by omega)] at bound

theorem byteAt?_of_lt {data : List UInt8} {start : Nat} (inside : start < data.length) :
    ∃ value, byteAt? data start = some value :=
  ⟨_, byteAt?_eq inside⟩

theorem byteAt?_of_ge {data : List UInt8} {start : Nat} (outside : data.length ≤ start) :
    byteAt? data start = none := by
  rw [byteAt?, slice?, if_neg (by omega)]
  rfl

theorem findOrientation?_settles (littleEndian : Bool) {data : List UInt8} {tiff tiffSize : Nat}
    (inside : tiff + tiffSize ≤ data.length) (left entryOffset : Nat) :
    Settles (findOrientation? littleEndian data tiff tiffSize left entryOffset) := by
  induction left generalizing entryOffset with
  | zero => exact settles_goOn
  | succ left ih =>
      rw [findOrientation?]
      split_ifs with fits
      · obtain ⟨tag, tagRead, -⟩ := numberAt?_of_le littleEndian
          (show tiff + entryOffset + 2 ≤ data.length by omega)
        obtain ⟨value, valueRead, -⟩ := numberAt?_of_le littleEndian
          (show tiff + entryOffset + 8 + 2 ≤ data.length by omega)
        simp only [tagRead, valueRead, Option.bind_eq_bind, Option.bind_some, Option.pure_def]
        split_ifs with isTag inRange
        · exact settles_some inRange.2
        · exact settles_some (Nat.zero_le 8)
        · exact ih (entryOffset + 12)
      · exact settles_goOn

/-- One of the two bytes with the number of entries is not in the data. -/
def EntriesOutside (data : List UInt8) (tiff ifdOffset : Nat) : Prop :=
  data.length ≤ tiff + ifdOffset ∨ data.length ≤ tiff + (ifdOffset + 1) % 2 ^ 32

/-- A TIFF structure with an IFD offset next to 2^32: adding two to it wraps
around, and the number of entries lies outside of the data. -/
def OffsetWraps (data : List UInt8) (tiff tiffSize : Nat) : Prop :=
  8 ≤ tiffSize ∧ ∃ mark littleEndian ifdOffset,
    slice? data tiff 2 = some mark ∧ byteOrder? mark = some littleEndian ∧
    numberAt? littleEndian data (tiff + 4) 4 = some ifdOffset ∧
    2 ^ 32 ≤ ifdOffset + 2 ∧ EntriesOutside data tiff ifdOffset

/-- A marker of an Exif segment that lies inside the data and whose IFD offset
wraps around. -/
def ExifWraps (data : List UInt8) (pos : Nat) : Prop :=
  byteAt? data pos = some 0xFF ∧ byteAt? data (pos + 1) = some 0xE1 ∧
    ∃ segLen, readBe16At? data (pos + 2) = some segLen ∧ 8 ≤ segLen ∧
      pos + 2 + segLen ≤ data.length ∧ slice? data (pos + 4) 6 = some exifHeader ∧
      OffsetWraps data (pos + 10) (segLen - 8)

theorem numEntries?_of_outside (littleEndian : Bool) {data : List UInt8} {tiff ifdOffset : Nat}
    (outside : EntriesOutside data tiff ifdOffset) :
    numEntries? littleEndian data tiff ifdOffset = none := by
  rw [numEntries?]
  cases outside with
  | inl first =>
      rw [byteAt?_of_ge first]
      rfl
  | inr second =>
      rw [byteAt?_of_ge second]
      cases byteAt? data (tiff + ifdOffset) with
      | none => rfl
      | some value => rfl

theorem numEntries?_of_inside (littleEndian : Bool) {data : List UInt8} {tiff ifdOffset : Nat}
    (inside : ¬ EntriesOutside data tiff ifdOffset) :
    ∃ entries, numEntries? littleEndian data tiff ifdOffset = some entries := by
  obtain ⟨firstInside, secondInside⟩ := not_or.mp inside
  obtain ⟨first, firstRead⟩ := byteAt?_of_lt (Nat.lt_of_not_le firstInside)
  obtain ⟨second, secondRead⟩ := byteAt?_of_lt (Nat.lt_of_not_le secondInside)
  simp only [numEntries?, firstRead, secondRead, Option.bind_eq_bind, Option.bind_some,
    Option.pure_def, Option.some.injEq, exists_eq']

/-- Without a wrap the bounds check is the one on the naturals. -/
theorem not_entriesOutside_of_le {data : List UInt8} {tiff tiffSize ifdOffset : Nat}
    (inside : tiff + tiffSize ≤ data.length) (noWrap : ifdOffset + 2 < 2 ^ 32)
    (checked : (ifdOffset + 2) % 2 ^ 32 ≤ tiffSize) : ¬ EntriesOutside data tiff ifdOffset := by
  rw [Nat.mod_eq_of_lt noWrap] at checked
  rw [EntriesOutside, Nat.mod_eq_of_lt (by omega)]
  omega

theorem tiffOrientation?_of_wraps {data : List UInt8} {tiff tiffSize : Nat}
    (wraps : OffsetWraps data tiff tiffSize) (inside : tiff + tiffSize ≤ data.length) :
    tiffOrientation? data tiff tiffSize = none := by
  obtain ⟨headed, mark, littleEndian, ifdOffset, markRead, order, offsetRead, wrap, outside⟩ :=
    wraps
  obtain ⟨value, valueRead, valueLt⟩ := numberAt?_of_le littleEndian
    (show tiff + 4 + 4 ≤ data.length by omega)
  obtain rfl : ifdOffset = value := Option.some.inj (offsetRead.symm.trans valueRead)
  have checked : ¬ tiffSize < (ifdOffset + 2) % 2 ^ 32 := by
    norm_num at valueLt
    omega
  simp only [tiffOrientation?, if_neg (Nat.not_lt.mpr headed), markRead, order, offsetRead,
    Option.bind_eq_bind, Option.bind_some, if_neg checked, numEntries?_of_outside _ outside,
    Option.bind_none]

theorem tiffOrientation?_settles {data : List UInt8} {tiff tiffSize : Nat}
    (inside : tiff + tiffSize ≤ data.length) (sound : ¬ OffsetWraps data tiff tiffSize) :
    Settles (tiffOrientation? data tiff tiffSize) := by
  rw [tiffOrientation?]
  split_ifs with short
  · exact settles_some (Nat.zero_le 8)
  rw [slice?_of_le (show tiff + 2 ≤ data.length by omega)]
  simp only [Option.bind_eq_bind, Option.bind_some]
  cases order : byteOrder? ((data.drop tiff).take 2) with
  | none => exact settles_some (Nat.zero_le 8)
  | some littleEndian =>
      obtain ⟨ifdOffset, offsetRead, -⟩ := numberAt?_of_le littleEndian
        (show tiff + 4 + 4 ≤ data.length by omega)
      simp only [offsetRead, Option.bind_some]
      split_ifs with large
      · exact settles_some (Nat.zero_le 8)
      have entriesInside : ¬ EntriesOutside data tiff ifdOffset := by
        by_cases wrap : 2 ^ 32 ≤ ifdOffset + 2
        · intro outside
          exact sound ⟨by omega, _, littleEndian, ifdOffset, slice?_of_le (by omega), order,
            offsetRead, wrap, outside⟩
        · exact not_entriesOutside_of_le inside (by omega) (by omega)
      obtain ⟨entries, entriesRead⟩ := numEntries?_of_inside littleEndian entriesInside
      rw [entriesRead, Option.bind_some]
      exact findOrientation?_settles littleEndian inside entries _

theorem app1Orientation?_settles {data : List UInt8} {pos segLen : Nat}
    (long : 8 ≤ segLen) (inside : pos + 2 + segLen ≤ data.length)
    (sound : slice? data (pos + 4) 6 = some exifHeader →
      ¬ OffsetWraps data (pos + 10) (segLen - 8)) :
    Settles (app1Orientation? data (pos + 4) (segLen - 2)) := by
  have headerRead := slice?_of_le (show pos + 4 + 6 ≤ data.length by omega)
  rw [app1Orientation?, if_neg (by omega), headerRead]
  simp only [Option.bind_eq_bind, Option.bind_some]
  split_ifs with header
  · rw [headerRead, header] at sound
    exact tiffOrientation?_settles (by omega) (sound rfl)
  · exact settles_goOn

theorem markerPass?_of_wraps {data : List UInt8} {pos : Nat} (wraps : ExifWraps data pos) :
    markerPass? data pos = none := by
  obtain ⟨lead, marker, segLen, lenRead, long, inside, header, offsetWraps⟩ := wraps
  have noOrientation : app1Orientation? data (pos + 4) (segLen - 2) = none := by
    rw [app1Orientation?, if_neg (by omega), header]
    exact tiffOrientation?_of_wraps offsetWraps (by have := offsetWraps.1; omega)
  have notCut : ¬ data.length < pos + 4 := by omega
  have notShort : ¬ (segLen < 2 ∨ data.length < pos + 2 + segLen) := by omega
  simp only [markerPass?, lead, marker, lenRead, Option.bind_eq_bind, Option.bind_some]
  rw [if_neg (by decide), if_neg (by decide), if_neg (by decide), if_neg (by decide),
    if_neg notCut, if_neg notShort, if_pos ⟨trivial, long⟩, noOrientation]
  rfl

theorem markerPass?_bounded {data : List UInt8} {pos : Nat} (room : pos + 4 < data.length)
    (sound : ¬ ExifWraps data pos) :
    ∃ next, markerPass? data pos = some next ∧
      ∀ orientation, next = .done orientation → orientation ≤ 8 := by
  obtain ⟨lead, leadRead⟩ := byteAt?_of_lt (show pos < data.length by omega)
  obtain ⟨marker, markerRead⟩ := byteAt?_of_lt (show pos + 1 < data.length by omega)
  have lenRead := readBe16At?_eq (show pos + 2 + 2 ≤ data.length by omega)
  simp only [markerPass?, leadRead, markerRead, lenRead, Option.bind_eq_bind, Option.bind_some]
  split_ifs with notLead padding last bare cut short app1
  · exact ⟨_, rfl, by simp⟩
  · exact ⟨_, rfl, by simp⟩
  · exact ⟨_, rfl, by simp⟩
  · exact ⟨_, rfl, by simp⟩
  · exact ⟨_, rfl, by simp⟩
  · exact ⟨_, rfl, by simp⟩
  · -- An APP1 segment: the only pass that reads below the marker itself.
    obtain ⟨found, foundRead, bounded⟩ := app1Orientation?_settles app1.2 (by omega)
      (fun header wraps => sound ⟨by rw [leadRead, not_not.mp notLead], by rw [markerRead, app1.1],
        _, lenRead, app1.2, by omega, header, wraps⟩)
    rw [foundRead, Option.bind_some]
    cases found with
    | none => exact ⟨_, rfl, by simp⟩
    | some orientation => exact ⟨_, rfl, by simpa using bounded⟩
  · exact ⟨_, rfl, by simp⟩

/-- A pass of the marker loop moves on to a position. -/
def Advances (data : List UInt8) (pos next : Nat) : Prop :=
  pos + 4 < data.length ∧
    ∃ count, markerPass? data pos = some (.advance count) ∧ next = pos + count

/-- No marker that the loop comes to from a position is an Exif segment whose
IFD offset wraps around. -/
def NoneWraps (data : List UInt8) (start : Nat) : Prop :=
  ∀ pos, Relation.ReflTransGen (Advances data) start pos → pos + 4 < data.length →
    ¬ ExifWraps data pos

theorem noneWraps_of_last {data : List UInt8} {start : Nat}
    (last : ∀ next, ¬ Advances data start next)
    (sound : start + 4 < data.length → ¬ ExifWraps data start) : NoneWraps data start := by
  intro pos walk room
  cases walk.cases_head with
  | inl same =>
      subst same
      exact sound room
  | inr further =>
      obtain ⟨next, advances, -⟩ := further
      exact absurd advances (last next)

theorem noneWraps_of_advances {data : List UInt8} {start next : Nat}
    (advances : Advances data start next) :
    NoneWraps data start ↔ ¬ ExifWraps data start ∧ NoneWraps data next := by
  constructor
  · intro none
    exact ⟨none start .refl advances.1, fun pos walk => none pos (walk.head advances)⟩
  · rintro ⟨sound, none⟩ pos walk room
    cases walk.cases_head with
    | inl same => rwa [← same]
    | inr further =>
        obtain ⟨other, otherAdvances, rest⟩ := further
        obtain ⟨-, count, passed, rfl⟩ := advances
        obtain ⟨-, otherCount, otherPassed, rfl⟩ := otherAdvances
        rw [passed, Option.some.injEq, Pass.advance.injEq] at otherPassed
        exact none pos (otherPassed ▸ rest) room

theorem markerLoop?_bounded_iff (data : List UInt8) (pos : Nat) :
    (∃ orientation ≤ 8, markerLoop? data pos = some orientation) ↔ NoneWraps data pos := by
  induction pos using markerLoop?.induct data with
  | case1 pos room stuck =>
      have wraps : ExifWraps data pos := by
        by_contra sound
        obtain ⟨next, passed, -⟩ := markerPass?_bounded room sound
        rw [passed] at stuck
        exact Option.some_ne_none next stuck
      rw [markerLoop?, if_pos room, stuck]
      simp only [reduceCtorEq, and_false, exists_false, false_iff]
      exact fun none => none pos .refl room wraps
  | case2 pos room orientation passed =>
      have sound : ¬ ExifWraps data pos := fun wraps =>
        Option.some_ne_none _ (passed.symm.trans (markerPass?_of_wraps wraps))
      obtain ⟨next, nextPassed, bounded⟩ := markerPass?_bounded room sound
      have last : ∀ other, ¬ Advances data pos other := by
        rintro other ⟨-, count, advanced, -⟩
        rw [passed, Option.some.injEq] at advanced
        exact Pass.noConfusion advanced
      rw [passed, Option.some.injEq] at nextPassed
      rw [markerLoop?, if_pos room, passed]
      exact iff_of_true ⟨orientation, bounded orientation nextPassed.symm, rfl⟩
        (noneWraps_of_last last fun _ => sound)
  | case3 pos room count passed ih =>
      have sound : ¬ ExifWraps data pos := fun wraps =>
        Option.some_ne_none _ (passed.symm.trans (markerPass?_of_wraps wraps))
      rw [markerLoop?, if_pos room, passed]
      rw [noneWraps_of_advances ⟨room, count, passed, rfl⟩, ← ih]
      exact (and_iff_right sound).symm
  | case4 pos noRoom =>
      rw [markerLoop?, if_neg noRoom]
      exact iff_of_true ⟨0, Nat.zero_le 8, rfl⟩
        (noneWraps_of_last (fun next advances => noRoom advances.1) fun room => absurd room noRoom)

/-- The data is long enough and begins as a JPEG file. -/
def IsJpeg (data : List UInt8) : Prop :=
  12 ≤ data.length ∧ byteAt? data 0 = some 0xFF ∧ byteAt? data 1 = some 0xD8

instance (data : List UInt8) : Decidable (IsJpeg data) :=
  inferInstanceAs (Decidable (_ ∧ _))

theorem getJpegOrientation?_of_jpeg {data : List UInt8} (jpeg : IsJpeg data) :
    getJpegOrientation? data = markerLoop? data 2 := by
  obtain ⟨long, first, second⟩ := jpeg
  simp [getJpegOrientation?, Nat.not_lt.mpr long, first, second]

theorem getJpegOrientation?_of_not_jpeg {data : List UInt8} (other : ¬ IsJpeg data) :
    getJpegOrientation? data = some 0 := by
  rw [getJpegOrientation?]
  split_ifs with short
  · rfl
  obtain ⟨first, firstRead⟩ := byteAt?_of_lt (show 0 < data.length by omega)
  obtain ⟨second, secondRead⟩ := byteAt?_of_lt (show 1 < data.length by omega)
  simp only [firstRead, secondRead, Option.bind_eq_bind, Option.bind_some]
  rw [if_pos]
  by_contra same
  obtain ⟨isFirst, isSecond⟩ := not_or.mp same
  exact other ⟨Nat.le_of_not_lt short, by rw [firstRead, not_not.mp isFirst],
    by rw [secondRead, not_not.mp isSecond]⟩

/-- The orientation is read inside the data, and is one of the values of the
tag or zero, exactly when no Exif segment that the marker loop comes to has an
IFD offset that wraps around. -/
theorem orientation_bounded_iff (data : List UInt8) :
    (∃ orientation ≤ 8, getJpegOrientation? data = some orientation) ↔
      (IsJpeg data → NoneWraps data 2) := by
  by_cases jpeg : IsJpeg data
  · rw [getJpegOrientation?_of_jpeg jpeg, markerLoop?_bounded_iff]
    exact (imp_iff_right jpeg).symm
  · rw [getJpegOrientation?_of_not_jpeg jpeg]
    exact iff_of_true ⟨0, Nat.zero_le 8, rfl⟩ (fun isJpeg => absurd isJpeg jpeg)

/-- Twenty bytes: the header, and an Exif segment with the IFD offset 2^32 - 2. -/
def wrappingJpeg : List UInt8 :=
  [0xFF, 0xD8, 0xFF, 0xE1, 0, 0x10, 0x45, 0x78, 0x69, 0x66, 0, 0, 0x49, 0x49, 0x2A, 0,
    0xFE, 0xFF, 0xFF, 0xFF]

theorem wrapping_offset_reads_outside :
    ¬ ∀ data : List UInt8, ∃ orientation ≤ 8, getJpegOrientation? data = some orientation := by
  intro inside
  obtain ⟨orientation, -, read⟩ := inside wrappingJpeg
  have stuck : markerPass? wrappingJpeg 2 = none := by decide
  have lost : markerLoop? wrappingJpeg 2 = none := by
    rw [markerLoop?, stuck]
    rfl
  rw [getJpegOrientation?_of_jpeg (by decide), lost] at read
  exact Option.some_ne_none orientation read.symm

end ExifOrientation

end CarplayRgi
