import CarplayRgi.BusTextCodec
import CarplayRgi.RgdSnapshotContents

/-!
# Reading a route-guidance frame

The keys of route guidance are usable keys, so the receiver keeps the records
of a frame in order, and a lookup finds the first record with a key as long as
there are at most 512 records.
-/

namespace CarplayRgi

open DecimalText Utf8Text

namespace RgdRecord

/-- A record of a snapshot as a line of the frame. -/
def line (record : RgdRecord) : TextLine :=
  ⟨encode record.key.text, record.value.typeByte, record.value.rendered⟩

theorem line_bytes (record : RgdRecord) : record.line.bytes = record.render := rfl

end RgdRecord

theorem not_mem_encode_key {byte : UInt8} (ascii : byte.toNat < 0x80)
    (notPlain : RgdKey.plainChar (Char.ofNat byte.toNat) = false) (key : RgdKey) :
    byte ∉ encode key.text := by
  intro member
  have plain := key.text_plain _ (mem_encode_ascii member ascii)
  rw [notPlain] at plain
  cases plain

theorem usableKey_text (key : RgdKey) : TextLine.UsableKey (encode key.text) where
  nonempty := fun empty => key.text_ne_nil (encode_eq_nil.mp empty)
  noColon := not_mem_encode_key (by decide) (by decide) key
  noNewline := not_mem_encode_key (by decide) (by decide) key
  noHeader := fun isHeader => not_mem_encode_key (by decide) (by decide) key
    (List.mem_of_mem_head? isHeader)

theorem RgdRecord.line_plain (record : RgdRecord) : record.line.Plain := by
  obtain ⟨key, value⟩ := record
  cases value with
  | str bytes =>
      refine ⟨usableKey_text key, .inl rfl, ?_⟩
      intro newline
      obtain ⟨byte, -, isNewline⟩ := List.mem_map.mp newline
      exact sanitizeByte_ne_newline byte isNewline
  | num value => exact ⟨usableKey_text key, .inr rfl, TextRecord.newline_not_mem_decimal value⟩

/-- A value as the receiver has it. -/
def BusValue.received : BusValue → List Char
  | .str bytes => receivedText bytes
  | .num value => decimal value

theorem decode_rendered (value : BusValue) : decode value.rendered = value.received := by
  cases value with
  | str bytes => rfl
  | num value => exact decode_encode _

/-- The records of a frame. -/
theorem filterMap_frameText (records : List RgdRecord) :
    ((decode (frameText records)).splitOn '\n').filterMap lineRecord =
      records.map fun record => (record.key.text, record.value.received) := by
  have plain : ∀ line ∈ records.map RgdRecord.line, line.Plain := by
    intro line member
    obtain ⟨record, -, rfl⟩ := List.mem_map.mp member
    exact record.line_plain
  have shape : frameText records =
      64 :: encode BusObject.routeguidance.text ++ 10 ::
        (records.map RgdRecord.line).flatMap TextLine.bytes := by
    rw [frameText, List.flatMap_map]
    simp only [RgdRecord.line_bytes]
    rw [show encode "@routeguidance\n".toList = 64 :: encode BusObject.routeguidance.text ++ [10] by
      decide]
    simp
  rw [shape, filterMap_lines (newline_not_mem_object .routeguidance) plain, List.map_map]
  refine List.map_congr_left fun record _ => ?_
  simp [RgdRecord.line, decode_encode, decode_rendered]

/-- The records of a frame as the receiver keeps them. -/
theorem parseText_frameText (records : List RgdRecord) :
    (parseText (frameText records)).records =
      (records.map fun record => (record.key.text, record.value.received)).take dataMax := by
  rw [parseText_records, filterMap_frameText]

/-- What the receiver has of the records of a frame. -/
def readRecords (records : List RgdRecord) : BusData :=
  ⟨(records.map fun record => (record.key.text, record.value.received)).take dataMax,
    List.length_take_le _ _⟩

theorem parseText_eq_readRecords (records : List RgdRecord) :
    parseText (frameText records) = readRecords records := by
  have recordsEq := parseText_frameText records
  generalize parseText (frameText records) = data at recordsEq
  cases data
  cases recordsEq
  rfl

/-- A frame with few enough records is read completely. -/
theorem str_frameText {records : List RgdRecord} (few : records.length ≤ dataMax) (key : RgdKey) :
    (parseText (frameText records)).str key.text =
      (valueOf records key).map BusValue.received := by
  rw [BusData.str, parseText_frameText, List.take_of_length_le (by simpa using few),
    List.find?_map, Option.map_map, valueOf, Option.map_map]
  have sameTest : ((fun record : List Char × List Char => decide (record.1 = key.text)) ∘
      fun record : RgdRecord => (record.key.text, record.value.received)) =
        fun record => decide (record.key = key) := by
    funext record
    simp [RgdKey.text_injective.eq_iff]
  rw [sameTest]
  rfl

end CarplayRgi
