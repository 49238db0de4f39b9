import CarplayRgi.BusData
import CarplayRgi.BusText

/-!
# Round trip of text frames

The records that the C builder has written are the records that the Java
parser keeps, in order, as long as there are at most 512 of them.  Values are
sanitized when they are written, so that no value can end its line.
-/

namespace CarplayRgi

open DecimalText Utf8Text

/-- A record as it stands in a frame. -/
structure TextLine where
  key : List UInt8
  type : UInt8
  value : List UInt8

namespace TextLine

def bytes (line : TextLine) : List UInt8 :=
  line.key ++ ([58, line.type, 58] ++ (line.value ++ [10]))

/-- A key that the parser takes for one. -/
structure UsableKey (key : List UInt8) : Prop where
  nonempty : key ≠ []
  noColon : (58 : UInt8) ∉ key
  noNewline : (10 : UInt8) ∉ key
  noHeader : key.head? ≠ some 64

/-- A line with a usable key, one of the two types and one line of value. -/
structure Plain (line : TextLine) : Prop where
  key : UsableKey line.key
  type : line.type = 115 ∨ line.type = 110
  value : (10 : UInt8) ∉ line.value

/-- What the parser reads. -/
def decoded (line : TextLine) : List Char :=
  decode line.key ++ ':' :: Char.ofNat line.type.toNat :: ':' :: decode line.value

theorem not_mem_decode {byte : UInt8} {bytes : List UInt8} (ascii : byte.toNat < 0x80)
    (free : byte ∉ bytes) : Char.ofNat byte.toNat ∉ decode bytes := by
  intro member
  obtain ⟨found, inBytes, same⟩ :=
    mem_decode_ascii member (by rw [toNat_ofNat_small ascii]; exact ascii)
  rw [toNat_ofNat_small ascii] at same
  exact free (UInt8.toNat_inj.mp same ▸ inBytes)

theorem Plain.type_ascii {line : TextLine} (plain : line.Plain) : line.type.toNat < 0x80 := by
  rcases plain.type with isString | isNumber
  · rw [isString]
    decide
  · rw [isNumber]
    decide

theorem decode_bytes {line : TextLine} (plain : line.Plain) (rest : List UInt8) :
    decode (line.bytes ++ rest) = line.decoded ++ '\n' :: decode rest := by
  have shape : line.bytes ++ rest =
      line.key ++ 58 :: ([] ++ line.type :: ([] ++ 58 :: (line.value ++ 10 :: rest))) := by
    simp [bytes]
  rw [shape, decode_append_ascii _ _ (by decide), decode_append_ascii _ _ plain.type_ascii,
    decode_append_ascii _ _ (by decide), decode_append_ascii _ _ (by decide)]
  simp [decoded]

theorem newline_not_mem_decoded {line : TextLine} (plain : line.Plain) : '\n' ∉ line.decoded := by
  have inKey := not_mem_decode (by decide) plain.key.noNewline
  have inValue := not_mem_decode (by decide) plain.value
  have notType : '\n' ≠ Char.ofNat line.type.toNat := by
    rcases plain.type with isString | isNumber
    · rw [isString]
      decide
    · rw [isNumber]
      decide
  intro member
  simp only [decoded, List.mem_append, List.mem_cons] at member
  rcases member with key | colon | type | colon | value
  · exact inKey key
  · cases colon
  · exact notType type
  · cases colon
  · exact inValue value

theorem UsableKey.decode_ne_nil {key : List UInt8} (usable : UsableKey key) : decode key ≠ [] := by
  cases keyEq : key with
  | nil => exact absurd keyEq usable.nonempty
  | cons lead bytes =>
      obtain ⟨char, rest, decoded, -⟩ := decode_cons_head lead bytes
      simp [decoded]

theorem UsableKey.decode_head {key : List UInt8} (usable : UsableKey key) :
    (decode key).head? ≠ some '@' := by
  cases keyEq : key with
  | nil => simp
  | cons lead bytes =>
      obtain ⟨char, rest, decoded, same | above⟩ := decode_cons_head lead bytes
      · rw [decoded, List.head?_cons]
        intro isHeader
        obtain rfl := Option.some.inj isHeader
        have leadIs : lead = 64 := UInt8.toNat_inj.mp same.symm
        exact usable.noHeader (by rw [keyEq, leadIs]; rfl)
      · rw [decoded, List.head?_cons]
        intro isHeader
        obtain rfl := Option.some.inj isHeader
        exact absurd above (by decide)

theorem lineRecord_decoded {line : TextLine} (plain : line.Plain) :
    lineRecord line.decoded = some (decode line.key, decode line.value) := by
  refine lineRecord_typed plain.key.decode_ne_nil plain.key.decode_head
    (not_mem_decode (by decide) plain.key.noColon) ?_ _
  rcases plain.type with isString | isNumber
  · rw [isString]
    decide
  · rw [isNumber]
    decide

theorem decode_flatMap_bytes {lines : List TextLine} (plain : ∀ line ∈ lines, line.Plain) :
    decode (lines.flatMap bytes) = (lines.map decoded).flatMap fun line => line ++ ['\n'] := by
  induction lines with
  | nil => rfl
  | cons line lines ih =>
      rw [List.flatMap_cons, decode_bytes (plain line List.mem_cons_self),
        ih fun other member => plain other (List.mem_cons_of_mem line member)]
      simp

theorem filterMap_decoded {lines : List TextLine} (plain : ∀ line ∈ lines, line.Plain) :
    (lines.map decoded).filterMap lineRecord =
      lines.map fun line => (decode line.key, decode line.value) := by
  induction lines with
  | nil => rfl
  | cons line lines ih =>
      rw [List.map_cons,
        List.filterMap_cons_some (lineRecord_decoded (plain line List.mem_cons_self)),
        ih fun other member => plain other (List.mem_cons_of_mem line member), List.map_cons]

end TextLine

/-- Every line of a frame but its header has a record. -/
theorem filterMap_lines {name : List UInt8} (named : (10 : UInt8) ∉ name) {lines : List TextLine}
    (plain : ∀ line ∈ lines, line.Plain) :
    ((decode (64 :: name ++ 10 :: lines.flatMap TextLine.bytes)).splitOn '\n').filterMap
        lineRecord =
      lines.map fun line => (decode line.key, decode line.value) := by
  have header : decode (64 :: name) = '@' :: decode name :=
    @decode_append_ascii [] name 64 (by decide)
  have text : decode (64 :: name ++ 10 :: lines.flatMap TextLine.bytes) =
      ((('@' :: decode name) :: lines.map TextLine.decoded)).flatMap fun line => line ++ ['\n'] := by
    rw [decode_append_ascii _ _ (by decide), header, TextLine.decode_flatMap_bytes plain]
    simp
  have free : ∀ line ∈ ('@' :: decode name) :: lines.map TextLine.decoded, '\n' ∉ line := by
    intro line member
    rcases List.mem_cons.mp member with rfl | inLines
    · intro newline
      rcases List.mem_cons.mp newline with isHeader | inName
      · cases isHeader
      · exact TextLine.not_mem_decode (by decide) named inName
    · obtain ⟨source, sourceMem, rfl⟩ := List.mem_map.mp inLines
      exact TextLine.newline_not_mem_decoded (plain source sourceMem)
  have skipsHeader : lineRecord ('@' :: decode name) = none := if_pos (.inr rfl)
  have skipsEnd : [([] : List Char)].filterMap lineRecord = [] := rfl
  rw [text, splitOn_lines free, List.filterMap_append, skipsEnd, List.append_nil,
    List.filterMap_cons_none skipsHeader, TextLine.filterMap_decoded plain]

/-- The parser keeps the records of a frame, up to the capacity of its table. -/
theorem parseText_lines {name : List UInt8} (named : (10 : UInt8) ∉ name) {lines : List TextLine}
    (plain : ∀ line ∈ lines, line.Plain) :
    (parseText (64 :: name ++ 10 :: lines.flatMap TextLine.bytes)).records =
      (lines.map fun line => (decode line.key, decode line.value)).take dataMax := by
  rw [parseText_records, filterMap_lines named plain]

/-- The first line with a key is the one that a lookup finds. -/
theorem str_of_records {data : BusData} {lines : List TextLine}
    (recordsEq : data.records = lines.map fun line => (decode line.key, decode line.value))
    (key : List Char) :
    data.str key = (lines.find? fun line => decide (decode line.key = key)).map
      fun line => decode line.value := by
  rw [BusData.str, recordsEq, List.find?_map, Option.map_map]
  rfl

/-- What `bus_text_str`, `bus_text_int` and `bus_text_uint` write. -/
inductive TextValue where
  | str (bytes : List UInt8)
  | int (value : Int64)
  | uint (value : UInt64)

/-- A record with any key; the strings are C strings. -/
structure TextRecord where
  key : List UInt8
  value : TextValue

/-- The objects that the callers name in the first line. -/
inductive BusObject where
  | routeguidance
  | coverart

def BusObject.text : BusObject → List Char
  | .routeguidance => "routeguidance".toList
  | .coverart => "coverart".toList

namespace BusTextBuilder

/-- `bus_text_begin_with`. -/
def busTextBeginWith (object : BusObject) (cap : Nat) : BusTextBuilder :=
  btAppend (btAppend (btAppend ⟨[], 0, cap, false⟩ (encode "@".toList)) (encode object.text))
    (encode "\n".toList)

end BusTextBuilder

namespace TextRecord

/-- The number of a record that holds one. -/
def number? (record : TextRecord) : Option Int :=
  match record.value with
  | .str _ => none
  | .int value => some value.toInt
  | .uint value => some value.toNat

def write (b : BusTextBuilder) (record : TextRecord) : BusTextBuilder :=
  match record.value with
  | .str bytes => b.busTextStr record.key bytes
  | .int value => b.busTextNumber record.key value.toInt
  | .uint value => b.busTextNumber record.key value.toNat

/-- The line that a record is written as. -/
def line (record : TextRecord) : TextLine :=
  match record.value with
  | .str bytes => ⟨record.key, 115, bytes.map BusTextBuilder.sanitizeByte⟩
  | .int value => ⟨record.key, 110, encode (decimal value.toInt)⟩
  | .uint value => ⟨record.key, 110, encode (decimal value.toNat)⟩

@[simp]
theorem line_key (record : TextRecord) : record.line.key = record.key := by
  unfold line
  split <;> rfl

theorem holds_str {b : BusTextBuilder} {text : List UInt8} (holds : b.Holds text)
    (key bytes : List UInt8) : (b.busTextStr key bytes).Holds
      (text ++ (⟨key, 115, bytes.map BusTextBuilder.sanitizeByte⟩ : TextLine).bytes) := by
  have written := (((holds.btAppend key).btAppend [58, 115, 58]).btAppendSanitized bytes).btAppend
    [10]
  simpa [BusTextBuilder.busTextStr, BusTextBuilder.btKvBegin, BusTextBuilder.btNl,
    TextLine.bytes] using written

theorem holds_number {b : BusTextBuilder} {text : List UInt8} (holds : b.Holds text)
    (key : List UInt8) (value : Int) : (b.busTextNumber key value).Holds
      (text ++ (⟨key, 110, encode (decimal value)⟩ : TextLine).bytes) := by
  have written := (((holds.btAppend key).btAppend [58, 110, 58]).btAppend
    (encode (decimal value))).btAppend [10]
  simpa [BusTextBuilder.busTextNumber, BusTextBuilder.btKvBegin, BusTextBuilder.btNl,
    TextLine.bytes] using written

theorem holds_write {b : BusTextBuilder} {text : List UInt8} (holds : b.Holds text)
    (record : TextRecord) : (write b record).Holds (text ++ record.line.bytes) := by
  obtain ⟨key, value⟩ := record
  cases value with
  | str bytes => exact holds_str holds key bytes
  | int value => exact holds_number holds key value.toInt
  | uint value => exact holds_number holds key value.toNat

end TextRecord

/-- Write records into an empty builder. -/
def buildText (cap : Nat) (object : BusObject) (records : List TextRecord) : BusTextBuilder :=
  records.foldl TextRecord.write (BusTextBuilder.busTextBeginWith object cap)

/-- The text of a frame with the given records. -/
def textOf (object : BusObject) (records : List TextRecord) : List UInt8 :=
  64 :: encode object.text ++ 10 :: (records.map TextRecord.line).flatMap TextLine.bytes

theorem holds_beginWith (object : BusObject) (cap : Nat) :
    (BusTextBuilder.busTextBeginWith object cap).Holds (textOf object []) := by
  have empty : (⟨[], 0, cap, false⟩ : BusTextBuilder).Holds [] := by
    simp [BusTextBuilder.Holds]
  have begun := ((empty.btAppend (encode "@".toList)).btAppend (encode object.text)).btAppend
    (encode "\n".toList)
  have joined : [] ++ encode "@".toList ++ encode object.text ++ encode "\n".toList =
      textOf object [] := by
    cases object <;> decide
  rwa [joined] at begun

theorem textOf_cons (object : BusObject) (records : List TextRecord) :
    textOf object records =
      textOf object [] ++ (records.map TextRecord.line).flatMap TextLine.bytes := by
  simp [textOf]

theorem holds_foldl_textRecord {b : BusTextBuilder} {text : List UInt8} (holds : b.Holds text)
    (records : List TextRecord) :
    (records.foldl TextRecord.write b).Holds
      (text ++ (records.map TextRecord.line).flatMap TextLine.bytes) := by
  induction records generalizing b text with
  | nil => simpa using holds
  | cons record records ih =>
      simpa [List.append_assoc] using ih (TextRecord.holds_write holds record)

theorem buildText_holds (cap : Nat) (object : BusObject) (records : List TextRecord) :
    (buildText cap object records).Holds (textOf object records) := by
  rw [textOf_cons]
  exact holds_foldl_textRecord (holds_beginWith object cap) records

theorem TextRecord.write_cap (b : BusTextBuilder) (record : TextRecord) :
    (TextRecord.write b record).cap = b.cap := by
  obtain ⟨key, value⟩ := record
  cases value <;>
    simp [TextRecord.write, BusTextBuilder.busTextStr, BusTextBuilder.busTextNumber,
      BusTextBuilder.btKvBegin, BusTextBuilder.btNl, BusTextBuilder.btAppendSanitized_cap]

theorem buildText_cap (cap : Nat) (object : BusObject) (records : List TextRecord) :
    (buildText cap object records).cap = cap := by
  have kept : ∀ b : BusTextBuilder, (records.foldl TextRecord.write b).cap = b.cap := by
    induction records with
    | nil => exact fun _ => rfl
    | cons record records ih => exact fun b => (ih _).trans (TextRecord.write_cap b record)
  rw [buildText, kept]
  simp [BusTextBuilder.busTextBeginWith]

/-- A finished text is sent when it fits the buffer. -/
theorem busSendText_buildText (cap : Nat) (object : BusObject) (records : List TextRecord) :
    (buildText cap object records).busSendText =
      if (textOf object records).length ≤ cap then some (textOf object records) else none := by
  have holds := buildText_holds cap object records
  unfold BusTextBuilder.Holds at holds
  rw [buildText_cap] at holds
  split at holds
  · simp [BusTextBuilder.busSendText, *]
  · simp [BusTextBuilder.busSendText, *]

/-- A control character is written as a space. -/
def spaceControl (char : Char) : Char :=
  if char.toNat < 0x20 then ' ' else char

theorem sanitizeByte_of_le {byte : UInt8} (visible : 0x20 ≤ byte.toNat) :
    BusTextBuilder.sanitizeByte byte = byte :=
  if_neg (by omega)

theorem sanitizeByte_ne_newline (byte : UInt8) : BusTextBuilder.sanitizeByte byte ≠ 10 := by
  unfold BusTextBuilder.sanitizeByte
  split
  · decide
  · rename_i visible
    rintro rfl
    exact visible (by decide)

theorem visible_of_mem_encodeChar {char : Char} {byte : UInt8} (visible : 0x20 ≤ char.val.toNat)
    (member : byte ∈ String.utf8EncodeChar char) : 0x20 ≤ byte.toNat := by
  by_cases ascii : byte.toNat < 0x80
  · rw [mem_encodeChar_ascii member ascii] at visible
    rwa [← toNat_ofNat_small ascii]
  · omega

theorem sanitize_encodeChar (char : Char) :
    (String.utf8EncodeChar char).map BusTextBuilder.sanitizeByte =
      String.utf8EncodeChar (spaceControl char) := by
  unfold spaceControl
  split
  · rename_i control
    have small : char.val.toNat < 0x20 := control
    have one : String.utf8EncodeChar char = [UInt8.ofNat char.val.toNat] := by
      simp only [String.utf8EncodeChar]
      rw [if_pos (by omega)]
    have byte : (UInt8.ofNat char.val.toNat).toNat < 0x20 := by
      rw [toNat_ofNat_of_lt (by omega)]
      exact small
    rw [one, List.map_singleton, BusTextBuilder.sanitizeByte, if_pos byte]
    decide
  · rename_i visible
    have large : 0x20 ≤ char.val.toNat := Nat.le_of_not_lt visible
    refine (List.map_congr_left fun byte member => ?_).trans (List.map_id _)
    exact sanitizeByte_of_le (visible_of_mem_encodeChar large member)

theorem encode_spaceControl (text : List Char) :
    encode (text.map spaceControl) = (encode text).map BusTextBuilder.sanitizeByte := by
  induction text with
  | nil => rfl
  | cons char text ih =>
      have split : ∀ other : Char, ∀ rest, encode (other :: rest) =
          String.utf8EncodeChar other ++ encode rest := fun _ _ => rfl
      rw [List.map_cons, split, split, List.map_append, ih, sanitize_encodeChar]

/-- A string value as the receiver has it. -/
def receivedText (bytes : List UInt8) : List Char :=
  decode (bytes.map BusTextBuilder.sanitizeByte)

theorem receivedText_encode {text : List Char} (visible : ∀ char ∈ text, 0x20 ≤ char.toNat) :
    receivedText (encode text) = text := by
  have kept : text.map spaceControl = text := by
    refine (List.map_congr_left fun char member => ?_).trans (List.map_id _)
    exact if_neg (Nat.not_lt.mpr (visible char member))
  rw [receivedText, ← encode_spaceControl, decode_encode, kept]

namespace TextRecord

/-- The conditions on a record: a usable key, and a string of valid UTF-8. -/
structure Sound (record : TextRecord) : Prop where
  key : TextLine.UsableKey record.key
  utf8 : ∀ bytes, record.value = .str bytes → ∃ text, bytes = encode text

/-- The text that a value reads as: a string with its control bytes replaced,
or the numeral of a number. -/
def ReadsAs (record : TextRecord) (text : List Char) : Prop :=
  match record.value with
  | .str bytes => encode text = bytes.map BusTextBuilder.sanitizeByte
  | .int value => text = decimal value.toInt
  | .uint value => text = decimal value.toNat

theorem newline_not_mem_decimal (number : Int) : (10 : UInt8) ∉ encode (decimal number) := by
  intro member
  obtain ⟨char, inNumeral, inBytes⟩ := List.mem_flatMap.mp member
  have visible := visible_of_mem_encodeChar (Nat.le_of_lt (decimal_visible number char inNumeral))
    inBytes
  exact absurd visible (by decide)

theorem line_plain {record : TextRecord} (usable : TextLine.UsableKey record.key) :
    record.line.Plain := by
  obtain ⟨key, value⟩ := record
  cases value with
  | str bytes =>
      refine ⟨usable, .inl rfl, ?_⟩
      intro newline
      obtain ⟨byte, -, isNewline⟩ := List.mem_map.mp newline
      exact sanitizeByte_ne_newline byte isNewline
  | int value => exact ⟨usable, .inr rfl, newline_not_mem_decimal _⟩
  | uint value => exact ⟨usable, .inr rfl, newline_not_mem_decimal _⟩

theorem readsAs_decode {record : TextRecord} (sound : record.Sound) :
    record.ReadsAs (decode record.line.value) := by
  obtain ⟨key, value⟩ := record
  cases value with
  | str bytes =>
      obtain ⟨text, rfl⟩ := sound.utf8 bytes rfl
      change encode (decode ((encode text).map BusTextBuilder.sanitizeByte)) = _
      rw [← encode_spaceControl, decode_encode]
  | int value => exact decode_encode _
  | uint value => exact decode_encode _

theorem decode_line_of_number {record : TextRecord} {number : Int}
    (holdsNumber : record.number? = some number) :
    decode record.line.value = decimal number := by
  obtain ⟨key, value⟩ := record
  cases value with
  | str bytes => cases holdsNumber
  | int value =>
      obtain rfl := Option.some.inj holdsNumber
      exact decode_encode _
  | uint value =>
      obtain rfl := Option.some.inj holdsNumber
      exact decode_encode _

end TextRecord

/-- The first record with a key, as the receiver compares keys.  A key that is
UTF-8 text is found under that text only. -/
def firstWith (records : List TextRecord) (key : List Char) : Option TextRecord :=
  records.find? fun record => decide (decode record.key = key)

theorem newline_not_mem_object (object : BusObject) : (10 : UInt8) ∉ encode object.text := by
  cases object <;> decide

/-- A lookup in a received frame finds the first record with the key. -/
theorem str_textOf (object : BusObject) {records : List TextRecord}
    (few : records.length ≤ dataMax)
    (usable : ∀ record ∈ records, TextLine.UsableKey record.key) (key : List Char) :
    (parseText (textOf object records)).str key =
      (firstWith records key).map fun record => decode record.line.value := by
  have plain : ∀ line ∈ records.map TextRecord.line, line.Plain := by
    intro line member
    obtain ⟨record, recordMem, rfl⟩ := List.mem_map.mp member
    exact TextRecord.line_plain (usable record recordMem)
  have recordsEq := parseText_lines (newline_not_mem_object object) plain
  rw [List.take_of_length_le (by simpa using few)] at recordsEq
  rw [textOf, str_of_records recordsEq, List.find?_map, Option.map_map, firstWith]
  simp only [Function.comp_def, TextRecord.line_key]

/-- Without one record the other keys are found as before. -/
theorem firstWith_without {before after : List TextRecord} {record : TextRecord} {key : List Char}
    (other : decode record.key ≠ key) :
    firstWith (before ++ record :: after) key = firstWith (before ++ after) key := by
  simp [firstWith, List.find?_append, other]

theorem length_textOf_without (object : BusObject) (before after : List TextRecord)
    (record : TextRecord) :
    (textOf object (before ++ after)).length ≤
      (textOf object (before ++ record :: after)).length := by
  simp only [textOf, List.map_append, List.map_cons, List.flatMap_append, List.flatMap_cons,
    List.length_append, List.length_cons]
  omega

/-- What a receiver reads from a finished text: every key has the value of its
first record, numbers are exact, and no record has a say in another key. -/
structure RoundTrip (cap : Nat) (object : BusObject) (records : List TextRecord)
    (payload : List UInt8) : Prop where
  present : ∀ key record, firstWith records key = some record →
    ∃ text, (parseText payload).str key = some text ∧ record.ReadsAs text
  absent : ∀ key, firstWith records key = none → (parseText payload).str key = none
  number : ∀ key record number, firstWith records key = some record →
    record.number? = some number → Fits 64 number →
      ∀ default, (parseText payload).num64 key default = number
  separate : ∀ before record after, records = before ++ record :: after →
    ∃ other, (buildText cap object (before ++ after)).busSendText = some other ∧
      ∀ key, decode record.key ≠ key → (parseText other).str key = (parseText payload).str key

/-- Records whose text fits the buffer are sent, and read as they were written. -/
theorem parseText_finished {cap : Nat} {object : BusObject} {records : List TextRecord}
    (few : records.length ≤ 512) (sound : ∀ record ∈ records, record.Sound)
    (fits : (textOf object records).length ≤ cap) :
    ∃ payload, (buildText cap object records).busSendText = some payload ∧
      RoundTrip cap object records payload := by
  have usable : ∀ record ∈ records, TextLine.UsableKey record.key :=
    fun record member => (sound record member).key
  have lookup := str_textOf object few usable
  refine ⟨textOf object records, by rw [busSendText_buildText, if_pos fits], ?_, ?_, ?_, ?_⟩
  · intro key record isFirst
    refine ⟨decode record.line.value, ?_, ?_⟩
    · rw [lookup, isFirst, Option.map_some]
    · exact TextRecord.readsAs_decode (sound record (List.mem_of_find?_eq_some isFirst))
  · intro key noRecord
    rw [lookup, noRecord, Option.map_none]
  · intro key record number isFirst holdsNumber fitsLong default
    rw [BusData.num64, lookup, isFirst, Option.map_some, Option.bind_some,
      TextRecord.decode_line_of_number holdsNumber, parseLong_decimal fitsLong, Option.getD_some]
  · rintro before record after rfl
    have shorter := length_textOf_without object before after record
    refine ⟨textOf object (before ++ after), ?_, fun key other => ?_⟩
    · rw [busSendText_buildText, if_pos (shorter.trans fits)]
    · have fewer : (before ++ after).length ≤ 512 := by
        simp only [List.length_append, List.length_cons] at few ⊢
        omega
      rw [lookup, str_textOf object fewer, firstWith_without other]
      intro kept member
      refine usable kept ?_
      rcases List.mem_append.mp member with inBefore | inAfter
      · exact List.mem_append_left _ inBefore
      · exact List.mem_append_right _ (List.mem_cons_of_mem _ inAfter)

/-- Two records under one key and a string that holds a colon. -/
def roadRecords : List TextRecord :=
  [⟨encode "current_road".toList, .str (encode "A8: München\tOst".toList)⟩,
    ⟨encode "dist_dest_m".toList, .uint 4200⟩, ⟨encode "dist_dest_m".toList, .int (-1)⟩]

theorem parseText_finished_road : ∃ payload,
    (buildText busTextBuilderLargeCap .routeguidance roadRecords).busSendText = some payload ∧
      RoundTrip busTextBuilderLargeCap .routeguidance roadRecords payload := by
  refine parseText_finished (by decide) ?_ (by decide +kernel)
  intro record member
  simp only [roadRecords, List.mem_cons, List.not_mem_nil, or_false] at member
  rcases member with rfl | rfl | rfl
  · exact ⟨⟨by decide, by decide, by decide, by decide⟩,
      fun bytes isString => ⟨_, (TextValue.str.inj isString).symm⟩⟩
  · exact ⟨⟨by decide, by decide, by decide, by decide⟩, fun bytes isString => by cases isString⟩
  · exact ⟨⟨by decide, by decide, by decide, by decide⟩, fun bytes isString => by cases isString⟩

end CarplayRgi
