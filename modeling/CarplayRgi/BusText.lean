import CarplayRgi.GuidanceKeys
import CarplayRgi.Utf8Text

/-!
# Text frames of the bus

The builder appends to a buffer of fixed capacity; one append past the
capacity sets a sticky overflow flag, and an overflowed text is never sent.
The main fact is that a builder either holds exactly the rendering of the
records written so far or has overflowed because that rendering is too long.
-/

namespace CarplayRgi

open DecimalText Utf8Text

structure BusTextBuilder where
  buf : List UInt8
  len : Nat
  cap : Nat
  overflow : Bool

/-- `BUS_TEXT_BUILDER_LARGE_CAP`. -/
def busTextBuilderLargeCap : Nat := 64 * 1024

namespace BusTextBuilder

def btAppend (b : BusTextBuilder) (s : List UInt8) : BusTextBuilder :=
  if b.overflow then b
  else if b.cap < b.len + s.length then { b with overflow := true }
  else { b with buf := b.buf ++ s, len := b.len + s.length }

def sanitizeByte (byte : UInt8) : UInt8 :=
  if byte.toNat < 0x20 then 0x20 else byte

def btAppendSanitized (b : BusTextBuilder) (s : List UInt8) : BusTextBuilder :=
  s.foldl (fun b byte => b.btAppend [sanitizeByte byte]) b

def btKvBegin (b : BusTextBuilder) (key : List UInt8) (typeCh : UInt8) : BusTextBuilder :=
  (b.btAppend key).btAppend [58, typeCh, 58]

def btNl (b : BusTextBuilder) : BusTextBuilder := b.btAppend [10]

/-- `bus_text_str`. -/
def busTextStr (b : BusTextBuilder) (key value : List UInt8) : BusTextBuilder :=
  ((b.btKvBegin key 115).btAppendSanitized value).btNl

/-- `bus_text_int` and `bus_text_uint`. -/
def busTextNumber (b : BusTextBuilder) (key : List UInt8) (value : Int) : BusTextBuilder :=
  ((b.btKvBegin key 110).btAppend (encode (decimal value))).btNl

/-- `bus_text_begin_with` for the object name `routeguidance`. -/
def busTextBegin (cap : Nat) : BusTextBuilder :=
  btAppend (btAppend (btAppend ⟨[], 0, cap, false⟩ (encode "@".toList))
    (encode "routeguidance".toList)) (encode "\n".toList)

/-- `bus_send_text` sends what the builder holds, or nothing after an
overflow. -/
def busSendText (b : BusTextBuilder) : Option (List UInt8) :=
  if b.overflow then none else some b.buf

/-- The builder holds `text`, unless `text` does not fit. -/
def Holds (b : BusTextBuilder) (text : List UInt8) : Prop :=
  if text.length ≤ b.cap then b.overflow = false ∧ b.buf = text ∧ b.len = text.length
  else b.overflow = true

theorem Holds.btAppend {b : BusTextBuilder} {text : List UInt8}
    (holds : b.Holds text) (s : List UInt8) :
    (b.btAppend s).Holds (text ++ s) := by
  unfold Holds at holds
  split at holds
  · obtain ⟨notOverflow, rfl, lenEq⟩ := holds
    simp only [BusTextBuilder.btAppend, notOverflow, Bool.false_eq_true, if_false, lenEq]
    split
    · simp [Holds]
      omega
    · simp [Holds]
      omega
  · rename_i tooLong
    have stillTooLong : ¬ (text ++ s).length ≤ b.cap := by
      simp only [List.length_append]
      omega
    simp only [BusTextBuilder.btAppend, holds, if_true]
    simpa only [Holds, if_neg stillTooLong] using holds

@[simp]
theorem btAppend_cap (b : BusTextBuilder) (s : List UInt8) : (b.btAppend s).cap = b.cap := by
  unfold btAppend
  split
  · rfl
  · split <;> rfl

theorem btAppendSanitized_cap (b : BusTextBuilder) (s : List UInt8) :
    (b.btAppendSanitized s).cap = b.cap := by
  unfold btAppendSanitized
  induction s generalizing b with
  | nil => rfl
  | cons byte s ih => simp [ih]

theorem Holds.btAppendSanitized {b : BusTextBuilder} {text : List UInt8}
    (holds : b.Holds text) (s : List UInt8) :
    (b.btAppendSanitized s).Holds (text ++ s.map sanitizeByte) := by
  unfold BusTextBuilder.btAppendSanitized
  induction s generalizing b text with
  | nil => simpa using holds
  | cons byte s ih =>
      have appended := ih (holds.btAppend [sanitizeByte byte])
      simpa [List.append_assoc] using appended

end BusTextBuilder

/-- The value of a record: a string, sanitized when it is written, or a
number. -/
inductive BusValue where
  | str (bytes : List UInt8)
  | num (value : Int)
  deriving DecidableEq

/-- One `key:type:value` record of a route-guidance frame. -/
structure RgdRecord where
  key : RgdKey
  value : BusValue
  deriving DecidableEq

namespace BusValue

def typeByte : BusValue → UInt8
  | .str _ => 115
  | .num _ => 110

def rendered : BusValue → List UInt8
  | .str bytes => bytes.map BusTextBuilder.sanitizeByte
  | .num value => encode (decimal value)

end BusValue

namespace RgdRecord

def render (record : RgdRecord) : List UInt8 :=
  encode record.key.text ++ ([58, record.value.typeByte, 58] ++ (record.value.rendered ++ [10]))

/-- Write the record with the function for its type. -/
def write (b : BusTextBuilder) (record : RgdRecord) : BusTextBuilder :=
  match record.value with
  | .str bytes => b.busTextStr (encode record.key.text) bytes
  | .num value => b.busTextNumber (encode record.key.text) value

theorem holds_write {b : BusTextBuilder} {text : List UInt8}
    (holds : b.Holds text) (record : RgdRecord) :
    (write b record).Holds (text ++ record.render) := by
  obtain ⟨key, value⟩ := record
  cases value with
  | str bytes =>
      have written := (((holds.btAppend (encode key.text)).btAppend
        [58, 115, 58]).btAppendSanitized bytes).btAppend [10]
      simpa [write, BusTextBuilder.busTextStr, BusTextBuilder.btKvBegin,
        BusTextBuilder.btNl, render, BusValue.typeByte, BusValue.rendered] using written
  | num value =>
      have written := (((holds.btAppend (encode key.text)).btAppend
        [58, 110, 58]).btAppend (encode (decimal value))).btAppend [10]
      simpa [write, BusTextBuilder.busTextNumber, BusTextBuilder.btKvBegin,
        BusTextBuilder.btNl, render, BusValue.typeByte, BusValue.rendered] using written

end RgdRecord

/-- The text of a route-guidance frame with the given records. -/
def frameText (records : List RgdRecord) : List UInt8 :=
  encode "@routeguidance\n".toList ++ records.flatMap RgdRecord.render

/-- Write records into an empty builder. -/
def buildFrame (cap : Nat) (records : List RgdRecord) : BusTextBuilder :=
  records.foldl RgdRecord.write (BusTextBuilder.busTextBegin cap)

theorem holds_begin (cap : Nat) :
    (BusTextBuilder.busTextBegin cap).Holds (encode "@routeguidance\n".toList) := by
  have empty : (⟨[], 0, cap, false⟩ : BusTextBuilder).Holds [] := by
    simp [BusTextBuilder.Holds]
  have begun := ((empty.btAppend (encode "@".toList)).btAppend
    (encode "routeguidance".toList)).btAppend (encode "\n".toList)
  have joined : [] ++ encode "@".toList ++ encode "routeguidance".toList ++ encode "\n".toList =
      encode "@routeguidance\n".toList := by decide
  rwa [joined] at begun

theorem holds_foldl_write {b : BusTextBuilder} {text : List UInt8}
    (holds : b.Holds text) (records : List RgdRecord) :
    (records.foldl RgdRecord.write b).Holds (text ++ records.flatMap RgdRecord.render) := by
  induction records generalizing b text with
  | nil => simpa using holds
  | cons record records ih =>
      simpa [List.append_assoc] using ih (RgdRecord.holds_write holds record)

/-- A built frame is the frame's text, or has overflowed because the text is
longer than the capacity. -/
theorem buildFrame_holds (cap : Nat) (records : List RgdRecord) :
    (buildFrame cap records).Holds (frameText records) :=
  holds_foldl_write (holds_begin cap) records

theorem write_cap (b : BusTextBuilder) (record : RgdRecord) :
    (RgdRecord.write b record).cap = b.cap := by
  obtain ⟨key, value⟩ := record
  cases value <;>
    simp [RgdRecord.write, BusTextBuilder.busTextStr, BusTextBuilder.busTextNumber,
      BusTextBuilder.btKvBegin, BusTextBuilder.btNl, BusTextBuilder.btAppendSanitized_cap]

theorem buildFrame_cap (cap : Nat) (records : List RgdRecord) :
    (buildFrame cap records).cap = cap := by
  have kept : ∀ b : BusTextBuilder, (records.foldl RgdRecord.write b).cap = b.cap := by
    induction records with
    | nil => exact fun _ => rfl
    | cons record records ih => exact fun b => (ih _).trans (write_cap b record)
  rw [buildFrame, kept]
  simp [BusTextBuilder.busTextBegin]

/-- A frame is sent exactly when its text fits the builder. -/
theorem busSendText_buildFrame (cap : Nat) (records : List RgdRecord) :
    (buildFrame cap records).busSendText =
      if (frameText records).length ≤ cap then some (frameText records) else none := by
  have holds := buildFrame_holds cap records
  unfold BusTextBuilder.Holds at holds
  rw [buildFrame_cap] at holds
  split at holds
  · simp [BusTextBuilder.busSendText, *]
  · simp [BusTextBuilder.busSendText, *]

end CarplayRgi
