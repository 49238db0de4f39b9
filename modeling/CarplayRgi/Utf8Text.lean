import Mathlib.Data.List.Basic
import Mathlib.Tactic.Common

/-!
# UTF-8 text with replacement of malformed input

A byte-at-a-time decoder that replaces every maximal malformed part by
`U+FFFD`.  Two facts about it are used: encoding is undone, and a byte below
`0x80` is always decoded as itself, whatever surrounds it, so that delimiters
survive the decoding of arbitrary bytes.
-/

namespace CarplayRgi

namespace Utf8Text

/-- Continuation bytes still needed for the current sequence, the value read
so far, and the range its next byte must lie in. -/
structure Pending where
  missing : Nat
  value : Nat
  low : Nat
  high : Nat
  deriving DecidableEq

def replacement : Char := Char.ofNat 0xFFFD

/-- Start a sequence with the byte `lead`. -/
def startSequence (lead : UInt8) : Option Pending × List Char :=
  let byte := lead.toNat
  if byte < 0x80 then (none, [Char.ofNat byte])
  else if byte < 0xC2 then (none, [replacement])
  else if byte < 0xE0 then (some ⟨1, byte % 32, 0x80, 0xBF⟩, [])
  else if byte = 0xE0 then (some ⟨2, byte % 16, 0xA0, 0xBF⟩, [])
  else if byte = 0xED then (some ⟨2, byte % 16, 0x80, 0x9F⟩, [])
  else if byte < 0xF0 then (some ⟨2, byte % 16, 0x80, 0xBF⟩, [])
  else if byte = 0xF0 then (some ⟨3, byte % 8, 0x90, 0xBF⟩, [])
  else if byte < 0xF4 then (some ⟨3, byte % 8, 0x80, 0xBF⟩, [])
  else if byte = 0xF4 then (some ⟨3, byte % 8, 0x80, 0x8F⟩, [])
  else (none, [replacement])

def decodeByte : Option Pending → UInt8 → Option Pending × List Char
  | none, lead => startSequence lead
  | some pending, next =>
      let byte := next.toNat
      if pending.low ≤ byte ∧ byte ≤ pending.high then
        let value := pending.value * 64 + byte % 64
        if pending.missing ≤ 1 then (none, [Char.ofNat value])
        else (some ⟨pending.missing - 1, value, 0x80, 0xBF⟩, [])
      else
        ((startSequence next).1, replacement :: (startSequence next).2)

/-- What an unfinished sequence contributes at the end of the input. -/
def flush : Option Pending → List Char
  | none => []
  | some _ => [replacement]

def decodeFrom : Option Pending → List UInt8 → List Char
  | pending, [] => flush pending
  | pending, byte :: bytes =>
      (decodeByte pending byte).2 ++ decodeFrom (decodeByte pending byte).1 bytes

/-- Decode a byte string. -/
def decode (bytes : List UInt8) : List Char :=
  decodeFrom none bytes

/-- Encode a text. -/
def encode (text : List Char) : List UInt8 :=
  text.flatMap String.utf8EncodeChar

@[simp]
theorem decode_nil : decode [] = [] := rfl

@[simp]
theorem encode_nil : encode [] = [] := rfl

theorem encode_append (first second : List Char) :
    encode (first ++ second) = encode first ++ encode second :=
  List.flatMap_append

theorem startSequence_ascii {byte : UInt8} (ascii : byte.toNat < 0x80) :
    startSequence byte = (none, [Char.ofNat byte.toNat]) := by
  simp [startSequence, ascii]

theorem decodeFrom_ascii (pending : Option Pending) {byte : UInt8}
    (ascii : byte.toNat < 0x80)
    (low : ∀ sequence, pending = some sequence → 0x80 ≤ sequence.low) (bytes : List UInt8) :
    decodeFrom pending (byte :: bytes) =
      flush pending ++ Char.ofNat byte.toNat :: decode bytes := by
  cases pending with
  | none => simp [decodeFrom, decodeByte, startSequence_ascii ascii, flush, decode]
  | some sequence =>
      have tooLow := low sequence rfl
      have outside : ¬ (sequence.low ≤ byte.toNat ∧ byte.toNat ≤ sequence.high) := by omega
      simp [decodeFrom, decodeByte, outside, startSequence_ascii ascii, flush, decode]

/-- Every pending sequence waits for a continuation byte. -/
def WaitsAboveAscii (pending : Option Pending) : Prop :=
  ∀ sequence, pending = some sequence → 0x80 ≤ sequence.low

theorem startSequence_waits (lead : UInt8) : WaitsAboveAscii (startSequence lead).1 := by
  intro sequence started
  simp only [startSequence] at started
  split_ifs at started <;> cases started <;> simp

theorem decodeByte_waits {pending : Option Pending} (byte : UInt8) :
    WaitsAboveAscii (decodeByte pending byte).1 := by
  cases pending with
  | none => exact startSequence_waits byte
  | some sequence =>
      simp only [decodeByte]
      split_ifs
      · intro sequence started
        cases started
      · intro sequence started
        cases started
        simp
      · exact startSequence_waits byte

/-- A byte below `0x80` separates what comes before from what comes after. -/
theorem decodeFrom_append_ascii {pending : Option Pending}
    (waits : WaitsAboveAscii pending) (before after : List UInt8) {byte : UInt8}
    (ascii : byte.toNat < 0x80) :
    decodeFrom pending (before ++ byte :: after) =
      decodeFrom pending before ++ Char.ofNat byte.toNat :: decode after := by
  induction before generalizing pending with
  | nil => exact decodeFrom_ascii pending ascii waits after
  | cons first rest ih =>
      simp only [List.cons_append, decodeFrom, List.append_assoc]
      rw [ih (decodeByte_waits first)]

theorem decode_append_ascii (before after : List UInt8) {byte : UInt8}
    (ascii : byte.toNat < 0x80) :
    decode (before ++ byte :: after) =
      decode before ++ Char.ofNat byte.toNat :: decode after :=
  decodeFrom_append_ascii (by intro sequence absurdly; cases absurdly) before after ascii

theorem toNat_ofNat_of_lt {number : Nat} (small : number < 256) :
    (UInt8.ofNat number).toNat = number := by
  simp [Nat.mod_eq_of_lt small]

theorem ofNat_val (char : Char) : Char.ofNat char.val.toNat = char :=
  Char.ofNat_toNat char

theorem decodeFrom_start {lead : UInt8} {sequence : Pending}
    (started : startSequence lead = (some sequence, [])) (bytes : List UInt8) :
    decodeFrom none (lead :: bytes) = decodeFrom (some sequence) bytes := by
  simp [decodeFrom, decodeByte, started]

theorem decodeFrom_continue {sequence : Pending} {byte : UInt8}
    (inRange : sequence.low ≤ byte.toNat ∧ byte.toNat ≤ sequence.high)
    (more : 1 < sequence.missing) (bytes : List UInt8) :
    decodeFrom (some sequence) (byte :: bytes) =
      decodeFrom (some ⟨sequence.missing - 1,
        sequence.value * 64 + byte.toNat % 64, 0x80, 0xBF⟩) bytes := by
  have notLast : ¬ sequence.missing ≤ 1 := by omega
  simp [decodeFrom, decodeByte, inRange, notLast]

theorem decodeFrom_last {sequence : Pending} {byte : UInt8}
    (inRange : sequence.low ≤ byte.toNat ∧ byte.toNat ≤ sequence.high)
    (last : sequence.missing = 1) (bytes : List UInt8) :
    decodeFrom (some sequence) (byte :: bytes) =
      Char.ofNat (sequence.value * 64 + byte.toNat % 64) :: decode bytes := by
  simp [decodeFrom, decodeByte, inRange, last, decode]

theorem decode_two {top low : Nat} (topRange : 2 ≤ top ∧ top < 32) (lowRange : low < 64)
    (bytes : List UInt8) :
    decode (UInt8.ofNat (top + 192) :: UInt8.ofNat (low + 128) :: bytes) =
      Char.ofNat (top * 64 + low) :: decode bytes := by
  have lead := toNat_ofNat_of_lt (show top + 192 < 256 by omega)
  have next := toNat_ofNat_of_lt (show low + 128 < 256 by omega)
  have started : startSequence (UInt8.ofNat (top + 192)) =
      (some ⟨1, top, 0x80, 0xBF⟩, []) := by
    have remainder : (top + 192) % 32 = top := by omega
    simp only [startSequence, lead, remainder]
    rw [if_neg (by omega), if_neg (by omega), if_pos (by omega)]
  have tail : (low + 128) % 64 = low := by omega
  rw [decode, decodeFrom_start started,
    decodeFrom_last (by simp only [next]; omega) rfl, next, tail]

/-- The first byte of a three-byte sequence bounds the second one so that the
value is neither overlong nor a surrogate. -/
theorem startSequence_three {top middle : Nat} (topRange : top < 16) (middleRange : middle < 64)
    (notOverlong : 32 ≤ top * 64 + middle)
    (notSurrogate : top * 64 + middle < 0x360 ∨ 0x37F < top * 64 + middle) :
    ∃ low high, startSequence (UInt8.ofNat (top + 224)) = (some ⟨2, top, low, high⟩, []) ∧
      low ≤ middle + 128 ∧ middle + 128 ≤ high := by
  have lead := toNat_ofNat_of_lt (show top + 224 < 256 by omega)
  have remainder : (top + 224) % 16 = top := by omega
  simp only [startSequence, lead, remainder]
  rw [if_neg (by omega), if_neg (by omega), if_neg (by omega)]
  by_cases first : top = 0
  · exact ⟨0xA0, 0xBF, by simp [first], by omega, by omega⟩
  rw [if_neg (by omega)]
  by_cases surrogate : top = 13
  · exact ⟨0x80, 0x9F, by simp [surrogate], by omega, by omega⟩
  rw [if_neg (by omega), if_pos (by omega)]
  exact ⟨0x80, 0xBF, rfl, by omega, by omega⟩

theorem decode_three {top middle low : Nat} (topRange : top < 16) (middleRange : middle < 64)
    (lowRange : low < 64) (notOverlong : 32 ≤ top * 64 + middle)
    (notSurrogate : top * 64 + middle < 0x360 ∨ 0x37F < top * 64 + middle)
    (bytes : List UInt8) :
    decode (UInt8.ofNat (top + 224) :: UInt8.ofNat (middle + 128) ::
        UInt8.ofNat (low + 128) :: bytes) =
      Char.ofNat ((top * 64 + middle) * 64 + low) :: decode bytes := by
  have second := toNat_ofNat_of_lt (show middle + 128 < 256 by omega)
  have third := toNat_ofNat_of_lt (show low + 128 < 256 by omega)
  have secondTail : (middle + 128) % 64 = middle := by omega
  have thirdTail : (low + 128) % 64 = low := by omega
  obtain ⟨lowest, highest, started, inRange⟩ :=
    startSequence_three topRange middleRange notOverlong notSurrogate
  rw [decode, decodeFrom_start started,
    decodeFrom_continue (by simpa only [second] using inRange) (by simp),
    decodeFrom_last (by simp only [third]; omega) rfl, third, second, secondTail, thirdTail]

theorem startSequence_four {top upper : Nat} (upperRange : upper < 64)
    (notOverlong : 16 ≤ top * 64 + upper) (inUnicode : top * 64 + upper < 0x110) :
    ∃ low high, startSequence (UInt8.ofNat (top + 240)) = (some ⟨3, top, low, high⟩, []) ∧
      low ≤ upper + 128 ∧ upper + 128 ≤ high := by
  have lead := toNat_ofNat_of_lt (show top + 240 < 256 by omega)
  have remainder : (top + 240) % 8 = top := by omega
  simp only [startSequence, lead, remainder]
  rw [if_neg (by omega), if_neg (by omega), if_neg (by omega), if_neg (by omega),
    if_neg (by omega), if_neg (by omega)]
  by_cases first : top = 0
  · exact ⟨0x90, 0xBF, by simp [first], by omega, by omega⟩
  rw [if_neg (by omega)]
  by_cases last : top = 4
  · exact ⟨0x80, 0x8F, by simp [last], by omega, by omega⟩
  rw [if_pos (by omega)]
  exact ⟨0x80, 0xBF, rfl, by omega, by omega⟩

theorem decode_four {top upper middle low : Nat} (upperRange : upper < 64)
    (middleRange : middle < 64) (lowRange : low < 64)
    (notOverlong : 16 ≤ top * 64 + upper) (inUnicode : top * 64 + upper < 0x110)
    (bytes : List UInt8) :
    decode (UInt8.ofNat (top + 240) :: UInt8.ofNat (upper + 128) ::
        UInt8.ofNat (middle + 128) :: UInt8.ofNat (low + 128) :: bytes) =
      Char.ofNat (((top * 64 + upper) * 64 + middle) * 64 + low) :: decode bytes := by
  have second := toNat_ofNat_of_lt (show upper + 128 < 256 by omega)
  have third := toNat_ofNat_of_lt (show middle + 128 < 256 by omega)
  have fourth := toNat_ofNat_of_lt (show low + 128 < 256 by omega)
  have secondTail : (upper + 128) % 64 = upper := by omega
  have thirdTail : (middle + 128) % 64 = middle := by omega
  have fourthTail : (low + 128) % 64 = low := by omega
  obtain ⟨lowest, highest, started, inRange⟩ :=
    startSequence_four upperRange notOverlong inUnicode
  rw [decode, decodeFrom_start started,
    decodeFrom_continue (by simpa only [second] using inRange) (by simp),
    decodeFrom_continue (by simp only [third]; omega) (by simp),
    decodeFrom_last (by simp only [fourth]; omega) rfl, fourth, third, second,
    secondTail, thirdTail, fourthTail]

theorem decode_encodeChar (char : Char) (bytes : List UInt8) :
    decode (String.utf8EncodeChar char ++ bytes) = char :: decode bytes := by
  have valid : char.val.toNat < 0xD800 ∨
      (0xDFFF < char.val.toNat ∧ char.val.toNat < 0x110000) := char.valid
  have whole := ofNat_val char
  simp only [String.utf8EncodeChar]
  generalize char.val.toNat = value at valid whole
  split_ifs with one two three
  · have lead := toNat_ofNat_of_lt (show value < 256 by omega)
    have separated := @decode_append_ascii [] bytes (UInt8.ofNat value) (by omega)
    simpa only [lead, whole, List.cons_append, List.nil_append, decode_nil] using separated
  · have decoded := @decode_two (value / 64 % 32) (value % 64)
      (by omega) (by omega) bytes
    have sum : value / 64 % 32 * 64 + value % 64 = value := by omega
    simpa only [sum, whole, List.cons_append, List.nil_append] using decoded
  · have decoded := @decode_three (value / 4096 % 16) (value / 64 % 64)
      (value % 64) (by omega) (by omega) (by omega) (by omega) (by omega) bytes
    have sum : (value / 4096 % 16 * 64 + value / 64 % 64) * 64 + value % 64 = value := by omega
    simpa only [sum, whole, List.cons_append, List.nil_append] using decoded
  · have decoded := @decode_four (value / 262144 % 8) (value / 4096 % 64)
      (value / 64 % 64) (value % 64)
      (by omega) (by omega) (by omega) (by omega) (by omega) bytes
    have sum : ((value / 262144 % 8 * 64 + value / 4096 % 64) * 64 + value / 64 % 64) * 64 +
        value % 64 = value := by omega
    simpa only [sum, whole, List.cons_append, List.nil_append] using decoded

/-- Decoding an encoded text gives the text back. -/
theorem decode_encode (text : List Char) : decode (encode text) = text := by
  induction text with
  | nil => rfl
  | cons char text ih =>
      have split : encode (char :: text) = String.utf8EncodeChar char ++ encode text := rfl
      rw [split, decode_encodeChar, ih]

/-- Every completion of a pending sequence is a character from `0x80` on. -/
def Completes : Nat → Nat → Nat → Nat → Prop
  | 0, _, _, _ => False
  | 1, value, low, high => ∀ byte, low ≤ byte → byte ≤ high →
      Nat.isValidChar (value * 64 + byte % 64) ∧ 0x80 ≤ value * 64 + byte % 64
  | missing + 2, value, low, high => ∀ byte, low ≤ byte → byte ≤ high →
      Completes (missing + 1) (value * 64 + byte % 64) 0x80 0xBF

def PendingCompletes (pending : Option Pending) : Prop :=
  ∀ sequence, pending = some sequence →
    Completes sequence.missing sequence.value sequence.low sequence.high

theorem pendingCompletes_none : PendingCompletes none := by
  intro sequence absurdly
  cases absurdly

theorem startSequence_completes (lead : UInt8) : PendingCompletes (startSequence lead).1 := by
  have small : lead.toNat < 256 := lead.toNat_lt
  intro sequence started
  simp only [startSequence] at started
  split_ifs at started <;> cases started <;>
    simp only [Completes, Nat.isValidChar] <;> intros <;> omega

theorem toNat_ofNat_of_valid {value : Nat} (valid : value.isValidChar) :
    (Char.ofNat value).toNat = value := by
  rw [Char.ofNat, dif_pos valid]
  rfl

theorem toNat_ofNat_small {value : Nat} (small : value < 0x80) :
    (Char.ofNat value).toNat = value :=
  toNat_ofNat_of_valid (.inl (by omega))

/-- A sequence is started by a byte that is its own character, or by a byte
from `0x80` on, which contributes no character below `0x80`. -/
theorem startSequence_cases (lead : UInt8) :
    (lead.toNat < 0x80 ∧ startSequence lead = (none, [Char.ofNat lead.toNat])) ∨
    (0x80 ≤ lead.toNat ∧ (startSequence lead = (none, [replacement]) ∨
      ∃ sequence, startSequence lead = (some sequence, []))) := by
  by_cases ascii : lead.toNat < 0x80
  · exact .inl ⟨ascii, startSequence_ascii ascii⟩
  · refine .inr ⟨by omega, ?_⟩
    simp only [startSequence, if_neg ascii]
    split_ifs <;> simp

/-- What one byte does to a pending sequence. -/
theorem decodeByte_pending {sequence : Pending}
    (completes : Completes sequence.missing sequence.value sequence.low sequence.high)
    (byte : UInt8) :
    (∃ char, 0x80 ≤ char.toNat ∧ decodeByte (some sequence) byte = (none, [char])) ∨
    (∃ next, PendingCompletes (some next) ∧ decodeByte (some sequence) byte = (some next, [])) ∨
    decodeByte (some sequence) byte =
      ((startSequence byte).1, replacement :: (startSequence byte).2) := by
  obtain ⟨missing, value, low, high⟩ := sequence
  simp only [decodeByte]
  split_ifs with inRange last
  · cases missing with
    | zero => exact absurd completes (by simp [Completes])
    | succ missing =>
        obtain rfl : missing = 0 := by omega
        obtain ⟨valid, above⟩ := completes byte.toNat inRange.1 inRange.2
        exact .inl ⟨_, (toNat_ofNat_of_valid valid).symm ▸ above, rfl⟩
  · match missing, last with
    | missing + 2, _ =>
        refine .inr (.inl ⟨_, ?_, rfl⟩)
        rintro next ⟨⟩
        exact completes byte.toNat inRange.1 inRange.2
  · exact .inr (.inr rfl)

/-- A character below `0x80` is a byte of the input. -/
theorem mem_decodeFrom_ascii {pending : Option Pending} (completes : PendingCompletes pending)
    {bytes : List UInt8} {char : Char} (member : char ∈ decodeFrom pending bytes)
    (ascii : char.toNat < 0x80) : ∃ byte ∈ bytes, byte.toNat = char.toNat := by
  induction bytes generalizing pending with
  | nil =>
      cases pending with
      | none => cases member
      | some sequence =>
          obtain rfl := List.mem_singleton.mp member
          exact absurd ascii (by decide)
  | cons byte bytes ih =>
      have later : ∀ {next : Option Pending}, PendingCompletes next →
          char ∈ decodeFrom next bytes → ∃ byte' ∈ byte :: bytes, byte'.toNat = char.toNat := by
        intro next nextCompletes inRest
        obtain ⟨found, inBytes, same⟩ := ih nextCompletes inRest
        exact ⟨found, List.mem_cons_of_mem byte inBytes, same⟩
      have started : char ∈ (startSequence byte).2 ∨ char ∈ decodeFrom (startSequence byte).1 bytes →
          ∃ byte' ∈ byte :: bytes, byte'.toNat = char.toNat := by
        rintro (now | inRest)
        · rcases startSequence_cases byte with ⟨small, result⟩ | ⟨-, result | ⟨sequence, result⟩⟩
          · rw [result] at now
            obtain rfl := List.mem_singleton.mp now
            exact ⟨byte, List.mem_cons_self, (toNat_ofNat_small small).symm⟩
          · rw [result] at now
            obtain rfl := List.mem_singleton.mp now
            exact absurd ascii (by decide)
          · rw [result] at now
            cases now
        · exact later (startSequence_completes byte) inRest
      rw [decodeFrom, List.mem_append] at member
      cases pending with
      | none => exact started member
      | some sequence =>
          rcases decodeByte_pending (completes sequence rfl) byte with
            ⟨done, above, result⟩ | ⟨next, nextCompletes, result⟩ | result
          · rw [result] at member
            rcases member with now | inRest
            · obtain rfl := List.mem_singleton.mp now
              exact absurd ascii (Nat.not_lt.mpr above)
            · exact later pendingCompletes_none inRest
          · rw [result] at member
            rcases member with now | inRest
            · cases now
            · exact later nextCompletes inRest
          · rw [result] at member
            rcases member with now | inRest
            · rcases List.mem_cons.mp now with rfl | now
              · exact absurd ascii (by decide)
              · exact started (.inl now)
            · exact started (.inr inRest)

theorem mem_decode_ascii {bytes : List UInt8} {char : Char} (member : char ∈ decode bytes)
    (ascii : char.toNat < 0x80) : ∃ byte ∈ bytes, byte.toNat = char.toNat :=
  mem_decodeFrom_ascii pendingCompletes_none member ascii

/-- A pending sequence goes on with a character from `0x80` on. -/
theorem decodeFrom_pending_head {sequence : Pending}
    (completes : Completes sequence.missing sequence.value sequence.low sequence.high)
    (bytes : List UInt8) :
    ∃ char rest, decodeFrom (some sequence) bytes = char :: rest ∧ 0x80 ≤ char.toNat := by
  induction bytes generalizing sequence with
  | nil => exact ⟨replacement, [], rfl, by decide⟩
  | cons byte bytes ih =>
      rw [decodeFrom]
      rcases decodeByte_pending completes byte with
        ⟨char, above, result⟩ | ⟨next, nextCompletes, result⟩ | result
      · exact ⟨char, _, by rw [result]; rfl, above⟩
      · rw [result]
        exact ih (nextCompletes next rfl)
      · exact ⟨replacement, _, by rw [result]; rfl, by decide⟩

/-- The first character is the first byte, or is not below `0x80`. -/
theorem decode_cons_head (lead : UInt8) (bytes : List UInt8) :
    ∃ char rest, decode (lead :: bytes) = char :: rest ∧
      (char.toNat = lead.toNat ∨ 0x80 ≤ char.toNat) := by
  rw [decode, decodeFrom]
  rcases startSequence_cases lead with ⟨small, result⟩ | ⟨-, result | ⟨sequence, result⟩⟩
  · refine ⟨Char.ofNat lead.toNat, decodeFrom none bytes, ?_, .inl (toNat_ofNat_small small)⟩
    rw [decodeByte, result]
    rfl
  · refine ⟨replacement, decodeFrom none bytes, ?_, .inr (by decide)⟩
    rw [decodeByte, result]
    rfl
  · obtain ⟨char, rest, decoded, above⟩ := decodeFrom_pending_head
      (startSequence_completes lead sequence (by rw [result])) bytes
    refine ⟨char, rest, ?_, .inr above⟩
    rw [decodeByte, result]
    exact decoded

/-- A byte below `0x80` of an encoded character is the character. -/
theorem mem_encodeChar_ascii {char : Char} {byte : UInt8}
    (member : byte ∈ String.utf8EncodeChar char) (ascii : byte.toNat < 0x80) :
    char = Char.ofNat byte.toNat := by
  have whole := ofNat_val char
  simp only [String.utf8EncodeChar] at member
  split_ifs at member with one two three
  · obtain rfl := List.mem_singleton.mp member
    rw [toNat_ofNat_of_lt (by omega), whole]
  all_goals
    have above : 0x80 ≤ byte.toNat := by
      simp only [List.mem_cons, List.not_mem_nil, or_false] at member
      rcases member with rfl | rfl | rfl | rfl <;> rw [toNat_ofNat_of_lt (by omega)] <;> omega
    omega

theorem mem_encode_ascii {text : List Char} {byte : UInt8} (member : byte ∈ encode text)
    (ascii : byte.toNat < 0x80) : Char.ofNat byte.toNat ∈ text := by
  obtain ⟨char, inText, inBytes⟩ := List.mem_flatMap.mp member
  rw [← mem_encodeChar_ascii inBytes ascii]
  exact inText

theorem encode_eq_nil {text : List Char} : encode text = [] ↔ text = [] := by
  constructor
  · intro encoded
    rw [← decode_encode text, encoded, decode_nil]
  · rintro rfl
    rfl

end Utf8Text

end CarplayRgi
