import CarplayRgi.DecimalText
import CarplayRgi.Utf8Text

/-!
# Parsed text frames

The receiver decodes a payload as UTF-8, takes it apart into lines, and keeps
the records of at most 512 lines; a key is looked up from the first record.
A line without a colon, an empty line and a line that starts with `@` are no
records, and the type between the two colons is skipped.
-/

namespace CarplayRgi

open DecimalText Utf8Text

/-- `String.trim`. -/
def javaTrim (text : List Char) : List Char :=
  (((text.dropWhile fun char => decide (char.toNat ≤ 0x20)).reverse).dropWhile
    fun char => decide (char.toNat ≤ 0x20)).reverse

theorem javaTrim_eq_self {text : List Char} (visible : ∀ char ∈ text, 0x20 < char.toNat) :
    javaTrim text = text := by
  have keeps : ∀ list : List Char, (∀ char ∈ list, 0x20 < char.toNat) →
      (list.dropWhile fun char => decide (char.toNat ≤ 0x20)) = list := by
    intro list listVisible
    cases list with
    | nil => rfl
    | cons char rest =>
        have first := listVisible char List.mem_cons_self
        rw [List.dropWhile_cons_of_neg (by simpa using first)]
  rw [javaTrim, keeps text visible,
    keeps text.reverse fun char member => visible char (List.mem_reverse.mp member),
    List.reverse_reverse]

/-- `Integer.parseInt` of a trimmed string. -/
def parseInt (text : List Char) : Option Int :=
  parseSigned 32 (javaTrim text)

/-- `Long.parseLong` of a trimmed string. -/
def parseLong (text : List Char) : Option Int :=
  parseSigned 64 (javaTrim text)

theorem decimal_visible (number : Int) : ∀ char ∈ decimal number, 0x20 < char.toNat := by
  intro char member
  rcases decimal_chars member with rfl | digit
  · decide
  · simp only [Char.isDigit, Bool.and_eq_true, decide_eq_true_eq] at digit
    exact Nat.lt_of_lt_of_le (by decide) (UInt32.le_iff_toNat_le.mp digit.1)

theorem parseLong_decimal {number : Int} (fits : Fits 64 number) :
    parseLong (decimal number) = some number := by
  rw [parseLong, javaTrim_eq_self (decimal_visible number), parseSigned_decimal,
    checkWidth_of_fits fits]

theorem parseInt_decimal {number : Int} (fits : Fits 32 number) :
    parseInt (decimal number) = some number := by
  rw [parseInt, javaTrim_eq_self (decimal_visible number), parseSigned_decimal,
    checkWidth_of_fits fits]

/-- `Data.MAX`. -/
def dataMax : Nat := 512

/-- `intList` of a value: a part that is no number reads as 0, and an empty
string is no list. -/
def intListOf (value : List Char) : Option (List Int) :=
  if value = [] then none
  else some ((value.splitOn ',').map fun part => (parseInt part).getD 0)

theorem intListOf_commaList {numbers : List Int} (nonempty : numbers ≠ [])
    (fits : ∀ number ∈ numbers, Fits 32 number) :
    intListOf (commaList numbers) = some numbers := by
  rw [intListOf, if_neg (commaList_ne_nil nonempty), splitOn_commaList nonempty, List.map_map]
  congr 1
  refine (List.map_congr_left fun number member => ?_).trans (List.map_id _)
  rw [Function.comp_apply, parseInt_decimal (fits number member), Option.getD_some, id]

/-- `parseCsvIntList`. -/
def parseCsvIntList (text : List Char) : Option (List Int) :=
  let trimmed := javaTrim text
  if trimmed = [] then some [] else (trimmed.splitOn ',').mapM parseInt

/-- `parseLaneAnglesMatrix`: one list for each part between bars. -/
def parseLaneAnglesMatrix (raw : List Char) : Option (List (Option (List Int))) :=
  if raw = [] then none else some ((raw.splitOn '|').map parseCsvIntList)

/-- `CarplayBus.Data`: the first `count` keys with their values. -/
structure BusData where
  records : List (List Char × List Char)
  bounded : records.length ≤ dataMax

namespace BusData

def empty : BusData := ⟨[], Nat.zero_le _⟩

/-- A record past the last place is dropped. -/
def put (data : BusData) (key value : List Char) : BusData :=
  if room : data.records.length < dataMax then
    ⟨data.records ++ [(key, value)], by rw [List.length_append]; exact room⟩
  else data

/-- `str` with the default `null`. -/
def str (data : BusData) (key : List Char) : Option (List Char) :=
  (data.records.find? fun record => decide (record.1 = key)).map Prod.snd

def has (data : BusData) (key : List Char) : Bool :=
  data.records.any fun record => decide (record.1 = key)

def num (data : BusData) (key : List Char) (default : Int) : Int :=
  ((data.str key).bind parseInt).getD default

def num64 (data : BusData) (key : List Char) (default : Int) : Int :=
  ((data.str key).bind parseLong).getD default

def intList (data : BusData) (key : List Char) : Option (List Int) :=
  (data.str key).bind intListOf

theorem has_iff {data : BusData} {key : List Char} :
    data.has key = true ↔ (data.str key).isSome = true := by
  simp [has, str]

end BusData

/-- The record of a line: the text before the first colon, and the text after
the second one. -/
def lineRecord (line : List Char) : Option (List Char × List Char) :=
  if line = [] ∨ line.head? = some '@' then none
  else
    match line.dropWhile (· ≠ ':') with
    | [] => none
    | _ :: typed => some (line.takeWhile (· ≠ ':'), (typed.dropWhile (· ≠ ':')).tail)

def parseLine (data : BusData) (line : List Char) : BusData :=
  match lineRecord line with
  | none => data
  | some (key, value) => data.put key value

/-- `parseText`.  The text after the last newline is a line like the others;
when it is empty it is skipped as one. -/
def parseText (payload : List UInt8) : BusData :=
  ((decode payload).splitOn '\n').foldl parseLine BusData.empty

/-- The records of lines, as long as they have room. -/
theorem foldl_parseLine (lines : List (List Char)) (data : BusData) :
    (lines.foldl parseLine data).records =
      (data.records ++ lines.filterMap lineRecord).take dataMax := by
  induction lines generalizing data with
  | nil => simp [List.take_of_length_le data.bounded]
  | cons line lines ih =>
      rw [List.foldl_cons, ih, parseLine]
      cases recordEq : lineRecord line with
      | none => rw [List.filterMap_cons_none recordEq]
      | some record =>
          rw [List.filterMap_cons_some recordEq]
          obtain ⟨key, value⟩ := record
          dsimp only
          rw [BusData.put]
          split
          · simp
          · rename_i full
            have filled : data.records.length = dataMax :=
              Nat.le_antisymm data.bounded (Nat.le_of_not_lt full)
            rw [← filled, List.take_left, List.take_left]

theorem parseText_records (payload : List UInt8) :
    (parseText payload).records =
      (((decode payload).splitOn '\n').filterMap lineRecord).take dataMax := by
  rw [parseText, foldl_parseLine]
  rfl

theorem takeWhile_dropWhile_separator {separator : Char} {first : List Char}
    (free : separator ∉ first) (rest : List Char) :
    (first ++ separator :: rest).takeWhile (· ≠ separator) = first ∧
      (first ++ separator :: rest).dropWhile (· ≠ separator) = separator :: rest := by
  have others : ∀ char ∈ first, decide (char ≠ separator) = true := by
    intro char member
    rw [decide_eq_true_eq]
    rintro rfl
    exact free member
  constructor
  · rw [List.takeWhile_append_of_pos others]
    simp
  · rw [List.dropWhile_append_of_pos others]
    simp

/-- A line with a key, a one-letter type and a value. -/
theorem lineRecord_typed {key : List Char} (nonempty : key ≠ []) (notHeader : key.head? ≠ some '@')
    (free : ':' ∉ key) {type : Char} (typeFree : type ≠ ':') (value : List Char) :
    lineRecord (key ++ ':' :: type :: ':' :: value) = some (key, value) := by
  obtain ⟨taken, dropped⟩ := takeWhile_dropWhile_separator free (type :: ':' :: value)
  have notSkipped : ¬ (key ++ ':' :: type :: ':' :: value = [] ∨
      (key ++ ':' :: type :: ':' :: value).head? = some '@') := by
    cases key with
    | nil => exact absurd rfl nonempty
    | cons char key => simpa using notHeader
  rw [lineRecord, if_neg notSkipped, dropped, taken]
  simp [typeFree]

/-- A frame taken apart: the header line, one line for each record, and the
empty text after the last newline. -/
theorem splitOn_lines {lines : List (List Char)} (free : ∀ line ∈ lines, '\n' ∉ line) :
    (lines.flatMap fun line => line ++ ['\n']).splitOn '\n' = lines ++ [[]] := by
  have joined : (lines.flatMap fun line => line ++ ['\n']) = joinWith '\n' (lines ++ [[]]) := by
    induction lines with
    | nil => rfl
    | cons line lines ih =>
        rw [List.flatMap_cons, ih fun other member => free other (List.mem_cons_of_mem line member)]
        cases lines with
        | nil => simp [joinWith_cons_cons]
        | cons second rest => simp [joinWith_cons_cons]
  rw [joined]
  refine splitOn_joinWith ?_ (by simp)
  intro line member
  rcases List.mem_append.mp member with inLines | isEmpty
  · exact free line inLines
  · rw [List.mem_singleton.mp isEmpty]
    exact List.not_mem_nil

end CarplayRgi
