import CarplayRgi.ByteBuffers
import CarplayRgi.RgdTlv
import Mathlib.Data.List.TakeWhile

/-!
# Lines in 256-byte fields

A text item is copied into its field and ended there, and then its newlines
are replaced in a scratch buffer.  The loop over the text stops as soon as a
separator might no longer fit, also before a byte that is copied as it is, so
a text is stored whole only if what comes before its last unit (a byte or a
newline) is shorter than 252 bytes when it is expanded.
-/

namespace CarplayRgi

open ByteBuffers

def lineUnit (byte : UInt8) : List UInt8 :=
  if byte = 10 ∨ byte = 13 then [32, 47, 32] else [byte]

/-- The bytes of a text as they are written: a newline of one or two bytes
becomes a separator. -/
def lineUnits : List UInt8 → List (List UInt8)
  | [] => []
  | [byte] => [lineUnit byte]
  | byte :: next :: rest =>
      if byte = 13 ∧ next = 10 then [32, 47, 32] :: lineUnits rest
      else lineUnit byte :: lineUnits (next :: rest)

/-- The text with its newlines replaced. -/
def expandNewlines (text : List UInt8) : List UInt8 := (lineUnits text).flatten

/-- What comes before the last unit leaves room for a separator. -/
def FitsScratch (text : List UInt8) : Prop :=
  (lineUnits text).dropLast.flatten.length < 252

instance (text : List UInt8) : Decidable (FitsScratch text) :=
  inferInstanceAs (Decidable (_ < 252))

/-- The copy of units while a separator fits. -/
def copyUnits : Nat → List (List UInt8) → List UInt8
  | _, [] => []
  | written, unit :: units =>
      if 252 ≤ written then [] else unit ++ copyUnits (written + unit.length) units

theorem replaceNewlinesFrom_cons (written : Nat) (byte : UInt8) (rest : List UInt8)
    (notPair : ¬(byte = 13 ∧ rest.head? = some 10)) :
    replaceNewlinesFrom written (byte :: rest) =
      if 252 ≤ written then []
      else lineUnit byte ++ replaceNewlinesFrom (written + (lineUnit byte).length) rest := by
  rw [replaceNewlinesFrom.eq_def, lineUnit]
  dsimp only
  rw [if_neg notPair]
  by_cases newline : byte = 10 ∨ byte = 13
  · rw [if_pos newline, if_pos newline]
    rfl
  · rw [if_neg newline, if_neg newline]
    rfl

theorem replaceNewlinesFrom_pair (written : Nat) (rest : List UInt8) :
    replaceNewlinesFrom written (13 :: 10 :: rest) =
      if 252 ≤ written then [] else [32, 47, 32] ++ replaceNewlinesFrom (written + 3) rest := by
  rw [replaceNewlinesFrom.eq_def]
  rfl

/-- The loop of `replace_newlines` copies units. -/
theorem replaceNewlinesFrom_eq_copyUnits (written : Nat) (text : List UInt8) :
    replaceNewlinesFrom written text = copyUnits written (lineUnits text) := by
  fun_induction lineUnits text generalizing written with
  | case1 => rfl
  | case2 byte =>
      rw [replaceNewlinesFrom_cons _ _ _ (fun pair => by cases pair.2), copyUnits]
      rfl
  | case3 byte next rest pair ih =>
      obtain ⟨rfl, rfl⟩ := pair
      rw [replaceNewlinesFrom_pair, copyUnits, ih]
      rfl
  | case4 byte next rest notPair ih =>
      have other : ¬(byte = 13 ∧ (next :: rest).head? = some 10) := by
        simpa using notPair
      rw [replaceNewlinesFrom_cons _ _ _ other, copyUnits, ih]

theorem length_lineUnit (byte : UInt8) :
    0 < (lineUnit byte).length ∧ (lineUnit byte).length ≤ 3 := by
  unfold lineUnit
  split_ifs
  · decide
  · exact ⟨Nat.one_pos, by rw [List.length_singleton]; decide⟩

theorem length_of_mem_lineUnits {text unit : List UInt8} (member : unit ∈ lineUnits text) :
    0 < unit.length ∧ unit.length ≤ 3 := by
  fun_induction lineUnits text with
  | case1 => cases member
  | case2 byte =>
      obtain rfl := List.mem_singleton.mp member
      exact length_lineUnit byte
  | case3 byte next rest pair ih =>
      rcases List.mem_cons.mp member with rfl | inRest
      · decide
      · exact ih inRest
  | case4 byte next rest notPair ih =>
      rcases List.mem_cons.mp member with rfl | inRest
      · exact length_lineUnit byte
      · exact ih inRest

/-- Units that fit are copied whole, and fit the field. -/
theorem copyUnits_of_fits {units : List (List UInt8)} {written : Nat}
    (short : ∀ unit ∈ units, 0 < unit.length ∧ unit.length ≤ 3) (nonempty : units ≠ [])
    (fits : written + units.dropLast.flatten.length < 252) :
    copyUnits written units = units.flatten ∧ written + units.flatten.length < 255 := by
  induction units generalizing written with
  | nil => exact absurd rfl nonempty
  | cons unit units ih =>
      have unitShort := (short unit List.mem_cons_self).2
      rw [copyUnits, if_neg (by omega), List.flatten_cons]
      cases units with
      | nil =>
          simp only [copyUnits, List.flatten_nil, List.append_nil, true_and]
          simp only [List.dropLast_singleton, List.flatten_nil, List.length_nil] at fits
          omega
      | cons next units =>
          rw [List.dropLast_cons_of_ne_nil (List.cons_ne_nil next units), List.flatten_cons,
            List.length_append] at fits
          obtain ⟨copied, below⟩ := ih
            (fun other member => short other (List.mem_cons_of_mem unit member))
            (List.cons_ne_nil next units) (by omega : written + unit.length + _ < 252)
          refine ⟨by rw [copied], ?_⟩
          rw [List.length_append]
          omega

/-- Units that do not fit are cut. -/
theorem copyUnits_of_not_fits {units : List (List UInt8)} {written : Nat}
    (short : ∀ unit ∈ units, 0 < unit.length ∧ unit.length ≤ 3) (below : written < 255)
    (nonempty : units ≠ []) (long : 252 ≤ written + units.dropLast.flatten.length) :
    written + (copyUnits written units).length < 255 ∧
      (copyUnits written units).length < units.flatten.length := by
  induction units generalizing written with
  | nil => exact absurd rfl nonempty
  | cons unit units ih =>
      obtain ⟨positive, unitShort⟩ := short unit List.mem_cons_self
      rw [copyUnits, List.flatten_cons, List.length_append]
      split_ifs with full
      · rw [List.length_nil]
        omega
      · cases units with
        | nil =>
            simp only [List.dropLast_singleton, List.flatten_nil, List.length_nil] at long
            omega
        | cons next units =>
            rw [List.dropLast_cons_of_ne_nil (List.cons_ne_nil next units), List.flatten_cons,
              List.length_append] at long
            obtain ⟨stillBelow, cut⟩ := ih
              (fun other member => short other (List.mem_cons_of_mem unit member))
              (by omega : written + unit.length < 255) (List.cons_ne_nil next units) (by omega)
            rw [List.length_append]
            omega

theorem length_copyUnits_lt (text : List UInt8) : (copyUnits 0 (lineUnits text)).length < 255 := by
  have short : ∀ unit ∈ lineUnits text, 0 < unit.length ∧ unit.length ≤ 3 :=
    fun unit member => length_of_mem_lineUnits member
  by_cases nonempty : lineUnits text = []
  · rw [nonempty]
    decide
  · by_cases fits : (lineUnits text).dropLast.flatten.length < 252
    · obtain ⟨copied, below⟩ := copyUnits_of_fits short nonempty (by omega : 0 + _ < 252)
      rw [copied]
      omega
    · have cut := (copyUnits_of_not_fits short (by decide) nonempty
        (by omega : 252 ≤ 0 + _)).1
      omega

/-- A text is copied as the field would hold it exactly when it fits. -/
theorem copyUnits_eq_take_iff (text : List UInt8) :
    copyUnits 0 (lineUnits text) = (expandNewlines text).take 255 ↔ FitsScratch text := by
  have short : ∀ unit ∈ lineUnits text, 0 < unit.length ∧ unit.length ≤ 3 :=
    fun unit member => length_of_mem_lineUnits member
  unfold expandNewlines FitsScratch
  by_cases nonempty : lineUnits text = []
  · rw [nonempty]
    decide
  · constructor
    · intro same
      by_contra long
      obtain ⟨below, cut⟩ := copyUnits_of_not_fits short (by decide) nonempty
        (by omega : 252 ≤ 0 + (lineUnits text).dropLast.flatten.length)
      have lengths := congrArg List.length same
      rw [List.length_take] at lengths
      omega
    · intro fits
      obtain ⟨copied, below⟩ := copyUnits_of_fits short nonempty (by omega : 0 + _ < 252)
      rw [copied, List.take_of_length_le (by omega)]

/-- Copy a text to the start of a field, and end it. -/
def putCString (field text : List UInt8) : List UInt8 :=
  memcpy (memcpy field 0 text) text.length [0]

/-- `replace_newlines` on a field. -/
def replaceNewlinesIn (field : List UInt8) : List UInt8 :=
  let tmp := replaceNewlinesFrom 0 (cString field)
  putCString field (tmp.take (min tmp.length (field.length - 1)))

/-- An item is stored in a field whose newlines are replaced. -/
def storeLine (field value : List UInt8) : List UInt8 :=
  replaceNewlinesIn (putCString field (value.take (field.length - 1)))

theorem putCString_eq (field text : List UInt8) :
    putCString field text = text ++ 0 :: field.drop (text.length + 1) := by
  have copied : memcpy field 0 text = text ++ field.drop text.length := by
    simp [memcpy]
  rw [putCString, copied, memcpy_append, List.length_singleton, List.drop_drop]
  rfl

theorem length_putCString {field text : List UInt8} (room : text.length < field.length) :
    (putCString field text).length = field.length := by
  rw [putCString_eq, List.length_append, List.length_cons, List.length_drop]
  omega

theorem cString_append_zero (text rest : List UInt8) :
    cString (text ++ 0 :: rest) = cString text := by
  unfold cString
  induction text with
  | nil => rfl
  | cons byte text ih => simp only [List.cons_append, List.takeWhile_cons, ih]

theorem cString_putCString (field text : List UInt8) :
    cString (putCString field text) = cString text := by
  rw [putCString_eq, cString_append_zero]

theorem cString_eq_self {text : List UInt8} (noZero : 0 ∉ text) : cString text = text := by
  rw [cString, List.takeWhile_eq_self_iff]
  intro byte member
  rw [bne_iff_ne]
  rintro rfl
  exact noZero member

theorem zero_notMem_cString (text : List UInt8) : 0 ∉ cString text := by
  intro member
  have notZero := List.mem_takeWhile_imp member
  exact absurd notZero (by decide)

theorem zero_notMem_lineUnits {text unit : List UInt8} (noZero : 0 ∉ text)
    (member : unit ∈ lineUnits text) : 0 ∉ unit := by
  have ofByte {byte : UInt8} (notZero : 0 ≠ byte) : 0 ∉ lineUnit byte := by
    unfold lineUnit
    split_ifs
    · decide
    · rwa [List.mem_singleton]
  fun_induction lineUnits text with
  | case1 => cases member
  | case2 byte =>
      obtain rfl := List.mem_singleton.mp member
      exact ofByte fun isZero => noZero (List.mem_singleton.mpr isZero)
  | case3 byte next rest pair ih =>
      rcases List.mem_cons.mp member with rfl | inRest
      · decide
      · exact ih (fun inText => noZero (List.mem_cons_of_mem _ (List.mem_cons_of_mem _ inText)))
          inRest
  | case4 byte next rest notPair ih =>
      rcases List.mem_cons.mp member with rfl | inRest
      · exact ofByte fun isZero => noZero (List.mem_cons.mpr (.inl isZero))
      · exact ih (fun inText => noZero (List.mem_cons_of_mem _ inText)) inRest

theorem mem_of_mem_copyUnits {units : List (List UInt8)} {written : Nat} {byte : UInt8}
    (member : byte ∈ copyUnits written units) : ∃ unit ∈ units, byte ∈ unit := by
  induction units generalizing written with
  | nil => cases member
  | cons unit units ih =>
      rw [copyUnits] at member
      split_ifs at member with full
      · cases member
      · rcases List.mem_append.mp member with inUnit | inRest
        · exact ⟨unit, List.mem_cons_self, inUnit⟩
        · obtain ⟨later, inUnits, inLater⟩ := ih inRest
          exact ⟨later, List.mem_cons_of_mem unit inUnits, inLater⟩

/-- The line in a field: a proper C string, which is the parsed one. -/
theorem storeLine_eq {field : List UInt8} (value : List UInt8) (size : field.length = 256) :
    (storeLine field value).length = 256 ∧ 0 ∈ storeLine field value ∧
      cString (storeLine field value) = copyUnits 0 (lineUnits (boundedString 256 value)) ∧
      cString (storeLine field value) = boundedLine 256 value := by
  have first : (putCString field (value.take (field.length - 1))).length = 256 := by
    rw [length_putCString (by rw [List.length_take]; omega), size]
  have short := length_copyUnits_lt (boundedString 256 value)
  have text : replaceNewlinesFrom 0 (cString (putCString field (value.take (field.length - 1)))) =
      copyUnits 0 (lineUnits (boundedString 256 value)) := by
    rw [cString_putCString, size, replaceNewlinesFrom_eq_copyUnits]
    rfl
  have stored : storeLine field value =
      putCString (putCString field (value.take (field.length - 1)))
        (copyUnits 0 (lineUnits (boundedString 256 value))) := by
    unfold storeLine replaceNewlinesIn
    dsimp only
    rw [text, first, Nat.min_eq_left (by omega), List.take_length]
  have noZero : 0 ∉ copyUnits 0 (lineUnits (boundedString 256 value)) := by
    intro member
    obtain ⟨unit, inUnits, inUnit⟩ := mem_of_mem_copyUnits member
    exact zero_notMem_lineUnits (zero_notMem_cString _) inUnits inUnit
  have line : boundedLine 256 value = copyUnits 0 (lineUnits (boundedString 256 value)) := by
    rw [boundedLine, replaceNewlines, replaceNewlinesFrom_eq_copyUnits,
      List.take_of_length_le (by omega)]
  rw [stored, cString_putCString, cString_eq_self noZero, line]
  refine ⟨?_, ?_, rfl, rfl⟩
  · rw [length_putCString (by omega), first]
  · rw [putCString_eq]
    exact List.mem_append_right _ List.mem_cons_self

/-- The line fields of 256 bytes, after an item with this value. -/
structure LineStored (value line : List UInt8) : Prop where
  currentRoad : ∀ upd, (updateTlv upd ⟨0x0003, value⟩).currentRoad = some line
  destination : ∀ upd, (updateTlv upd ⟨0x0004, value⟩).destination = some line
  description : ∀ man, (maneuverTlv man ⟨0x0002, value⟩).description = some line
  afterRoadName : ∀ man, (maneuverTlv man ⟨0x0004, value⟩).afterRoadName = some line

/-- Every line field ends, and holds as much of the expanded text as it could if
and only if the text fits the scratch buffer. -/
theorem line_stored_iff (field value : List UInt8) (size : field.length = 256) :
    (storeLine field value).length = 256 ∧ 0 ∈ storeLine field value ∧
      LineStored value (cString (storeLine field value)) ∧
      (cString (storeLine field value) = (expandNewlines (boundedString 256 value)).take 255 ↔
        FitsScratch (boundedString 256 value)) := by
  obtain ⟨length, ended, copied, line⟩ := storeLine_eq value size
  refine ⟨length, ended, ?_, ?_⟩
  · rw [line]
    exact ⟨fun _ => rfl, fun _ => rfl, fun _ => rfl, fun _ => rfl⟩
  · rw [copied]
    exact copyUnits_eq_take_iff _

/-- Two lines are joined. -/
theorem two_lines_stored :
    cString (storeLine (List.replicate 256 0) [65, 13, 10, 66]) = [65, 32, 47, 32, 66] :=
  ((line_stored_iff (List.replicate 256 0) [65, 13, 10, 66] List.length_replicate).2.2.2.mpr
    (by decide +kernel)).trans (by decide +kernel)

/-- A line of 253 letters loses the last one. -/
theorem long_line_cut :
    ¬∀ field value : List UInt8, field.length = 256 →
      cString (storeLine field value) = (expandNewlines (boundedString 256 value)).take 255 := by
  intro whole
  have same := whole (List.replicate 256 0) (List.replicate 253 65) List.length_replicate
  exact absurd same (by decide +kernel)

end CarplayRgi
