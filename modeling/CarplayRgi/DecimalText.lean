import Mathlib.Algebra.Group.Int.Defs
import Mathlib.Algebra.Group.Nat.Defs
import Mathlib.Data.Int.Basic
import Mathlib.Data.List.Basic
import Mathlib.Tactic.Common

/-!
# Decimal numerals and delimited lists of them

Printing of signed decimal numerals, the bounded parser that accepts them
back, and comma-separated lists.  The parser is the usual one of a signed
machine integer: an optional sign, at least one digit, nothing else, and no
value outside the width.
-/

namespace CarplayRgi

namespace DecimalText

/-- The decimal numeral of an integer. -/
def decimal (number : Int) : List Char :=
  if number < 0 then '-' :: Nat.toDigits 10 number.natAbs
  else Nat.toDigits 10 number.natAbs

/-- The unsigned value of a nonempty digit string. -/
def parseDigits (text : List Char) : Option Nat :=
  if text ≠ [] ∧ text.all Char.isDigit then some (Nat.ofDigitChars 10 text 0)
  else none

/-- Numbers that a signed machine integer of the given width holds. -/
def Fits (width : Nat) (number : Int) : Prop :=
  -(2 ^ (width - 1) : Int) ≤ number ∧ number < 2 ^ (width - 1)

instance (width : Nat) (number : Int) : Decidable (Fits width number) :=
  inferInstanceAs (Decidable (_ ∧ _))

def checkWidth (width : Nat) (number : Int) : Option Int :=
  if Fits width number then some number else none

/-- Parse a signed decimal numeral of a bounded width.  Only the digits 0 to 9 are
read, which are all that the writers of such texts put there; `Integer.parseInt`
also takes those of other scripts. -/
def parseSigned (width : Nat) : List Char → Option Int
  | '-' :: digits => (parseDigits digits).bind fun value => checkWidth width (-value)
  | '+' :: digits => (parseDigits digits).bind fun value => checkWidth width value
  | digits => (parseDigits digits).bind fun value => checkWidth width value

theorem checkWidth_of_fits {width : Nat} {number : Int}
    (fits : Fits width number) : checkWidth width number = some number :=
  if_pos fits

theorem parseSigned_fits {width : Nat} {text : List Char} {number : Int}
    (parsed : parseSigned width text = some number) : Fits width number := by
  have checked : ∀ {value : Int}, checkWidth width value = some number → Fits width number := by
    intro value accepted
    simp only [checkWidth] at accepted
    split at accepted
    · rename_i fits
      cases accepted
      exact fits
    · cases accepted
  unfold parseSigned at parsed
  split at parsed <;>
    exact checked (Option.bind_eq_some_iff.mp parsed).choose_spec.2

theorem isDigit_of_mem_toDigits {number : Nat} {char : Char}
    (member : char ∈ Nat.toDigits 10 number) : char.isDigit = true :=
  Nat.isDigit_of_mem_toDigits (by decide) (by decide) member

theorem parseDigits_toDigits (number : Nat) :
    parseDigits (Nat.toDigits 10 number) = some number := by
  have digits : (Nat.toDigits 10 number).all Char.isDigit = true :=
    List.all_eq_true.mpr fun _ => isDigit_of_mem_toDigits
  simp [parseDigits, digits, Nat.toDigits_ne_nil]

theorem head_toDigits_ne {number : Nat} {char : Char} (notDigit : char.isDigit = false) :
    ∀ rest, Nat.toDigits 10 number ≠ char :: rest := by
  intro rest equal
  have member : char ∈ Nat.toDigits 10 number := by simp [equal]
  simp [isDigit_of_mem_toDigits member] at notDigit

theorem parseSigned_toDigits (width number : Nat) :
    parseSigned width (Nat.toDigits 10 number) = checkWidth width number := by
  unfold parseSigned
  split
  · rename_i rest equal
    exact absurd equal (head_toDigits_ne (by decide) rest)
  · rename_i rest equal
    exact absurd equal (head_toDigits_ne (by decide) rest)
  · simp [parseDigits_toDigits]

/-- Reading back a printed numeral only checks its width. -/
theorem parseSigned_decimal (width : Nat) (number : Int) :
    parseSigned width (decimal number) = checkWidth width number := by
  unfold decimal
  split
  · rename_i negative
    have absolute : -(number.natAbs : Int) = number := by omega
    simp only [parseSigned, parseDigits_toDigits, Option.bind_some, absolute]
  · rename_i nonnegative
    have absolute : (number.natAbs : Int) = number := by omega
    rw [parseSigned_toDigits, absolute]

theorem decimal_chars {number : Int} {char : Char}
    (member : char ∈ decimal number) : char = '-' ∨ char.isDigit = true := by
  unfold decimal at member
  split at member
  · rcases List.mem_cons.mp member with rfl | digit
    · exact Or.inl rfl
    · exact Or.inr (isDigit_of_mem_toDigits digit)
  · exact Or.inr (isDigit_of_mem_toDigits member)

theorem decimal_ne_nil (number : Int) : decimal number ≠ [] := by
  unfold decimal
  split <;> simp [Nat.toDigits_ne_nil]

/-- A character that is neither a digit nor a minus sign is in no numeral. -/
theorem not_mem_decimal {number : Int} {char : Char}
    (notDigit : char.isDigit = false) (notMinus : char ≠ '-') :
    char ∉ decimal number := by
  intro member
  rcases decimal_chars member with minus | digit
  · exact notMinus minus
  · simp [digit] at notDigit

/-- Items joined by a separator. -/
def joinWith (separator : Char) (items : List (List Char)) : List Char :=
  [separator].intercalate items

@[simp]
theorem joinWith_nil (separator : Char) : joinWith separator [] = [] := rfl

@[simp]
theorem joinWith_singleton (separator : Char) (item : List Char) :
    joinWith separator [item] = item := by
  simp [joinWith, List.intercalate]

theorem joinWith_cons_cons (separator : Char) (first second : List Char)
    (rest : List (List Char)) :
    joinWith separator (first :: second :: rest) =
      first ++ separator :: joinWith separator (second :: rest) := by
  simp [joinWith, List.intercalate, List.intersperse]

theorem splitOn_joinWith {separator : Char} {items : List (List Char)}
    (free : ∀ item ∈ items, separator ∉ item) (nonempty : items ≠ []) :
    (joinWith separator items).splitOn separator = items :=
  List.splitOn_intercalate separator free nonempty

theorem mem_joinWith {separator char : Char} {items : List (List Char)}
    (member : char ∈ joinWith separator items) :
    char = separator ∨ ∃ item ∈ items, char ∈ item := by
  induction items with
  | nil => simp at member
  | cons item items ih =>
      cases items with
      | nil =>
          rw [joinWith_singleton] at member
          exact Or.inr ⟨item, by simp, member⟩
      | cons second rest =>
          rw [joinWith_cons_cons, List.mem_append, List.mem_cons] at member
          rcases member with inItem | isSeparator | inRest
          · exact Or.inr ⟨item, by simp, inItem⟩
          · exact Or.inl isSeparator
          · rcases ih inRest with isSeparator | ⟨other, otherMem, inOther⟩
            · exact Or.inl isSeparator
            · exact Or.inr ⟨other, List.mem_cons_of_mem _ otherMem, inOther⟩

theorem joinWith_ne_nil {separator : Char} {item : List Char} {items : List (List Char)}
    (nonempty : item ≠ []) : joinWith separator (item :: items) ≠ [] := by
  cases items with
  | nil => simpa using nonempty
  | cons second rest => simp [joinWith_cons_cons]

theorem joinWith_length_le {separator : Char} {items : List (List Char)} {bound : Nat}
    (short : ∀ item ∈ items, item.length ≤ bound) :
    (joinWith separator items).length ≤ items.length * (bound + 1) := by
  induction items with
  | nil => simp
  | cons item items ih =>
      have head := short item List.mem_cons_self
      have tail := ih fun other member => short other (List.mem_cons_of_mem item member)
      rw [List.length_cons, Nat.add_mul]
      cases items with
      | nil =>
          rw [joinWith_singleton]
          omega
      | cons second rest =>
          rw [joinWith_cons_cons, List.length_append, List.length_cons]
          omega

/-- Comma-separated numerals. -/
def commaList (numbers : List Int) : List Char :=
  joinWith ',' (numbers.map decimal)

theorem splitOn_commaList {numbers : List Int} (nonempty : numbers ≠ []) :
    (commaList numbers).splitOn ',' = numbers.map decimal := by
  apply splitOn_joinWith
  · intro item itemMem
    obtain ⟨number, -, rfl⟩ := List.mem_map.mp itemMem
    exact not_mem_decimal (by decide) (by decide)
  · simpa using nonempty

theorem not_mem_commaList {numbers : List Int} {char : Char}
    (notDigit : char.isDigit = false) (notMinus : char ≠ '-') (notComma : char ≠ ',') :
    char ∉ commaList numbers := by
  intro member
  rcases mem_joinWith member with comma | ⟨item, itemMem, inItem⟩
  · exact notComma comma
  · obtain ⟨number, -, rfl⟩ := List.mem_map.mp itemMem
    exact not_mem_decimal notDigit notMinus inItem

theorem commaList_ne_nil {numbers : List Int} (nonempty : numbers ≠ []) :
    commaList numbers ≠ [] := by
  cases numbers with
  | nil => exact absurd rfl nonempty
  | cons number numbers => exact joinWith_ne_nil (decimal_ne_nil number)

end DecimalText

end CarplayRgi
