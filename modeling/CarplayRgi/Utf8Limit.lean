import Mathlib.Algebra.Order.Group.Nat
import Mathlib.Data.List.Induction
import CarplayRgi.JavaText

/-!
# Texts cut to a number of UTF-8 bytes

The length of the UTF-8 form grows with every further code unit, so the binary
search for a cut finds the longest prefix that fits.  A prefix may end between
the two units of a surrogate pair: the first of them alone counts as the one
byte of a question mark, where the pair has four.
-/

namespace CarplayRgi

namespace JavaText

theorem loneLength_pos (unit : Nat) : 0 < utf8Length.loneLength unit := by
  unfold utf8Length.loneLength
  split_ifs <;> decide

theorem isLow_eq_false_of_isHigh {unit : Nat} (high : isHighSurrogate unit = true) :
    isLowSurrogate unit = false := by
  simp only [isHighSurrogate, decide_eq_true_eq] at high
  simp only [isLowSurrogate, decide_eq_false_iff_not]
  omega

theorem loneLength_of_isHigh {unit : Nat} (high : isHighSurrogate unit = true) :
    utf8Length.loneLength unit = 1 := by
  have range := high
  simp only [isHighSurrogate, decide_eq_true_eq] at range
  rw [utf8Length.loneLength, if_neg (by omega), if_neg (by omega), if_pos (by simp [high])]

/-- A unit adds its own length, or the rest of the pair that it completes. -/
theorem utf8Length_concat (text : List Nat) (unit : Nat) :
    utf8Length (text ++ [unit]) = utf8Length text +
      if text.getLast?.any isHighSurrogate && isLowSurrogate unit then 3
      else utf8Length.loneLength unit := by
  induction text using utf8Length.induct with
  | case1 => simp [utf8Length]
  | case2 first =>
      cases high : isHighSurrogate first with
      | false => simp [utf8Length, high]
      | true =>
          cases low : isLowSurrogate unit with
          | false => simp [utf8Length, high, low]
          | true => simp [utf8Length, high, low, loneLength_of_isHigh high]
  | case3 first second rest pair ih =>
      obtain ⟨-, low⟩ := (Bool.and_eq_true _ _).mp pair
      have lastEq : (first :: second :: rest).getLast?.any isHighSurrogate =
          rest.getLast?.any isHighSurrogate := by
        cases rest with
        | nil =>
            have notHigh : isHighSurrogate second = false := by
              by_contra high
              rw [Bool.not_eq_false] at high
              exact Bool.noConfusion ((isLow_eq_false_of_isHigh high).symm.trans low)
            simp [notHigh]
        | cons third rest => simp
      rw [lastEq, List.cons_append, List.cons_append, utf8Length, utf8Length, if_pos pair,
        if_pos pair, ih, Nat.add_assoc]
  | case4 first second rest noPair ih =>
      have lastEq : (first :: second :: rest).getLast? = (second :: rest).getLast? := by simp
      rw [lastEq, List.cons_append, List.cons_append, utf8Length, utf8Length, if_neg noPair,
        if_neg noPair, ← List.cons_append, ih, Nat.add_assoc]

theorem utf8Length_lt_concat (text : List Nat) (unit : Nat) :
    utf8Length text < utf8Length (text ++ [unit]) := by
  rw [utf8Length_concat]
  split_ifs
  · exact Nat.lt_add_of_pos_right (by decide)
  · exact Nat.lt_add_of_pos_right (loneLength_pos unit)

theorem utf8Length_le_append (text suffix : List Nat) :
    utf8Length text ≤ utf8Length (text ++ suffix) := by
  induction suffix using List.reverseRecOn with
  | nil => rw [List.append_nil]
  | append_singleton suffix unit ih =>
      rw [← List.append_assoc]
      exact ih.trans (utf8Length_lt_concat (text ++ suffix) unit).le

theorem utf8Length_take_le (text : List Nat) {shorter longer : Nat} (le : shorter ≤ longer) :
    utf8Length (text.take shorter) ≤ utf8Length (text.take longer) := by
  obtain ⟨suffix, split⟩ := List.take_prefix_take_left le
  rw [← split]
  exact utf8Length_le_append _ suffix

/-- The greatest length whose prefix fits the bytes. -/
structure GreatestFit (text : List Nat) (maxBytes length : Nat) : Prop where
  inside : length ≤ text.length
  fits : utf8Length (text.take length) ≤ maxBytes
  greatest : ∀ longer, length < longer → longer ≤ text.length →
    maxBytes < utf8Length (text.take longer)

theorem limitSearch_greatestFit {text : List Nat} {maxBytes lo hi : Nat} (ordered : lo ≤ hi)
    (inside : hi ≤ text.length) (fits : utf8Length (text.take lo) ≤ maxBytes)
    (above : ∀ longer, hi < longer → longer ≤ text.length →
      maxBytes < utf8Length (text.take longer)) :
    GreatestFit text maxBytes (limitSearch text maxBytes lo hi) := by
  induction lo, hi using limitSearch.induct text maxBytes with
  | case1 lo hi below mid midFits ih =>
      have midLe : mid ≤ hi := by omega
      rw [limitSearch, if_pos below]
      simp only
      rw [if_pos midFits]
      exact ih midLe inside midFits above
  | case2 lo hi below mid midLong ih =>
      rw [limitSearch, if_pos below]
      simp only
      rw [if_neg midLong]
      refine ih (by omega) (by omega) fits fun longer beyond longerInside => ?_
      exact (Nat.lt_of_not_le midLong).trans_le (utf8Length_take_le text (by omega))
  | case3 lo hi notBelow =>
      rw [limitSearch, if_neg notBelow]
      exact ⟨by omega, fits, fun longer beyond => above longer (by omega)⟩

/-- The limited text is the longest prefix that fits the bytes. -/
theorem limitUtf8_eq_take (text : List Nat) {maxBytes : Nat} (positive : 0 < maxBytes) :
    ∃ length, limitUtf8 text maxBytes = text.take length ∧ GreatestFit text maxBytes length := by
  rw [limitUtf8, if_neg positive.ne']
  split_ifs with fits
  · refine ⟨text.length, List.take_length.symm, le_rfl, by rwa [List.take_length], ?_⟩
    exact fun longer beyond inside => absurd inside (Nat.not_le.mpr beyond)
  · exact ⟨_, rfl, limitSearch_greatestFit (Nat.zero_le _) le_rfl (Nat.zero_le _)
      fun longer beyond inside => absurd inside (Nat.not_le.mpr beyond)⟩

/-- The two units at a position are a surrogate pair. -/
def pairAt (text : List Nat) (position : Nat) : Bool :=
  text[position]?.any isHighSurrogate && text[position + 1]?.any isLowSurrogate

theorem pairAt_eq_false {text : List Nat} (noHigh : ∀ unit ∈ text, isHighSurrogate unit = false)
    (position : Nat) : pairAt text position = false := by
  rw [pairAt]
  cases highAt : text[position]? with
  | none => rfl
  | some high =>
      rw [Option.any_some, noHigh high (List.mem_of_getElem? highAt)]
      rfl

/-- A prefix of this length ends between the units of a pair. -/
def SplitsPair (text : List Nat) (length : Nat) : Prop :=
  ∃ position, length = position + 1 ∧ pairAt text position = true

/-- The bytes end inside the UTF-8 form of the pair at a position. -/
def EndsInPair (text : List Nat) (maxBytes position : Nat) : Prop :=
  pairAt text position = true ∧ utf8Length (text.take position) + 1 ≤ maxBytes ∧
    maxBytes < utf8Length (text.take position) + 4

/-- The longest prefix that splits no surrogate pair and fits the bytes. -/
structure IsLimit (text : List Nat) (maxBytes : Nat) (kept : List Nat) : Prop where
  isPrefix : kept <+: text
  whole : ¬ SplitsPair text kept.length
  fits : utf8Length kept ≤ maxBytes
  longest : ∀ other, other <+: text → ¬ SplitsPair text other.length →
    utf8Length other ≤ maxBytes → other.length ≤ kept.length

theorem utf8Length_take_pair {text : List Nat} {position : Nat}
    (pair : pairAt text position = true) :
    utf8Length (text.take (position + 1)) = utf8Length (text.take position) + 1 ∧
      utf8Length (text.take (position + 2)) = utf8Length (text.take position) + 4 ∧
      position + 2 ≤ text.length := by
  rw [pairAt, Bool.and_eq_true] at pair
  cases highAt : text[position]? with
  | none => simp [highAt] at pair
  | some high =>
      cases lowAt : text[position + 1]? with
      | none => simp [lowAt] at pair
      | some low =>
          simp only [highAt, lowAt, Option.any_some] at pair
          obtain ⟨isHigh, isLow⟩ := pair
          have takeHigh : text.take (position + 1) = text.take position ++ [high] := by
            rw [List.take_add_one, highAt, Option.toList_some]
          have takeLow : text.take (position + 2) = text.take (position + 1) ++ [low] := by
            rw [List.take_add_one, lowAt, Option.toList_some]
          have lengthHigh : utf8Length (text.take (position + 1)) =
              utf8Length (text.take position) + 1 := by
            rw [takeHigh, utf8Length_concat, isLow_eq_false_of_isHigh isHigh, Bool.and_false,
              if_neg Bool.false_ne_true, loneLength_of_isHigh isHigh]
          have lengthLow : utf8Length (text.take (position + 2)) =
              utf8Length (text.take (position + 1)) + 3 := by
            rw [takeLow, utf8Length_concat, takeHigh]
            simp [isHigh, isLow]
          have inside : position + 1 < text.length := (List.getElem?_eq_some_iff.mp lowAt).1
          exact ⟨lengthHigh, by omega, inside⟩

/-- The longest prefix that fits ends inside a pair exactly where the bytes do. -/
theorem splitsPair_iff {text : List Nat} {maxBytes length : Nat}
    (greatest : GreatestFit text maxBytes length) :
    SplitsPair text length ↔ ∃ position, EndsInPair text maxBytes position := by
  constructor
  · rintro ⟨position, rfl, pair⟩
    obtain ⟨first, both, inside⟩ := utf8Length_take_pair pair
    have cut := greatest.greatest (position + 2) (Nat.lt_succ_self _) inside
    have fits := greatest.fits
    exact ⟨position, pair, by omega, by omega⟩
  · rintro ⟨position, pair, firstFits, bothLong⟩
    obtain ⟨first, both, inside⟩ := utf8Length_take_pair pair
    refine ⟨position, ?_, pair⟩
    have notShorter : position + 1 ≤ length := by
      by_contra shorter
      have long := greatest.greatest (position + 1) (by omega) (by omega)
      omega
    have notLonger : length < position + 2 := by
      by_contra longer
      have fits := utf8Length_take_le text (Nat.le_of_not_lt longer)
      have lengthFits := greatest.fits
      omega
    omega

/-- For a positive number of bytes the limited text is the longest prefix that
fits and splits no surrogate pair, except when the bytes end inside a pair. -/
theorem limitUtf8_isLimit_iff (text : List Nat) {maxBytes : Nat} (positive : 0 < maxBytes) :
    IsLimit text maxBytes (limitUtf8 text maxBytes) ↔
      ¬ ∃ position, EndsInPair text maxBytes position := by
  obtain ⟨length, limited, greatest⟩ := limitUtf8_eq_take text positive
  have lengthEq : (text.take length).length = length := by
    rw [List.length_take, Nat.min_eq_left greatest.inside]
  rw [limited, ← splitsPair_iff greatest]
  constructor
  · intro isLimit
    have whole := isLimit.whole
    rwa [lengthEq] at whole
  · intro whole
    refine ⟨List.take_prefix length text, by rwa [lengthEq], greatest.fits, ?_⟩
    intro other isPrefix _ fits
    rw [lengthEq]
    by_contra longer
    have long := greatest.greatest other.length (Nat.lt_of_not_le longer) isPrefix.length_le
    rw [← List.prefix_iff_eq_take.mp isPrefix] at long
    omega

theorem greeting_limited :
    IsLimit (units ['你', '好', '!']) 5 (limitUtf8 (units ['你', '好', '!']) 5) :=
  (limitUtf8_isLimit_iff (units ['你', '好', '!']) (by decide)).mpr (by
    rintro ⟨position, pair, -⟩
    exact Bool.noConfusion ((pairAt_eq_false (by decide) position).symm.trans pair))

/-- A destination of 49 letters and a character outside the basic plane. -/
def longDestination : List Nat := units (List.replicate 49 'a' ++ ['😀'])

theorem limit_splits_pair :
    ¬ ∀ (text : List Nat) (maxBytes : Nat), 0 < maxBytes →
      IsLimit text maxBytes (limitUtf8 text maxBytes) := by
  intro limited
  obtain ⟨length, isTake, greatest⟩ := limitUtf8_eq_take longDestination (show 0 < 50 by decide)
  have endsInPair : ∃ position, EndsInPair longDestination 50 position :=
    ⟨49, by decide, by decide, by decide⟩
  have whole := (limited longDestination 50 (by decide)).whole
  rw [isTake, List.length_take, Nat.min_eq_left greatest.inside] at whole
  exact whole ((splitsPair_iff greatest).mpr endsInPair)

end JavaText

end CarplayRgi
