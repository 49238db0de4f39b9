import Mathlib.Algebra.Group.Int.Defs
import Mathlib.Algebra.Group.Nat.Defs
import Mathlib.Data.Int.DivMod
import Mathlib.Data.List.Basic

/-!
# Java strings

A string is a list of UTF-16 code units.  The length of its UTF-8 form counts
a surrogate pair as four bytes, and a surrogate without its pair as the one
byte of a question mark.
-/

namespace CarplayRgi

namespace JavaText

/-- The code units of a character. -/
def charUnits (char : Char) : List Nat :=
  if char.toNat < 0x10000 then [char.toNat]
  else [0xD800 + (char.toNat - 0x10000) / 0x400, 0xDC00 + (char.toNat - 0x10000) % 0x400]

def units (text : List Char) : List Nat :=
  text.flatMap charUnits

def isHighSurrogate (unit : Nat) : Bool := decide (0xD800 ≤ unit ∧ unit < 0xDC00)

def isLowSurrogate (unit : Nat) : Bool := decide (0xDC00 ≤ unit ∧ unit < 0xE000)

/-- `getBytes("UTF-8").length`. -/
def utf8Length : List Nat → Nat
  | [] => 0
  | [unit] => loneLength unit
  | first :: second :: rest =>
      if isHighSurrogate first && isLowSurrogate second then 4 + utf8Length rest
      else loneLength first + utf8Length (second :: rest)
where
  loneLength (unit : Nat) : Nat :=
    if unit < 0x80 then 1
    else if unit < 0x800 then 2
    else if isHighSurrogate unit || isLowSurrogate unit then 1
    else 3

/-- The binary search of `limitUtf8` between two lengths. -/
def limitSearch (text : List Nat) (maxBytes lo hi : Nat) : Nat :=
  if lo < hi then
    let mid := (lo + hi + 1) / 2
    if utf8Length (text.take mid) ≤ maxBytes then limitSearch text maxBytes mid hi
    else limitSearch text maxBytes lo (mid - 1)
  else lo
termination_by hi - lo

/-- `limitUtf8`. -/
def limitUtf8 (text : List Nat) (maxBytes : Nat) : List Nat :=
  if maxBytes = 0 then []
  else if utf8Length text ≤ maxBytes then text
  else text.take (limitSearch text maxBytes 0 text.length)

end JavaText

/-- The value of an `int` after an arithmetic operation. -/
def wrapInt (value : Int) : Int := Int.bmod value (2 ^ 32)

theorem wrapInt_eq {value : Int} (lower : -2 ^ 31 ≤ value) (upper : value < 2 ^ 31) :
    wrapInt value = value := by
  rw [wrapInt, Int.bmod_def]
  split_ifs <;> omega

/-- The value of a `long` after an arithmetic operation. -/
def wrapLong (value : Int) : Int := Int.bmod value (2 ^ 64)

end CarplayRgi
