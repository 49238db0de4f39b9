import Mathlib.Data.List.Basic
import Mathlib.Tactic.Common

/-!
# Buffers that are edited in place

A buffer is the list of what it holds.  A copy replaces what was at its
destination and leaves the length as it was when it stays inside.
-/

namespace CarplayRgi

namespace ByteBuffers

variable {Byte : Type*}

def memcpy (mem : List Byte) (dst : Nat) (bytes : List Byte) : List Byte :=
  mem.take dst ++ (bytes ++ mem.drop (dst + bytes.length))

/-- The bytes are read before any is overwritten. -/
def memmove (mem : List Byte) (dst src len : Nat) : List Byte :=
  memcpy mem dst ((mem.drop src).take len)

theorem memcpy_append (before rest bytes : List Byte) :
    memcpy (before ++ rest) before.length bytes = before ++ (bytes ++ rest.drop bytes.length) := by
  unfold memcpy
  rw [List.take_left, ← List.drop_drop, List.drop_left]

/-- What comes behind an old item is moved, and the new item is put in its place. -/
theorem memcpy_memmove (before old after spare : List Byte) {new : List Byte}
    (room : new.length ≤ old.length + (after.length + spare.length)) :
    ∃ rest, memcpy
        (if 0 < after.length then
          memmove (before ++ (old ++ (after ++ spare))) (before.length + new.length)
            (before.length + old.length) after.length
        else before ++ (old ++ (after ++ spare))) before.length new =
      before ++ (new ++ (after ++ rest)) := by
  by_cases moves : 0 < after.length
  · have source : ((before ++ (old ++ (after ++ spare))).drop (before.length + old.length)).take
        after.length = after := by
      rw [← List.drop_drop, List.drop_left, List.drop_left, List.take_left]
    have kept : (before ++ (old ++ (after ++ spare))).take (before.length + new.length) =
        before ++ (old ++ (after ++ spare)).take new.length := List.take_length_add_append _
    have length : ((old ++ (after ++ spare)).take new.length).length = new.length := by
      rw [List.length_take, List.length_append, List.length_append]
      omega
    have moved : memmove (before ++ (old ++ (after ++ spare))) (before.length + new.length)
        (before.length + old.length) after.length =
        before ++ ((old ++ (after ++ spare)).take new.length ++ (after ++
          (before ++ (old ++ (after ++ spare))).drop
            (before.length + new.length + after.length))) := by
      rw [memmove, source, memcpy, kept, List.append_assoc]
    exact ⟨_, by rw [if_pos moves, moved, memcpy_append, List.drop_left' length]⟩
  · have empty : after = [] := List.eq_nil_of_length_eq_zero (Nat.le_zero.mp (Nat.not_lt.mp moves))
    subst empty
    exact ⟨_, by rw [if_neg moves, memcpy_append]; rfl⟩

end ByteBuffers

end CarplayRgi
