import Mathlib.Data.Int.ModEq
import Mathlib.Logic.Function.Basic
import Mathlib.Tactic.Common

/-!
# Ring buffers of fixed capacity

An array of slots with the index of the oldest element, the index where the
next element goes, and the number of elements.  The indices agree by
construction, so a buffer is a queue: it is read from the oldest element, and
its two operations are a push at one end of the list and a pop at the other.
-/

namespace CarplayRgi

structure RingBuffer (Item : Type*) (capacity : Nat) where
  slots : Fin capacity → Item
  head : Nat
  tail : Nat
  count : Nat
  head_lt : head < capacity
  count_le : count ≤ capacity
  tail_eq : tail = (head + count) % capacity

namespace RingBuffer

variable {Item : Type*} {capacity : Nat}

/-- The slot at an offset from another one. -/
def slotAt (buffer : RingBuffer Item capacity) (offset : Nat) : Fin capacity :=
  ⟨(buffer.head + offset) % capacity, Nat.mod_lt _ (Nat.zero_lt_of_lt buffer.head_lt)⟩

/-- The elements, oldest first. -/
def toList (buffer : RingBuffer Item capacity) : List Item :=
  (List.range buffer.count).map fun offset => buffer.slots (buffer.slotAt offset)

/-- The slot of the oldest element. -/
def headSlot (buffer : RingBuffer Item capacity) : Fin capacity :=
  ⟨buffer.head, buffer.head_lt⟩

/-- The slot where the next element goes. -/
def tailSlot (buffer : RingBuffer Item capacity) : Fin capacity :=
  ⟨buffer.tail, buffer.tail_eq ▸ Nat.mod_lt _ (Nat.zero_lt_of_lt buffer.head_lt)⟩

def isFull (buffer : RingBuffer Item capacity) : Bool :=
  buffer.count == capacity

def empty (filler : Item) (positive : 0 < capacity) : RingBuffer Item capacity where
  slots := fun _ => filler
  head := 0
  tail := 0
  count := 0
  head_lt := positive
  count_le := Nat.zero_le capacity
  tail_eq := rfl

/-- Write an element behind the others, unless the buffer is full. -/
def enqueue (item : Item) (buffer : RingBuffer Item capacity) :
    Option (RingBuffer Item capacity) :=
  if hasRoom : buffer.count < capacity then
    some
      { slots := Function.update buffer.slots buffer.tailSlot item
        head := buffer.head
        tail := (buffer.tail + 1) % capacity
        count := buffer.count + 1
        head_lt := buffer.head_lt
        count_le := hasRoom
        tail_eq := by rw [buffer.tail_eq, Nat.mod_add_mod, Nat.add_assoc] }
  else none

/-- Take the oldest element, unless the buffer is empty. -/
def dequeue (buffer : RingBuffer Item capacity) :
    Option (Item × RingBuffer Item capacity) :=
  if notEmpty : 0 < buffer.count then
    some (buffer.slots buffer.headSlot,
      { slots := buffer.slots
        head := (buffer.head + 1) % capacity
        tail := buffer.tail
        count := buffer.count - 1
        head_lt := Nat.mod_lt _ (Nat.zero_lt_of_lt buffer.head_lt)
        count_le := le_trans (Nat.sub_le _ _) buffer.count_le
        tail_eq := by
          rw [buffer.tail_eq, Nat.mod_add_mod]
          congr 1
          omega })
  else none

@[simp]
theorem toList_empty (filler : Item) (positive : 0 < capacity) :
    (empty filler positive).toList = [] := rfl

@[simp]
theorem length_toList (buffer : RingBuffer Item capacity) :
    buffer.toList.length = buffer.count := by
  simp [toList]

theorem length_toList_le (buffer : RingBuffer Item capacity) :
    buffer.toList.length ≤ capacity := by
  rw [length_toList]
  exact buffer.count_le

theorem isFull_iff (buffer : RingBuffer Item capacity) :
    buffer.isFull = true ↔ buffer.toList.length = capacity := by
  simp [isFull]

/-- Elements at different offsets are in different slots. -/
theorem slotAt_injective (buffer : RingBuffer Item capacity) {first second : Nat}
    (firstLt : first < capacity) (secondLt : second < capacity)
    (same : buffer.slotAt first = buffer.slotAt second) : first = second := by
  have sameIndex : (buffer.head + first) % capacity = (buffer.head + second) % capacity :=
    congrArg Fin.val same
  have congruent : first % capacity = second % capacity :=
    Nat.ModEq.add_left_cancel' buffer.head sameIndex
  rwa [Nat.mod_eq_of_lt firstLt, Nat.mod_eq_of_lt secondLt] at congruent

theorem slotAt_zero (buffer : RingBuffer Item capacity) : buffer.slotAt 0 = buffer.headSlot :=
  Fin.ext (Nat.mod_eq_of_lt buffer.head_lt)

theorem slotAt_count (buffer : RingBuffer Item capacity) :
    buffer.slotAt buffer.count = buffer.tailSlot :=
  Fin.ext buffer.tail_eq.symm

/-- The slot behind the elements holds none of them. -/
theorem update_tailSlot_slotAt {buffer : RingBuffer Item capacity} {offset : Nat}
    (hasRoom : buffer.count < capacity) (live : offset < buffer.count) (item : Item) :
    Function.update buffer.slots buffer.tailSlot item (buffer.slotAt offset) =
      buffer.slots (buffer.slotAt offset) := by
  apply Function.update_of_ne
  rw [← slotAt_count]
  intro same
  have := buffer.slotAt_injective (by omega) hasRoom same
  omega

/-- The slot of the oldest element holds no other one. -/
theorem update_headSlot_slotAt {buffer : RingBuffer Item capacity} {offset : Nat}
    (later : 0 < offset) (live : offset < buffer.count) (item : Item) :
    Function.update buffer.slots buffer.headSlot item (buffer.slotAt offset) =
      buffer.slots (buffer.slotAt offset) := by
  have fits := buffer.count_le
  apply Function.update_of_ne
  rw [← slotAt_zero]
  intro same
  have := buffer.slotAt_injective (by omega) (by omega) same
  omega

/-- Only the slots of the elements matter. -/
theorem toList_congr {buffer other : RingBuffer Item capacity} (sameHead : other.head = buffer.head)
    (sameCount : other.count = buffer.count)
    (sameSlots : ∀ offset < buffer.count,
      other.slots (buffer.slotAt offset) = buffer.slots (buffer.slotAt offset)) :
    other.toList = buffer.toList := by
  have sameSlot : ∀ offset, other.slotAt offset = buffer.slotAt offset := by
    intro offset
    simp only [slotAt, sameHead]
  unfold toList
  rw [sameCount]
  apply List.map_congr_left
  intro offset isOffset
  rw [sameSlot]
  exact sameSlots offset (List.mem_range.mp isOffset)

theorem enqueue_eq_none_iff (item : Item) (buffer : RingBuffer Item capacity) :
    buffer.enqueue item = none ↔ buffer.isFull = true := by
  have fits := buffer.count_le
  simp only [enqueue, isFull, beq_iff_eq, dite_eq_right_iff, reduceCtorEq, imp_false]
  omega

theorem toList_enqueue {item : Item} {buffer after : RingBuffer Item capacity}
    (enqueued : buffer.enqueue item = some after) : after.toList = buffer.toList ++ [item] := by
  unfold enqueue at enqueued
  split at enqueued
  · rename_i hasRoom
    cases enqueued
    have kept : ∀ offset ∈ List.range buffer.count,
        Function.update buffer.slots buffer.tailSlot item (buffer.slotAt offset) =
          buffer.slots (buffer.slotAt offset) := by
      intro offset isOffset
      exact update_tailSlot_slotAt hasRoom (List.mem_range.mp isOffset) item
    calc
      ((List.range (buffer.count + 1)).map fun offset =>
          Function.update buffer.slots buffer.tailSlot item (buffer.slotAt offset)) =
          ((List.range buffer.count).map fun offset =>
            Function.update buffer.slots buffer.tailSlot item (buffer.slotAt offset)) ++
              [item] := by
        rw [List.range_succ, List.map_append, List.map_singleton, slotAt_count,
          Function.update_self]
      _ = buffer.toList ++ [item] := by rw [List.map_congr_left kept, toList]
  · cases enqueued

theorem dequeue_eq_none_iff (buffer : RingBuffer Item capacity) :
    buffer.dequeue = none ↔ buffer.toList = [] := by
  rw [← List.length_eq_zero_iff, length_toList]
  simp only [dequeue, dite_eq_right_iff, reduceCtorEq, imp_false]
  omega

/-- What a dequeue hands out, and where the other elements are afterwards. -/
theorem dequeue_spec {item : Item} {buffer after : RingBuffer Item capacity}
    (dequeued : buffer.dequeue = some (item, after)) :
    item = buffer.slots buffer.headSlot ∧ after.slots = buffer.slots ∧
      buffer.count = after.count + 1 ∧
        ∀ offset, after.slotAt offset = buffer.slotAt (offset + 1) := by
  unfold dequeue at dequeued
  split at dequeued
  · rename_i notEmpty
    cases dequeued
    refine ⟨rfl, rfl, by dsimp only; omega, fun offset => Fin.ext ?_⟩
    dsimp only [slotAt]
    rw [Nat.mod_add_mod, Nat.add_assoc, Nat.add_comm 1]
  · cases dequeued

theorem toList_dequeue {item : Item} {buffer after : RingBuffer Item capacity}
    (dequeued : buffer.dequeue = some (item, after)) : buffer.toList = item :: after.toList := by
  obtain ⟨isOldest, sameSlots, fewer, shifted⟩ := dequeue_spec dequeued
  unfold toList
  rw [fewer, List.range_succ_eq_map, List.map_cons, List.map_map, slotAt_zero, ← isOldest]
  congr 1
  apply List.map_congr_left
  intro offset _
  rw [sameSlots, shifted]
  rfl

/-- The slot that the item has left may be overwritten. -/
theorem toList_overwrite {item : Item} {buffer after : RingBuffer Item capacity}
    (dequeued : buffer.dequeue = some (item, after)) (left : Item) :
    ({ after with slots := Function.update buffer.slots buffer.headSlot left } :
      RingBuffer Item capacity).toList = after.toList := by
  obtain ⟨-, sameSlots, fewer, shifted⟩ := dequeue_spec dequeued
  refine toList_congr rfl rfl fun offset live => ?_
  rw [shifted, sameSlots]
  exact update_headSlot_slotAt (Nat.succ_pos offset) (by omega) left

end RingBuffer

end CarplayRgi
