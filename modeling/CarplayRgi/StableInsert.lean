import Mathlib.Data.List.Perm.Basic
import Mathlib.Order.Basic
import Mathlib.Order.Lattice

/-!
# Stable insertion

An item is put into a list that is sorted by a key, in front of the first item
with a greater key.  The list stays sorted, and for each key the insertion is an
ordinary append, so that items of one key keep the order of their insertions.
-/

namespace CarplayRgi

namespace StableInsert

variable {Item Other Key : Type*} [LinearOrder Key] (key : Item → Key)

def SortedBy (items : List Item) : Prop :=
  items.Pairwise fun first second => key first ≤ key second

/-- Put an item in front of the first one with a greater key. -/
def insertBy (item : Item) : List Item → List Item
  | [] => [item]
  | head :: tail =>
      if key item < key head then item :: head :: tail else head :: insertBy item tail

/-- Insertion as a search for the place and a shift of everything behind it. -/
theorem insertBy_eq_take_drop (item : Item) (items : List Item) :
    insertBy key item items =
      items.take (items.findIdx fun other => decide (key item < key other)) ++
        item :: items.drop (items.findIdx fun other => decide (key item < key other)) := by
  induction items with
  | nil => rfl
  | cons head tail ih =>
      rw [insertBy, List.findIdx_cons]
      by_cases greater : key item < key head
      · simp [greater]
      · simpa [greater] using ih

theorem perm_insertBy (item : Item) (items : List Item) :
    (insertBy key item items).Perm (item :: items) := by
  induction items with
  | nil => exact List.Perm.refl [item]
  | cons head tail ih =>
      rw [insertBy]
      split_ifs
      · exact List.Perm.refl _
      · exact (ih.cons head).trans (List.Perm.swap item head tail)

theorem map_insertBy {otherKey : Other → Key} {change : Item → Other}
    (same : ∀ item, otherKey (change item) = key item) (item : Item) (items : List Item) :
    (insertBy key item items).map change =
      insertBy otherKey (change item) (items.map change) := by
  induction items with
  | nil => rfl
  | cons head tail ih =>
      rw [List.map_cons, insertBy, insertBy, same, same]
      split_ifs
      · rfl
      · rw [List.map_cons, ih]

variable {key}

theorem SortedBy.insertBy {items : List Item} (sorted : SortedBy key items) (item : Item) :
    SortedBy key (insertBy key item items) := by
  induction items with
  | nil => exact List.pairwise_singleton _ _
  | cons head tail ih =>
      obtain ⟨headLeast, tailSorted⟩ := List.pairwise_cons.mp sorted
      rw [StableInsert.insertBy]
      split_ifs with greater
      · refine List.pairwise_cons.mpr ⟨fun other member => ?_, sorted⟩
        cases List.mem_cons.mp member with
        | inl same => exact same ▸ greater.le
        | inr inTail => exact greater.le.trans (headLeast other inTail)
      · refine List.pairwise_cons.mpr ⟨fun other member => ?_, ih tailSorted⟩
        cases List.mem_cons.mp ((perm_insertBy key item tail).mem_iff.mp member) with
        | inl same => exact same ▸ le_of_not_gt greater
        | inr inTail => exact headLeast other inTail

/-- For each key an insertion is an append. -/
theorem SortedBy.filter_insertBy {items : List Item} (sorted : SortedBy key items) (item : Item)
    (wanted : Key) :
    (StableInsert.insertBy key item items).filter (fun other => decide (key other = wanted)) =
      (items ++ [item]).filter fun other => decide (key other = wanted) := by
  induction items with
  | nil => rfl
  | cons head tail ih =>
      obtain ⟨headLeast, tailSorted⟩ := List.pairwise_cons.mp sorted
      rw [StableInsert.insertBy]
      split_ifs with greater
      · by_cases asked : key item = wanted
        · -- Everything in the list has a greater key, so nothing of it is kept.
          have noneKept :
              (head :: tail).filter (fun other => decide (key other = wanted)) = [] := by
            refine List.filter_eq_nil_iff.mpr fun other member kept => ?_
            have otherGreater : key item < key other := by
              cases List.mem_cons.mp member with
              | inl same => exact same ▸ greater
              | inr inTail => exact greater.trans_le (headLeast other inTail)
            exact otherGreater.ne (asked.trans (of_decide_eq_true kept).symm)
          rw [List.filter_append, noneKept, List.filter_cons, noneKept, List.nil_append,
            List.filter_cons, List.filter_nil]
        · have notKept : [item].filter (fun other => decide (key other = wanted)) = [] := by
            simp [asked]
          rw [List.filter_append, notKept, List.append_nil, List.filter_cons,
            if_neg (by simp [asked])]
      · rw [List.filter_cons, List.cons_append, List.filter_cons, ih tailSorted]

end StableInsert

end CarplayRgi
