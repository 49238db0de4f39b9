import Mathlib.Algebra.GroupWithZero.Nat
import Mathlib.Data.Fintype.Card
import Mathlib.Data.List.FinRange
import Mathlib.Logic.Function.Basic
import Mathlib.Tactic.Common

/-!
# Slot tables with least-recently-used replacement

A fixed number of slots, each holding a key, with the stamp of the last use of
every slot.  Stamps come from a clock that wraps at `period`.  Slots are
always searched from the first, so a lookup of the key that marks vacant
slots finds the first vacant slot.
-/

namespace CarplayRgi

/-- The keys held by a fixed number of slots, the stamp of the last use of
each slot, and the clock from which stamps are taken. -/
structure SlotTable (Key : Type*) (slots period : Nat) where
  key : Fin slots → Key
  stamp : Fin slots → Nat
  clock : Nat

namespace SlotTable

variable {Key : Type*} {slots period : Nat}

/-- Every slot holds `vacant` and the clock is at its start. -/
def cleared (vacant : Key) : SlotTable Key slots period where
  key := fun _ => vacant
  stamp := fun _ => 0
  clock := 0

/-- The first slot that passes a test. -/
def firstSlot (test : Fin slots → Bool) : Option (Fin slots) :=
  (List.finRange slots).find? test

/-- The first slot that holds `wanted`. -/
def find? [DecidableEq Key] (table : SlotTable Key slots period) (wanted : Key) :
    Option (Fin slots) :=
  firstSlot fun slot => decide (table.key slot = wanted)

/-- Stamp a slot with the next tick of the clock. -/
def touch (table : SlotTable Key slots period) (slot : Fin slots) :
    SlotTable Key slots period :=
  let tick := (table.clock + 1) % period
  { table with stamp := Function.update table.stamp slot tick, clock := tick }

/-- Put a key into a slot and stamp it. -/
def assign (table : SlotTable Key slots period) (slot : Fin slots) (key : Key) :
    SlotTable Key slots period :=
  { table with key := Function.update table.key slot key }.touch slot

/-- The first slot with the smallest stamp below the largest one, among the
slots that pass a test. -/
def oldest? (table : SlotTable Key slots period) (test : Fin slots → Bool) :
    Option (Fin slots) :=
  ((List.finRange slots).foldl
    (fun best slot =>
      if test slot && decide (table.stamp slot < best.1) then (table.stamp slot, some slot)
      else best)
    (period - 1, none)).2

/-- The slot given up for a new key: the oldest one whose key is not kept,
and the oldest of all when every key is kept. -/
def victim [NeZero slots] (table : SlotTable Key slots period) (keeps : Key → Bool) :
    Fin slots :=
  ((table.oldest? fun slot => !keeps (table.key slot)).orElse
    fun _ => table.oldest? fun _ => true).getD 0

theorem firstSlot_passes {test : Fin slots → Bool} {slot : Fin slots}
    (found : firstSlot test = some slot) : test slot = true :=
  List.find?_some found

theorem firstSlot_eq_none {test : Fin slots → Bool} :
    firstSlot test = none ↔ ∀ slot, test slot = false := by
  simp [firstSlot, List.find?_eq_none]

variable [DecidableEq Key]

theorem find?_key {table : SlotTable Key slots period} {wanted : Key} {slot : Fin slots}
    (found : table.find? wanted = some slot) : table.key slot = wanted := by
  simpa using firstSlot_passes found

theorem find?_eq_none {table : SlotTable Key slots period} {wanted : Key} :
    table.find? wanted = none ↔ ∀ slot, table.key slot ≠ wanted := by
  simp [find?, firstSlot_eq_none]

/-- Searching reads the keys only. -/
theorem find?_congr {first second : SlotTable Key slots period}
    (keys : first.key = second.key) (wanted : Key) :
    first.find? wanted = second.find? wanted := by
  simp only [find?, keys]

omit [DecidableEq Key] in
@[simp]
theorem cleared_key (vacant : Key) (slot : Fin slots) :
    (cleared vacant : SlotTable Key slots period).key slot = vacant := rfl

omit [DecidableEq Key] in
@[simp]
theorem touch_key (table : SlotTable Key slots period) (slot : Fin slots) :
    (table.touch slot).key = table.key := rfl

@[simp]
theorem find?_touch (table : SlotTable Key slots period) (slot : Fin slots) (wanted : Key) :
    (table.touch slot).find? wanted = table.find? wanted :=
  find?_congr rfl wanted

omit [DecidableEq Key] in
@[simp]
theorem assign_key (table : SlotTable Key slots period) (slot : Fin slots) (key : Key) :
    (table.assign slot key).key = Function.update table.key slot key := rfl

/-- Two slots that are not vacant hold different keys. -/
def Apart (table : SlotTable Key slots period) (vacant : Key) : Prop :=
  ∀ first second, table.key first = table.key second → table.key first ≠ vacant → first = second

omit [DecidableEq Key] in
theorem apart_cleared (vacant : Key) :
    (cleared vacant : SlotTable Key slots period).Apart vacant :=
  fun _ _ _ used => absurd rfl used

omit [DecidableEq Key] in
theorem Apart.touch {table : SlotTable Key slots period} {vacant : Key}
    (apart : table.Apart vacant) (slot : Fin slots) : (table.touch slot).Apart vacant :=
  apart

omit [DecidableEq Key] in
/-- A key that no other slot holds may be put into a slot. -/
theorem Apart.assign {table : SlotTable Key slots period} {vacant key : Key} {slot : Fin slots}
    (apart : table.Apart vacant) (only : ∀ other, table.key other = key → other = slot) :
    (table.assign slot key).Apart vacant := by
  intro first second same used
  rw [assign_key] at same used
  by_cases firstIs : first = slot
  · by_cases secondIs : second = slot
    · rw [firstIs, secondIs]
    · rw [firstIs, Function.update_self, Function.update_of_ne secondIs] at same
      exact absurd (only second same.symm) secondIs
  · by_cases secondIs : second = slot
    · rw [secondIs, Function.update_self, Function.update_of_ne firstIs] at same
      exact absurd (only first same) firstIs
    · rw [Function.update_of_ne firstIs, Function.update_of_ne secondIs] at same
      rw [Function.update_of_ne firstIs] at used
      exact apart first second same used

/-- With fewer listed keys than slots, some slot is not listed. -/
theorem Apart.exists_not_mem {table : SlotTable Key slots period} {vacant : Key}
    (apart : table.Apart vacant) {listed : List Key} (vacantFree : vacant ∉ listed)
    (fewer : listed.length < slots) : ∃ slot, table.key slot ∉ listed := by
  by_contra allListed
  simp only [not_exists, not_not] at allListed
  have maps : ∀ slot ∈ (Finset.univ : Finset (Fin slots)), table.key slot ∈ listed.toFinset :=
    fun slot _ => List.mem_toFinset.mpr (allListed slot)
  have card : listed.toFinset.card < (Finset.univ : Finset (Fin slots)).card := by
    rw [Finset.card_univ, Fintype.card_fin]
    exact Nat.lt_of_le_of_lt (List.toFinset_card_le listed) fewer
  obtain ⟨first, -, second, -, different, same⟩ :=
    Finset.exists_ne_map_eq_of_card_lt_of_maps_to card maps
  refine different (apart first second same ?_)
  intro isVacant
  exact vacantFree (isVacant ▸ allListed first)

omit [DecidableEq Key] in
/-- The fold of `oldest?` keeps a slot that passes, or finds one. -/
theorem oldest_fold (table : SlotTable Key slots period) (test : Fin slots → Bool)
    (order : List (Fin slots)) (best : Nat × Option (Fin slots)) :
    ((order.foldl
        (fun best slot =>
          if test slot && decide (table.stamp slot < best.1) then (table.stamp slot, some slot)
          else best) best).2 = best.2 ∧
      ∀ slot ∈ order, test slot = true → best.1 ≤ table.stamp slot) ∨
    ∃ slot ∈ order, test slot = true ∧ table.stamp slot < best.1 ∧
      (order.foldl
        (fun best slot =>
          if test slot && decide (table.stamp slot < best.1) then (table.stamp slot, some slot)
          else best) best).2 = some slot := by
  induction order generalizing best with
  | nil => exact .inl ⟨rfl, by simp⟩
  | cons slot order ih =>
      rw [List.foldl_cons]
      by_cases passes : (test slot && decide (table.stamp slot < best.1)) = true
      · rw [if_pos passes]
        rw [Bool.and_eq_true, decide_eq_true_eq] at passes
        right
        rcases ih (table.stamp slot, some slot) with
          ⟨kept, -⟩ | ⟨later, member, tested, older, found⟩
        · exact ⟨slot, List.mem_cons_self, passes.1, passes.2, kept⟩
        · exact ⟨later, List.mem_cons_of_mem slot member, tested, older.trans passes.2, found⟩
      · rw [if_neg passes]
        rcases ih best with ⟨kept, older⟩ | ⟨later, member, found⟩
        · refine .inl ⟨kept, ?_⟩
          intro other member tested
          rcases List.mem_cons.mp member with rfl | inOrder
          · by_contra younger
            refine passes ?_
            rw [tested, Bool.true_and, decide_eq_true_eq]
            exact Nat.lt_of_not_le younger
          · exact older other inOrder tested
        · exact .inr ⟨later, List.mem_cons_of_mem slot member, found⟩

omit [DecidableEq Key] in
/-- The slot found passes the test and has not got the last stamp. -/
theorem oldest?_spec {table : SlotTable Key slots period} {test : Fin slots → Bool}
    {slot : Fin slots} (found : table.oldest? test = some slot) :
    test slot = true ∧ table.stamp slot < period - 1 := by
  rcases oldest_fold table test (List.finRange slots) (period - 1, none) with
    ⟨kept, -⟩ | ⟨other, -, tested, older, isOldest⟩
  · rw [oldest?, kept] at found
    cases found
  · rw [oldest?, isOldest, Option.some.injEq] at found
    exact found ▸ ⟨tested, older⟩

omit [DecidableEq Key] in
/-- A slot that passes and is not stamped with the last tick is found. -/
theorem oldest?_isSome {table : SlotTable Key slots period} {test : Fin slots → Bool}
    {slot : Fin slots} (passes : test slot = true) (young : table.stamp slot < period - 1) :
    (table.oldest? test).isSome = true := by
  rcases oldest_fold table test (List.finRange slots) (period - 1, none) with
    ⟨-, older⟩ | ⟨other, -, -, -, isOldest⟩
  · exact absurd (older slot (List.mem_finRange slot) passes) (Nat.not_le.mpr young)
  · rw [oldest?, isOldest]
    rfl

omit [DecidableEq Key] in
/-- When a slot with a key that is not kept is found, the victim has one. -/
theorem victim_not_kept [NeZero slots] {table : SlotTable Key slots period} {keeps : Key → Bool}
    (found : (table.oldest? fun slot => !keeps (table.key slot)).isSome = true) :
    keeps (table.key (table.victim keeps)) = false := by
  obtain ⟨slot, oldest⟩ := Option.isSome_iff_exists.mp found
  have passes := (oldest?_spec oldest).1
  rw [victim, oldest]
  simpa using passes

/-- A slot can be given up without a kept key: one is found among the others,
or every stamp is the last one and slot 0 is not kept. -/
def HasRoom [NeZero slots] (table : SlotTable Key slots period) (keeps : Key → Bool) : Prop :=
  (∃ slot, keeps (table.key slot) = false ∧ table.stamp slot < period - 1) ∨
    (keeps (table.key 0) = false ∧ ∀ slot, period - 1 ≤ table.stamp slot)

omit [DecidableEq Key] in
theorem hasRoom_iff [NeZero slots] {table : SlotTable Key slots period} {keeps : Key → Bool} :
    table.HasRoom keeps ↔ keeps (table.key (table.victim keeps)) = false := by
  by_cases younger : ∃ slot, keeps (table.key slot) = false ∧ table.stamp slot < period - 1
  · refine ⟨fun _ => ?_, fun _ => .inl younger⟩
    obtain ⟨slot, notKept, young⟩ := younger
    exact victim_not_kept (oldest?_isSome (by simp [notKept]) young)
  · have noneOther : (table.oldest? fun slot => !keeps (table.key slot)) = none := by
      by_contra found
      obtain ⟨slot, oldest⟩ := Option.ne_none_iff_exists'.mp found
      exact younger ⟨slot, by simpa using (oldest?_spec oldest).1, (oldest?_spec oldest).2⟩
    unfold HasRoom victim
    rw [noneOther]
    cases any : table.oldest? fun _ => true with
    | none =>
        have old : ∀ slot, period - 1 ≤ table.stamp slot := by
          intro slot
          by_contra young
          have found := @oldest?_isSome _ _ _ table (fun _ => true) slot rfl (Nat.lt_of_not_le young)
          rw [any] at found
          cases found
        simp [younger, old]
    | some slot =>
        have young := (oldest?_spec any).2
        have kept : keeps (table.key slot) = true := by
          by_contra notKept
          exact younger ⟨slot, by simpa using notKept, young⟩
        refine ⟨?_, fun notKept => ?_⟩
        · rintro (found | ⟨-, old⟩)
          · exact absurd found younger
          · exact absurd (old slot) (Nat.not_le.mpr young)
        · simp [kept] at notKept

/-- The clock has not wrapped: no stamp is ahead of it. -/
def Aged (table : SlotTable Key slots period) : Prop :=
  ∀ slot, table.stamp slot ≤ table.clock

omit [DecidableEq Key] in
theorem Aged.touch {table : SlotTable Key slots period} (aged : table.Aged)
    (ticks : table.clock + 1 < period) (slot : Fin slots) :
    (table.touch slot).Aged ∧ (table.touch slot).clock = table.clock + 1 := by
  have clockEq : (table.touch slot).clock = table.clock + 1 := Nat.mod_eq_of_lt ticks
  refine ⟨fun other => ?_, clockEq⟩
  rw [clockEq]
  by_cases same : other = slot
  · rw [same]
    change Function.update table.stamp slot ((table.clock + 1) % period) slot ≤ _
    rw [Function.update_self, Nat.mod_eq_of_lt ticks]
  · change Function.update table.stamp slot ((table.clock + 1) % period) other ≤ _
    rw [Function.update_of_ne same]
    exact Nat.le_succ_of_le (aged other)

end SlotTable

end CarplayRgi
