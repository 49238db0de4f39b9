import Mathlib.Data.List.Induction
import Mathlib.Data.List.Nodup
import Mathlib.Data.List.Perm.Subperm

/-!
# First come, first served

Items take codes one after another, each the first of its own list that is still
free.  The items fall into groups whose codes are apart.  If no list of codes is
shorter than the group of its item, then every item finds a code, in whatever
order they come.
-/

namespace CarplayRgi

namespace FirstFree

variable {Item Code Group : Type*} [DecidableEq Code]

/-- The next item takes the first of its codes that is free, if there is one. -/
def take (choices : Item → List Code) (taken : List (Item × Code)) (item : Item) :
    List (Item × Code) :=
  match (choices item).find? fun code => !(taken.map Prod.snd).contains code with
  | none => taken
  | some code => taken ++ [(item, code)]

def assign (choices : Item → List Code) (items : List Item) : List (Item × Code) :=
  items.foldl (take choices) []

variable {choices : Item → List Code} {taken : List (Item × Code)} {item : Item}
  {items : List Item}

theorem take_cases (choices : Item → List Code) (taken : List (Item × Code)) (item : Item) :
    (take choices taken item = taken ∧ ∀ code ∈ choices item, code ∈ taken.map Prod.snd) ∨
      ∃ code ∈ choices item, code ∉ taken.map Prod.snd ∧
        take choices taken item = taken ++ [(item, code)] := by
  unfold take
  cases found : (choices item).find? fun code => !(taken.map Prod.snd).contains code with
  | none =>
      refine .inl ⟨rfl, fun code member => ?_⟩
      simpa using List.find?_eq_none.mp found code member
  | some code =>
      exact .inr ⟨code, List.mem_of_find?_eq_some found, by simpa using List.find?_some found, rfl⟩

/-- What is taken comes from the lists, and no code is taken twice. -/
structure Served (choices : Item → List Code) (taken : List (Item × Code)) : Prop where
  chosen : ∀ pair ∈ taken, pair.2 ∈ choices pair.1
  nodup : (taken.map Prod.snd).Nodup

theorem Served.take (served : Served choices taken) (item : Item) :
    Served choices (take choices taken item) := by
  rcases take_cases choices taken item with ⟨same, -⟩ | ⟨code, isChoice, isFree, isTaken⟩
  · rwa [same]
  · rw [isTaken]
    refine ⟨fun pair member => ?_, ?_⟩
    · rcases List.mem_append.mp member with before | last
      · exact served.chosen pair before
      · rwa [List.mem_singleton.mp last]
    · rw [List.map_append]
      exact served.nodup.append (List.nodup_singleton code) (by simpa using isFree)

theorem assign_concat (choices : Item → List Code) (items : List Item) (item : Item) :
    assign choices (items ++ [item]) = take choices (assign choices items) item :=
  List.foldl_concat _ _ _ _

theorem served_assign (choices : Item → List Code) (items : List Item) :
    Served choices (assign choices items) := by
  induction items using List.reverseRecOn with
  | nil => exact ⟨nofun, List.nodup_nil⟩
  | append_singleton items item ih =>
      rw [assign_concat]
      exact ih.take item

/-- The codes that a group could take are counted by its items. -/
theorem exists_free [DecidableEq Group] {group : Item → Group} (served : Served choices taken)
    (apart : ∀ other ∈ taken.map Prod.fst, group other ≠ group item →
      (choices other).Disjoint (choices item))
    (nodup : (choices item).Nodup)
    (room : ((taken.map Prod.fst).filter fun other => group other = group item).length <
      (choices item).length) :
    ∃ code ∈ choices item, code ∉ taken.map Prod.snd := by
  by_contra noneFree
  have allTaken : ∀ code ∈ choices item, code ∈ taken.map Prod.snd := by
    simpa only [not_exists, not_and, not_not] using noneFree
  let own := taken.filter fun pair => group pair.1 = group item
  have inGroup : choices item ⊆ own.map Prod.snd := by
    intro code isChoice
    obtain ⟨pair, isPair, rfl⟩ := List.mem_map.mp (allTaken code isChoice)
    have sameGroup : group pair.1 = group item := by
      by_contra otherGroup
      exact apart pair.1 (List.mem_map_of_mem isPair) otherGroup (served.chosen pair isPair)
        isChoice
    exact List.mem_map_of_mem (List.mem_filter.mpr ⟨isPair, decide_eq_true sameGroup⟩)
  have few : (choices item).length ≤ own.length := by
    simpa only [List.length_map] using (nodup.subperm inGroup).length_le
  have counted : own.length =
      ((taken.map Prod.fst).filter fun other => group other = group item).length := by
    rw [List.filter_map, List.length_map]
    rfl
  omega

/-- Every item is served if no list is shorter than the group of its item. -/
theorem map_fst_assign [DecidableEq Group] (group : Item → Group)
    (apart : ∀ first ∈ items, ∀ second ∈ items, group first ≠ group second →
      (choices first).Disjoint (choices second))
    (nodup : ∀ item ∈ items, (choices item).Nodup)
    (room : ∀ item ∈ items, (items.filter fun other => group other = group item).length ≤
      (choices item).length) :
    (assign choices items).map Prod.fst = items := by
  have served_upTo (before later : List Item) (split : items = before ++ later) :
      ((assign choices before).map Prod.fst) = before := by
    induction before using List.reverseRecOn generalizing later with
    | nil => rfl
    | append_singleton before item ih =>
        have earlier := ih (item :: later) (by rw [split, List.append_assoc]; rfl)
        have isItem : item ∈ items := by simp [split]
        have room : ((assign choices before).map Prod.fst |>.filter fun other =>
            group other = group item).length < (choices item).length := by
          refine Nat.lt_of_lt_of_le ?_ (room item isItem)
          rw [earlier, split, List.filter_append, List.filter_append, List.length_append,
            List.length_append, List.filter_cons_of_pos (by simp), List.length_cons]
          omega
        obtain ⟨free, isChoice, isFree⟩ := exists_free (served_assign choices before)
          (fun other member => apart other (by rw [earlier] at member; simp [split, member])
            item isItem) (nodup item isItem) room
        rw [assign_concat]
        rcases take_cases choices (assign choices before) item with
          ⟨-, none⟩ | ⟨code, -, -, isTaken⟩
        · exact absurd (none free isChoice) isFree
        · rw [isTaken, List.map_append, earlier]
          rfl
  exact served_upTo items [] (List.append_nil items).symm

end FirstFree

end CarplayRgi
