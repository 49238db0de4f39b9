import CarplayRgi.FirstFree
import CarplayRgi.SideStreets

/-!
# One code for each arm of a junction

The arms on either side of the exit compete for the exits that the display has
there.  Each arm knows as many of them as its side has arms, so that every arm
is drawn once its side fits.  Only a roundabout that is left the way it was
entered has no sides: all its exits are those of the arms before the exit.
-/

namespace CarplayRgi

namespace SideStreets

theorem closestExit_mem (angle : Int) {exits : List Int} (nonempty : exits ≠ []) :
    closestExit angle exits ∈ exits := by
  cases exits with
  | nil => exact absurd rfl nonempty
  | cons first rest =>
      clear nonempty
      have chosen (best : Int) : (rest.foldl (fun best exit =>
          if floatDistance exit angle < floatDistance best angle then exit else best) best) ∈
            best :: rest := by
        induction rest generalizing best with
        | nil => exact List.mem_cons_self
        | cons next rest ih =>
            rw [List.foldl_cons]
            split_ifs
            · exact List.mem_cons_of_mem _ (ih next)
            · rcases List.mem_cons.mp (ih best) with isBest | isLater
              · rw [isBest]
                exact List.mem_cons_self
              · exact List.mem_cons_of_mem _ (List.mem_cons_of_mem _ isLater)
      exact chosen first

/-- The exits of the best matches. -/
def matched (angle : Int) (topN : Nat) (exits : List Int) : List Int :=
  (bestMatchingExitPairs angle topN exits).map Prod.snd

theorem matched_subperm (angle : Int) (topN : Nat) (exits : List Int) :
    (matched angle topN exits).Subperm exits := by
  unfold matched bestMatchingExitPairs
  dsimp only
  rw [List.map_take]
  refine (List.take_sublist _ _).subperm.trans (List.Perm.subperm ?_)
  have sorted := (List.perm_insertionSort (fun first second : Int × Int => first.1 ≤ second.1)
    (exits.map fun exit => (floatDistance exit (toFloat (2 * angle)), exit))).map Prod.snd
  rw [List.map_map] at sorted
  exact sorted.trans (by rw [show Prod.snd ∘ (fun exit : Int => _) = id from rfl, List.map_id])

theorem length_matched {topN : Nat} {exits : List Int} (angle : Int)
    (fits : topN ≤ exits.length) : (matched angle topN exits).length = topN := by
  unfold matched bestMatchingExitPairs
  simp only [List.length_map, List.length_take, List.length_insertionSort]
  omega

theorem angleToDirectionCode_injOn {first second : Int} (isFirst : first ∈ exits15)
    (isSecond : second ∈ exits15)
    (same : angleToDirectionCode first = angleToDirectionCode second) : first = second := by
  have distinct : (exits15.map angleToDirectionCode).Nodup := by decide
  exact List.inj_on_of_nodup_map distinct isFirst isSecond same

theorem code_of_exit {bin : Int} (isExit : bin ∈ exits15) :
    angleToDirectionCode bin % 16 = 0 ∧ 0 ≤ angleToDirectionCode bin ∧
      angleToDirectionCode bin ≤ 240 := by
  have all : ∀ bin ∈ exits15, angleToDirectionCode bin % 16 = 0 ∧
      0 ≤ angleToDirectionCode bin ∧ angleToDirectionCode bin ≤ 240 := by decide
  exact all bin isExit

/-- An arm with its entry. -/
abbrev Arm := Int × Int × List (Int × Int)

namespace Arm

def choices (arm : Arm) : List Int := arm.2.2.map fun pair => angleToDirectionCode pair.2

def nearer (first second : Arm) : Prop := first.2.1 ≤ second.2.1

instance : DecidableRel nearer := fun first second =>
  inferInstanceAs (Decidable (first.2.1 ≤ second.2.1))

end Arm

/-- The arms of one side. -/
def armsOf (sidestreets exits : List Int) : List Arm :=
  sidestreets.map fun angle =>
    (angle, entry (bestMatchingExitPairs angle sidestreets.length exits))

variable {sidestreets exits : List Int}

theorem entries_eq_map (fits : sidestreets.length ≤ exits.length) :
    entries sidestreets exits = (armsOf sidestreets exits).map Prod.snd := by
  unfold entries armsOf
  rw [List.map_map]
  split_ifs with none
  · subst none
    rw [List.eq_nil_of_length_eq_zero (Nat.le_zero.mp fits)]
    rfl
  · rfl

theorem emitEntry_map_snd (taken : List (Arm × Int)) (arm : Arm) :
    emitEntry (taken.map Prod.snd) arm.2.2 =
      (FirstFree.take Arm.choices taken arm).map Prod.snd := by
  unfold emitEntry FirstFree.take Arm.choices
  cases (arm.2.2.map fun pair => angleToDirectionCode pair.2).find? fun code =>
      !(taken.map Prod.snd).contains code with
  | none => rfl
  | some code =>
      dsimp only
      rw [List.map_append]
      rfl

/-- The codes are those that the arms take, the nearest arm first. -/
theorem emit_eq_assign (arms : List Arm) :
    emitUniqueDirectionCodes (arms.map Prod.snd) =
      (FirstFree.assign Arm.choices (arms.insertionSort Arm.nearer)).map Prod.snd := by
  have sorted := List.map_insertionSort (r := Arm.nearer)
    (s := fun first second : Int × List (Int × Int) => first.1 ≤ second.1) Prod.snd arms
    (fun _ _ _ _ => Iff.rfl)
  unfold emitUniqueDirectionCodes
  rw [← sorted, List.map_map]
  generalize arms.insertionSort Arm.nearer = ordered
  induction ordered using List.reverseRecOn with
  | nil => rfl
  | append_singleton ordered arm ih =>
      rw [List.map_append, List.foldl_append, ih, FirstFree.assign_concat, ← emitEntry_map_snd]
      rfl

/-- The arms on one side, and the exits for them. -/
structure Side where
  arms : List Int
  bins : List Int

/-- There is an exit for every arm. -/
def Side.Fits (side : Side) : Prop := side.arms.length ≤ side.bins.length

instance (side : Side) : Decidable side.Fits := inferInstanceAs (Decidable (_ ≤ _))

/-- One code is drawn for every arm of the sides, and it is the code of an exit of
its side. -/
def Draws (sides : List Side) (codes : List Int) : Prop :=
  ∃ drawn : List (Int × Int), (drawn.map Prod.fst).Perm (sides.flatMap Side.arms) ∧
    codes = drawn.map (fun pair => angleToDirectionCode pair.2) ∧
      ∀ pair ∈ drawn, ∃ side ∈ sides, pair.1 ∈ side.arms ∧ pair.2 ∈ side.bins

theorem Draws.length {sides : List Side} {codes : List Int} (draws : Draws sides codes) :
    codes.length = (sides.flatMap Side.arms).length := by
  obtain ⟨drawn, same, rfl, -⟩ := draws
  rw [← same.length_eq, List.length_map, List.length_map]

theorem Draws.code {sides : List Side} {codes : List Int} (draws : Draws sides codes) {code : Int}
    (isCode : code ∈ codes) : ∃ side ∈ sides, ∃ bin ∈ side.bins, code = angleToDirectionCode bin := by
  obtain ⟨drawn, -, rfl, onSide⟩ := draws
  obtain ⟨pair, isPair, rfl⟩ := List.mem_map.mp isCode
  obtain ⟨side, isSide, -, isBin⟩ := onSide pair isPair
  exact ⟨side, isSide, pair.2, isBin, rfl⟩

/-- Only the members of the sides matter. -/
theorem Draws.congr {first second first' second' : Side} {codes : List Int}
    (draws : Draws [first, second] codes) (sameArms : first'.arms = first.arms)
    (sameArms' : second'.arms = second.arms) (bins : ∀ bin ∈ first.bins, bin ∈ first'.bins)
    (bins' : ∀ bin ∈ second.bins, bin ∈ second'.bins) : Draws [first', second'] codes := by
  obtain ⟨drawn, same, codesEq, onSide⟩ := draws
  refine ⟨drawn, ?_, codesEq, fun pair isPair => ?_⟩
  · simpa only [List.flatMap_cons, sameArms, sameArms'] using same
  · obtain ⟨side, isSide, isArm, isBin⟩ := onSide pair isPair
    rcases List.mem_pair.mp isSide with rfl | rfl
    · exact ⟨first', by simp, sameArms ▸ isArm, bins _ isBin⟩
    · exact ⟨second', by simp, sameArms' ▸ isArm, bins' _ isBin⟩

/-- The exit with this code. -/
def binOf (code : Int) : Int :=
  (exits15.find? fun bin => angleToDirectionCode bin = code).getD 0

theorem binOf_code {bin : Int} (isExit : bin ∈ exits15) :
    binOf (angleToDirectionCode bin) = bin := by
  have all : ∀ bin ∈ exits15, binOf (angleToDirectionCode bin) = bin := by decide
  exact all bin isExit

/-- What an arm knows of the exits of its side. -/
structure Side.Knows (side : Side) (arm : Arm) : Prop where
  isArm : arm.1 ∈ side.arms
  nodup : arm.choices.Nodup
  enough : arm.choices.length = side.arms.length
  isExit : ∀ code ∈ arm.choices, ∃ bin ∈ side.bins, code = angleToDirectionCode bin

theorem Side.knows {side : Side} (fits : side.Fits) (bins : side.bins.Nodup)
    (known : ∀ bin ∈ side.bins, bin ∈ exits15) {arm : Arm}
    (member : arm ∈ armsOf side.arms side.bins) : side.Knows arm := by
  obtain ⟨angle, isAngle, rfl⟩ := List.mem_map.mp member
  have isMatched : Arm.choices (angle, entry (bestMatchingExitPairs angle side.arms.length
      side.bins)) = (matched angle side.arms.length side.bins).map angleToDirectionCode := by
    rw [matched, List.map_map]
    rfl
  have subperm := matched_subperm angle side.arms.length side.bins
  refine ⟨isAngle, ?_, ?_, fun code isCode => ?_⟩
  · rw [isMatched]
    obtain ⟨some, isPerm, isSublist⟩ := subperm
    refine List.Nodup.map_on (fun first isFirst second isSecond same => ?_)
      (isPerm.nodup (isSublist.nodup bins))
    exact angleToDirectionCode_injOn (known _ (isSublist.subset (isPerm.mem_iff.mpr isFirst)))
      (known _ (isSublist.subset (isPerm.mem_iff.mpr isSecond))) same
  · rw [isMatched, List.length_map, length_matched angle fits]
  · rw [isMatched] at isCode
    obtain ⟨bin, isBin, rfl⟩ := List.mem_map.mp isCode
    exact ⟨bin, subperm.subset isBin, rfl⟩

/-- The arms of a side are counted by its angles. -/
theorem length_filter_arms {side other : Side} (apart : side.arms.Disjoint other.arms)
    {arms : List Arm}
    (same : arms.Perm (armsOf side.arms side.bins ++ armsOf other.arms other.bins)) :
    (arms.filter fun arm => decide (arm.1 ∈ side.arms)).length = side.arms.length := by
  have own : (armsOf side.arms side.bins).filter (fun arm => decide (arm.1 ∈ side.arms)) =
      armsOf side.arms side.bins := by
    refine List.filter_eq_self.mpr fun arm member => ?_
    obtain ⟨angle, isAngle, rfl⟩ := List.mem_map.mp member
    exact decide_eq_true isAngle
  have none : (armsOf other.arms other.bins).filter (fun arm => decide (arm.1 ∈ side.arms)) =
      [] := by
    refine List.filter_eq_nil_iff.mpr fun arm member => ?_
    obtain ⟨angle, isAngle, rfl⟩ := List.mem_map.mp member
    simpa using fun isOwn => apart isOwn isAngle
  rw [(same.filter _).length_eq, List.filter_append, own, none, List.append_nil, armsOf,
    List.length_map]

/-- The exits of two sides that fit are shared out among their arms. -/
theorem draws_emit {first second : Side} (fits : first.Fits) (fits' : second.Fits)
    (apart : first.arms.Disjoint second.arms) (bins : first.bins.Nodup)
    (bins' : second.bins.Nodup) (binsApart : first.bins.Disjoint second.bins)
    (known : ∀ bin ∈ first.bins, bin ∈ exits15) (known' : ∀ bin ∈ second.bins, bin ∈ exits15) :
    Draws [first, second]
      (emitUniqueDirectionCodes
        (entries first.arms first.bins ++ entries second.arms second.bins)) := by
  rw [entries_eq_map fits, entries_eq_map fits', ← List.map_append, emit_eq_assign]
  have isPerm := List.perm_insertionSort Arm.nearer
    (armsOf first.arms first.bins ++ armsOf second.arms second.bins)
  generalize List.insertionSort Arm.nearer _ = ordered at isPerm
  have knows (arm : Arm) (member : arm ∈ ordered) : first.Knows arm ∨ second.Knows arm :=
    (List.mem_append.mp (isPerm.subset member)).imp (Side.knows fits bins known)
      (Side.knows fits' bins' known')
  have notFirst {arm : Arm} (isSecond : second.Knows arm) : arm.1 ∉ first.arms :=
    fun isFirst => apart isFirst isSecond.isArm
  have separate {arm other : Arm} (isFirst : first.Knows arm) (isSecond : second.Knows other) :
      arm.choices.Disjoint other.choices := by
    intro code isCode isCode'
    obtain ⟨bin, isBin, rfl⟩ := isFirst.isExit code isCode
    obtain ⟨bin', isBin', same⟩ := isSecond.isExit _ isCode'
    rw [angleToDirectionCode_injOn (known bin isBin) (known' bin' isBin') same] at isBin
    exact binsApart isBin isBin'
  have served := FirstFree.served_assign Arm.choices ordered
  have sizes : (ordered.filter fun arm => decide (arm.1 ∈ first.arms)).length =
      first.arms.length := length_filter_arms apart isPerm
  have sizes' : (ordered.filter fun arm => decide (arm.1 ∈ second.arms)).length =
      second.arms.length :=
    length_filter_arms (List.disjoint_symm apart) (isPerm.trans List.perm_append_comm)
  have all : (FirstFree.assign Arm.choices ordered).map Prod.fst = ordered := by
    refine FirstFree.map_fst_assign (fun arm => decide (arm.1 ∈ first.arms))
      (fun arm isArm other isOther different => ?_) (fun arm isArm => ?_) (fun arm isArm => ?_)
    · rcases knows arm isArm with isFirst | isSecond <;>
        rcases knows other isOther with isFirst' | isSecond'
      · exact absurd (by simp [isFirst.isArm, isFirst'.isArm]) different
      · exact separate isFirst isSecond'
      · exact List.disjoint_symm (separate isFirst' isSecond)
      · exact absurd (by simp [notFirst isSecond, notFirst isSecond']) different
    · exact (knows arm isArm).elim Side.Knows.nodup Side.Knows.nodup
    · rcases knows arm isArm with isFirst | isSecond
      · rw [isFirst.enough, ← sizes]
        refine le_of_eq (congrArg List.length (List.filter_congr fun other isOther => ?_))
        simp [isFirst.isArm]
      · rw [isSecond.enough, ← sizes']
        refine le_of_eq (congrArg List.length (List.filter_congr fun other isOther => ?_))
        rcases knows other isOther with isFirst' | isSecond'
        · have notSecond : other.1 ∉ second.arms := fun isArm => apart isFirst'.isArm isArm
          simp [notFirst isSecond, isFirst'.isArm, notSecond]
        · simp [notFirst isSecond, notFirst isSecond', isSecond'.isArm]
  have takes : ∀ pair ∈ FirstFree.assign Arm.choices ordered, ∃ side ∈ [first, second],
      pair.1.1 ∈ side.arms ∧ ∃ bin ∈ side.bins, bin ∈ exits15 ∧
        pair.2 = angleToDirectionCode bin := by
    intro pair isPair
    have isArm : pair.1 ∈ ordered := all ▸ List.mem_map_of_mem isPair
    rcases knows pair.1 isArm with isFirst | isSecond
    · obtain ⟨bin, isBin, isCode⟩ := isFirst.isExit _ (served.chosen pair isPair)
      exact ⟨first, by simp, isFirst.isArm, bin, isBin, known bin isBin, isCode⟩
    · obtain ⟨bin, isBin, isCode⟩ := isSecond.isExit _ (served.chosen pair isPair)
      exact ⟨second, by simp, isSecond.isArm, bin, isBin, known' bin isBin, isCode⟩
  refine ⟨(FirstFree.assign Arm.choices ordered).map fun pair => (pair.1.1, binOf pair.2),
    ?_, ?_, ?_⟩
  · have names : ((FirstFree.assign Arm.choices ordered).map fun pair =>
        (pair.1.1, binOf pair.2)).map Prod.fst = ordered.map Prod.fst := by
      rw [← all, List.map_map, List.map_map, all]
      rfl
    rw [names]
    refine (isPerm.map Prod.fst).trans (List.Perm.of_eq ?_)
    rw [List.map_append, armsOf, armsOf, List.map_map, List.map_map, List.flatMap_cons,
      List.flatMap_cons, List.flatMap_nil, List.append_nil]
    exact congrArg₂ _ (List.map_id _) (List.map_id _)
  · rw [List.map_map]
    refine List.map_congr_left fun pair isPair => ?_
    obtain ⟨-, -, -, bin, -, isExit, isCode⟩ := takes pair isPair
    exact isCode.trans (congrArg angleToDirectionCode (isCode ▸ binOf_code isExit).symm)
  · intro drawn isDrawn
    obtain ⟨pair, isPair, rfl⟩ := List.mem_map.mp isDrawn
    obtain ⟨side, isSide, isArm, bin, isBin, isExit, isCode⟩ := takes pair isPair
    refine ⟨side, isSide, isArm, ?_⟩
    rwa [isCode, binOf_code isExit]

/-- The exit of the display for the way out. -/
def exitBin (junctionType exitAngle : Int) : Int :=
  closestExit (toFloat (2 * exitAngle)) (if junctionType = 1 then exitsFull17 else exits7)

/-- The arms at larger angles than the exit, and the exits beyond its own. -/
def sideAbove (exits : List Int) (bin exitAngle : Int) (angles : List Int) : Side :=
  ⟨angles.filter (exitAngle < ·), exits.filter (bin < ·)⟩

/-- The arms at smaller angles than the exit, and the exits below its own. -/
def sideBelow (exits : List Int) (bin exitAngle : Int) (angles : List Int) : Side :=
  ⟨angles.filter (· < exitAngle), exits.filter (· < bin)⟩

/-- The exit of the display points back. -/
def TurnsBack (bin : Int) : Prop := bin = 360 ∨ bin = -360

instance (bin : Int) : Decidable (TurnsBack bin) := inferInstanceAs (Decidable (_ ∨ _))

/-- The arms that a roundabout passes before the exit: those below the exit where
it is driven on the left.  If the exit points back, all exits are for them. -/
def sideBefore (drivingSide exitAngle : Int) (angles : List Int) : Side :=
  let bin := exitBin 1 exitAngle
  let side := if drivingSide = 1 then sideBelow exits15 bin exitAngle angles
    else sideAbove exits15 bin exitAngle angles
  if TurnsBack bin then ⟨side.arms, exits15⟩ else side

def sideAfter (drivingSide exitAngle : Int) (angles : List Int) : Side :=
  let bin := exitBin 1 exitAngle
  let side := if drivingSide = 1 then sideAbove exits15 bin exitAngle angles
    else sideBelow exits15 bin exitAngle angles
  if TurnsBack bin then ⟨side.arms, []⟩ else side

variable {angles : List Int} {bin exitAngle drivingSide : Int}

theorem arms_apart (exits exits' : List Int) (bin bin' : Int) :
    (sideAbove exits bin exitAngle angles).arms.Disjoint
      (sideBelow exits' bin' exitAngle angles).arms := by
  intro angle isAbove isBelow
  have larger := of_decide_eq_true (List.mem_filter.mp isAbove).2
  have smaller := of_decide_eq_true (List.mem_filter.mp isBelow).2
  omega

theorem exits7_known : ∀ bin ∈ exits7, bin ∈ exits15 := by decide

theorem exits7_around : ∀ bin ∈ exits7,
    exits7.take (exits7.idxOf bin) = exits7.filter (bin < ·) ∧
      exits7.drop (exits7.idxOf bin + 1) = exits7.filter (· < bin) := by decide

theorem exits15_around : ∀ bin ∈ exits15,
    exits15.take (exits15.idxOf bin) = exits15.filter (· < bin) ∧
      exits15.drop (exits15.idxOf bin + 1) = exits15.filter (bin < ·) := by decide

/-- Two sides of the exit that the display can draw. -/
structure Side.Opposite (first second : Side) : Prop where
  apart : first.arms.Disjoint second.arms
  bins : first.bins.Nodup
  bins' : second.bins.Nodup
  binsApart : first.bins.Disjoint second.bins
  known : ∀ bin ∈ first.bins, bin ∈ exits15
  known' : ∀ bin ∈ second.bins, bin ∈ exits15

theorem Side.Opposite.symm {first second : Side} (opposite : first.Opposite second) :
    second.Opposite first :=
  ⟨List.disjoint_symm opposite.apart, opposite.bins', opposite.bins,
    List.disjoint_symm opposite.binsApart, opposite.known', opposite.known⟩

/-- The order in which the exits are listed does not matter. -/
theorem Side.Opposite.draws {first second : Side} (opposite : first.Opposite second)
    (fits : first.Fits) (fits' : second.Fits) {listed listed' : List Int}
    (same : listed.Perm first.bins) (same' : listed'.Perm second.bins) :
    Draws [first, second]
      (emitUniqueDirectionCodes (entries first.arms listed ++ entries second.arms listed')) := by
  have drawn : Draws [⟨first.arms, listed⟩, ⟨second.arms, listed'⟩] _ :=
    draws_emit (fits.trans_eq same.length_eq.symm) (fits'.trans_eq same'.length_eq.symm)
      opposite.apart (same.nodup_iff.mpr opposite.bins) (same'.nodup_iff.mpr opposite.bins')
      (fun bin isFirst isSecond => opposite.binsApart (same.subset isFirst) (same'.subset isSecond))
      (fun bin isBin => opposite.known bin (same.subset isBin))
      (fun bin isBin => opposite.known' bin (same'.subset isBin))
  exact drawn.congr rfl rfl (fun bin isBin => same.subset isBin) fun bin isBin =>
    same'.subset isBin

theorem opposite_sides {exits : List Int} (nodup : exits.Nodup)
    (known : ∀ bin ∈ exits, bin ∈ exits15) (bin exitAngle : Int) (angles : List Int) :
    (sideAbove exits bin exitAngle angles).Opposite (sideBelow exits bin exitAngle angles) := by
  refine ⟨arms_apart _ _ _ _, nodup.filter _, nodup.filter _, fun other isAbove isBelow => ?_,
    fun other isBin => known other (List.mem_filter.mp isBin).1,
    fun other isBin => known other (List.mem_filter.mp isBin).1⟩
  have larger := of_decide_eq_true (List.mem_filter.mp isAbove).2
  have smaller := of_decide_eq_true (List.mem_filter.mp isBelow).2
  omega

/-- Side streets of a crossing. -/
theorem intersection_draws (angles : List Int) (exitAngle : Int) :
    let above := sideAbove exits7 (exitBin 0 exitAngle) exitAngle angles
    let below := sideBelow exits7 (exitBin 0 exitAngle) exitAngle angles
    (above.Fits ∧ below.Fits →
        Draws [above, below] (occupiedSidestreetsIntersection angles exitAngle)) ∧
      (¬(above.Fits ∧ below.Fits) → occupiedSidestreetsIntersection angles exitAngle = []) := by
  intro above below
  have isBin : exitBin 0 exitAngle ∈ exits7 := closestExit_mem _ (by decide)
  obtain ⟨isAbove, isBelow⟩ := exits7_around _ isBin
  have unfolded : occupiedSidestreetsIntersection angles exitAngle =
      if above.bins.length < above.arms.length ∨ below.bins.length < below.arms.length then []
      else emitUniqueDirectionCodes
        (entries above.arms above.bins ++ entries below.arms below.bins.reverse) := by
    have isPivot : closestExit (toFloat (2 * exitAngle)) exits7 = exitBin 0 exitAngle := rfl
    unfold occupiedSidestreetsIntersection
    dsimp only
    rw [isPivot, isAbove, isBelow, List.length_reverse]
    rfl
  rw [unfolded]
  constructor
  · rintro ⟨fits, fits'⟩
    rw [if_neg (by unfold Side.Fits at fits fits'; omega)]
    exact (opposite_sides (by decide) exits7_known _ _ _).draws fits fits' (List.Perm.refl _)
      (List.reverse_perm _)
  · intro tooMany
    exact if_pos (by unfold Side.Fits at tooMany; omega)

theorem exitsFull17_known : ∀ bin ∈ exitsFull17, TurnsBack bin ∨ bin ∈ exits15 := by decide

theorem closestExit_full17 :
    closestExit (toFloat (2 * exitAngle)) exitsFull17 = exitBin 1 exitAngle := rfl

theorem roundaboutExits_of_turnsBack (back : TurnsBack (exitBin 1 exitAngle)) :
    roundaboutExits drivingSide exitAngle = (exits15, []) := by
  unfold roundaboutExits
  dsimp only
  rw [closestExit_full17]
  generalize exitBin 1 exitAngle = bin at back ⊢
  exact if_pos back

theorem roundaboutExits_of_not_turnsBack (aside : ¬TurnsBack (exitBin 1 exitAngle)) :
    roundaboutExits drivingSide exitAngle =
      if drivingSide = 1 then
        (exits15.filter (· < exitBin 1 exitAngle), (exits15.filter (exitBin 1 exitAngle < ·)).reverse)
      else
        ((exits15.filter (exitBin 1 exitAngle < ·)).reverse,
          exits15.filter (· < exitBin 1 exitAngle)) := by
  have isBin : exitBin 1 exitAngle ∈ exitsFull17 := closestExit_mem _ (by decide)
  obtain ⟨isBelow, isAbove⟩ := exits15_around _ ((exitsFull17_known _ isBin).resolve_left aside)
  unfold roundaboutExits
  dsimp only
  rw [closestExit_full17, ← isBelow, ← isAbove]
  generalize exitBin 1 exitAngle = bin at aside ⊢
  exact if_neg aside

/-- The arms and exits of a roundabout, before and after the exit. -/
theorem roundabout_sides (drivingSide exitAngle : Int) (angles : List Int) :
    let before := sideBefore drivingSide exitAngle angles
    let after := sideAfter drivingSide exitAngle angles
    before.Opposite after ∧
      before.arms = (if drivingSide = 1 then angles.filter (· < exitAngle)
        else angles.filter (exitAngle < ·)) ∧
      after.arms = (if drivingSide = 1 then angles.filter (exitAngle < ·)
        else angles.filter (· < exitAngle)) ∧
      (roundaboutExits drivingSide exitAngle).1.Perm before.bins ∧
      (roundaboutExits drivingSide exitAngle).2.Perm after.bins := by
  have opposite := opposite_sides (by decide : exits15.Nodup) (fun _ isBin => isBin)
    (exitBin 1 exitAngle) exitAngle angles
  unfold sideBefore sideAfter
  dsimp only
  by_cases back : TurnsBack (exitBin 1 exitAngle)
  · rw [if_pos back, if_pos back, roundaboutExits_of_turnsBack back]
    have nodup : exits15.Nodup := by decide
    refine ⟨⟨?_, nodup, List.nodup_nil, fun _ _ => nofun, fun _ isBin => isBin, nofun⟩, ?_, ?_,
      List.Perm.refl _, List.Perm.refl _⟩
    · dsimp only
      split_ifs
      · exact opposite.symm.apart
      · exact opposite.apart
    · split_ifs <;> rfl
    · split_ifs <;> rfl
  · rw [if_neg back, if_neg back, roundaboutExits_of_not_turnsBack back]
    generalize exitBin 1 exitAngle = bin at opposite ⊢
    by_cases onLeft : drivingSide = 1
    · simp only [if_pos onLeft]
      exact ⟨opposite.symm, rfl, rfl, List.Perm.refl _, List.reverse_perm _⟩
    · simp only [if_neg onLeft]
      exact ⟨opposite, rfl, rfl, List.reverse_perm _, List.Perm.refl _⟩

theorem Draws.left {side : Side} {codes : List Int} (draws : Draws [side, ⟨[], []⟩] codes) :
    Draws [side] codes := by
  obtain ⟨drawn, same, codesEq, onSide⟩ := draws
  refine ⟨drawn, by simpa using same, codesEq, fun pair isPair => ?_⟩
  obtain ⟨other, isSide, isArm, isBin⟩ := onSide pair isPair
  rcases List.mem_pair.mp isSide with rfl | rfl
  · exact ⟨other, by simp, isArm, isBin⟩
  · cases isArm

/-- Side streets of a roundabout. -/
theorem roundabout_draws (drivingSide exitAngle : Int) (angles : List Int) :
    let before := sideBefore drivingSide exitAngle angles
    let after := sideAfter drivingSide exitAngle angles
    let codes := occupiedSidestreetsRoundabout drivingSide angles exitAngle
    (before.Fits ∧ after.Fits → Draws [before, after] codes) ∧
      (before.Fits ∧ ¬after.Fits → Draws [before] codes) ∧ (¬before.Fits → codes = []) := by
  intro before after codes
  obtain ⟨opposite, beforeArms, afterArms, beforeBins, afterBins⟩ :
      before.Opposite after ∧ before.arms = _ ∧ after.arms = _ ∧
        (roundaboutExits drivingSide exitAngle).1.Perm before.bins ∧
          (roundaboutExits drivingSide exitAngle).2.Perm after.bins :=
    roundabout_sides drivingSide exitAngle angles
  have unfolded : codes =
      if (roundaboutExits drivingSide exitAngle).1.length < before.arms.length then []
      else emitUniqueDirectionCodes
        (entries before.arms (roundaboutExits drivingSide exitAngle).1 ++
          if after.arms.length ≤ (roundaboutExits drivingSide exitAngle).2.length then
            entries after.arms (roundaboutExits drivingSide exitAngle).2
          else []) := by
    rw [beforeArms, afterArms]
    rfl
  rw [beforeBins.length_eq, afterBins.length_eq] at unfolded
  rw [unfolded]
  refine ⟨fun ⟨fits, fits'⟩ => ?_, fun ⟨fits, tooMany⟩ => ?_, fun tooMany => ?_⟩
  · rw [if_neg (Nat.not_lt.mpr fits), if_pos (show after.arms.length ≤ _ from fits')]
    exact opposite.draws fits fits' beforeBins afterBins
  · rw [if_neg (Nat.not_lt.mpr fits), if_neg (show ¬after.arms.length ≤ _ from tooMany)]
    have alone : before.Opposite ⟨[], []⟩ :=
      ⟨fun _ _ => nofun, opposite.bins, List.nodup_nil, fun _ _ => nofun, opposite.known, nofun⟩
    exact (alone.draws fits (Nat.le_refl _) beforeBins (List.Perm.refl _)).left
  · exact if_pos (Nat.not_le.mp tooMany)

theorem calcSideStreetDirections_computed {maneuverType junctionType : Int}
    (computes : computesSidestreets maneuverType junctionType = true)
    (isJunction : junctionType = 0 ∨ junctionType = 1) (known : exitAngle ≠ exitAngleMissing)
    (drivingSide : Int) (angles : List Int) :
    calcSideStreetDirections maneuverType junctionType drivingSide (some angles) exitAngle =
      if junctionType = 1 then occupiedSidestreetsRoundabout drivingSide angles exitAngle
      else occupiedSidestreetsIntersection angles exitAngle := by
  have dynamic (fixed : Int) (isFixed : fixed ∈ [(6 : Int), 7, 8, 22, 23]) :
      maneuverType ≠ fixed := by
    rintro rfl
    have never : ∀ fixed ∈ [(6 : Int), 7, 8, 22, 23], ∀ type ∈ [(0 : Int), 1],
        computesSidestreets fixed type = false := by decide
    have isType : junctionType ∈ [(0 : Int), 1] := by simpa using isJunction
    rw [never _ isFixed junctionType isType] at computes
    cases computes
  unfold calcSideStreetDirections
  rw [if_neg (dynamic 7 (by simp)), if_neg (dynamic 6 (by simp)), if_neg (by
    have ramp := dynamic 8 (by simp)
    have left := dynamic 22 (by simp)
    have right := dynamic 23 (by simp)
    omega), if_pos computes]
  cases angles with
  | nil =>
      unfold junctionDirections occupiedSidestreetsRoundabout occupiedSidestreetsIntersection
      simp [entries, emitUniqueDirectionCodes]
  | cons first rest =>
      unfold junctionDirections
      dsimp only
      rw [if_neg (by omega)]

theorem code_ne_own {own : Int} (isExit : bin ∈ exits15) (isOwn : own ∈ exitsFull17)
    (other : bin ≠ own) : angleToDirectionCode bin ≠ angleToDirectionCode own := by
  have all : ∀ bin ∈ exits15, ∀ own ∈ exitsFull17, bin ≠ own →
      angleToDirectionCode bin ≠ angleToDirectionCode own := by decide
  exact all bin isExit own isOwn other

theorem exitBin_mem (junctionType exitAngle : Int) :
    exitBin junctionType exitAngle ∈ exitsFull17 := by
  have all : ∀ bin ∈ exits7, bin ∈ exitsFull17 := by decide
  unfold exitBin
  split_ifs
  · exact closestExit_mem _ (by decide)
  · exact all _ (closestExit_mem _ (by decide))

/-- A code of another exit than the one that is taken. -/
def OtherExit (own code : Int) : Prop :=
  code % 16 = 0 ∧ 0 ≤ code ∧ code ≤ 240 ∧ code ≠ angleToDirectionCode own

theorem Draws.otherExit {sides : List Side} {codes : List Int} (draws : Draws sides codes)
    {own : Int} (isOwn : own ∈ exitsFull17)
    (known : ∀ side ∈ sides, ∀ bin ∈ side.bins, bin ∈ exits15 ∧ bin ≠ own) :
    ∀ code ∈ codes, OtherExit own code := by
  intro code isCode
  obtain ⟨side, isSide, bin, isBin, rfl⟩ := draws.code isCode
  obtain ⟨isExit, other⟩ := known side isSide bin isBin
  obtain ⟨steps, low, high⟩ := code_of_exit isExit
  exact ⟨steps, low, high, code_ne_own isExit isOwn other⟩

theorem other_of_above {exits : List Int} (known : ∀ bin ∈ exits, bin ∈ exits15) {own : Int} :
    ∀ bin ∈ (sideAbove exits own exitAngle angles).bins, bin ∈ exits15 ∧ bin ≠ own := by
  intro bin isBin
  obtain ⟨isExit, larger⟩ := List.mem_filter.mp isBin
  exact ⟨known bin isExit, ne_of_gt (of_decide_eq_true larger)⟩

theorem other_of_below {exits : List Int} (known : ∀ bin ∈ exits, bin ∈ exits15) {own : Int} :
    ∀ bin ∈ (sideBelow exits own exitAngle angles).bins, bin ∈ exits15 ∧ bin ≠ own := by
  intro bin isBin
  obtain ⟨isExit, smaller⟩ := List.mem_filter.mp isBin
  exact ⟨known bin isExit, ne_of_lt (of_decide_eq_true smaller)⟩

theorem other_of_roundabout (drivingSide exitAngle : Int) (angles : List Int) :
    ∀ side ∈ [sideBefore drivingSide exitAngle angles, sideAfter drivingSide exitAngle angles],
      ∀ bin ∈ side.bins, bin ∈ exits15 ∧ bin ≠ exitBin 1 exitAngle := by
  intro side isSide bin isBin
  by_cases back : TurnsBack (exitBin 1 exitAngle)
  · have ends : ∀ bin ∈ exits15, ¬TurnsBack bin := by decide
    have isExit : bin ∈ exits15 := by
      rcases List.mem_pair.mp isSide with isBefore | isAfter
      · simpa only [isBefore, sideBefore, if_pos back] using isBin
      · simp only [isAfter, sideAfter, if_pos back] at isBin
        cases isBin
    exact ⟨isExit, fun same => ends bin isExit (same ▸ back)⟩
  · rcases List.mem_pair.mp isSide with isBefore | isAfter
    · simp only [isBefore, sideBefore, if_neg back] at isBin
      split_ifs at isBin
      · exact other_of_below (fun _ isBin => isBin) bin isBin
      · exact other_of_above (fun _ isBin => isBin) bin isBin
    · simp only [isAfter, sideAfter, if_neg back] at isBin
      split_ifs at isBin
      · exact other_of_above (fun _ isBin => isBin) bin isBin
      · exact other_of_below (fun _ isBin => isBin) bin isBin

/-- The arms of both sides are those that are not the exit. -/
theorem length_arms (exitAngle : Int) (angles : List Int) :
    (angles.filter (exitAngle < ·)).length + (angles.filter (· < exitAngle)).length =
      (angles.filter (· ≠ exitAngle)).length := by
  induction angles with
  | nil => rfl
  | cons angle angles ih =>
      simp only [List.filter_cons]
      rcases lt_trichotomy angle exitAngle with smaller | same | larger
      · rw [if_neg (by simpa using le_of_lt smaller), if_pos (by simpa using smaller),
          if_pos (by simpa using ne_of_lt smaller), List.length_cons, List.length_cons]
        omega
      · rw [if_neg (by simp [same]), if_neg (by simp [same]), if_neg (by simp [same])]
        exact ih
      · rw [if_pos (by simpa using larger), if_neg (by simpa using le_of_lt larger),
          if_pos (by simpa using ne_of_gt larger), List.length_cons, List.length_cons]
        omega

/-- What a crossing draws: nothing, if a side does not fit. -/
def CrossingDraws (angles : List Int) (exitAngle : Int) (codes : List Int) : Prop :=
  let above := sideAbove exits7 (exitBin 0 exitAngle) exitAngle angles
  let below := sideBelow exits7 (exitBin 0 exitAngle) exitAngle angles
  if above.Fits ∧ below.Fits then
    Draws [above, below] codes ∧ codes.length = (angles.filter (· ≠ exitAngle)).length
  else codes = []

/-- What a roundabout draws: only the arms before the exit, if those after it do not
fit. -/
def RoundaboutDraws (drivingSide : Int) (angles : List Int) (exitAngle : Int)
    (codes : List Int) : Prop :=
  let before := sideBefore drivingSide exitAngle angles
  let after := sideAfter drivingSide exitAngle angles
  if before.Fits then
    if after.Fits then
      Draws [before, after] codes ∧ codes.length = (angles.filter (· ≠ exitAngle)).length
    else Draws [before] codes ∧ codes.length = before.arms.length
  else codes = []

theorem crossing_codes (angles : List Int) (exitAngle : Int) :
    (∀ code ∈ occupiedSidestreetsIntersection angles exitAngle,
        OtherExit (exitBin 0 exitAngle) code) ∧
      CrossingDraws angles exitAngle (occupiedSidestreetsIntersection angles exitAngle) := by
  let codes := occupiedSidestreetsIntersection angles exitAngle
  let own := exitBin 0 exitAngle
  let above := sideAbove exits7 own exitAngle angles
  let below := sideBelow exits7 own exitAngle angles
  change (∀ code ∈ codes, OtherExit own code) ∧
    if above.Fits ∧ below.Fits then
      Draws [above, below] codes ∧ codes.length = (angles.filter (· ≠ exitAngle)).length
    else codes = []
  have fit : above.Fits ∧ below.Fits → Draws [above, below] codes :=
    (intersection_draws angles exitAngle).1
  have unfit : ¬(above.Fits ∧ below.Fits) → codes = [] := (intersection_draws angles exitAngle).2
  have others : ∀ side ∈ [above, below], ∀ bin ∈ side.bins, bin ∈ exits15 ∧ bin ≠ own := by
    intro side isSide
    rcases List.mem_pair.mp isSide with isAbove | isBelow
    · exact isAbove ▸ other_of_above exits7_known
    · exact isBelow ▸ other_of_below exits7_known
  by_cases fits : above.Fits ∧ below.Fits
  · rw [if_pos fits]
    refine ⟨(fit fits).otherExit (exitBin_mem _ _) others, fit fits, ?_⟩
    rw [(fit fits).length, ← length_arms, List.flatMap_cons, List.flatMap_cons, List.flatMap_nil,
      List.append_nil, List.length_append]
    rfl
  · rw [if_neg fits, unfit fits]
    exact ⟨nofun, rfl⟩

theorem roundabout_codes (drivingSide : Int) (angles : List Int) (exitAngle : Int) :
    (∀ code ∈ occupiedSidestreetsRoundabout drivingSide angles exitAngle,
        OtherExit (exitBin 1 exitAngle) code) ∧
      RoundaboutDraws drivingSide angles exitAngle
        (occupiedSidestreetsRoundabout drivingSide angles exitAngle) := by
  let codes := occupiedSidestreetsRoundabout drivingSide angles exitAngle
  let before := sideBefore drivingSide exitAngle angles
  let after := sideAfter drivingSide exitAngle angles
  change (∀ code ∈ codes, OtherExit (exitBin 1 exitAngle) code) ∧
    if before.Fits then
      if after.Fits then
        Draws [before, after] codes ∧ codes.length = (angles.filter (· ≠ exitAngle)).length
      else Draws [before] codes ∧ codes.length = before.arms.length
    else codes = []
  obtain ⟨fit, fitBefore, unfit⟩ : (before.Fits ∧ after.Fits → Draws [before, after] codes) ∧
      (before.Fits ∧ ¬after.Fits → Draws [before] codes) ∧ (¬before.Fits → codes = []) :=
    roundabout_draws drivingSide exitAngle angles
  have others : ∀ side ∈ [before, after], ∀ bin ∈ side.bins,
      bin ∈ exits15 ∧ bin ≠ exitBin 1 exitAngle := other_of_roundabout drivingSide exitAngle angles
  by_cases fits : before.Fits
  · by_cases fits' : after.Fits
    · rw [if_pos fits, if_pos fits']
      have draws := fit ⟨fits, fits'⟩
      refine ⟨draws.otherExit (exitBin_mem _ _) others, draws, ?_⟩
      obtain ⟨-, beforeArms, afterArms, -, -⟩ := roundabout_sides drivingSide exitAngle angles
      rw [draws.length, ← length_arms, List.flatMap_cons, List.flatMap_cons, List.flatMap_nil,
        List.append_nil, List.length_append]
      change (sideBefore drivingSide exitAngle angles).arms.length +
        (sideAfter drivingSide exitAngle angles).arms.length = _
      rw [beforeArms, afterArms]
      split_ifs
      · exact Nat.add_comm _ _
      · rfl
    · rw [if_pos fits, if_neg fits']
      have draws := fitBefore ⟨fits, fits'⟩
      refine ⟨draws.otherExit (exitBin_mem _ _) fun side isSide => others side ?_, draws, ?_⟩
      · rw [List.mem_singleton.mp isSide]
        exact List.mem_cons_self
      · rw [draws.length, List.flatMap_cons, List.flatMap_nil, List.append_nil]
  · rw [if_neg fits, unfit fits]
    exact ⟨nofun, rfl⟩

/-- Every arm of a side that fits gets one code, of an exit of its side. -/
theorem one_code_each {maneuverType junctionType : Int}
    (computes : computesSidestreets maneuverType junctionType = true)
    (isJunction : junctionType = 0 ∨ junctionType = 1) (known : exitAngle ≠ exitAngleMissing)
    (drivingSide : Int) (angles : List Int) :
    let codes :=
      calcSideStreetDirections maneuverType junctionType drivingSide (some angles) exitAngle
    codes.Nodup ∧ (∀ code ∈ codes, OtherExit (exitBin junctionType exitAngle) code) ∧
      if junctionType = 1 then RoundaboutDraws drivingSide angles exitAngle codes
      else CrossingDraws angles exitAngle codes := by
  have nodup := calcSideStreetDirections_nodup maneuverType junctionType drivingSide (some angles)
    exitAngle
  have computed :=
    calcSideStreetDirections_computed computes isJunction known drivingSide angles
  dsimp only
  rw [computed] at nodup ⊢
  by_cases isRoundabout : junctionType = 1
  · subst isRoundabout
    rw [if_pos rfl] at nodup ⊢
    rw [if_pos rfl]
    exact ⟨nodup, roundabout_codes drivingSide angles exitAngle⟩
  · obtain rfl := isJunction.resolve_right isRoundabout
    rw [if_neg isRoundabout] at nodup ⊢
    rw [if_neg isRoundabout]
    exact ⟨nodup, crossing_codes angles exitAngle⟩

/-- Three arms at a crossing, two of them at the same angle. -/
theorem crossing_one_code_each :
    (calcSideStreetDirections 1 0 0 (some [90, -90, 90, 45]) (-90)).length = 3 := by
  obtain ⟨-, -, drawn⟩ :=
    @one_code_each (-90) 1 0 (by decide) (.inl rfl) (by decide) 0 [90, -90, 90, 45]
  rw [if_neg (by decide), CrossingDraws, if_pos (by decide +kernel)] at drawn
  exact drawn.2

/-- Left by the way it was entered, a roundabout draws an arm below the exit at an
exit above it. -/
theorem backward_exit_swaps_side :
    exitBin 1 (-170) = -360 ∧ calcSideStreetDirections 28 1 1 (some [-175]) (-170) = [112] ∧
      ∀ bin ∈ exitsFull17, angleToDirectionCode bin = 112 → ¬bin < exitBin 1 (-170) := by
  decide +kernel

end SideStreets

end CarplayRgi
