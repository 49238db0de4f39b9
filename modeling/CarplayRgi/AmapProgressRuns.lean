import CarplayRgi.AmapV38Progress

/-!
# Runs of the progress tracker

Between two commits the tracked distance of a node may grow once, to correct a
pair that was stale, and never beyond the distance of the node in that update.
The two flags of the tracker leave room for one increase, and an increase
closes both.
-/

namespace CarplayRgi

namespace AmapProgressTracker

/-- `AmapProgressTracker.Result`. -/
structure Result where
  distanceM : Int
  denominatorM : Int
  correctedInitialPair : Bool
  suppressedIncrease : Bool
  deriving DecidableEq

def result (corrected suppressed : Bool) (tracker : AmapProgressTracker) : Result :=
  ⟨tracker.distanceM, tracker.denominatorM, corrected, suppressed⟩

/-- The arguments of `update`. -/
structure Sample where
  distance : Int
  nodeDistance : Int
  denominator : Int
  identity : AmapIdentity
  allowCorrection : Bool
  deriving DecidableEq

/-- The tracker after an update. -/
def feed (tracker : AmapProgressTracker) (sample : Sample) : AmapProgressTracker :=
  tracker.update sample.distance sample.nodeDistance sample.denominator sample.identity
    sample.allowCorrection

/-- What the update returns. -/
def report (tracker : AmapProgressTracker) (sample : Sample) : Result :=
  if sample.distance ≤ 0 then (tracker.feed sample).result false false
  else if !tracker.identity.samePhysical sample.identity then
    (tracker.feed sample).result false false
  else if tracker.distanceM ≤ 0 then (tracker.feed sample).result false false
  else if tracker.provisional = true ∧ 0 < sample.nodeDistance ∧
      tracker.distanceM < sample.distance ∧ sample.distance ≤ sample.nodeDistance then
    (tracker.feed sample).result true false
  else if sample.distance < tracker.distanceM then (tracker.feed sample).result false false
  else if sample.distance = tracker.distanceM then (tracker.feed sample).result false false
  else (tracker.feed sample).result false true

def feedAll (tracker : AmapProgressTracker) (samples : List Sample) : AmapProgressTracker :=
  samples.foldl feed tracker

/-- An update that does not commit another node. -/
def SameNode (tracker : AmapProgressTracker) (sample : Sample) : Prop :=
  sample.distance ≤ 0 ∨ tracker.identity.samePhysical sample.identity = true

instance (tracker : AmapProgressTracker) (sample : Sample) :
    Decidable (tracker.SameNode sample) :=
  inferInstanceAs (Decidable (_ ∨ _))

/-- Every update is one of the node that is tracked when it arrives. -/
def OnNode (tracker : AmapProgressTracker) : List Sample → Prop
  | [] => True
  | sample :: later => tracker.SameNode sample ∧ (tracker.feed sample).OnNode later

/-- The number of updates that let the distance grow. -/
def increases (tracker : AmapProgressTracker) : List Sample → Nat
  | [] => 0
  | sample :: later =>
      (if tracker.distanceM < (tracker.feed sample).distanceM then 1 else 0) +
        (tracker.feed sample).increases later

variable {tracker : AmapProgressTracker} {sample : Sample} {samples earlier later : List Sample}

theorem feedAll_append (tracker : AmapProgressTracker) (earlier later : List Sample) :
    tracker.feedAll (earlier ++ later) = (tracker.feedAll earlier).feedAll later :=
  List.foldl_append

theorem onNode_append : tracker.OnNode (earlier ++ later) ↔
    tracker.OnNode earlier ∧ (tracker.feedAll earlier).OnNode later := by
  induction earlier generalizing tracker with
  | nil => exact (and_iff_right trivial).symm
  | cons sample earlier ih => exact (and_congr_right fun _ => ih).trans and_assoc.symm

/-- An update of a node with a distance lets it shrink, or grow for the last time. -/
theorem feed_progress (started : 0 < tracker.distanceM) (same : tracker.SameNode sample) :
    Progresses sample.nodeDistance tracker (tracker.feed sample) := by
  unfold feed update
  by_cases nothing : sample.distance ≤ 0
  · rw [if_pos nothing]
    exact ⟨started, .inl ⟨Int.le_refl _, Nat.le_refl _⟩⟩
  have physical := same.resolve_left nothing
  rw [if_neg nothing, if_neg (by simp [physical]), if_neg (Int.not_le.mpr started)]
  exact laterSample_progress _ _ _ (Int.not_le.mp nothing) started

/-- An increase is suppressed if the update is for the tracked node, and its
larger distance is not one to grow back to. -/
theorem report_suppressed_iff (tracker : AmapProgressTracker) (sample : Sample) :
    (tracker.report sample).suppressedIncrease = true ↔
      0 < sample.distance ∧ tracker.distanceM < sample.distance ∧
        (tracker.feed sample).distanceM ≠ sample.distance := by
  have keeps (tracker : AmapProgressTracker) :=
    (keepDenominator_keeps sample.denominator tracker).1
  unfold report feed update laterSample
  by_cases nothing : sample.distance ≤ 0
  · rw [if_pos nothing]
    exact iff_of_false Bool.false_ne_true fun suppressed => absurd suppressed.1 (by omega)
  rw [if_neg nothing, if_neg nothing]
  by_cases other : (!tracker.identity.samePhysical sample.identity) = true
  · rw [if_pos other, if_pos other]
    exact iff_of_false Bool.false_ne_true fun suppressed => suppressed.2.2 rfl
  rw [if_neg other, if_neg other]
  by_cases unstarted : tracker.distanceM ≤ 0
  · rw [if_pos unstarted, if_pos unstarted]
    exact iff_of_false Bool.false_ne_true fun suppressed => suppressed.2.2 rfl
  rw [if_neg unstarted, if_neg unstarted]
  split_ifs with grows shrinks equal
  · exact iff_of_false Bool.false_ne_true fun suppressed => suppressed.2.2 (keeps _)
  · exact iff_of_false Bool.false_ne_true fun suppressed => suppressed.2.2 (keeps _)
  · exact iff_of_false Bool.false_ne_true fun suppressed =>
      absurd suppressed.2.1 (by omega)
  · refine iff_of_true rfl ⟨by omega, by omega, ?_⟩
    exact fun taken => equal taken.symm

theorem feedAll_positive (started : 0 < tracker.distanceM) (same : tracker.OnNode samples) :
    0 < (tracker.feedAll samples).distanceM := by
  induction samples generalizing tracker with
  | nil => exact started
  | cons sample later ih => exact ih (feed_progress started same.1).1 same.2

/-- The distance grows only while the flags allow it. -/
theorem increases_le_allowance (started : 0 < tracker.distanceM) (same : tracker.OnNode samples) :
    tracker.increases samples ≤ tracker.allowance := by
  induction samples generalizing tracker with
  | nil => exact Nat.zero_le _
  | cons sample later ih =>
      obtain ⟨stillPositive, change⟩ := feed_progress started same.1
      have rest := ih stillPositive same.2
      rw [increases]
      rcases change with ⟨falls, less⟩ | ⟨grows, -, mayGrow, final⟩
      · rw [if_neg (Int.not_lt.mpr falls)]
        omega
      · rw [if_pos grows]
        omega

/-- Between two commits a positive distance stays positive and grows once at
most, never beyond the distance of the node in that update, and a larger
distance that is not taken over is reported. -/
theorem distance_grows_once (distance denominator : Int) (identity : AmapIdentity)
    (correctionAllowed : Bool) (earlier later : List Sample)
    (onNode : (commit distance denominator identity correctionAllowed).OnNode (earlier ++ later))
    (started :
      0 < ((commit distance denominator identity correctionAllowed).feedAll earlier).distanceM) :
    let tracked (samples : List Sample) :=
      (commit distance denominator identity correctionAllowed).feedAll samples
    0 < (tracked (earlier ++ later)).distanceM ∧
      (tracked earlier).increases later ≤ 1 ∧
      (∀ before sample after, later = before ++ sample :: after →
        let kept := tracked (earlier ++ before)
        let next := tracked (earlier ++ before ++ [sample])
        next.distanceM ≤ kept.distanceM ∨
          (kept.distanceM < next.distanceM ∧ next.distanceM ≤ sample.nodeDistance)) ∧
      ∀ before sample after, earlier ++ later = before ++ sample :: after →
        (((tracked before).report sample).suppressedIncrease = true ↔
          0 < sample.distance ∧ (tracked before).distanceM < sample.distance ∧
            (tracked (before ++ [sample])).distanceM ≠ sample.distance) := by
  intro tracked
  have laterOnNode := (onNode_append.mp onNode).2
  refine ⟨?_, ?_, ?_, ?_⟩
  · rw [show tracked (earlier ++ later) = _ from feedAll_append _ _ _]
    exact feedAll_positive started laterOnNode
  · exact (increases_le_allowance started laterOnNode).trans (Bool.toNat_le _)
  · rintro before sample after rfl
    obtain ⟨beforeOnNode, sameNode, -⟩ := onNode_append.mp laterOnNode
    have fed : tracked (earlier ++ before ++ [sample]) = (tracked (earlier ++ before)).feed sample :=
      feedAll_append _ _ _
    have keeps : tracked (earlier ++ before) = (tracked earlier).feedAll before :=
      feedAll_append _ _ _
    rw [fed, keeps]
    have positive := feedAll_positive started beforeOnNode
    rcases (feed_progress positive sameNode).2 with ⟨falls, -⟩ | ⟨grows, within, -⟩
    · exact .inl falls
    · exact .inr ⟨grows, within⟩
  · intro before sample after split
    rw [show tracked (before ++ [sample]) = (tracked before).feed sample from feedAll_append _ _ _]
    exact report_suppressed_iff _ _

/-- A stale distance after the commit, its correction, and a larger one. -/
def staleSamples : List Sample :=
  [⟨27, 104, 104, ⟨0, 1, 5, 3⟩, false⟩, ⟨104, 104, 104, ⟨0, 1, 5, 3⟩, false⟩,
    ⟨200, 300, 300, ⟨0, 1, 5, 3⟩, false⟩]

theorem stale_distance_grows_once :
    ((commit 104 104 ⟨0, 1, 5, 3⟩ false).feedAll staleSamples).distanceM = 104 ∧
      (commit 104 104 ⟨0, 1, 5, 3⟩ false).increases staleSamples ≤ 1 := by
  have onNode : (commit 104 104 ⟨0, 1, 5, 3⟩ false).OnNode ([] ++ staleSamples) :=
    ⟨.inr rfl, .inr rfl, .inr rfl, trivial⟩
  exact ⟨by decide, (distance_grows_once 104 104 ⟨0, 1, 5, 3⟩ false [] staleSamples onNode
    (by decide)).2.1⟩

end AmapProgressTracker

end CarplayRgi
