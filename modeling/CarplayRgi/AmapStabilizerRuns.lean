import CarplayRgi.AmapTrackers
import Mathlib.Data.List.Induction

/-!
# Two frames for a new display

The stabilizer commits a new display only if the effective frame before was a
candidate for the same one.  The candidate keeps the identity of the frame that
opened it, so that this is the identity a later frame is compared with, also
after a frame whose distance has jumped.
-/

namespace CarplayRgi

/-- The comparison of `sameCandidate`. -/
def AmapIdentity.sameSeen (own other : AmapIdentity) : Bool :=
  if own.hasContext other then own.sameContext other
  else decide (own.idx = other.idx ∧ own.ver = other.ver)

/-- The two decisions `COMMIT_NEW_VISUAL` and `COMMIT_NEW_PHYSICAL`. -/
def StabilizerDecision.commitsNew : StabilizerDecision → Bool
  | .commitNewVisual | .commitNewPhysical => true
  | .pass | .hold | .acceptSameVisual => false

namespace AmapDisplayStabilizer

/-- The arguments of `evaluate`. -/
structure Frame where
  active : Bool
  visual : List Char
  identity : AmapIdentity
  dist : Int
  headAligned : Bool
  distanceFresh : Bool
  deriving DecidableEq

def Frame.effective (frame : Frame) : Bool :=
  frame.headAligned && frame.distanceFresh && decide (frame.visual ≠ [])

/-- What is called on the stabilizer. -/
inductive Call where
  | evaluate (frame : Frame)
  | seed (visual : List Char) (identity : AmapIdentity) (dist : Int)
  | noteCompletion
  | reset
  deriving DecidableEq

def onFrame (stabilizer : AmapDisplayStabilizer) (frame : Frame) :
    StabilizerDecision × AmapDisplayStabilizer :=
  stabilizer.evaluate frame.active frame.visual frame.identity frame.dist frame.headAligned
    frame.distanceFresh

def perform (stabilizer : AmapDisplayStabilizer) : Call → AmapDisplayStabilizer
  | .evaluate frame => (stabilizer.onFrame frame).2
  | .seed visual identity dist => stabilizer.seed visual identity dist
  | .noteCompletion => stabilizer.noteCompletion
  | .reset => reset

def after (calls : List Call) : AmapDisplayStabilizer :=
  calls.foldl perform reset

/-- A call that neither shows an effective frame, nor commits or resets. -/
def Call.quiet : Call → Bool
  | .evaluate frame => frame.active && !frame.effective
  | .seed visual _ _ => decide (visual = [])
  | .noteCompletion => true
  | .reset => false

/-- The frame is evaluated as a candidate. -/
def isCandidate (stabilizer : AmapDisplayStabilizer) (frame : Frame) : Bool :=
  frame.active && frame.effective && stabilizer.committed &&
    !(decide (frame.visual = stabilizer.visual) &&
      (stabilizer.identity.samePhysical frame.identity || !stabilizer.sawCompletion))

/-- The candidate that a frame leaves: it opens a new one, or its distance has
jumped and the candidate is counted from there. -/
inductive Leaves (before : StabilizerCandidate) (frame : Frame) : StabilizerCandidate → Prop
  | opened : Leaves before frame ⟨frame.visual, frame.identity, frame.dist, 1⟩
  | jumped : sameCandidate before frame.visual frame.identity = true →
      jumpsBack before.distance frame.dist = true →
      Leaves before frame { before with distance := frame.dist, frames := 1 }

variable {stabilizer : AmapDisplayStabilizer} {frame : Frame} {call : Call}
  {calls : List Call} {candidate kept : StabilizerCandidate}

theorem after_concat (calls : List Call) (call : Call) :
    after (calls ++ [call]) = (after calls).perform call :=
  List.foldl_concat _ _ _ _

theorem sameCandidate_iff {visual : List Char} {identity : AmapIdentity} :
    sameCandidate candidate visual identity = true ↔
      0 < candidate.frames ∧ visual = candidate.visual ∧
        candidate.identity.sameSeen identity = true := by
  unfold sameCandidate AmapIdentity.sameSeen
  rw [Bool.and_eq_true, decide_eq_true_eq, and_assoc]

/-- A distance that does not jump has grown by the tolerance at most. -/
theorem le_of_not_jumpsBack {distance dist : Int} (positive : 0 < distance)
    (steady : jumpsBack distance dist = false) : dist ≤ distance + distanceJitterM := by
  have notBelow : ¬(0 < distance ∧ wrapInt (distance + distanceJitterM) < dist) :=
    of_decide_eq_false steady
  have wrapped : wrapInt (distance + distanceJitterM) ≤ distance + distanceJitterM := by
    unfold wrapInt distanceJitterM
    rw [Int.bmod_def]
    have remainder : (distance + 8) % ((2 ^ 32 : Nat) : Int) ≤ distance + 8 := by omega
    split_ifs <;> omega
  omega

theorem perform_quiet (stabilizer : AmapDisplayStabilizer) (isQuiet : call.quiet = true) :
    (stabilizer.perform call).candidate = stabilizer.candidate := by
  cases call with
  | evaluate frame =>
      simp only [Call.quiet, Frame.effective, Bool.and_eq_true, Bool.not_eq_true',
        Bool.and_eq_false_iff, decide_eq_false_iff_not, not_not] at isQuiet
      obtain ⟨isActive, ineffective⟩ := isQuiet
      have unchanged : (stabilizer.onFrame frame).2 = stabilizer := by
        unfold onFrame AmapDisplayStabilizer.evaluate
        rw [if_neg (by simp [isActive])]
        by_cases unusable : (!frame.headAligned || !frame.distanceFresh) = true
        · rw [if_pos unusable]
        · have empty : frame.visual = [] := by
            rcases ineffective with (unaligned | stale) | empty
            · simp [unaligned] at unusable
            · simp [stale] at unusable
            · exact empty
          rw [if_neg unusable, if_pos empty]
      exact congrArg candidate unchanged
  | seed visual identity dist =>
      have empty : visual = [] := of_decide_eq_true isQuiet
      have unchanged : stabilizer.seed visual identity dist = stabilizer := if_pos empty
      exact congrArg candidate unchanged
  | noteCompletion =>
      unfold perform noteCompletion
      split_ifs
      · rfl
      · rfl
  | reset => cases isQuiet

/-- A candidate is evaluated as one, and any other effective frame clears it. -/
theorem onFrame_of_isCandidate (isCandidate : stabilizer.isCandidate frame = true) :
    stabilizer.onFrame frame =
      stabilizer.evaluateCandidate frame.visual frame.identity frame.dist := by
  simp only [AmapDisplayStabilizer.isCandidate, Frame.effective, Bool.and_eq_true,
    decide_eq_true_eq, Bool.not_eq_true', Bool.and_eq_false_iff, Bool.or_eq_false_iff,
    Bool.not_eq_false', decide_eq_false_iff_not] at isCandidate
  obtain ⟨⟨⟨isActive, ⟨isAligned, isFresh⟩, nonempty⟩, isCommitted⟩, other⟩ := isCandidate
  unfold onFrame evaluate
  rw [if_neg (by simp [isActive]), if_neg (by simp [isAligned, isFresh]), if_neg nonempty,
    if_neg (by simp [isCommitted])]
  dsimp only
  rw [if_neg, if_neg]
  · rcases other with otherVisual | ⟨-, completed⟩
    · simp [otherVisual]
    · simp [completed]
  · rcases other with otherVisual | ⟨otherNode, -⟩
    · simp [otherVisual]
    · simp [otherNode]

theorem onFrame_of_not_isCandidate (isEffective : frame.effective = true)
    (noCandidate : stabilizer.isCandidate frame = false) :
    (stabilizer.onFrame frame).1.commitsNew = false ∧
      (stabilizer.onFrame frame).2.candidate.frames = 0 := by
  simp only [Frame.effective, Bool.and_eq_true, decide_eq_true_eq] at isEffective
  obtain ⟨⟨isAligned, isFresh⟩, nonempty⟩ := isEffective
  unfold onFrame evaluate
  by_cases inactive : (!frame.active) = true
  · rw [if_pos inactive]
    exact ⟨rfl, rfl⟩
  rw [if_neg inactive, if_neg (by simp [isAligned, isFresh]), if_neg nonempty]
  by_cases uncommitted : (!stabilizer.committed) = true
  · rw [if_pos uncommitted]
    refine ⟨rfl, ?_⟩
    unfold seed
    rw [if_neg nonempty]
    rfl
  rw [if_neg uncommitted]
  dsimp only
  by_cases same : (decide (frame.visual = stabilizer.visual) &&
      stabilizer.identity.samePhysical frame.identity) = true
  · rw [if_pos same]
    unfold evaluateSame
    dsimp only
    split_ifs
    · exact ⟨rfl, rfl⟩
    · exact ⟨rfl, rfl⟩
    · exact ⟨rfl, rfl⟩
  · rw [if_neg same, if_pos]
    · exact ⟨rfl, rfl⟩
    · simp only [AmapDisplayStabilizer.isCandidate, Frame.effective] at noCandidate
      grind

/-- A candidate waits for another frame, or it is committed. -/
theorem evaluateCandidate_cases (stabilizer : AmapDisplayStabilizer) (frame : Frame) :
    ((stabilizer.evaluateCandidate frame.visual frame.identity frame.dist).1.commitsNew = false ∧
        Leaves stabilizer.candidate frame
          (stabilizer.evaluateCandidate frame.visual frame.identity frame.dist).2.candidate) ∨
      (sameCandidate stabilizer.candidate frame.visual frame.identity = true ∧
        jumpsBack stabilizer.candidate.distance frame.dist = false ∧
        (stabilizer.evaluateCandidate frame.visual frame.identity
          frame.dist).2.candidate.frames = 0) := by
  unfold evaluateCandidate
  dsimp only
  split_ifs with opens jumps few
  · exact .inl ⟨rfl, .opened⟩
  · exact .inl ⟨rfl, .jumped (by simpa using opens) jumps⟩
  · have same : sameCandidate stabilizer.candidate frame.visual frame.identity = true := by
      simpa using opens
    have seen := (sameCandidate_iff.mp same).1
    omega
  · exact .inr ⟨by simpa using opens, by simpa using jumps, rfl⟩
  · exact .inr ⟨by simpa using opens, by simpa using jumps, rfl⟩

/-- A display is committed only if the candidate was waiting for the frame. -/
theorem waited_of_commitsNew (commits : (stabilizer.onFrame frame).1.commitsNew = true) :
    frame.effective = true ∧
      sameCandidate stabilizer.candidate frame.visual frame.identity = true ∧
        jumpsBack stabilizer.candidate.distance frame.dist = false := by
  have isEffective : frame.effective = true := by
    by_contra ineffective
    simp only [Frame.effective, Bool.and_eq_true, decide_eq_true_eq] at ineffective
    unfold onFrame evaluate at commits
    split_ifs at commits
    all_goals first
      | cases commits
      | grind
  cases isCandidate : stabilizer.isCandidate frame with
  | false =>
      rw [(onFrame_of_not_isCandidate isEffective isCandidate).1] at commits
      cases commits
  | true =>
      rw [onFrame_of_isCandidate isCandidate] at commits
      rcases stabilizer.evaluateCandidate_cases frame with ⟨holds, -⟩ | ⟨same, steady, -⟩
      · rw [holds] at commits
        cases commits
      · exact ⟨isEffective, same, steady⟩

/-- The effective frames of a run. -/
def Call.effective : Call → Option Frame
  | .evaluate frame => if frame.effective then some frame else none
  | .seed _ _ _ | .noteCompletion | .reset => none

def effectiveFrames (calls : List Call) : List Frame :=
  calls.filterMap Call.effective

theorem effective_of_quiet (isQuiet : call.quiet = true) : call.effective = none := by
  cases call with
  | evaluate frame =>
      simp only [Call.quiet, Bool.and_eq_true, Bool.not_eq_true'] at isQuiet
      exact if_neg (by simp [isQuiet.2])
  | seed | noteCompletion | reset => rfl

/-- What was done with a frame, and that nothing has replaced it as a candidate. -/
structure LastCandidate (calls before : List Call) (earlier : Frame) (between : List Call) :
    Prop where
  split : calls = before ++ .evaluate earlier :: between
  quiet : ∀ call ∈ between, call.quiet = true
  isCandidate : (after before).isCandidate earlier = true

theorem LastCandidate.effective {before between : List Call} {earlier : Frame}
    (last : LastCandidate calls before earlier between) : earlier.effective = true := by
  have isCandidate := last.isCandidate
  simp only [AmapDisplayStabilizer.isCandidate, Bool.and_eq_true] at isCandidate
  exact isCandidate.1.1.2

/-- It is the last effective frame. -/
theorem LastCandidate.getLast? {before between : List Call} {earlier : Frame}
    (last : LastCandidate calls before earlier between) :
    (effectiveFrames calls).getLast? = some earlier := by
  have none_between : between.filterMap Call.effective = [] :=
    List.filterMap_eq_nil_iff.mpr fun call member => effective_of_quiet (last.quiet call member)
  have isEffective : Call.effective (.evaluate earlier) = some earlier := if_pos last.effective
  rw [last.split, effectiveFrames, List.filterMap_append, List.filterMap_cons_some isEffective,
    none_between, List.getLast?_concat]

/-- A candidate that is kept was left by the last effective frame. -/
theorem exists_lastCandidate (calls : List Call) :
    (after calls).candidate.frames = 0 ∨ ∃ before earlier between,
      LastCandidate calls before earlier between ∧
        Leaves (after before).candidate earlier (after calls).candidate := by
  induction calls using List.reverseRecOn with
  | nil => exact .inl rfl
  | append_singleton calls call ih =>
      rw [after_concat]
      cases isQuiet : call.quiet with
      | true =>
          rw [perform_quiet _ isQuiet]
          refine ih.imp_right fun ⟨before, earlier, between, last, leaves⟩ =>
            ⟨before, earlier, between ++ [call], ⟨?_, ?_, last.isCandidate⟩, leaves⟩
          · rw [last.split, List.append_assoc, List.cons_append]
          · intro other member
            rcases List.mem_append.mp member with isOld | isLast
            · exact last.quiet other isOld
            · rwa [List.mem_singleton.mp isLast]
      | false =>
          cases call with
          | evaluate frame =>
              cases isCandidate : (after calls).isCandidate frame with
              | true =>
                  have evaluated := onFrame_of_isCandidate isCandidate
                  rcases (after calls).evaluateCandidate_cases frame with
                    ⟨-, leaves⟩ | ⟨-, -, cleared⟩
                  · rw [← evaluated] at leaves
                    exact .inr ⟨calls, frame, [], ⟨rfl, nofun, isCandidate⟩, leaves⟩
                  · rw [← evaluated] at cleared
                    exact .inl cleared
              | false =>
                  by_cases isEffective : frame.effective = true
                  · exact .inl (onFrame_of_not_isCandidate isEffective isCandidate).2
                  · have inactive : frame.active = false := by
                      simpa [Call.quiet, isEffective] using isQuiet
                    have isReset : (after calls).onFrame frame = (.pass, reset) := by
                      unfold onFrame evaluate
                      exact if_pos (by simp [inactive])
                    exact .inl (congrArg (fun result => result.2.candidate.frames) isReset)
          | seed visual identity dist =>
              have nonempty : visual ≠ [] := of_decide_eq_false isQuiet
              have seeded : (after calls).seed visual identity dist =
                  ⟨true, visual, identity, dist, decide (dist ≤ 0), noCandidate⟩ := if_neg nonempty
              exact .inl (congrArg (fun result => result.candidate.frames) seeded)
          | noteCompletion => cases isQuiet
          | reset => exact .inl rfl

/-- The identity that a frame is compared with is that of the last effective
frame, unless the distance jumped there: then it is one that this frame was
compared with as well. -/
def Compared (before : StabilizerCandidate) (earlier : Frame) (opened : AmapIdentity) : Prop :=
  opened = earlier.identity ∨
    (jumpsBack before.distance earlier.dist = true ∧ opened = before.identity ∧
      opened.sameSeen earlier.identity = true)

/-- A new display is committed only if the last effective frame was a candidate
for it. -/
theorem exists_candidate_of_commitsNew
    (commits : ((after calls).onFrame frame).1.commitsNew = true) :
    ∃ before earlier between, LastCandidate calls before earlier between ∧
      earlier.visual = frame.visual ∧
      (∃ opened, Compared (after before).candidate earlier opened ∧
        opened.sameSeen frame.identity = true) ∧
      (0 < earlier.dist → frame.dist ≤ earlier.dist + distanceJitterM) := by
  obtain ⟨-, same, steady⟩ := waited_of_commitsNew commits
  obtain ⟨seen, sameVisual, sameIdentity⟩ := sameCandidate_iff.mp same
  rcases exists_lastCandidate calls with none | ⟨before, earlier, between, last, leaves⟩
  · omega
  refine ⟨before, earlier, between, last, ?_⟩
  generalize (after calls).candidate = kept at leaves steady sameVisual sameIdentity
  cases leaves with
  | opened =>
      exact ⟨sameVisual.symm, ⟨_, .inl rfl, sameIdentity⟩,
        fun positive => le_of_not_jumpsBack positive steady⟩
  | jumped compared jumps =>
      obtain ⟨-, earlierVisual, earlierIdentity⟩ := sameCandidate_iff.mp compared
      exact ⟨earlierVisual.trans sameVisual.symm,
        ⟨_, .inr ⟨jumps, rfl, earlierIdentity⟩, sameIdentity⟩,
        fun positive => le_of_not_jumpsBack positive steady⟩

/-- The list takes turns between two values, of which this is the first. -/
def Alternates {Value : Type} (first second : Value) : List Value → Prop
  | [] => True
  | head :: rest => head = first ∧ Alternates second first rest

theorem Alternates.last_ne {Value : Type} {first second next : Value} {earlier later : List Value}
    (different : first ≠ second) (alternates : Alternates first second (earlier ++ next :: later)) :
    earlier.getLast? ≠ some next := by
  induction earlier generalizing first second with
  | nil => exact Option.some_ne_none next ∘ Eq.symm
  | cons head rest ih =>
      obtain ⟨rfl, turns⟩ := alternates
      cases rest with
      | nil =>
          obtain ⟨rfl, -⟩ := turns
          exact fun isNext => different (Option.some.inj isNext)
      | cons second' rest =>
          rw [List.getLast?_cons_cons]
          exact ih different.symm turns

/-- The displays of the effective frames. -/
def visuals (calls : List Call) : List (List Char) :=
  (effectiveFrames calls).map Frame.visual

theorem visuals_append (first second : List Call) :
    visuals (first ++ second) = visuals first ++ visuals second := by
  unfold visuals effectiveFrames
  rw [List.filterMap_append, List.map_append]

/-- The display before a commit is the one that is committed. -/
theorem getLast?_visuals_of_commitsNew
    (commits : ((after calls).onFrame frame).1.commitsNew = true) :
    (visuals calls).getLast? = some frame.visual := by
  obtain ⟨before, earlier, between, last, sameVisual, -, -⟩ :=
    exists_candidate_of_commitsNew commits
  rw [visuals, List.getLast?_map, last.getLast?, Option.map_some, sameVisual]

theorem alternating_never_commits {before earlier later : List Call} {first second : List Char}
    (different : first ≠ second)
    (alternates : Alternates first second (visuals (earlier ++ .evaluate frame :: later)))
    (fresh : (visuals before).getLast? ≠ some first) :
    ((after (before ++ earlier)).onFrame frame).1.commitsNew = false := by
  by_contra commits
  rw [Bool.not_eq_false] at commits
  have isLast := getLast?_visuals_of_commitsNew commits
  have isEffective : visuals (.evaluate frame :: later) = frame.visual :: visuals later := by
    have shown : Call.effective (.evaluate frame) = some frame :=
      if_pos (waited_of_commitsNew commits).1
    unfold visuals effectiveFrames
    rw [List.filterMap_cons_some shown, List.map_cons]
  rw [visuals_append, isEffective] at alternates
  rw [visuals_append] at isLast
  rcases List.eq_nil_or_concat (visuals earlier) with none | ⟨initial, last, isConcat⟩
  · rw [none] at alternates isLast
    rw [List.append_nil, alternates.1] at isLast
    exact fresh isLast
  · have notNext := alternates.last_ne different
    rw [isConcat, List.concat_eq_append] at isLast notNext
    rw [← List.append_assoc, List.getLast?_concat] at isLast
    rw [List.getLast?_concat] at notNext
    exact notNext isLast

/-- A new display needs two effective frames in a row, so that displays taking
turns are never committed. -/
theorem two_frame_rule :
    (∀ calls frame, ((after calls).onFrame frame).1.commitsNew = true →
      ∃ before earlier between, LastCandidate calls before earlier between ∧
        earlier.visual = frame.visual ∧
        (∃ opened, Compared (after before).candidate earlier opened ∧
          opened.sameSeen frame.identity = true) ∧
        (0 < earlier.dist → frame.dist ≤ earlier.dist + distanceJitterM)) ∧
      ∀ before earlier frame later first second, first ≠ second →
        Alternates first second (visuals (earlier ++ .evaluate frame :: later)) →
          (visuals before).getLast? ≠ some first →
            ((after (before ++ earlier)).onFrame frame).1.commitsNew = false :=
  ⟨fun _ _ => exists_candidate_of_commitsNew,
    fun _ _ _ _ _ _ different alternates fresh =>
      alternating_never_commits different alternates fresh⟩

/-- A usable frame of slot 0 and version 1. -/
def slotFrame (visual : List Char) (generation dist : Int) : Frame :=
  ⟨true, visual, ⟨0, 1, generation, generation⟩, dist, true, true⟩

/-- A candidate that is opened without its context, and whose distance jumps. -/
def jumpingCalls : List Call :=
  [.evaluate (slotFrame ['a'] (-1) 90), .evaluate (slotFrame ['b'] (-1) 50),
    .evaluate (slotFrame ['b'] 5 100)]

/-- The jumping display is committed in the end; taking turns with another one, it is not. -/
theorem two_frame_rule_jumping :
    ((after jumpingCalls).onFrame (slotFrame ['b'] 6 100)).1.commitsNew = true ∧
      (∃ before earlier between, LastCandidate jumpingCalls before earlier between ∧
        earlier.visual = ['b'] ∧ (0 < earlier.dist → 100 ≤ earlier.dist + distanceJitterM)) ∧
      ((after (jumpingCalls ++ [.evaluate (slotFrame ['a'] 6 90)])).onFrame
        (slotFrame ['b'] 6 100)).1.commitsNew = false := by
  have commits : ((after jumpingCalls).onFrame (slotFrame ['b'] 6 100)).1.commitsNew = true := by
    decide
  obtain ⟨before, earlier, between, last, same, -, near⟩ := two_frame_rule.1 _ _ commits
  exact ⟨commits, ⟨before, earlier, between, last, same, near⟩,
    two_frame_rule.2 jumpingCalls [.evaluate (slotFrame ['a'] 6 90)] (slotFrame ['b'] 6 100) []
      ['a'] ['b'] (by decide) ⟨rfl, rfl, trivial⟩ (by decide)⟩

/-- After the jump, the candidate is committed in another generation. -/
theorem jump_keeps_opened_identity :
    ¬ ∀ calls frame, ((after calls).onFrame frame).1.commitsNew = true →
      ∃ before earlier between, LastCandidate calls before earlier between ∧
        earlier.visual = frame.visual ∧ earlier.identity.sameSeen frame.identity = true ∧
        (0 < earlier.dist → frame.dist ≤ earlier.dist + distanceJitterM) := by
  intro rule
  obtain ⟨before, earlier, between, last, -, same, -⟩ :=
    rule jumpingCalls (slotFrame ['b'] 6 100) (by decide)
  have isLast : (effectiveFrames jumpingCalls).getLast? = some (slotFrame ['b'] 5 100) := by decide
  obtain rfl := Option.some.inj (last.getLast?.symm.trans isLast)
  exact absurd same (by decide)

end AmapDisplayStabilizer

end CarplayRgi
