import CarplayRgi.AmapV38Commits

/-!
# The distance beside the committed maneuver

A shown distance is the tracked one, or the one of the commit.  The tracker is
fed with the distance of the raw cache, which may have come with another head,
or belong to a head that is being held back.
-/

namespace CarplayRgi

open RouteGuidance

namespace AmapProgressTracker

/-- A tracker that is fed keeps its distance or takes the new one. -/
theorem update_distanceM (distance nodeDistance denominator : Int) (identity : AmapIdentity)
    (allowCorrection : Bool) (tracker : AmapProgressTracker) :
    (tracker.update distance nodeDistance denominator identity allowCorrection).distanceM =
        tracker.distanceM ∨
      (tracker.update distance nodeDistance denominator identity allowCorrection).distanceM =
        distance := by
  have kept : ∀ own : AmapProgressTracker, (own.keepDenominator denominator).distanceM =
      own.distanceM := by
    intro own
    unfold keepDenominator
    split_ifs <;> rfl
  unfold update
  split_ifs
  · exact .inl rfl
  · exact .inr rfl
  · exact .inr rfl
  · exact .inr rfl
  · unfold laterSample
    split_ifs
    · exact .inr (kept _)
    · exact .inr (kept _)
    · exact .inl (kept _)
    · exact .inl rfl

end AmapProgressTracker

namespace AmapV38Compat

variable {engine : AmapV38Compat} {call : V38Call}

theorem head_nonneg (valid : engine.current.valid = true) :
    0 ≤ engine.current.head ∧ 0 ≤ engine.current.ver := by
  have isValid : AmapFields.validHead engine.current.head engine.current.ver
      engine.current.type = true := valid
  obtain ⟨slot, isSlot⟩ := AmapFields.slotOf_of_validHead isValid
  simp only [AmapFields.validHead, Bool.and_eq_true, decide_eq_true_eq] at isValid
  refine ⟨?_, isValid.1.2⟩
  unfold slotOf at isSlot
  split_ifs at isSlot with inside
  exact inside.1

theorem sameAsCommitted_of_identity {committed : AmapSnapshot}
    (valid : engine.current.valid = true) (head : committed.physicalHead = engine.current.head)
    (ver : committed.physicalVer = engine.current.ver)
    (generation : committed.physicalGeneration = engine.routeGeneration) :
    engine.sameAsCommitted engine.current committed = true := by
  obtain ⟨headNonneg, verNonneg⟩ := head_nonneg valid
  simp [sameAsCommitted, head, ver, generation, headNonneg, verNonneg]

theorem commitSnapshot_identity (engine : AmapV38Compat) :
    engine.commitSnapshot.physicalHead = engine.current.head ∧
      engine.commitSnapshot.physicalVer = engine.current.ver ∧
        engine.commitSnapshot.physicalGeneration = engine.routeGeneration := by
  unfold commitSnapshot applyTrackedDistance
  split_ifs
  · exact ⟨rfl, rfl, rfl⟩
  · exact ⟨rfl, rfl, rfl⟩

theorem SameObserved.sameAsCommitted {before after : AmapV38Compat}
    (same : SameObserved before after) (committed : AmapSnapshot) :
    after.sameAsCommitted after.current committed =
      before.sameAsCommitted before.current committed := by
  unfold AmapV38Compat.sameAsCommitted
  rw [same.current, same.routeGeneration]

theorem sameAsCommitted_of_late {raw : RawHead} {committed : AmapSnapshot}
    (late : engine.isLatePrompt raw committed = true) :
    engine.sameAsCommitted raw committed = true := by
  simp only [isLatePrompt, Bool.and_eq_true] at late
  exact late.1.1.1.1.2

/-- The raw head is the committed maneuver. -/
def AtCommitted (engine : AmapV38Compat) : Prop :=
  ∃ committed, engine.committed = some committed ∧
    engine.sameAsCommitted engine.current committed = true

theorem Commits.atCommitted {before after : AmapV38Compat} (commits : Commits before after) :
    AtCommitted after := by
  have identity := before.commitSnapshot_identity
  refine ⟨_, commits.committed, ?_⟩
  rw [commits.observed.sameAsCommitted]
  exact sameAsCommitted_of_identity commits.valid identity.1 identity.2.1 identity.2.2

theorem Accepts.atCommitted {committed : AmapSnapshot} {before after : AmapV38Compat}
    (accepts : Accepts committed before after) (valid : before.current.valid = true) :
    AtCommitted after := by
  refine ⟨_, accepts.committed, ?_⟩
  rw [accepts.observed.sameAsCommitted]
  exact sameAsCommitted_of_identity valid rfl rfl rfl

theorem AtCommitted.kept {before after : AmapV38Compat} (there : AtCommitted before)
    (same : SameObserved before after) (committed : after.committed = before.committed) :
    AtCommitted after := by
  obtain ⟨snapshot, isCommitted, isSame⟩ := there
  exact ⟨snapshot, committed.trans isCommitted, (same.sameAsCommitted snapshot).trans isSame⟩

/-- An answer leaves the raw head at the committed maneuver, if it was there or
the answer moved it there. -/
theorem atCommitted_answer
    (there : AtCommitted engine ∨ engine.branch call = .commit ∨ engine.branch call = .accept ∨
      engine.branch call = .prompt) :
    AtCommitted (engine.answer call).2 := by
  have way := engine.answer_case call
  generalize engine.answer call = result at way
  generalize engine.branch call = branch at way there
  have other : branch ≠ .commit → branch ≠ .accept → branch ≠ .prompt → AtCommitted engine := by
    intro noCommit noAccept noPrompt
    exact there.resolve_right (by simp [noCommit, noAccept, noPrompt])
  cases way with
  | passed after same =>
      have stays := other (by decide) (by decide) (by decide)
      rcases same with rfl | rfl
      · exact stays
      · exact stays.kept ⟨rfl, rfl, rfl, rfl⟩ rfl
  | hidden | soft =>
      have stays := other (by decide) (by decide) (by decide)
      exact stays.kept ⟨rfl, rfl, rfl, rfl⟩ rfl
  | active enabled awake way =>
      cases way with
      | empty =>
          have stays := other (by decide) (by decide) (by decide)
          exact stays.kept ⟨rfl, rfl, rfl, rfl⟩ rfl
      | first _ _ commits | again _ _ _ _ _ commits => exact commits.atCommitted
      | prompt committed _ isCommitted late holds =>
          have stays : AtCommitted engine.awake :=
            ⟨committed, isCommitted, sameAsCommitted_of_late late⟩
          exact stays.kept holds.observed holds.committed
      | accept _ _ _ _ valid accepts => exact accepts.atCommitted valid
      | hold _ _ _ _ _ holds =>
          have stays : AtCommitted engine.awake := other (by decide) (by decide) (by decide)
          exact stays.kept holds.observed holds.committed

theorem committed_of_hold (held : engine.branch call = .hold) :
    ∃ committed, engine.committed = some committed := by
  have way := engine.answer_case call
  rw [held] at way
  generalize engine.answer call = result at way
  cases way with
  | active _ _ way =>
      cases way with
      | hold committed _ isCommitted => exact ⟨committed, isCommitted⟩

/-- The distance is tracked, or it is the one of the committed snapshot. -/
def Has (engine : AmapV38Compat) (distance : Int) : Prop :=
  engine.progress.distanceM = distance ∨
    ∃ committed, engine.committed = some committed ∧ committed.distManeuverM = distance

/-- A commit has only the distance of the raw head. -/
theorem commitSnapshot_distance {engine : AmapV38Compat}
    (positive : 0 < engine.commitSnapshot.distManeuverM) :
    engine.commitSnapshot.distManeuverM = engine.current.dist := by
  have tracked : engine.commitProgress.distanceM = engine.current.dist := rfl
  unfold commitSnapshot applyTrackedDistance at positive ⊢
  rw [tracked] at positive ⊢
  split_ifs at positive ⊢ with isPositive
  · rfl
  · have own : 0 < engine.raw.distManeuverM := positive
    have primary : engine.current.dist = engine.raw.distManeuverM := by
      unfold current rawHead AmapFields.primaryDistance
      exact if_pos (by omega)
    exact primary.symm

theorem Commits.has {before after : AmapV38Compat} (commits : Commits before after)
    {distance : Int} (has : Has after distance) (positive : 0 < distance) :
    before.current.dist = distance := by
  rcases has with tracked | ⟨committed, isCommitted, rfl⟩
  · rw [commits.progress] at tracked
    exact tracked
  · have same := Option.some.inj (commits.committed.symm.trans isCommitted)
    subst same
    exact (commitSnapshot_distance positive).symm

theorem fed_distanceM (engine : AmapV38Compat) (head ver : Int) :
    (engine.fed head ver).distanceM = engine.progress.distanceM ∨
      (engine.fed head ver).distanceM = engine.current.dist := by
  unfold fed
  by_cases nothing : engine.current.dist ≤ 0
  · rw [if_pos nothing]
    exact .inl rfl
  · rw [if_neg nothing]
    exact AmapProgressTracker.update_distanceM _ _ _ _ _ _

/-- A distance after an answer was there before, or is that of the raw head. -/
theorem has_answer {distance : Int} (has : Has (engine.answer call).2 distance)
    (positive : 0 < distance) :
    (engine.branch call ≠ .commit ∧ Has engine distance) ∨
      (engine.branch call ∈ [V38Branch.commit, .accept, .prompt, .hold] ∧
        engine.current.dist = distance) := by
  have way := engine.answer_case call
  generalize engine.answer call = result at way has
  generalize engine.branch call = branch at way
  cases way with
  | passed after same =>
      rcases same with rfl | rfl
      · exact .inl ⟨by decide, has⟩
      · exact .inl ⟨by decide, has⟩
  | hidden | soft => exact .inl ⟨by decide, has⟩
  | active enabled awake way =>
      cases way with
      | empty => exact .inl ⟨by decide, has⟩
      | first _ _ commits | again _ _ _ _ _ commits =>
          exact .inr ⟨by decide, commits.has has positive⟩
      | prompt _ _ _ _ holds | hold _ _ _ _ _ holds =>
          rcases has with tracked | committed
          · rw [holds.progress] at tracked
            rcases engine.awake.fed_distanceM _ _ with kept | taken
            · exact .inl ⟨by decide, .inl (kept.symm.trans tracked)⟩
            · exact .inr ⟨by decide, taken.symm.trans tracked⟩
          · rw [holds.committed] at committed
            exact .inl ⟨by decide, .inr committed⟩
      | accept before _ was _ _ accepts =>
          rcases has with tracked | ⟨committed, isCommitted, distanceEq⟩
          · rw [accepts.progress] at tracked
            rcases engine.awake.fed_distanceM _ _ with kept | taken
            · exact .inl ⟨by decide, .inl (kept.symm.trans tracked)⟩
            · exact .inr ⟨by decide, taken.symm.trans tracked⟩
          · have moved := Option.some.inj (accepts.committed.symm.trans isCommitted)
            subst moved
            exact .inl ⟨by decide, .inr ⟨before, was, distanceEq⟩⟩

theorem has_shown {branch : V38Branch} {shown : AmapSnapshot}
    (shows : engine.shown call branch = some shown) : Has engine shown.distManeuverM := by
  obtain ⟨committed, isCommitted⟩ := committed_of_shown shows
  have tracked : ∀ snapshot : AmapSnapshot, snapshot.distManeuverM = committed.distManeuverM →
      Has engine (applyTrackedDistance engine.progress snapshot).distManeuverM := by
    intro snapshot same
    unfold applyTrackedDistance
    split_ifs
    · exact .inl rfl
    · exact .inr ⟨committed, isCommitted, same.symm⟩
  unfold AmapV38Compat.shown at shows
  rw [isCommitted] at shows
  cases branch with
  | original | hidden => cases shows
  | soft | commit =>
      cases shows
      exact .inr ⟨_, isCommitted, rfl⟩
  | prompt | hold =>
      cases shows
      exact tracked _ rfl
  | accept =>
      cases shows
      refine tracked _ ?_
      unfold copyNonVisualPrimary
      split
      · rfl
      · rfl

/-- Before its answer, an engine has the distances that it had when the frame was
observed, unless it seeds itself with the raw head. -/
theorem has_ready {enables : Bool} {distance : Int} (has : Has (engine.ready enables) distance)
    (positive : 0 < distance) :
    (¬ (enables = true ∧ engine.current.valid = true) ∧ Has engine distance) ∨
      (enables = true ∧ engine.current.valid = true ∧ engine.current.dist = distance) := by
  cases enables with
  | false => exact .inl ⟨by simp, has⟩
  | true =>
      cases valid : engine.current.valid with
      | false =>
          rw [ready_keeps valid] at has
          exact .inl ⟨by simp, has⟩
      | true => exact .inr ⟨rfl, rfl, (ready_seeds valid).has has positive⟩

theorem atCommitted_ready (valid : engine.current.valid = true) :
    AtCommitted (engine.ready true) :=
  (ready_seeds valid).atCommitted

end AmapV38Compat

/-- The distance came in a frame at or after the last commit, and the raw head
was the committed maneuver then. -/
def Brought (distance : Int) (events : List V38Event) : Prop :=
  Since (fun later => later.commits = true)
    (fun event => event.carried = some distance ∧ event.engine.AtCommitted) events

def ShowsOwnDistance (past : List V38Event) (event : V38Event) : Prop :=
  ∀ shown, event.shown = some shown → 0 < shown.distManeuverM →
    Brought shown.distManeuverM (past ++ [event])

/-- A frame whose positive distance is used brings it itself, unless it is
tracked already, and a frame that is held back is one of the committed
maneuver. -/
structure BringsDistance (enables : Bool) (carried : Option Int) (call : V38Call)
    (observed : AmapV38Compat) : Prop where
  seed : 0 < observed.current.dist → enables = true → observed.current.valid = true →
    carried = some observed.current.dist
  commit : 0 < observed.current.dist → (observed.ready enables).branch call = .commit →
    carried = some observed.current.dist
  feed : 0 < observed.current.dist →
    (observed.ready enables).branch call ∈ [V38Branch.accept, .prompt, .hold] →
      (observed.ready enables).progress.distanceM = observed.current.dist ∨
        carried = some observed.current.dist
  hold : 0 < observed.current.dist → (observed.ready enables).branch call = .hold →
    (observed.ready enables).progress.distanceM = observed.current.dist ∨
      ∀ committed ∈ (observed.ready enables).committed,
        (observed.ready enables).sameAsCommitted observed.current committed = true

structure OwnsDistances (engine : AmapV38Compat) (events : List V38Event) : Prop where
  shows : Always ShowsOwnDistance events
  has : ∀ distance, 0 < distance → engine.Has distance → Brought distance events

theorem brought_answer {enables : Bool} {carried : Option Int} {call : V38Call}
    {observed : AmapV38Compat} {events : List V38Event} (before : OwnsDistances observed events)
    (brings : BringsDistance enables carried call observed) {distance : Int}
    (positive : 0 < distance)
    (has : (v38Event enables carried call observed).engine.Has distance) :
    Brought distance (events ++ [v38Event enables carried call observed]) := by
  have current := observed.ready_current enables
  -- the distance that the engine had before its answer
  have earlier : (observed.ready enables).branch call ≠ .commit →
      (observed.ready enables).Has distance →
        Brought distance (events ++ [v38Event enables carried call observed]) := by
    intro noCommit hadIt
    rcases AmapV38Compat.has_ready hadIt positive with ⟨noSeed, hadBefore⟩ | ⟨rfl, valid, rfl⟩
    · refine (before.has distance positive hadBefore).snoc ?_
      intro commits
      rcases Bool.or_eq_true_iff.mp commits with seeds | isCommit
      · exact noSeed (Bool.and_eq_true_iff.mp seeds)
      · exact noCommit (of_decide_eq_true isCommit)
    · refine since_now events ⟨brings.seed positive rfl valid, ?_⟩
      exact AmapV38Compat.atCommitted_answer (.inl (AmapV38Compat.atCommitted_ready valid))
  rcases AmapV38Compat.has_answer has positive with ⟨noCommit, hadIt⟩ | ⟨feeds, isDist⟩
  · exact earlier noCommit hadIt
  rw [current] at isDist
  subst isDist
  have tracked : (observed.ready enables).branch call ≠ .commit →
      (observed.ready enables).progress.distanceM = observed.current.dist →
        Brought observed.current.dist (events ++ [v38Event enables carried call observed]) :=
    fun noCommit same => earlier noCommit (.inl same)
  have now : carried = some observed.current.dist →
      (v38Event enables carried call observed).engine.AtCommitted →
        Brought observed.current.dist (events ++ [v38Event enables carried call observed]) :=
    fun isCarried there => since_now events ⟨isCarried, there⟩
  have feed := brings.feed positive
  have hold := brings.hold positive
  cases branchEq : (observed.ready enables).branch call with
  | original | hidden | soft => simp [branchEq] at feeds
  | commit =>
      exact now (brings.commit positive branchEq)
        (AmapV38Compat.atCommitted_answer (.inr (.inl branchEq)))
  | accept =>
      rcases feed (by simp [branchEq]) with same | isCarried
      · exact tracked (by simp [branchEq]) same
      · exact now isCarried (AmapV38Compat.atCommitted_answer (.inr (.inr (.inl branchEq))))
  | prompt =>
      rcases feed (by simp [branchEq]) with same | isCarried
      · exact tracked (by simp [branchEq]) same
      · exact now isCarried (AmapV38Compat.atCommitted_answer (.inr (.inr (.inr branchEq))))
  | hold =>
      rcases feed (by simp [branchEq]) with same | isCarried
      · exact tracked (by simp [branchEq]) same
      rcases hold branchEq with same | isSame
      · exact tracked (by simp [branchEq]) same
      · obtain ⟨committed, isCommitted⟩ := AmapV38Compat.committed_of_hold branchEq
        have there : (observed.ready enables).AtCommitted :=
          ⟨committed, isCommitted, current ▸ isSame committed isCommitted⟩
        exact now isCarried (AmapV38Compat.atCommitted_answer (.inl there))

/-- If every frame whose positive distance is used brings it, and none is held
back that is not of the committed maneuver, every positive distance shown came
with the committed maneuver. -/
theorem shows_own_distance {engine : AmapV38Compat} {events : List V38Event}
    (run : amapV38Compat.RunWithin (Answering BringsDistance) engine events) :
    Always ShowsOwnDistance events := by
  have nothing : ∀ engine : AmapV38Compat, engine.committed = none → engine.progress = .reset →
      ∀ distance, 0 < distance → ¬ engine.Has distance := by
    rintro engine noCommitted isReset distance positive (tracked | ⟨committed, isCommitted, _⟩)
    · rw [isReset] at tracked
      have negative : (-1 : Int) = distance := tracked
      omega
    · rw [noCommitted] at isCommitted
      cases isCommitted
  refine (AmapV38Compat.invariant_of_answers OwnsDistances ?_ ?_ ?_ ?_ ?_ run).shows
  · exact ⟨always_nil _, fun distance positive has => absurd has (nothing _ rfl rfl _ positive)⟩
  · intro engine after events same before
    refine ⟨before.shows, fun distance positive has => before.has distance positive ?_⟩
    unfold AmapV38Compat.Has at has
    rwa [same.progress, same.committed] at has
  · intro engine events before
    refine ⟨before.shows, fun distance positive has => before.has distance positive (.inr ?_)⟩
    rcases has with tracked | committed
    · have negative : (-1 : Int) = distance := tracked
      omega
    · exact committed
  · intro engine events before
    exact ⟨before.shows, fun distance positive has =>
      absurd has (nothing _ rfl rfl _ positive)⟩
  · intro enables carried call observed events before brings
    refine ⟨before.shows.snoc fun shown shows positive => ?_, fun distance positive has =>
      brought_answer before brings positive has⟩
    exact brought_answer before brings positive (AmapV38Compat.has_shown shows)

instance (enables : Bool) (carried : Option Int) (call : V38Call) (observed : AmapV38Compat) :
    Decidable (BringsDistance enables carried call observed) :=
  decidable_of_iff
    ((0 < observed.current.dist → enables = true → observed.current.valid = true →
        carried = some observed.current.dist) ∧
      (0 < observed.current.dist → (observed.ready enables).branch call = .commit →
        carried = some observed.current.dist) ∧
      (0 < observed.current.dist →
        (observed.ready enables).branch call ∈ [V38Branch.accept, .prompt, .hold] →
          (observed.ready enables).progress.distanceM = observed.current.dist ∨
            carried = some observed.current.dist) ∧
      (0 < observed.current.dist → (observed.ready enables).branch call = .hold →
        (observed.ready enables).progress.distanceM = observed.current.dist ∨
          ∀ committed ∈ (observed.ready enables).committed,
            (observed.ready enables).sameAsCommitted observed.current committed = true))
    ⟨fun conditions =>
      ⟨conditions.1, conditions.2.1, conditions.2.2.1, conditions.2.2.2⟩,
      fun brings => ⟨brings.seed, brings.commit, brings.feed, brings.hold⟩⟩

/-- The left turn comes closer, and is then held without a distance. -/
def closerLabels : List V38Label :=
  [answered .confirm leftTurn, answered .process [(.route .distManeuverM, "400")],
    answered .process [(.route .etaSeconds, "60")]]

theorem closerLabels_own_distance :
    (performAll v38Step closerLabels .reset).2.map V38Event.branch = [.accept, .accept, .hold] ∧
      Always ShowsOwnDistance (performAll v38Step closerLabels .reset).2 := by
  have allowed : AllowedAll v38Step (Answering BringsDistance) closerLabels .reset [] := by
    decide +kernel
  exact ⟨by decide +kernel, shows_own_distance (runWithin_performAll_start allowed)⟩

/-- Another maneuver comes with its distance, and is held back. -/
def heldBackLabels : List V38Label :=
  [answered .confirm leftTurn,
    answered .process [(.route .maneuverList, "1"), (.maneuver 1 .type, "10"),
      (.maneuver 1 .ver, "1"), (.route .distManeuverM, "100")]]

theorem heldBackLabels_events : ∃ first second,
    (performAll v38Step heldBackLabels .reset).2 = [first] ++ second :: [] ∧
      first.carried = some 500 ∧ second.shown.map (fun shown => shown.distManeuverM) = some 100 ∧
        second.engine.committed.map
          (second.engine.sameAsCommitted second.engine.current) = some false := by
  have told : (performAll v38Step heldBackLabels .reset).2.map (fun event =>
      (event.carried, event.shown.map (fun shown => shown.distManeuverM),
        event.engine.committed.map (event.engine.sameAsCommitted event.engine.current))) =
      [(some 500, some 500, some true), (some 100, some 100, some false)] := by
    decide +kernel
  obtain ⟨first, rest, split, firstTold, restTold⟩ := List.map_eq_cons_iff.mp told
  obtain ⟨second, none, rfl, secondTold, noneTold⟩ := List.map_eq_cons_iff.mp restTold
  obtain rfl := List.map_eq_nil_iff.mp noneTold
  simp only [Prod.mk.injEq] at firstTold secondTold
  exact ⟨first, second, split, firstTold.1, secondTold.2.1, secondTold.2.2⟩

theorem held_back_distance_shown :
    ¬ ∀ engine events, amapV38Compat.Run engine events → Always ShowsOwnDistance events := by
  intro shows
  have always := shows _ _ (run_performAll .reset v38Step heldBackLabels)
  obtain ⟨first, second, split, carried, shown, other⟩ := heldBackLabels_events
  rw [split] at always
  obtain ⟨snapshot, isShown, distance⟩ := Option.map_eq_some_iff.mp shown
  have brought := always [first] second [] rfl snapshot isShown (by omega)
  rw [distance] at brought
  rcases since_snoc_iff.mp brought with ⟨-, committed, isCommitted, same⟩ | ⟨-, since⟩
  · rw [isCommitted, Option.map_some, same] at other
    cases other
  · change Since _ _ ([] ++ [first]) at since
    rcases since_snoc_iff.mp since with ⟨isCarried, -⟩ | ⟨-, since⟩
    · rw [carried] at isCarried
      cases isCarried
    · obtain ⟨before, mark, later, nothing, -⟩ := since
      simp at nothing

end CarplayRgi
