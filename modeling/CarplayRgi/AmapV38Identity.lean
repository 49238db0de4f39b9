import CarplayRgi.AmapV38Progress

/-!
# Whether the raw head is the committed maneuver

Four components answer this question.  With a generation and a head, the
stabilizer, the lock and the tracker compare only these, and not the version
of the slot.  While the engine is enabled, the stabilizer and the lock are at
the committed head, and the stabilizer keeps the committed display.
-/

namespace CarplayRgi

open RouteGuidance

namespace AmapIdentity

/-- The identity has been seen at the head of a generation. -/
structure IsAt (identity : AmapIdentity) (generation head : Int) : Prop where
  generation : identity.generation = generation
  rawHead : identity.rawHead = head

variable {own other : AmapIdentity} {generation head : Int}

/-- With generations and heads, these decide. -/
theorem IsAt.samePhysical_iff (isAt : own.IsAt generation head) (known : 0 ≤ generation ∧ 0 ≤ head)
    (otherKnown : 0 ≤ other.generation ∧ 0 ≤ other.rawHead) :
    own.samePhysical other = true ↔ other.IsAt generation head := by
  obtain ⟨rfl, rfl⟩ := isAt
  have context : own.hasContext other = true :=
    decide_eq_true ⟨known.1, known.2, otherKnown.1, otherKnown.2⟩
  unfold samePhysical
  rw [if_pos context]
  unfold sameContext
  rw [decide_eq_true_eq]
  exact ⟨fun same => ⟨same.1.symm, same.2.symm⟩, fun isAt => ⟨isAt.1.symm, isAt.2.symm⟩⟩

end AmapIdentity

namespace AmapDisplayStabilizer

variable {visual : List Char} {identity : AmapIdentity} {dist : Int}
  {stabilizer : AmapDisplayStabilizer}

theorem evaluateCandidate_ne_accept (visual : List Char) (identity : AmapIdentity) (dist : Int)
    (stabilizer : AmapDisplayStabilizer) :
    (stabilizer.evaluateCandidate visual identity dist).1 ≠ .acceptSameVisual := by
  unfold evaluateCandidate
  dsimp only
  split_ifs <;> simp

/-- An accepted display is the committed one, and it leaves the stabilizer at the
node of the frame. -/
theorem evaluate_accept {headAligned distanceFresh : Bool}
    (accepts : (stabilizer.evaluate true visual identity dist headAligned distanceFresh).1 =
      .acceptSameVisual) :
    ∃ after, (stabilizer.evaluate true visual identity dist headAligned distanceFresh).2 = after ∧
      after.committed = stabilizer.committed ∧ after.visual = stabilizer.visual ∧
        (after.identity = identity ∨
          stabilizer.identity.samePhysical identity = true ∧
            after.identity = stabilizer.identity) := by
  refine ⟨_, rfl, ?_⟩
  unfold evaluate at accepts ⊢
  dsimp only at accepts ⊢
  split_ifs at accepts ⊢ with _ _ _ _ same other
  · simp only [Bool.and_eq_true] at same
    have keeps := evaluateSame_sameCommit dist stabilizer
    exact ⟨keeps.1, keeps.2.1, .inr ⟨same.2, keeps.2.2⟩⟩
  · exact ⟨rfl, rfl, .inl rfl⟩
  · exact ⟨rfl, rfl, .inl rfl⟩
  · exact absurd accepts (evaluateCandidate_ne_accept visual identity dist stabilizer)

end AmapDisplayStabilizer

namespace AmapProgressTracker

variable {distance : Int} {tracker : AmapProgressTracker}

theorem keepDenominator_identity (denominator : Int) (tracker : AmapProgressTracker) :
    (tracker.keepDenominator denominator).identity = tracker.identity := by
  unfold keepDenominator
  split_ifs
  · rfl
  · rfl

theorem laterSample_identity (distance nodeDistance denominator : Int) (identity : AmapIdentity)
    (tracker : AmapProgressTracker) :
    (tracker.laterSample distance nodeDistance denominator identity).identity = identity ∨
      (tracker.laterSample distance nodeDistance denominator identity).identity =
        tracker.identity := by
  unfold laterSample
  split_ifs
  · exact .inr (keepDenominator_identity _ _)
  · exact .inr (keepDenominator_identity _ _)
  · exact .inl (keepDenominator_identity _ _)
  · exact .inr rfl

/-- A tracker that is fed is at the node of the distance, or was there. -/
theorem update_identity (nodeDistance denominator : Int) (identity : AmapIdentity)
    (allowCorrection : Bool) (positive : 0 < distance) :
    (tracker.update distance nodeDistance denominator identity allowCorrection).identity =
        identity ∨
      tracker.identity.samePhysical identity = true ∧
        (tracker.update distance nodeDistance denominator identity allowCorrection).identity =
          tracker.identity := by
  unfold update
  rw [if_neg (Int.not_le.mpr positive)]
  by_cases other : (!tracker.identity.samePhysical identity) = true
  · rw [if_pos other]
    exact .inl rfl
  have same : tracker.identity.samePhysical identity = true := by simpa using other
  rw [if_neg other]
  by_cases nothing : tracker.distanceM ≤ 0
  · rw [if_pos nothing]
    exact .inr ⟨same, rfl⟩
  rw [if_neg nothing]
  rcases tracker.laterSample_identity distance nodeDistance denominator identity with taken | kept
  · exact .inl taken
  · exact .inr ⟨same, kept⟩

end AmapProgressTracker

namespace AmapFormalLock

theorem updatePhysicalIdentity_eq {lock : AmapFormalLock} (identity : AmapIdentity)
    (locked : lock.locked = true) :
    lock.updatePhysicalIdentity identity = { lock with identity := identity } :=
  if_pos locked

end AmapFormalLock

namespace AmapV38Compat

variable {engine : AmapV38Compat} {call : V38Call}

theorem identity_isAt (engine : AmapV38Compat) (head ver : Int) :
    (engine.identity head ver).IsAt engine.routeGeneration head :=
  ⟨rfl, rfl⟩

/-- With generations and heads, the committed maneuver is at the raw head. -/
theorem at_of_same {committed : AmapSnapshot}
    (same : engine.sameAsCommitted engine.current committed = true)
    (generation : 0 ≤ engine.routeGeneration) (known : 0 ≤ committed.physicalGeneration) :
    engine.routeGeneration = committed.physicalGeneration ∧
      engine.current.head = committed.physicalHead := by
  simp only [sameAsCommitted, Bool.and_eq_true, Bool.not_eq_true', decide_eq_true_eq,
    decide_eq_false_iff_not, not_and, Decidable.not_not] at same
  exact ⟨same.1 generation known, same.2.2.1⟩

/-- The stabilizer keeps the display of the snapshot, and it and the lock are at
its head. -/
structure LockedAt (committed : AmapSnapshot) (engine : AmapV38Compat) : Prop where
  known : 0 ≤ committed.physicalGeneration ∧ 0 ≤ committed.physicalHead
  seeded : engine.stabilizer.committed = true
  visual : engine.stabilizer.visual = committed.visualKey
  stabilizer : engine.stabilizer.identity.IsAt committed.physicalGeneration committed.physicalHead
  locked : engine.formalLock.locked = true
  formalLock : engine.formalLock.identity.IsAt committed.physicalGeneration committed.physicalHead

def Locked (engine : AmapV38Compat) : Prop :=
  ∀ committed ∈ engine.committed, LockedAt committed engine

theorem LockedAt.of_sameMemory {before after : AmapV38Compat} {committed : AmapSnapshot}
    (lockedAt : LockedAt committed before) (same : SameMemory before after) :
    LockedAt committed after := by
  obtain ⟨known, seeded, visual, stabilizer, locked, formalLock⟩ := lockedAt
  rw [← same.stabilizer] at seeded visual stabilizer
  rw [← same.formalLock] at locked formalLock
  exact ⟨known, seeded, visual, stabilizer, locked, formalLock⟩

theorem Commits.locked {before after : AmapV38Compat} (commits : Commits before after)
    (generation : 0 ≤ before.routeGeneration) : after.Locked := by
  intro committed isCommitted
  obtain rfl := Option.some.inj (commits.committed.symm.trans isCommitted)
  obtain ⟨head, -, generationEq⟩ := before.commitSnapshot_identity
  have visual : before.commitSnapshot.visualKey = before.current.visual := by
    unfold commitSnapshot applyTrackedDistance
    split_ifs
    · rfl
    · rfl
  have seeded := commits.stabilizer
  unfold AmapDisplayStabilizer.seed at seeded
  rw [if_neg (before.current_visual_ne_nil commits.valid)] at seeded
  refine ⟨?_, ?_, ?_, ?_, ?_, ?_⟩
  · rw [head, generationEq]
    exact ⟨generation, (head_nonneg commits.valid).1⟩
  · rw [seeded]
  · rw [seeded, visual]
  · rw [seeded, head, generationEq]
    exact before.identity_isAt before.current.head before.current.ver
  · rw [commits.formalLock]
    rfl
  · rw [commits.formalLock, head, generationEq]
    exact before.identity_isAt before.current.head before.current.ver

theorem Holds.lockedAt {before after : AmapV38Compat} {head ver : Int}
    (holds : Holds head ver before after) {committed : AmapSnapshot}
    (lockedAt : LockedAt committed before) : LockedAt committed after := by
  obtain ⟨known, seeded, visual, stabilizer, locked, formalLock⟩ := lockedAt
  refine ⟨known, holds.stabilizer.1.trans seeded, holds.stabilizer.2.1.trans visual, ?_,
    holds.locked.trans locked, ?_⟩
  · rw [holds.stabilizer.2.2]
    exact stabilizer
  · rw [holds.lockIdentity]
    exact formalLock

/-- What takes the raw head for its own is at it already. -/
theorem isAt_current {identity : AmapIdentity} {committed : AmapSnapshot}
    (isAt : identity.IsAt committed.physicalGeneration committed.physicalHead)
    (known : 0 ≤ committed.physicalGeneration ∧ 0 ≤ committed.physicalHead)
    (generation : 0 ≤ engine.routeGeneration) (valid : engine.current.valid = true)
    (same : identity.samePhysical
      (engine.identity engine.current.head engine.current.ver) = true) :
    identity.IsAt engine.routeGeneration engine.current.head := by
  have moved := (isAt.samePhysical_iff known ⟨generation, (head_nonneg valid).1⟩).mp same
  exact ⟨isAt.1.trans moved.1.symm, isAt.2.trans moved.2.symm⟩

theorem Accepts.lockedAt {before after : AmapV38Compat} {committed : AmapSnapshot}
    (accepts : Accepts committed before after) (lockedAt : LockedAt committed before)
    (verdict : before.verdict.1 = .acceptSameVisual) (valid : before.current.valid = true)
    (generation : 0 ≤ before.routeGeneration) :
    LockedAt (before.movedTo before.current committed) after := by
  obtain ⟨stabilizer, stabilizerEq, seeded, visual, identity⟩ :=
    AmapDisplayStabilizer.evaluate_accept verdict
  have lock := accepts.formalLock.trans
    (AmapFormalLock.updatePhysicalIdentity_eq _ lockedAt.locked)
  have stabilizerEq : after.stabilizer = stabilizer := accepts.stabilizer.trans stabilizerEq
  have atHead := before.identity_isAt before.current.head before.current.ver
  refine ⟨⟨generation, (head_nonneg valid).1⟩, ?_, ?_, ?_, ?_, ?_⟩
  · rw [stabilizerEq, seeded]
    exact lockedAt.seeded
  · rw [stabilizerEq, visual]
    exact lockedAt.visual
  · rw [stabilizerEq]
    rcases identity with taken | ⟨same, kept⟩
    · rw [taken]
      exact atHead
    · rw [kept]
      exact isAt_current lockedAt.stabilizer lockedAt.known generation valid same
  · rw [lock]
    exact lockedAt.locked
  · rw [lock]
    exact atHead

theorem locked_answer (locked : engine.Locked) (generation : 0 ≤ engine.routeGeneration) :
    (engine.answer call).2.Locked := by
  have awakened : engine.awake.Locked := fun committed isCommitted =>
    (locked committed isCommitted).of_sameMemory engine.awake_sameMemory
  have way := engine.answer_case call
  generalize engine.answer call = result at way
  generalize engine.branch call = branch at way
  cases way with
  | passed after same =>
      rcases same with rfl | rfl
      · exact locked
      · exact awakened
  | hidden | soft =>
      exact fun committed isCommitted =>
        (locked committed isCommitted).of_sameMemory ⟨rfl, rfl, rfl, rfl, rfl⟩
  | active enabled awake way =>
      cases way with
      | empty => exact awakened
      | first _ _ commits | again _ _ _ _ _ commits => exact commits.locked generation
      | prompt _ _ _ _ holds | hold _ _ _ _ _ holds =>
          exact fun committed isCommitted =>
            holds.lockedAt (awakened committed (holds.committed.symm.trans isCommitted))
      | accept committed _ isCommitted verdict valid accepts =>
          intro own isOwn
          obtain rfl := Option.some.inj (accepts.committed.symm.trans isOwn)
          exact accepts.lockedAt (awakened committed isCommitted) verdict valid generation

/-- The tracker is at the committed head. -/
def TracksHead (engine : AmapV38Compat) : Prop :=
  ∀ committed ∈ engine.committed,
    engine.progress.identity.IsAt committed.physicalGeneration committed.physicalHead

/-- A tracker that is fed at its own head stays there. -/
theorem fed_isAt {generation head ver : Int} (isAt : engine.progress.identity.IsAt generation head)
    (same : 0 < engine.current.dist → engine.routeGeneration = generation) :
    (engine.fed head ver).identity.IsAt generation head := by
  unfold fed
  by_cases nothing : engine.current.dist ≤ 0
  · rw [if_pos nothing]
    exact isAt
  · rw [if_neg nothing]
    have positive := Int.not_le.mp nothing
    rcases AmapProgressTracker.update_identity _ _ (engine.identity head ver) false positive with
      taken | ⟨-, kept⟩
    · rw [taken, ← same positive]
      exact engine.identity_isAt head ver
    · rw [kept]
      exact isAt

theorem Commits.tracksHead {before after : AmapV38Compat} (commits : Commits before after) :
    after.TracksHead := by
  intro committed isCommitted
  obtain rfl := Option.some.inj (commits.committed.symm.trans isCommitted)
  obtain ⟨head, -, generation⟩ := before.commitSnapshot_identity
  rw [head, generation, commits.progress]
  exact before.identity_isAt before.current.head before.current.ver

theorem Accepts.tracked {before after : AmapV38Compat} {committed : AmapSnapshot}
    (accepts : Accepts committed before after)
    (known : 0 ≤ committed.physicalGeneration ∧ 0 ≤ committed.physicalHead)
    (tracked : before.progress.identity.IsAt committed.physicalGeneration committed.physicalHead)
    (valid : before.current.valid = true) (generation : 0 ≤ before.routeGeneration)
    (takes : 0 < before.current.dist ∨ before.routeGeneration = committed.physicalGeneration ∧
      before.current.head = committed.physicalHead) :
    after.progress.identity.IsAt before.routeGeneration before.current.head := by
  rw [accepts.progress]
  unfold fed
  by_cases nothing : before.current.dist ≤ 0
  · rw [if_pos nothing]
    obtain ⟨sameGeneration, sameHead⟩ := takes.resolve_left (Int.not_lt.mpr nothing)
    exact ⟨tracked.1.trans sameGeneration.symm, tracked.2.trans sameHead.symm⟩
  · rw [if_neg nothing]
    rcases AmapProgressTracker.update_identity _ _
      (before.identity before.current.head before.current.ver) false (Int.not_le.mp nothing) with
        taken | ⟨same, kept⟩
    · rw [taken]
      exact before.identity_isAt before.current.head before.current.ver
    · rw [kept]
      exact isAt_current tracked known generation valid same

/-- The frame does not take the committed maneuver, or the tracked one, elsewhere
alone. -/
structure FedAtHead (engine : AmapV38Compat) (call : V38Call) : Prop where
  accept : engine.branch call = .accept → 0 < engine.current.dist ∨
    ∀ committed ∈ engine.committed, engine.routeGeneration = committed.physicalGeneration ∧
      engine.current.head = committed.physicalHead
  hold : engine.branch call = .hold → 0 < engine.current.dist →
    ∀ committed ∈ engine.committed, engine.routeGeneration = committed.physicalGeneration

theorem tracksHead_answer (tracks : engine.TracksHead) (locked : engine.Locked)
    (generation : 0 ≤ engine.routeGeneration) (fedAtHead : engine.FedAtHead call) :
    (engine.answer call).2.TracksHead := by
  obtain ⟨accept, hold⟩ := fedAtHead
  have way := engine.answer_case call
  generalize engine.answer call = result at way
  generalize engine.branch call = branch at way accept hold
  cases way with
  | passed after same =>
      rcases same with rfl | rfl
      · exact tracks
      · exact tracks
  | hidden | soft => exact tracks
  | active enabled awake way =>
      cases way with
      | empty => exact tracks
      | first _ _ commits | again _ _ _ _ _ commits => exact commits.tracksHead
      | prompt committed _ isCommitted late holds =>
          intro own isOwn
          obtain rfl := Option.some.inj (isCommitted.symm.trans (holds.committed.symm.trans isOwn))
          have isAt := at_of_same (sameAsCommitted_of_late late) generation
            (locked committed isCommitted).known.1
          rw [isAt.2] at holds
          rw [holds.progress]
          exact fed_isAt (tracks committed isCommitted) fun _ => isAt.1
      | hold committed _ isCommitted _ _ holds =>
          intro own isOwn
          obtain rfl := Option.some.inj (isCommitted.symm.trans (holds.committed.symm.trans isOwn))
          rw [holds.progress]
          exact fed_isAt (tracks committed isCommitted) fun positive =>
            hold rfl positive committed isCommitted
      | accept committed _ isCommitted _ valid accepts =>
          intro own isOwn
          obtain rfl := Option.some.inj (accepts.committed.symm.trans isOwn)
          exact accepts.tracked (locked committed isCommitted).known
            (tracks committed isCommitted) valid generation
            ((accept rfl).imp id fun isAt => isAt committed isCommitted)

/-- The four components agree on whether the raw head is the committed maneuver. -/
structure TestsAgree (engine : AmapV38Compat) (committed : AmapSnapshot) : Prop where
  stabilizer : engine.stabilizer.identity.samePhysical
      (engine.identity engine.current.head engine.current.ver) =
    engine.sameAsCommitted engine.current committed
  formalLock : engine.formalLock.identity.samePhysical
      (engine.identity engine.current.head engine.current.ver) =
    engine.sameAsCommitted engine.current committed
  progress : engine.progress.identity.samePhysical
      (engine.identity engine.current.head engine.current.ver) =
    engine.sameAsCommitted engine.current committed

/-- The slot of the committed maneuver still has its version. -/
def KeepsVersion (engine : AmapV38Compat) (committed : AmapSnapshot) : Prop :=
  engine.routeGeneration = committed.physicalGeneration →
    engine.current.head = committed.physicalHead → engine.current.ver = committed.physicalVer

theorem testsAgree_iff {committed : AmapSnapshot} (lockedAt : LockedAt committed engine)
    (tracked : engine.progress.identity.IsAt committed.physicalGeneration committed.physicalHead)
    (generation : 0 ≤ engine.routeGeneration) (valid : engine.current.valid = true) :
    engine.TestsAgree committed ↔ engine.KeepsVersion committed := by
  have known := lockedAt.known
  have head := head_nonneg valid
  have same : ∀ {identity : AmapIdentity},
      identity.IsAt committed.physicalGeneration committed.physicalHead →
        (identity.samePhysical (engine.identity engine.current.head engine.current.ver) =
            engine.sameAsCommitted engine.current committed ↔ engine.KeepsVersion committed) := by
    intro identity isAt
    rw [Bool.eq_iff_iff, isAt.samePhysical_iff known ⟨generation, head.1⟩]
    constructor
    · intro agree sameGeneration sameHead
      have isSame := agree.mp ⟨sameGeneration, sameHead⟩
      simp only [sameAsCommitted, Bool.and_eq_true, decide_eq_true_eq] at isSame
      exact isSame.2.2.2.2
    · intro keeps
      constructor
      · intro isHere
        exact sameAsCommitted_of_identity valid isHere.2.symm (keeps isHere.1 isHere.2).symm
          isHere.1.symm
      · intro isSame
        obtain ⟨sameGeneration, sameHead⟩ := at_of_same isSame generation known.1
        exact ⟨sameGeneration, sameHead⟩
  constructor
  · exact fun agree => (same lockedAt.stabilizer).mp agree.stabilizer
  · exact fun keeps => ⟨(same lockedAt.stabilizer).mpr keeps, (same lockedAt.formalLock).mpr keeps,
      (same tracked).mpr keeps⟩

end AmapV38Compat

/-- The engine is enabled for a frame with a head, or with nothing committed, and
the route generation has not wrapped around. -/
structure SeedsKnown (enables : Bool) (carried : Option Int) (call : V38Call)
    (observed : AmapV38Compat) : Prop where
  seeds : SeedsFresh enables carried call observed
  generation : 0 ≤ observed.routeGeneration

/-- Nothing is fed or accepted away from the committed head alone. -/
structure KeepsIdentity (enables : Bool) (carried : Option Int) (call : V38Call)
    (observed : AmapV38Compat) : Prop where
  seedsKnown : SeedsKnown enables carried call observed
  fedAtHead : (observed.ready enables).FedAtHead call

theorem ready_routeGeneration (enables : Bool) (observed : AmapV38Compat) :
    (observed.ready enables).routeGeneration = observed.routeGeneration := by
  cases enables with
  | false => rfl
  | true =>
      cases valid : observed.current.valid with
      | false => rw [AmapV38Compat.ready_keeps valid]
      | true => exact (AmapV38Compat.ready_seeds valid).observed.routeGeneration

/-- The induction rule for what holds of an engine while it is enabled. -/
theorem enabled_invariant {allowed : Bool → Option Int → V38Call → AmapV38Compat → Prop}
    (holds : AmapV38Compat → Prop)
    (seeded : ∀ enables carried call observed, allowed enables carried call observed →
      SeedsKnown enables carried call observed)
    (remembers : ∀ before after, AmapV38Compat.SameMemory before after → holds before → holds after)
    (empty : ∀ engine, engine.committed = none → holds engine)
    (commits : ∀ before after, AmapV38Compat.Commits before after → 0 ≤ before.routeGeneration →
      holds after)
    (answers : ∀ enables carried call observed, allowed enables carried call observed →
      0 ≤ (observed.ready enables).routeGeneration → holds (observed.ready enables) →
        holds ((observed.ready enables).answer call).2)
    {engine : AmapV38Compat} {events : List V38Event}
    (run : amapV38Compat.RunWithin (Answering allowed) engine events) :
    engine.enabled = true → holds engine := by
  refine AmapV38Compat.invariant_of_answers (fun engine _ => engine.enabled = true → holds engine)
    nofun ?_ ?_ ?_ ?_ run
  · exact fun engine after events same before enabled =>
      remembers engine after same (before (same.enabled.symm.trans enabled))
  · exact fun engine events before => nofun
  · exact fun engine events before => nofun
  · intro enables carried call observed events before guard enabled
    obtain ⟨seeds, generation⟩ := seeded enables carried call observed guard
    refine answers enables carried call observed guard
      (ready_routeGeneration enables observed ▸ generation) ?_
    cases enables with
    | false => exact before (V38Event.enabled_eq.symm.trans enabled)
    | true =>
        cases valid : observed.current.valid with
        | true => exact commits _ _ (AmapV38Compat.ready_seeds valid) generation
        | false =>
            rw [AmapV38Compat.ready_keeps valid]
            exact empty _ ((seeds rfl).resolve_left (by simp [valid]))

theorem locked_of_answers {engine : AmapV38Compat} {events : List V38Event}
    (run : amapV38Compat.RunWithin (Answering SeedsKnown) engine events)
    (enabled : engine.enabled = true) : engine.Locked := by
  refine enabled_invariant AmapV38Compat.Locked (fun _ _ _ _ seedsKnown => seedsKnown) ?_ ?_ ?_ ?_
    run enabled
  · exact fun before after same locked committed isCommitted =>
      (locked committed (same.committed.symm.trans isCommitted)).of_sameMemory same
  · exact fun engine nothing committed isCommitted => absurd (nothing.symm.trans isCommitted) nofun
  · exact fun before after commits generation => commits.locked generation
  · exact fun enables carried call observed _ generation locked =>
      AmapV38Compat.locked_answer locked generation

theorem tracksHead_of_answers {engine : AmapV38Compat} {events : List V38Event}
    (run : amapV38Compat.RunWithin (Answering KeepsIdentity) engine events)
    (enabled : engine.enabled = true) : engine.Locked ∧ engine.TracksHead := by
  refine enabled_invariant (fun engine => engine.Locked ∧ engine.TracksHead)
    (fun _ _ _ _ keeps => keeps.seedsKnown) ?_ ?_ ?_ ?_ run enabled
  · intro before after same ⟨locked, tracks⟩
    refine ⟨fun committed isCommitted => ?_, fun committed isCommitted => ?_⟩
    · exact (locked committed (same.committed.symm.trans isCommitted)).of_sameMemory same
    · rw [same.progress]
      exact tracks committed (same.committed.symm.trans isCommitted)
  · intro engine nothing
    exact ⟨fun committed isCommitted => absurd (nothing.symm.trans isCommitted) nofun,
      fun committed isCommitted => absurd (nothing.symm.trans isCommitted) nofun⟩
  · exact fun before after commits generation => ⟨commits.locked generation, commits.tracksHead⟩
  · exact fun enables carried call observed keeps generation ⟨locked, tracks⟩ =>
      ⟨AmapV38Compat.locked_answer locked generation,
        AmapV38Compat.tracksHead_answer tracks locked generation keeps.fedAtHead⟩

/-- The tests agree on the next frame if and only if its head, should it be the
slot of the committed maneuver in the same generation, has the version of the
committed maneuver. -/
theorem tests_agree_iff {engine : AmapV38Compat} {events : List V38Event}
    (run : amapV38Compat.RunWithin (Answering KeepsIdentity) engine events) (data : BusData)
    (now : Int) {committed : AmapSnapshot} (enabled : engine.enabled = true)
    (isCommitted : engine.committed = some committed)
    (generation : 0 ≤ (engine.observe data now).routeGeneration)
    (valid : (engine.observe data now).current.valid = true) :
    (engine.observe data now).TestsAgree committed ↔
      (engine.observe data now).KeepsVersion committed := by
  have same := AmapV38Compat.observe_sameMemory data now engine
  obtain ⟨locked, tracks⟩ := tracksHead_of_answers run enabled
  have tracked := tracks committed isCommitted
  rw [← same.progress] at tracked
  exact AmapV38Compat.testsAgree_iff ((locked committed isCommitted).of_sameMemory same) tracked
    generation valid

instance (enables : Bool) (carried : Option Int) (call : V38Call) (observed : AmapV38Compat) :
    Decidable (SeedsKnown enables carried call observed) :=
  decidable_of_iff (SeedsFresh enables carried call observed ∧ 0 ≤ observed.routeGeneration)
    ⟨fun conditions => ⟨conditions.1, conditions.2⟩, fun known => ⟨known.seeds, known.generation⟩⟩

instance (engine : AmapV38Compat) (call : V38Call) : Decidable (engine.FedAtHead call) :=
  decidable_of_iff
    ((engine.branch call = .accept → 0 < engine.current.dist ∨
        ∀ committed ∈ engine.committed, engine.routeGeneration = committed.physicalGeneration ∧
          engine.current.head = committed.physicalHead) ∧
      (engine.branch call = .hold → 0 < engine.current.dist →
        ∀ committed ∈ engine.committed, engine.routeGeneration = committed.physicalGeneration))
    ⟨fun conditions => ⟨conditions.1, conditions.2⟩, fun fed => ⟨fed.accept, fed.hold⟩⟩

instance (enables : Bool) (carried : Option Int) (call : V38Call) (observed : AmapV38Compat) :
    Decidable (KeepsIdentity enables carried call observed) :=
  decidable_of_iff
    (SeedsKnown enables carried call observed ∧ (observed.ready enables).FedAtHead call)
    ⟨fun conditions => ⟨conditions.1, conditions.2⟩,
      fun keeps => ⟨keeps.seedsKnown, keeps.fedAtHead⟩⟩

/-- The left turn comes closer. -/
def closerFrame : BusData := frameOf [(.route .distManeuverM, "400")]

theorem closerFrame_tests_agree : ∃ committed,
    (performAll v38Step committedLabels .reset).1.committed = some committed ∧
      (((performAll v38Step committedLabels .reset).1.observe closerFrame 0).TestsAgree committed ↔
        ((performAll v38Step committedLabels .reset).1.observe closerFrame 0).KeepsVersion
          committed) := by
  have allowed : AllowedAll v38Step (Answering KeepsIdentity) committedLabels .reset [] := by
    decide +kernel
  have something : (performAll v38Step committedLabels .reset).1.committed.isSome = true := by
    decide +kernel
  obtain ⟨committed, isCommitted⟩ := Option.isSome_iff_exists.mp something
  refine ⟨committed, isCommitted, ?_⟩
  exact tests_agree_iff (runWithin_performAll_start allowed) closerFrame 0 (by decide +kernel)
    isCommitted (by decide +kernel) (by decide +kernel)

/-- The slot of the left turn has been assigned again. -/
def reassignedFrame : BusData := frameOf [(.maneuver 0 .ver, "2")]

def reassigned : AmapV38Compat :=
  (performAll v38Step committedLabels .reset).1.observe reassignedFrame 0

theorem reassigned_tests : reassigned.enabled = true ∧ reassigned.current.valid = true ∧
    reassigned.stabilizer.identity.samePhysical
      (reassigned.identity reassigned.current.head reassigned.current.ver) = true ∧
    reassigned.committed.map (reassigned.sameAsCommitted reassigned.current) = some false := by
  decide +kernel

theorem reassigned_slot_disagrees :
    ¬ ∀ engine events, amapV38Compat.Run engine events → ∀ data now committed,
      engine.enabled = true → engine.committed = some committed →
        (engine.observe data now).current.valid = true →
          (engine.observe data now).TestsAgree committed := by
  intro agree
  obtain ⟨enabled, valid, same, other⟩ := reassigned_tests
  obtain ⟨committed, isCommitted, isOther⟩ := Option.map_eq_some_iff.mp other
  have memory := AmapV38Compat.observe_sameMemory reassignedFrame 0
    (performAll v38Step committedLabels .reset).1
  have agrees := agree _ _ (run_performAll .reset v38Step committedLabels) reassignedFrame 0
    committed (memory.enabled.symm.trans enabled) (memory.committed.symm.trans isCommitted) valid
  exact Bool.false_ne_true (isOther.symm.trans (agrees.stabilizer.symm.trans same))

end CarplayRgi
