import CarplayRgi.AmapV38Identity

/-!
# The lock of a formal maneuver

While the raw head stays at a committed formal maneuver, a late prompt is held
by the lock.  A neutral straight is no prompt for the lock, so that it goes to
the stabilizer, which commits another display when it is seen again.
-/

namespace CarplayRgi

open RouteGuidance

namespace AmapDisplayStabilizer

variable {visual : List Char} {identity : AmapIdentity} {dist : Int}
  {stabilizer : AmapDisplayStabilizer}

/-- The display is seen again, and no further away. -/
def SeesAgain (visual : List Char) (identity : AmapIdentity) (dist : Int)
    (stabilizer : AmapDisplayStabilizer) : Prop :=
  sameCandidate stabilizer.candidate visual identity = true ∧
    jumpsBack stabilizer.candidate.distance dist = false

theorem evaluateCandidate_first (first : ¬ stabilizer.SeesAgain visual identity dist) :
    (stabilizer.evaluateCandidate visual identity dist).1 = .hold := by
  unfold evaluateCandidate
  dsimp only
  by_cases other : (!sameCandidate stabilizer.candidate visual identity) = true
  · rw [if_pos other]
  rw [if_neg other]
  by_cases back : jumpsBack stabilizer.candidate.distance dist = true
  · rw [if_pos back]
  · exact absurd ⟨by simpa using other, by simpa using back⟩ first

theorem evaluateSame_decision (dist : Int) (stabilizer : AmapDisplayStabilizer) :
    (stabilizer.evaluateSame dist).1 = .hold ∨
      (stabilizer.evaluateSame dist).1 = .acceptSameVisual := by
  unfold evaluateSame
  dsimp only
  split_ifs
  · exact .inl rfl
  · exact .inl rfl
  · exact .inr rfl

/-- The committed display is held or accepted, and so is another one that is not
seen again. -/
theorem evaluate_keeps {headAligned distanceFresh : Bool} (seeded : stabilizer.committed = true)
    (same : stabilizer.identity.samePhysical identity = true)
    (first : visual ≠ stabilizer.visual → headAligned = true → distanceFresh = true →
      ¬ stabilizer.SeesAgain visual identity dist) :
    (stabilizer.evaluate true visual identity dist headAligned distanceFresh).1 = .hold ∨
      (stabilizer.evaluate true visual identity dist headAligned distanceFresh).1 =
        .acceptSameVisual := by
  unfold evaluate
  dsimp only
  rw [if_neg (by simp), same, seeded]
  by_cases unsure : (!headAligned || !distanceFresh) = true
  · rw [if_pos unsure]
    exact .inl rfl
  rw [if_neg unsure]
  simp only [Bool.or_eq_true, Bool.not_eq_true', not_or, Bool.not_eq_false] at unsure
  by_cases nothing : visual = []
  · rw [if_pos nothing]
    exact .inl rfl
  rw [if_neg nothing, if_neg (by simp)]
  by_cases sameVisual : visual = stabilizer.visual
  · rw [if_pos (by simp [sameVisual])]
    exact evaluateSame_decision dist stabilizer
  · rw [if_neg (by simp [sameVisual]), if_neg (by simp)]
    exact .inl (evaluateCandidate_first (first sameVisual unsure.1 unsure.2))

end AmapDisplayStabilizer

namespace AmapFields

/-- The type of the first maneuver of the list. -/
def headType (fields : AmapFields) : Int := fields.value ManeuverFields.type fields.head (-1)

end AmapFields

namespace AmapV38Compat

variable {engine : AmapV38Compat} {call : V38Call} {committed : AmapSnapshot}

theorem applyTrackedDistance_headType (progress : AmapProgressTracker) (snapshot : AmapSnapshot) :
    (applyTrackedDistance progress snapshot).headType = snapshot.headType := by
  unfold applyTrackedDistance
  split_ifs
  · rfl
  · rfl

theorem copyNonVisualPrimary_headType (raw : AmapFields) (head : Int) (snapshot : AmapSnapshot) :
    (copyNonVisualPrimary raw head snapshot).headType = snapshot.headType := by
  unfold copyNonVisualPrimary
  split
  · rename_i slot out isSlot isOut
    have sameHead : ({ snapshot with
        maneuver := Function.update snapshot.maneuver out
          (copyNonVisual (raw.maneuver slot) (snapshot.maneuver out)) } : AmapSnapshot).head =
        snapshot.head := rfl
    unfold AmapFields.headType AmapFields.value
    rw [sameHead, isOut]
    simp [copyNonVisual]
  · rfl

/-- Whatever is shown has the type of what is committed. -/
theorem shown_headType {branch : V38Branch} {snapshot : AmapSnapshot}
    (shows : engine.shown call branch = some snapshot)
    (isCommitted : engine.committed = some committed) :
    snapshot.headType = committed.headType := by
  unfold AmapV38Compat.shown at shows
  rw [isCommitted] at shows
  cases branch with
  | original | hidden => cases shows
  | soft | commit =>
      cases shows
      rfl
  | prompt | hold =>
      cases shows
      exact applyTrackedDistance_headType _ _
  | accept =>
      cases shows
      exact (applyTrackedDistance_headType _ _).trans (copyNonVisualPrimary_headType _ _ _)

/-- A formal maneuver is committed. -/
structure IsFormal (committed : AmapSnapshot) (engine : AmapV38Compat) : Prop where
  enabled : engine.enabled = true
  isCommitted : engine.committed = some committed
  formal : isFormalType committed.rawType = true

/-- The raw head is the committed maneuver on a compatible road, but comes as a
prompt or as a neutral straight. -/
structure ComesLate (committed : AmapSnapshot) (engine : AmapV38Compat) : Prop where
  same : engine.sameAsCommitted engine.current committed = true
  late : isPromptType engine.current.type = true ∨
    engine.raw.isNeutralStraight engine.current.head engine.current.type = true
  road : ¬ (engine.formalLock.road ≠ [] ∧ engine.current.road ≠ [] ∧
    engine.formalLock.road ≠ engine.current.road)

/-- A neutral straight does not come again with another display than the
committed one, and the route generation has not wrapped around. -/
structure ComesOnce (committed : AmapSnapshot) (engine : AmapV38Compat) : Prop where
  generation : 0 ≤ engine.routeGeneration
  neutral : engine.raw.isNeutralStraight engine.current.head engine.current.type = true →
    engine.current.visual ≠ committed.visualKey → engine.aligned = true →
      engine.raw.distanceFresh = true →
        ¬ engine.stabilizer.SeesAgain engine.current.visual
          (engine.identity engine.current.head engine.current.ver) engine.current.dist

theorem isValidType_of_prompt {type : Int} (prompt : isPromptType type = true) :
    ManeuverMapper.isValidType type = true := by
  simp only [isPromptType, List.contains_eq_mem, decide_eq_true_eq, List.mem_cons,
    List.not_mem_nil, or_false] at prompt
  rcases prompt with rfl | rfl | rfl | rfl | rfl | rfl | rfl <;> decide

theorem ComesLate.valid (late : ComesLate committed engine) : engine.current.valid = true := by
  have same := late.same
  simp only [sameAsCommitted, Bool.and_eq_true, decide_eq_true_eq] at same
  have ver : 0 ≤ engine.current.ver := same.2.2.2.1
  have isValid : AmapFields.validHead engine.current.head engine.current.ver engine.current.type =
      true := by
    unfold AmapFields.validHead
    rw [Bool.and_eq_true, Bool.and_eq_true, decide_eq_true_eq]
    rcases late.late with prompt | neutral
    · refine ⟨⟨?_, ver⟩, isValidType_of_prompt prompt⟩
      -- without a slot there is no type
      by_contra noSlot
      have isType : engine.current.type =
          ((slotOf engine.current.head).map fun slot => (engine.raw.maneuver slot).type).getD (-1) :=
        rfl
      rw [Bool.not_eq_true, Option.isSome_eq_false_iff, Option.isNone_iff_eq_none] at noSlot
      rw [isType, noSlot, Option.map_none, Option.getD_none] at prompt
      exact absurd prompt (by decide)
    · simp only [AmapFields.isNeutralStraight, Bool.and_eq_true, decide_eq_true_eq] at neutral
      refine ⟨⟨Option.isSome_of_any neutral.2, ver⟩, ?_⟩
      rw [neutral.1]
      decide
  exact isValid

/-- A late frame is held by the lock, if it is a prompt, or left to the
stabilizer. -/
theorem ComesLate.first (late : ComesLate committed engine) (formal : IsFormal committed engine)
    (lockedAt : LockedAt committed engine) (once : ComesOnce committed engine)
    (notLate : engine.isLatePrompt engine.current committed = false)
    (otherVisual : engine.current.visual ≠ committed.visualKey) :
    engine.aligned = true → engine.raw.distanceFresh = true →
      ¬ engine.stabilizer.SeesAgain engine.current.visual
        (engine.identity engine.current.head engine.current.ver) engine.current.dist := by
  rcases late.late with prompt | neutral
  · -- the lock takes every prompt at its own head
    have head := head_nonneg late.valid
    have atHead := at_of_same late.same once.generation lockedAt.known.1
    have same : engine.formalLock.identity.samePhysical
        (engine.identity engine.current.head engine.current.ver) = true :=
      (lockedAt.formalLock.samePhysical_iff lockedAt.known ⟨once.generation, head.1⟩).mpr
        ⟨atHead.1, atHead.2⟩
    have taken : engine.isLatePrompt engine.current committed = true := by
      unfold isLatePrompt AmapFormalLock.isLatePrompt
      rw [late.valid, late.same, formal.formal, prompt, lockedAt.locked, same]
      simp [otherVisual, late.road]
    exact absurd (taken.symm.trans notLate) (by decide)
  · exact once.neutral neutral otherVisual

theorem movedTo_eq_self (same : engine.sameAsCommitted engine.current committed = true)
    (generation : 0 ≤ engine.routeGeneration) (known : 0 ≤ committed.physicalGeneration) :
    engine.movedTo engine.current committed = committed := by
  have atHead := at_of_same same generation known
  simp only [sameAsCommitted, Bool.and_eq_true, decide_eq_true_eq] at same
  unfold movedTo
  rw [atHead.1, atHead.2, same.2.2.2.2]

/-- A late frame that comes once commits nothing. -/
theorem late_answer (call : V38Call) (formal : IsFormal committed engine)
    (lockedAt : LockedAt committed engine) (late : ComesLate committed engine)
    (once : ComesOnce committed engine) :
    engine.branch call ≠ .commit ∧ (engine.answer call).2.committed = some committed := by
  have isCommitted := formal.isCommitted
  have atHead := at_of_same late.same once.generation lockedAt.known.1
  have head := head_nonneg late.valid
  have same : engine.stabilizer.identity.samePhysical
      (engine.identity engine.current.head engine.current.ver) = true :=
    (lockedAt.stabilizer.samePhysical_iff lockedAt.known ⟨once.generation, head.1⟩).mpr
      ⟨atHead.1, atHead.2⟩
  have way := engine.answer_case call
  generalize engine.answer call = result at way
  generalize engine.branch call = branch at way
  cases way with
  | passed after same =>
      rcases same with rfl | rfl
      · exact ⟨by decide, isCommitted⟩
      · exact ⟨by decide, isCommitted⟩
  | hidden | soft => exact ⟨by decide, isCommitted⟩
  | active enabled awake way =>
      cases way with
      | empty nothing => exact ⟨by decide, isCommitted⟩
      | first _ nothing _ => exact absurd (nothing.symm.trans isCommitted) nofun
      | again own _ isOwn notLate others _ =>
          obtain rfl := Option.some.inj (isCommitted.symm.trans isOwn)
          rcases others with other | ⟨notAccepted, notHeld⟩
          · exact absurd (late.same.symm.trans other) (by decide)
          · have keeps : engine.verdict.1 = .hold ∨ engine.verdict.1 = .acceptSameVisual :=
              AmapDisplayStabilizer.evaluate_keeps lockedAt.seeded same fun otherVisual =>
                late.first formal lockedAt once notLate (lockedAt.visual ▸ otherVisual)
            rcases keeps with held | accepted
            · exact absurd held notHeld
            · exact absurd accepted notAccepted
      | prompt _ _ _ _ holds => exact ⟨by decide, holds.committed.trans isCommitted⟩
      | hold _ _ _ _ _ holds => exact ⟨by decide, holds.committed.trans isCommitted⟩
      | accept own _ isOwn _ _ accepts =>
          obtain rfl := Option.some.inj (isCommitted.symm.trans isOwn)
          refine ⟨by decide, accepts.committed.trans (congrArg some ?_)⟩
          exact movedTo_eq_self late.same once.generation lockedAt.known.1

end AmapV38Compat

/-- Every frame is processed, and meets a condition when it has been observed. -/
def Processing (condition : AmapV38Compat → Prop) :
    AmapV38Compat → List V38Event → V38Label → Prop
  | engine, _, .frame data now (.process _) => condition (engine.observe data now)
  | _, _, .expire => True
  | _, _, _ => False

/-- Nothing is committed, and what is shown has the type of the snapshot. -/
def KeepsType (committed : AmapSnapshot) (event : V38Event) : Prop :=
  event.commits = false ∧ ∀ shown ∈ event.shown, shown.headType = committed.headType

structure StaysFormal (committed : AmapSnapshot) (engine : AmapV38Compat) : Prop where
  formal : engine.IsFormal committed
  lockedAt : engine.LockedAt committed

/-- Late frames that come once keep the type. -/
theorem late_step {engine : AmapV38Compat} {events : List V38Event} {label : V38Label}
    {committed : AmapSnapshot} (before : StaysFormal committed engine)
    (late : Processing (AmapV38Compat.ComesLate committed) engine events label)
    (once : Processing (AmapV38Compat.ComesOnce committed) engine events label) :
    StaysFormal committed (v38Step label engine).1 ∧
      ∀ event ∈ (v38Step label engine).2, KeepsType committed event := by
  obtain ⟨⟨enabled, isCommitted, formal⟩, lockedAt⟩ := before
  cases label with
  | expire =>
      refine ⟨⟨⟨enabled, isCommitted, formal⟩, ?_⟩, by simp [v38Step, TracedOp.silent]⟩
      exact lockedAt.of_sameMemory ⟨rfl, rfl, rfl, rfl, rfl⟩
  | disable | reset => exact late.elim
  | frame data now turn =>
      cases turn with
      | ignore | disable | reset | confirm => exact late.elim
      | process call =>
          have same := AmapV38Compat.observe_sameMemory data now engine
          have isFormal : (engine.observe data now).IsFormal committed :=
            ⟨same.enabled.trans enabled, same.committed.trans isCommitted, formal⟩
          have observedAt := lockedAt.of_sameMemory same
          obtain ⟨noCommit, after⟩ := AmapV38Compat.late_answer call isFormal observedAt late once
          have locked : (engine.observe data now).Locked := by
            intro own isOwn
            obtain rfl := Option.some.inj (isFormal.isCommitted.symm.trans isOwn)
            exact observedAt
          refine ⟨⟨⟨?_, after, formal⟩, ?_⟩, fun event isEvent => ?_⟩
          · exact (AmapV38Compat.answer_enabled _ call).trans isFormal.enabled
          · exact AmapV38Compat.locked_answer locked once.generation committed after
          · obtain rfl := List.mem_singleton.mp isEvent
            refine ⟨?_, fun shown isShown => AmapV38Compat.shown_headType isShown after⟩
            simpa [v38Event, AmapV38Compat.ready] using noCommit

section Decisions

variable (committed : AmapSnapshot) (engine : AmapV38Compat)

instance : Decidable (engine.ComesLate committed) :=
  decidable_of_iff
    (engine.sameAsCommitted engine.current committed = true ∧
      (isPromptType engine.current.type = true ∨
        engine.raw.isNeutralStraight engine.current.head engine.current.type = true) ∧
      ¬ (engine.formalLock.road ≠ [] ∧ engine.current.road ≠ [] ∧
        engine.formalLock.road ≠ engine.current.road))
    ⟨fun conditions => ⟨conditions.1, conditions.2.1, conditions.2.2⟩,
      fun late => ⟨late.same, late.late, late.road⟩⟩

instance (visual : List Char) (identity : AmapIdentity) (dist : Int)
    (stabilizer : AmapDisplayStabilizer) :
    Decidable (stabilizer.SeesAgain visual identity dist) :=
  inferInstanceAs (Decidable (_ = true ∧ _ = false))

instance : Decidable (engine.ComesOnce committed) :=
  decidable_of_iff
    (0 ≤ engine.routeGeneration ∧
      (engine.raw.isNeutralStraight engine.current.head engine.current.type = true →
        engine.current.visual ≠ committed.visualKey → engine.aligned = true →
          engine.raw.distanceFresh = true →
            ¬ engine.stabilizer.SeesAgain engine.current.visual
              (engine.identity engine.current.head engine.current.ver) engine.current.dist))
    ⟨fun conditions => ⟨conditions.1, conditions.2⟩, fun once => ⟨once.generation, once.neutral⟩⟩

instance (condition : AmapV38Compat → Prop) [DecidablePred condition] (events : List V38Event)
    (label : V38Label) : Decidable (Processing condition engine events label) :=
  match label with
  | .frame data now (.process _) => inferInstanceAs (Decidable (condition (engine.observe data now)))
  | .expire => isTrue trivial
  | .frame _ _ .ignore | .frame _ _ .disable | .frame _ _ .reset | .frame _ _ (.confirm _)
  | .disable | .reset => isFalse not_false

end Decisions

/-- A roundabout is committed. -/
def roundaboutLabels : List V38Label :=
  [answered .confirm
    [(.route .routeState, "2"), (.route .maneuverCount, "1"), (.route .maneuverList, "0"),
      (.maneuver 0 .type, "6"), (.maneuver 0 .ver, "1"), (.maneuver 0 .junctionType, "0"),
      (.route .distManeuverM, "500")]]

/-- The maneuver comes as another type. -/
def retyped (type distance : String) : V38Label :=
  answered .process [(.maneuver 0 .type, type), (.route .distManeuverM, distance)]

/-- A prompt, a neutral straight, and the prompt again. -/
def promptLabels : List V38Label := [retyped "52" "400", retyped "3" "390", retyped "52" "380"]

/-- A neutral straight, seen twice. -/
def straightLabels : List V38Label := [retyped "3" "400", retyped "3" "390"]

theorem straightLabels_late :
    (performAll v38Step roundaboutLabels .reset).1.enabled = true ∧
      (performAll v38Step roundaboutLabels .reset).1.committed.map
          (fun committed => decide (isFormalType committed.rawType = true ∧
            AllowedAll v38Step (Processing (AmapV38Compat.ComesLate committed)) straightLabels
              (performAll v38Step roundaboutLabels .reset).1
              (performAll v38Step roundaboutLabels .reset).2)) = some true := by
  decide +kernel

theorem straightLabels_events :
    (performAll v38Step straightLabels (performAll v38Step roundaboutLabels .reset).1).2.map
        (fun event => (event.branch, event.shown.map fun shown => shown.headType)) =
      [(.hold, some 6), (.commit, some 3)] := by
  decide +kernel

end CarplayRgi
