import CarplayRgi.AmapV38FormalLock

/-!
# Two frames of the same head

The display that is committed follows the head of the raw cache.  The
stabilizer commits another display in the second of two frames with the same
head and the same distance, unless the distance plus its jitter leaves the range
of an `int`: then a distance jumps back from itself, and the frames are held.
-/

namespace CarplayRgi

open RouteGuidance

namespace AmapDisplayStabilizer

variable {visual : List Char} {identity : AmapIdentity} {dist : Int}
  {stabilizer : AmapDisplayStabilizer}

theorem evaluate_unseeded (unseeded : stabilizer.committed = false) (drawn : visual ≠ []) :
    (stabilizer.evaluate true visual identity dist true true).1 = .pass := by
  unfold evaluate
  dsimp only
  rw [if_neg (by decide), if_neg (by decide), if_neg drawn, if_pos (by rw [unseeded]; rfl)]

theorem evaluate_other (seeded : stabilizer.committed = true) (drawn : visual ≠ [])
    (other : visual ≠ stabilizer.visual) :
    stabilizer.evaluate true visual identity dist true true =
      stabilizer.evaluateCandidate visual identity dist := by
  unfold evaluate
  dsimp only
  rw [if_neg (by decide), if_neg (by decide), if_neg drawn, if_neg (by simp [seeded]),
    if_neg (by simp [other]), if_neg (by simp [other])]

/-- A candidate that is seen again is committed: it has been counted once. -/
theorem evaluateCandidate_again (again : stabilizer.SeesAgain visual identity dist) :
    (stabilizer.evaluateCandidate visual identity dist).1 = .commitNewVisual ∨
      (stabilizer.evaluateCandidate visual identity dist).1 = .commitNewPhysical := by
  have counted : ¬ stabilizer.candidate.frames + 1 < 2 := by
    have same := again.1
    simp only [sameCandidate, Bool.and_eq_true, decide_eq_true_eq] at same
    omega
  unfold evaluateCandidate
  dsimp only
  rw [again.1, again.2, if_neg (by decide), if_neg (by decide), if_neg counted]
  dsimp only
  split_ifs
  · exact .inr rfl
  · exact .inl rfl

/-- A display is its own candidate. -/
theorem sameCandidate_self (distance : Int) :
    sameCandidate ⟨visual, identity, distance, 1⟩ visual identity = true := by
  unfold sameCandidate AmapIdentity.sameContext
  simp

/-- A candidate that is not seen again leaves the display as a candidate at its
own distance. -/
theorem evaluateCandidate_waits (first : ¬ stabilizer.SeesAgain visual identity dist) :
    ∃ candidate, stabilizer.evaluateCandidate visual identity dist =
        (.hold, { stabilizer with candidate := candidate }) ∧
      sameCandidate candidate visual identity = true ∧ candidate.distance = dist := by
  unfold evaluateCandidate
  dsimp only
  by_cases same : sameCandidate stabilizer.candidate visual identity = true
  · have back : jumpsBack stabilizer.candidate.distance dist = true := by
      by_contra near
      exact first ⟨same, Bool.eq_false_iff.mpr near⟩
    rw [same, if_neg (by decide), if_pos back]
    refine ⟨_, rfl, ?_, rfl⟩
    unfold sameCandidate at same ⊢
    simp only [Bool.and_eq_true, decide_eq_true_eq] at same ⊢
    exact ⟨⟨by decide, same.1.2⟩, same.2⟩
  · rw [if_pos (by simpa using same)]
    exact ⟨_, rfl, sameCandidate_self dist, rfl⟩

/-- A distance jumps back from itself if the jitter overflows. -/
theorem jumpsBack_self_iff (positive : 0 < dist) (fits : DecimalText.Fits 32 dist) :
    jumpsBack dist dist = false ↔ dist + distanceJitterM < 2 ^ 31 := by
  have range : dist < 2 ^ 31 := fits.2
  unfold jumpsBack wrapInt distanceJitterM
  simp only [positive, true_and, decide_eq_false_iff_not, not_lt]
  rw [Int.bmod_def]
  split_ifs <;> omega

end AmapDisplayStabilizer

namespace AmapV38Compat

variable {engine : AmapV38Compat} {call : V38Call}

/-- What is drawn for the committed snapshot. -/
def shownVisual (engine : AmapV38Compat) : Option (List Char) :=
  engine.committed.map AmapSnapshot.visualKey

/-- A stabilizer with a display has the committed one. -/
def VisualKept (engine : AmapV38Compat) : Prop :=
  engine.stabilizer.committed = true →
    ∀ visual ∈ engine.shownVisual, engine.stabilizer.visual = visual

theorem commitSnapshot_visualKey (engine : AmapV38Compat) :
    engine.commitSnapshot.visualKey = engine.current.visual := by
  unfold commitSnapshot applyTrackedDistance
  split_ifs
  · rfl
  · rfl

theorem Commits.shownVisual {before after : AmapV38Compat} (commits : Commits before after) :
    after.shownVisual = some before.current.visual := by
  unfold AmapV38Compat.shownVisual
  rw [commits.committed, Option.map_some, commitSnapshot_visualKey]

theorem Commits.visualKept {before after : AmapV38Compat} (commits : Commits before after) :
    after.VisualKept := by
  intro _ visual isVisual
  obtain rfl := Option.some.inj (commits.shownVisual.symm.trans isVisual)
  rw [commits.stabilizer, AmapDisplayStabilizer.seed,
    if_neg (before.current_visual_ne_nil commits.valid)]

theorem Accepts.shownVisual {committed : AmapSnapshot} {before after : AmapV38Compat}
    (accepts : Accepts committed before after) :
    after.shownVisual = some committed.visualKey := by
  unfold AmapV38Compat.shownVisual
  rw [accepts.committed]
  rfl

/-- A stabilizer with the same display keeps it with the same snapshot. -/
theorem VisualKept.of_same {before after : AmapV38Compat} (kept : before.VisualKept)
    (committed : after.stabilizer.committed = before.stabilizer.committed)
    (visual : after.stabilizer.visual = before.stabilizer.visual)
    (shown : after.shownVisual = before.shownVisual) : after.VisualKept := by
  intro seeded visual' isVisual
  rw [visual]
  exact kept (committed.symm.trans seeded) visual' (shown ▸ isVisual)

theorem VisualKept.of_sameMemory {before after : AmapV38Compat} (kept : before.VisualKept)
    (same : SameMemory before after) : after.VisualKept := by
  refine kept.of_same (by rw [same.stabilizer]) (by rw [same.stabilizer]) ?_
  unfold AmapV38Compat.shownVisual
  rw [same.committed]

theorem Holds.shownVisual {before after : AmapV38Compat} {head ver : Int}
    (holds : Holds head ver before after) : after.shownVisual = before.shownVisual := by
  unfold AmapV38Compat.shownVisual
  rw [holds.committed]

theorem ActiveCase.visualKept {original : List UInt8} {branch : V38Branch}
    {result : List UInt8 × AmapV38Compat} (way : ActiveCase engine original branch result)
    (kept : engine.VisualKept) : result.2.VisualKept := by
  cases way with
  | empty => exact kept
  | first after _ commits | again _ after _ _ _ commits => exact commits.visualKept
  | prompt _ after _ _ holds | hold _ after _ _ _ holds =>
      exact kept.of_same holds.stabilizer.1 holds.stabilizer.2.1 holds.shownVisual
  | accept committed after isCommitted verdict _ accepts =>
      obtain ⟨stabilizer, stabilizerEq, seeded, visual, -⟩ :=
        AmapDisplayStabilizer.evaluate_accept verdict
      have isStabilizer : after.stabilizer = stabilizer := accepts.stabilizer.trans stabilizerEq
      refine kept.of_same (isStabilizer ▸ seeded) (isStabilizer ▸ visual) ?_
      rw [accepts.shownVisual, AmapV38Compat.shownVisual, isCommitted, Option.map_some]

theorem visualKept_answer (kept : engine.VisualKept) : (engine.answer call).2.VisualKept := by
  have way := engine.answer_case call
  generalize engine.answer call = result at way
  generalize engine.branch call = branch at way
  cases way with
  | passed after same =>
      rcases same with rfl | rfl
      · exact kept
      · exact kept.of_sameMemory engine.awake_sameMemory
  | hidden | soft => exact kept.of_sameMemory ⟨rfl, rfl, rfl, rfl, rfl⟩
  | active _ _ way => exact way.visualKept (kept.of_sameMemory engine.awake_sameMemory)

theorem visualKept_ready {enables : Bool} (kept : engine.VisualKept) :
    (engine.ready enables).VisualKept := by
  cases enables with
  | false => exact kept
  | true =>
      cases valid : engine.current.valid with
      | true => exact (ready_seeds valid).visualKept
      | false =>
          rw [ready_keeps valid]
          exact kept.of_same rfl rfl rfl

/-- A display that is committed already stays, and any other comes from the raw
head. -/
theorem ActiveCase.shownVisual {original : List UInt8} {branch : V38Branch}
    {result : List UInt8 × AmapV38Compat} (way : ActiveCase engine original branch result) :
    result.2.shownVisual = engine.shownVisual ∨
      result.2.shownVisual = some engine.current.visual := by
  cases way with
  | empty => exact .inl rfl
  | first after _ commits | again _ after _ _ _ commits => exact .inr commits.shownVisual
  | prompt _ after _ _ holds | hold _ after _ _ _ holds => exact .inl holds.shownVisual
  | accept committed after isCommitted _ _ accepts =>
      refine .inl ?_
      rw [accepts.shownVisual, AmapV38Compat.shownVisual, isCommitted, Option.map_some]

end AmapV38Compat

/-- In every run, the stabilizer has the committed display or none. -/
theorem visualKept_of_run {engine : AmapV38Compat} {events : List V38Event}
    (run : amapV38Compat.Run engine events) : engine.VisualKept := by
  have within : amapV38Compat.RunWithin (Answering fun _ _ _ _ => True) engine events := by
    refine run.imp fun engine events label _ => ?_
    unfold Answering
    split <;> trivial
  refine AmapV38Compat.invariant_of_answers (fun engine _ => engine.VisualKept) nofun ?_ ?_ ?_ ?_
    within
  · exact fun engine after events same kept => kept.of_sameMemory same
  · exact fun engine events kept => nofun
  · exact fun engine events kept => nofun
  · exact fun enables carried call observed events kept _ =>
      AmapV38Compat.visualKept_answer (AmapV38Compat.visualKept_ready kept)

namespace AmapV38Compat

variable {engine : AmapV38Compat} {call : V38Call}

theorem updateCommittedProgress_wasActive (dist nodeDistance head ver : Int) :
    (engine.updateCommittedProgress dist nodeDistance head ver).rawRoutePreviouslyActive =
      engine.rawRoutePreviouslyActive := by
  unfold updateCommittedProgress
  by_cases unknown : dist ≤ 0
  · rw [if_pos unknown]
  · rw [if_neg unknown]

theorem followDecision_wasActive (original : List UInt8) (raw : RawHead)
    (committed : AmapSnapshot) (decision : StabilizerDecision) :
    (engine.followDecision original raw committed decision).2.rawRoutePreviouslyActive =
      engine.rawRoutePreviouslyActive := by
  unfold followDecision
  cases decision with
  | pass =>
      dsimp only
      split_ifs
      · rfl
      · rfl
  | hold =>
      simp only [holdCommitted, updateCommittedProgress_wasActive]
      split_ifs
      · rfl
      · rfl
      · rfl
  | acceptSameVisual => exact updateCommittedProgress_wasActive _ _ _ _
  | commitNewVisual | commitNewPhysical => rfl

theorem processActive_wasActive (original : List UInt8) :
    (engine.processActive original).2.rawRoutePreviouslyActive =
      engine.rawRoutePreviouslyActive := by
  cases isCommitted : engine.committed with
  | none =>
      rw [engine.processActive_none original isCommitted]
      split_ifs
      · rfl
      · rfl
  | some committed =>
      obtain ⟨rollover, observed⟩ := engine.observeRollover_eq engine.current engine.aligned
        engine.raw.distanceFresh committed
      rw [engine.processActive_some original isCommitted observed]
      split_ifs
      · simp only [holdLatePrompt, updateCommittedProgress_wasActive]
        split_ifs
        · rfl
        · rfl
      · rfl
      · exact followDecision_wasActive _ _ _ _

/-- An answer does not observe anything. -/
theorem answer_wasActive (engine : AmapV38Compat) (call : V38Call) :
    (engine.answer call).2.rawRoutePreviouslyActive = engine.rawRoutePreviouslyActive := by
  unfold answer process
  split_ifs
  · rfl
  · rfl
  · rfl
  · unfold holdSoftInactive
    dsimp only
    split_ifs <;> split <;> rfl
  · exact processActive_wasActive _

/-- An active route keeps its generation. -/
theorem observe_routeGeneration (data : BusData) (now : Int)
    (wasActive : engine.rawRoutePreviouslyActive = true) :
    (engine.observe data now).routeGeneration = engine.routeGeneration := by
  unfold observe noteEvidence noteActivity
  split_ifs <;> simp [wasActive]

theorem observe_raw (data : BusData) (now : Int) :
    (engine.observe data now).raw = engine.raw.observe data := by
  unfold observe noteEvidence noteActivity
  split_ifs
  · rfl
  · rfl

/-- A route with a head is active. -/
theorem observe_wasActive {data : BusData} {now : Int}
    (valid : (engine.observe data now).current.valid = true) :
    (engine.observe data now).rawRoutePreviouslyActive = true := by
  have isActive : isActive (engine.observe data now).raw.toAmapFields = true := by
    have nonneg : 0 ≤ (engine.observe data now).raw.head := (head_nonneg valid).1
    unfold AmapFields.head at nonneg
    unfold AmapV38Compat.isActive
    cases list : (engine.observe data now).raw.maneuverList with
    | none => simp [list] at nonneg
    | some numbers =>
        cases numbers with
        | nil => simp [list] at nonneg
        | cons first rest => simp
  rw [observe_raw] at isActive
  unfold observe noteEvidence noteActivity
  split_ifs
  · exact isActive
  · exact isActive

theorem observe_aligned (data : BusData) (now : Int) :
    (engine.observe data now).aligned = (engine.observe data now).current.valid := by
  unfold aligned current
  rw [observe_raw]
  exact Bool.and_self _

theorem observe_distance {data : BusData} {now dist : Int}
    (brought : data.numField (.route .distManeuverM) (-1) = some dist) (positive : 0 < dist) :
    (engine.observe data now).current.dist = dist ∧
      (engine.observe data now).raw.distanceFresh = true := by
  have has : data.has (RgdKey.route .distManeuverM).text = true := by
    by_contra absent
    rw [BusData.numField, if_neg absent] at brought
    cases brought
  unfold current
  rw [observe_raw]
  constructor
  · have isDistance : (engine.raw.observe data).distManeuverM = dist := by
      simp [AmapRaw.observe, AmapRaw.observeFields, brought]
    unfold rawHead AmapFields.primaryDistance
    dsimp only
    rw [isDistance, if_pos (Int.le_of_lt positive)]
  · simp [AmapRaw.observe, has]

theorem answer_active (enabled : engine.enabled = true) (nonempty : call.original ≠ [])
    (routeState : call.routeState ≠ 0) (supported : call.sourceSupportsRg ≠ 0)
    (active : isSoftInactive call.routeState call.maneuverCount call.visibleInApp = false) :
    engine.answer call = engine.awake.processActive call.original := by
  have given : ¬ (!engine.enabled || call.original.isEmpty) = true := by
    simp [enabled, nonempty]
  unfold answer process
  rw [if_neg given, if_neg (not_or.mpr ⟨routeState, supported⟩), if_neg (by simp [active])]
  rfl

/-- The head is valid and its distance is fresh, and no formal maneuver is
committed that it could be late for. -/
structure TakesUp (engine : AmapV38Compat) : Prop where
  valid : engine.current.valid = true
  aligned : engine.aligned = true
  fresh : engine.raw.distanceFresh = true
  positive : 0 < engine.current.dist
  notLate : ∀ committed ∈ engine.committed, engine.isLatePrompt engine.current committed = false

theorem TakesUp.verdict_eq (takesUp : engine.TakesUp) :
    engine.verdict = engine.stabilizer.evaluate true engine.current.visual
      (engine.identity engine.current.head engine.current.ver) engine.current.dist true true := by
  unfold verdict
  rw [takesUp.aligned, takesUp.fresh]

/-- A verdict for another display commits the head. -/
theorem TakesUp.commits (takesUp : engine.TakesUp) (original : List UInt8)
    (isCommitted : engine.committed.isSome = true)
    (verdict : engine.verdict.1 ≠ .hold ∧ engine.verdict.1 ≠ .acceptSameVisual) :
    (engine.processActive original).2.shownVisual = some engine.current.visual := by
  have way := engine.active_case original
  generalize engine.processActive original = result at way
  generalize engine.activeBranch = branch at way
  cases way with
  | empty nothing => simp [nothing] at isCommitted
  | first after _ commits | again _ after _ _ _ commits => exact commits.shownVisual
  | prompt committed _ own late => simp [takesUp.notLate committed own] at late
  | accept _ _ _ accepts => exact absurd accepts verdict.2
  | hold _ _ _ _ held => exact absurd held verdict.1

/-- Another display than the committed one waits as a candidate, if it is not one
that is seen again. -/
theorem TakesUp.waits (takesUp : engine.TakesUp) (original : List UInt8)
    {committed : AmapSnapshot} (isCommitted : engine.committed = some committed)
    (seeded : engine.stabilizer.committed = true)
    (otherStabilizer : engine.current.visual ≠ engine.stabilizer.visual)
    (other : engine.current.visual ≠ committed.visualKey)
    (first : ¬ engine.stabilizer.SeesAgain engine.current.visual
      (engine.identity engine.current.head engine.current.ver) engine.current.dist) :
    (engine.processActive original).2.committed = some committed ∧
      ∃ candidate, (engine.processActive original).2.stabilizer =
          { engine.stabilizer with candidate := candidate } ∧
        AmapDisplayStabilizer.sameCandidate candidate engine.current.visual
          (engine.identity engine.current.head engine.current.ver) = true ∧
        candidate.distance = engine.current.dist := by
  obtain ⟨candidate, waits, same, distance⟩ :=
    AmapDisplayStabilizer.evaluateCandidate_waits first
  have verdict : engine.verdict = (.hold, { engine.stabilizer with candidate := candidate }) := by
    rw [takesUp.verdict_eq, AmapDisplayStabilizer.evaluate_other seeded
      (engine.current_visual_ne_nil takesUp.valid) otherStabilizer, waits]
  obtain ⟨rollover, observed⟩ := engine.observeRollover_eq engine.current engine.aligned
    engine.raw.distanceFresh committed
  have noRollover : (engine.observeRollover engine.current engine.aligned
      engine.raw.distanceFresh committed).1 = false := by
    unfold observeRollover
    rw [if_neg (by simp [other])]
  have positive : ¬ engine.current.dist ≤ 0 := Int.not_le.mpr takesUp.positive
  rw [engine.processActive_some original isCommitted observed,
    takesUp.notLate committed isCommitted, if_neg (by decide), noRollover, if_neg (by decide),
    verdict]
  unfold followDecision holdCommitted updateCommittedProgress
  dsimp only
  rw [if_neg positive, if_neg positive]
  exact ⟨isCommitted, candidate, rfl, same, distance⟩

end AmapV38Compat

/-- A frame that is processed by an enabled engine. -/
structure V38Frame where
  data : BusData
  now : Int
  call : V38Call

namespace V38Frame

def observed (frame : V38Frame) (engine : AmapV38Compat) : AmapV38Compat :=
  engine.observe frame.data frame.now

def after (frame : V38Frame) (engine : AmapV38Compat) : AmapV38Compat :=
  (v38Step (.frame frame.data frame.now (.process frame.call)) engine).1

end V38Frame

/-- The head of the raw cache with its distance. -/
structure SteadyHead where
  head : Int
  ver : Int
  type : Int
  visual : List Char
  dist : Int

namespace SteadyHead

/-- The raw cache has the head, which is no prompt or neutral straight at a
formal maneuver. -/
structure At (steady : SteadyHead) (engine : AmapV38Compat) : Prop where
  valid : engine.current.valid = true
  head : engine.current.head = steady.head
  ver : engine.current.ver = steady.ver
  type : engine.current.type = steady.type
  visual : engine.current.visual = steady.visual
  notLate : ∀ committed ∈ engine.committed, isFormalType committed.rawType = true →
    engine.sameAsCommitted engine.current committed = true →
      isPromptType engine.current.type = false ∧
        engine.raw.isNeutralStraight engine.current.head engine.current.type = false

/-- A frame of an active route brings the distance and leaves the head in the raw
cache. -/
structure ShownBy (steady : SteadyHead) (frame : V38Frame) (engine : AmapV38Compat) : Prop where
  nonempty : frame.call.original ≠ []
  routeState : frame.call.routeState ≠ 0
  supported : frame.call.sourceSupportsRg ≠ 0
  active : isSoftInactive frame.call.routeState frame.call.maneuverCount
    frame.call.visibleInApp = false
  distance : frame.data.numField (.route .distManeuverM) (-1) = some steady.dist
  isAt : steady.At (frame.observed engine)

/-- There is nothing to wait for: the stabilizer has no display, has this one, or
sees it again. -/
def Recognised (steady : SteadyHead) (engine : AmapV38Compat) : Prop :=
  engine.stabilizer.committed = false ∨ steady.visual = engine.stabilizer.visual ∨
    engine.stabilizer.SeesAgain steady.visual (engine.identity steady.head steady.ver) steady.dist

variable {steady : SteadyHead} {frame : V38Frame} {engine : AmapV38Compat}

theorem At.isLatePrompt (isAt : steady.At engine) {committed : AmapSnapshot}
    (isCommitted : engine.committed = some committed) :
    engine.isLatePrompt engine.current committed = false := by
  by_contra late
  simp only [Bool.not_eq_false, AmapV38Compat.isLatePrompt, Bool.and_eq_true,
    Bool.or_eq_true] at late
  obtain ⟨noPrompt, notNeutral⟩ :=
    isAt.notLate committed isCommitted late.1.1.1.2 late.1.1.1.1.2
  rcases late.1.1.2 with prompt | neutral
  · exact Bool.false_ne_true (noPrompt.symm.trans prompt)
  · exact Bool.false_ne_true (notNeutral.symm.trans neutral)

theorem ShownBy.dist_eq (shownBy : steady.ShownBy frame engine) (positive : 0 < steady.dist) :
    (frame.observed engine).current.dist = steady.dist :=
  (AmapV38Compat.observe_distance shownBy.distance positive).1

theorem ShownBy.takesUp (shownBy : steady.ShownBy frame engine) (positive : 0 < steady.dist) :
    (frame.observed engine).awake.TakesUp where
  valid := shownBy.isAt.valid
  aligned := (AmapV38Compat.observe_aligned frame.data frame.now).trans shownBy.isAt.valid
  fresh := (AmapV38Compat.observe_distance shownBy.distance positive).2
  positive := positive.trans_eq (shownBy.dist_eq positive).symm
  notLate _ isCommitted := shownBy.isAt.isLatePrompt isCommitted

theorem ShownBy.drawn (shownBy : steady.ShownBy frame engine) : steady.visual ≠ [] := by
  rw [← shownBy.isAt.visual]
  exact AmapV38Compat.current_visual_ne_nil _ shownBy.isAt.valid

/-- The verdict on the frame is the one on the head. -/
theorem ShownBy.verdict_eq (shownBy : steady.ShownBy frame engine) (positive : 0 < steady.dist) :
    (frame.observed engine).awake.verdict = (frame.observed engine).stabilizer.evaluate true
      steady.visual ((frame.observed engine).identity steady.head steady.ver) steady.dist true
        true := by
  rw [← shownBy.isAt.visual, ← shownBy.isAt.head, ← shownBy.isAt.ver, ← shownBy.dist_eq positive]
  exact (shownBy.takesUp positive).verdict_eq

theorem ShownBy.after_eq (shownBy : steady.ShownBy frame engine)
    (enabled : engine.enabled = true) :
    frame.after engine = ((frame.observed engine).awake.processActive frame.call.original).2 := by
  have observed := AmapV38Compat.observe_sameMemory frame.data frame.now engine
  have answer := AmapV38Compat.answer_active (observed.enabled.trans enabled) shownBy.nonempty
    shownBy.routeState shownBy.supported shownBy.active
  exact congrArg Prod.snd answer

theorem observed_committed (frame : V38Frame) (engine : AmapV38Compat) :
    (frame.observed engine).committed = engine.committed :=
  (AmapV38Compat.observe_sameMemory frame.data frame.now engine).committed

theorem observed_stabilizer (frame : V38Frame) (engine : AmapV38Compat) :
    (frame.observed engine).stabilizer = engine.stabilizer :=
  (AmapV38Compat.observe_sameMemory frame.data frame.now engine).stabilizer

/-- A frame leaves the display as it is, or shows its head. -/
theorem ShownBy.shownVisual (shownBy : steady.ShownBy frame engine)
    (enabled : engine.enabled = true) :
    (frame.after engine).shownVisual = engine.shownVisual ∨
      (frame.after engine).shownVisual = some steady.visual := by
  have way := (frame.observed engine).awake.active_case frame.call.original
  rw [shownBy.after_eq enabled]
  rcases way.shownVisual with same | own
  · refine .inl (same.trans ?_)
    exact congrArg (Option.map AmapSnapshot.visualKey) (observed_committed frame engine)
  · exact .inr (own.trans (congrArg some shownBy.isAt.visual))

/-- A display that is recognised is committed. -/
theorem ShownBy.follows (shownBy : steady.ShownBy frame engine) (positive : 0 < steady.dist)
    (enabled : engine.enabled = true) (kept : engine.VisualKept)
    (isCommitted : engine.committed.isSome = true)
    (recognised : steady.Recognised (frame.observed engine)) :
    (frame.after engine).shownVisual = some steady.visual := by
  have commits : (frame.observed engine).awake.verdict.1 ≠ .hold ∧
      (frame.observed engine).awake.verdict.1 ≠ .acceptSameVisual →
        (frame.after engine).shownVisual = some steady.visual := by
    intro verdict
    rw [shownBy.after_eq enabled, (shownBy.takesUp positive).commits _ ?_ verdict]
    · exact congrArg some shownBy.isAt.visual
    · exact (congrArg Option.isSome (observed_committed frame engine)).trans isCommitted
  rw [shownBy.verdict_eq positive] at commits
  by_cases unseeded : (frame.observed engine).stabilizer.committed = false
  · refine commits ?_
    rw [AmapDisplayStabilizer.evaluate_unseeded unseeded shownBy.drawn]
    exact ⟨by decide, by decide⟩
  have seeded := Bool.not_eq_false _ ▸ unseeded
  by_cases same : steady.visual = (frame.observed engine).stabilizer.visual
  · -- the display is committed already
    rcases shownBy.shownVisual enabled with unchanged | own
    · obtain ⟨committed, isSome⟩ := Option.isSome_iff_exists.mp isCommitted
      have shown : engine.shownVisual = some committed.visualKey := by
        rw [AmapV38Compat.shownVisual, isSome, Option.map_some]
      rw [observed_stabilizer] at seeded same
      rw [unchanged, shown, same, kept seeded _ shown]
    · exact own
  · have again := (recognised.resolve_left unseeded).resolve_left same
    refine commits ?_
    rw [AmapDisplayStabilizer.evaluate_other seeded shownBy.drawn same]
    rcases AmapDisplayStabilizer.evaluateCandidate_again again with decision | decision
    · rw [decision]
      exact ⟨by decide, by decide⟩
    · rw [decision]
      exact ⟨by decide, by decide⟩

/-- A display that is not recognised waits as a candidate at its own distance. -/
theorem ShownBy.waits (shownBy : steady.ShownBy frame engine) (positive : 0 < steady.dist)
    (enabled : engine.enabled = true) (kept : engine.VisualKept)
    (isCommitted : engine.committed.isSome = true)
    (unknown : ¬ steady.Recognised (frame.observed engine)) :
    (frame.after engine).shownVisual ≠ some steady.visual ∧
      ∃ candidate, (frame.after engine).stabilizer =
          { engine.stabilizer with candidate := candidate } ∧
        AmapDisplayStabilizer.sameCandidate candidate steady.visual
          ((frame.observed engine).identity steady.head steady.ver) = true ∧
        candidate.distance = steady.dist := by
  simp only [Recognised, not_or] at unknown
  obtain ⟨isSeeded, other, first⟩ := unknown
  have seeded := Bool.not_eq_false _ ▸ isSeeded
  obtain ⟨committed, isSome⟩ := Option.isSome_iff_exists.mp isCommitted
  have shown : engine.shownVisual = some committed.visualKey := by
    rw [AmapV38Compat.shownVisual, isSome, Option.map_some]
  have isKept : engine.stabilizer.visual = committed.visualKey := by
    rw [observed_stabilizer] at seeded
    exact kept seeded _ shown
  have otherCommitted : steady.visual ≠ committed.visualKey := by
    rw [← isKept, ← observed_stabilizer frame engine]
    exact other
  have waits := (shownBy.takesUp positive).waits frame.call.original
    ((observed_committed frame engine).trans isSome) seeded (shownBy.isAt.visual ▸ other)
    (shownBy.isAt.visual ▸ otherCommitted)
  rw [← shownBy.isAt.visual, ← shownBy.isAt.head, ← shownBy.isAt.ver,
    ← shownBy.dist_eq positive] at first ⊢
  obtain ⟨same, candidate, stabilizer, again, distance⟩ := waits first
  rw [shownBy.after_eq enabled]
  refine ⟨?_, candidate, ?_, again, distance⟩
  · rw [AmapV38Compat.shownVisual, same, shownBy.isAt.visual]
    exact fun shows => otherCommitted (Option.some.inj shows).symm
  · exact observed_stabilizer frame engine ▸ stabilizer

/-- The generation of the second frame is the one of the first. -/
theorem ShownBy.same_identity (shownBy : steady.ShownBy frame engine) (second : V38Frame) :
    (second.observed (frame.after engine)).identity steady.head steady.ver =
      (frame.observed engine).identity steady.head steady.ver := by
  have wasActive : (frame.after engine).rawRoutePreviouslyActive = true :=
    (AmapV38Compat.answer_wasActive _ frame.call).trans
      (AmapV38Compat.observe_wasActive shownBy.isAt.valid)
  have generation : (second.observed (frame.after engine)).routeGeneration =
      (frame.observed engine).routeGeneration :=
    (AmapV38Compat.observe_routeGeneration second.data second.now wasActive).trans
      (AmapV38Compat.process_sameObserved (frame.observed engine) _ _ _ _ _ _).routeGeneration
  unfold AmapV38Compat.identity
  rw [generation]

/-- A head that has waited is recognised if the jitter does not overflow. -/
theorem ShownBy.recognised_again (shownBy : steady.ShownBy frame engine) (second : V38Frame)
    (positive : 0 < steady.dist) (enabled : engine.enabled = true) (kept : engine.VisualKept)
    (isCommitted : engine.committed.isSome = true)
    (unknown : ¬ steady.Recognised (frame.observed engine)) :
    steady.Recognised (second.observed (frame.after engine)) ↔
      steady.dist + distanceJitterM < 2 ^ 31 := by
  obtain ⟨-, candidate, stabilizer, same, distance⟩ :=
    shownBy.waits positive enabled kept isCommitted unknown
  have fits : DecimalText.Fits 32 steady.dist :=
    frame.data.numField_fits _ (by decide) shownBy.distance
  simp only [Recognised, not_or] at unknown
  rw [observed_stabilizer] at unknown
  unfold Recognised AmapDisplayStabilizer.SeesAgain
  rw [shownBy.same_identity, observed_stabilizer, stabilizer, same, distance,
    AmapDisplayStabilizer.jumpsBack_self_iff positive fits]
  simp [unknown.1, unknown.2.1]

end SteadyHead

/-- After two frames with the same head and the same distance, the display is the
one of the head if and only if the jitter does not overflow or the first frame
was recognised. -/
theorem catches_up_iff {engine : AmapV38Compat} {events : List V38Event}
    (run : amapV38Compat.Run engine events) (enabled : engine.enabled = true)
    (isCommitted : engine.committed.isSome = true) {steady : SteadyHead}
    (positive : 0 < steady.dist) {first second : V38Frame}
    (firstShows : steady.ShownBy first engine)
    (secondShows : steady.ShownBy second (first.after engine)) :
    (second.after (first.after engine)).shownVisual = some steady.visual ↔
      (steady.dist + distanceJitterM < 2 ^ 31 ∨
        steady.Recognised (first.observed engine)) := by
  have kept := visualKept_of_run run
  have keptObserved := kept.of_sameMemory
    (AmapV38Compat.observe_sameMemory first.data first.now engine)
  have keptAfter : (first.after engine).VisualKept := AmapV38Compat.visualKept_answer keptObserved
  have enabledAfter : (first.after engine).enabled = true :=
    (AmapV38Compat.answer_enabled _ first.call).trans
      ((AmapV38Compat.observe_sameMemory first.data first.now engine).enabled.trans enabled)
  by_cases recognised : steady.Recognised (first.observed engine)
  · have shown := firstShows.follows positive enabled kept isCommitted recognised
    refine iff_of_true ?_ (.inr recognised)
    rcases secondShows.shownVisual enabledAfter with same | own
    · exact same.trans shown
    · exact own
  · have again := firstShows.recognised_again second positive enabled kept isCommitted recognised
    have isCommittedAfter : (first.after engine).committed.isSome = true := by
      have shown : (first.after engine).shownVisual.isSome = true := by
        rcases firstShows.shownVisual enabled with same | own
        · rw [same, AmapV38Compat.shownVisual, Option.isSome_map, isCommitted]
        · rw [own, Option.isSome_some]
      exact Option.isSome_map ▸ shown
    rw [or_iff_left recognised, ← again]
    constructor
    · intro shows
      by_contra unknown
      exact (secondShows.waits positive enabledAfter keptAfter isCommittedAfter unknown).1 shows
    · exact secondShows.follows positive enabledAfter keptAfter isCommittedAfter

/-- The slot of the committed left turn has become a roundabout. -/
def roundabout (distance : String) : V38Frame where
  data := frameOf [(.maneuver 0 .type, "6"), (.route .distManeuverM, distance)]
  now := 0
  call := ⟨[0], 0, 2, 1, -1, -1⟩

def roundaboutHead (dist : Int) : SteadyHead := ⟨0, 1, 6, "m=13|d=192|z=-1|s=64".toList, dist⟩

def leftTurnEngine : AmapV38Compat := (performAll v38Step committedLabels .reset).1

theorem leftTurnEngine_ready :
    leftTurnEngine.enabled = true ∧ leftTurnEngine.committed.isSome = true := by
  decide +kernel

theorem roundabout_caught_up :
    ((roundabout "400").after ((roundabout "400").after leftTurnEngine)).shownVisual =
        some (roundaboutHead 400).visual ↔
      ((roundaboutHead 400).dist + distanceJitterM < 2 ^ 31 ∨
        (roundaboutHead 400).Recognised ((roundabout "400").observed leftTurnEngine)) := by
  have ready := leftTurnEngine_ready
  exact catches_up_iff (run_performAll .reset v38Step committedLabels) ready.1 ready.2
    (by decide)
    ⟨by decide, by decide, by decide, by decide, by decide +kernel,
      ⟨by decide +kernel, by decide +kernel, by decide +kernel, by decide +kernel,
        by decide +kernel, by decide +kernel⟩⟩
    ⟨by decide, by decide, by decide, by decide, by decide +kernel,
      ⟨by decide +kernel, by decide +kernel, by decide +kernel, by decide +kernel,
        by decide +kernel, by decide +kernel⟩⟩

/-- At the greatest distance, the left turn stays. -/
theorem far_roundabout_waits :
    ¬ ∀ engine events, amapV38Compat.Run engine events → engine.enabled = true →
      engine.committed.isSome = true → ∀ steady : SteadyHead, 0 < steady.dist →
        ∀ first second, steady.ShownBy first engine → steady.ShownBy second (first.after engine) →
          (second.after (first.after engine)).shownVisual = some steady.visual := by
  intro catchesUp
  have ready := leftTurnEngine_ready
  have shown := catchesUp _ _ (run_performAll .reset v38Step committedLabels) ready.1 ready.2
    (roundaboutHead 2147483647) (by decide) (roundabout "2147483647") (roundabout "2147483647")
    ⟨by decide, by decide, by decide, by decide, by decide +kernel,
      ⟨by decide +kernel, by decide +kernel, by decide +kernel, by decide +kernel,
        by decide +kernel, by decide +kernel⟩⟩
    ⟨by decide, by decide, by decide, by decide, by decide +kernel,
      ⟨by decide +kernel, by decide +kernel, by decide +kernel, by decide +kernel,
        by decide +kernel, by decide +kernel⟩⟩
  have leftTurn : ((roundabout "2147483647").after
      ((roundabout "2147483647").after leftTurnEngine)).shownVisual =
        some "FOLLOW_STREET".toList := by
    decide +kernel
  exact absurd (leftTurn.symm.trans shown) (by decide)

end CarplayRgi
