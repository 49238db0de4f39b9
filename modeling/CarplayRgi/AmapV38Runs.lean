import CarplayRgi.AmapModes

/-!
# Runs of the V38 engine

In one turn the router hands a frame to the engine, which observes it, and then
lets the engine answer, enables it first, or switches it off.  An answer is one
of seven branches; five of them show a snapshot.
-/

namespace CarplayRgi

open RouteGuidance

/-- The arguments of `process`, and the time it reads. -/
structure V38Call where
  original : List UInt8
  now : Int
  routeState : Int
  maneuverCount : Int
  visibleInApp : Int
  sourceSupportsRg : Int

/-- The branches of `process`: the frame as it is, the frame without its
visibility, the soft-inactive hold, a commit, the hold of a late prompt, an
accepted frame, and the hold of the stabilizer. -/
inductive V38Branch where
  | original | hidden | soft | commit | prompt | accept | hold
  deriving DecidableEq

namespace AmapDisplayStabilizer

/-- The stabilizer holds a frame without a head or without a distance. -/
theorem evaluate_taken {headAligned distanceFresh : Bool} {visual : List Char}
    {identity : AmapIdentity} {dist : Int} {stabilizer : AmapDisplayStabilizer}
    (taken :
      (stabilizer.evaluate true visual identity dist headAligned distanceFresh).1 ≠ .hold) :
    headAligned = true ∧ distanceFresh = true := by
  unfold evaluate at taken
  cases headAligned <;> cases distanceFresh <;> simp_all

end AmapDisplayStabilizer

namespace AmapFields

theorem slotOf_of_validHead {head ver type : Int} (valid : validHead head ver type = true) :
    ∃ slot, slotOf head = some slot := by
  simp only [validHead, Bool.and_eq_true] at valid
  exact Option.isSome_iff_exists.mp valid.1.1

/-- There is always something to draw for a slot. -/
theorem visualKey_ne_nil (fields : AmapFields) {head : Int} {slot : Slot}
    (isSlot : slotOf head = some slot) : fields.visualKey head ≠ [] := by
  unfold visualKey
  rw [isSlot]
  dsimp only
  split_ifs
  · decide
  · simp

end AmapFields

namespace AmapV38Compat

variable (engine : AmapV38Compat)

/-- What the engine reads off its own cache. -/
def current : RawHead := rawHead engine.raw.toAmapFields

def aligned : Bool := engine.current.valid && engine.raw.headAligned

def verdict : StabilizerDecision × AmapDisplayStabilizer :=
  engine.stabilizer.evaluate true engine.current.visual
    (engine.identity engine.current.head engine.current.ver) engine.current.dist engine.aligned
    engine.raw.distanceFresh

def answer (call : V38Call) : List UInt8 × AmapV38Compat :=
  engine.process call.original call.now call.routeState call.maneuverCount call.visibleInApp
    call.sourceSupportsRg

/-- The route is not soft-inactive. -/
def awake : AmapV38Compat :=
  { engine with softInactiveStartedMs := 0, softInactiveExpired := false }

def activeBranch : V38Branch :=
  match engine.committed with
  | none => if engine.current.valid && engine.aligned then .commit else .original
  | some committed =>
      if engine.isLatePrompt engine.current committed then .prompt
      else if (engine.observeRollover engine.current engine.aligned engine.raw.distanceFresh
          committed).1 then .commit
      else
        match engine.verdict.1 with
        | .pass => if engine.current.valid then .commit else .original
        | .acceptSameVisual => .accept
        | .commitNewVisual | .commitNewPhysical => .commit
        | .hold => .hold

def branch (call : V38Call) : V38Branch :=
  if !engine.enabled || call.original.isEmpty then .original
  else if call.routeState = 0 ∨ call.sourceSupportsRg = 0 then .original
  else if isSoftInactive call.routeState call.maneuverCount call.visibleInApp then
    if engine.softInactiveExpired then .original
    else if engine.committed.isSome then .soft else .hidden
  else engine.awake.activeBranch

/-- The snapshot of a soft-inactive hold. -/
def softFrame (routeState : Int) (committed : AmapSnapshot) : AmapSnapshot :=
  { copyLiveTopLevel engine.raw.toAmapFields committed with
    routeState := if 0 < routeState then routeState else 1
    visibleInApp := -1 }

/-- The snapshot of an accepted frame. -/
def acceptFrame (committed : AmapSnapshot) : AmapSnapshot :=
  applyTrackedDistance engine.progress
    (copyNonVisualPrimary engine.raw.toAmapFields engine.current.head
      (copyLiveTopLevel engine.raw.toAmapFields committed))

/-- The snapshot that an answer shows, from the engine after it. -/
def shown (call : V38Call) : V38Branch → Option AmapSnapshot
  | .original | .hidden => none
  | .soft => engine.committed.map (engine.softFrame call.routeState)
  | .commit => engine.committed
  | .prompt | .hold => engine.committed.map engine.holdFrame
  | .accept => engine.committed.map engine.acceptFrame

/-- What is sent for a shown snapshot, and without one. -/
def payloadOf (original : List UInt8) (shown : Option AmapSnapshot) (branch : V38Branch) :
    List UInt8 :=
  match shown with
  | some snapshot => snapshot.toPayload
  | none => if branch = .hidden then protectVisibilityOnly original else original

theorem current_visual_ne_nil (valid : engine.current.valid = true) :
    engine.current.visual ≠ [] := by
  obtain ⟨slot, isSlot⟩ := AmapFields.slotOf_of_validHead valid
  exact AmapFields.visualKey_ne_nil _ isSlot

/-- A commit does not depend on the stabilizer and the rollover guard. -/
theorem commitRaw_overwrites (rollover : AmapRollover) (stabilizer : AmapDisplayStabilizer)
    {raw : RawHead} (drawn : raw.visual ≠ []) :
    ({ engine with rollover := rollover, stabilizer := stabilizer }).commitRaw raw =
      engine.commitRaw raw := by
  unfold commitRaw AmapDisplayStabilizer.seed
  dsimp only
  rw [if_neg drawn, if_neg drawn]
  rfl

theorem observeRollover_eq (raw : RawHead) (aligned distanceFresh : Bool)
    (committed : AmapSnapshot) :
    ∃ rollover, (engine.observeRollover raw aligned distanceFresh committed).2 =
      { engine with rollover := rollover } := by
  unfold observeRollover
  split_ifs
  · exact ⟨_, rfl⟩
  · exact ⟨engine.rollover, rfl⟩

theorem observeRollover_later {raw : RawHead} {aligned distanceFresh : Bool}
    {committed : AmapSnapshot}
    (commits : (engine.observeRollover raw aligned distanceFresh committed).1 = true) :
    raw.valid = true ∧ engine.sameAsCommitted raw committed = false := by
  unfold observeRollover at commits
  split_ifs at commits with later
  · simp only [Bool.and_eq_true, Bool.not_eq_true'] at later
    exact ⟨later.1.1.1, later.2⟩

theorem processActive_none (original : List UInt8) (nothing : engine.committed = none) :
    engine.processActive original =
      if engine.current.valid && engine.aligned then
        ((engine.commitRaw engine.current).committedFrame, engine.commitRaw engine.current)
      else (original, engine) := by
  unfold processActive
  dsimp only
  rw [nothing]
  rfl

theorem processActive_some (original : List UInt8) {committed : AmapSnapshot}
    (isCommitted : engine.committed = some committed) {rollover : AmapRollover}
    (observed : (engine.observeRollover engine.current engine.aligned engine.raw.distanceFresh
      committed).2 = { engine with rollover := rollover }) :
    engine.processActive original =
      if engine.isLatePrompt engine.current committed then
        engine.holdLatePrompt engine.current committed
      else if (engine.observeRollover engine.current engine.aligned engine.raw.distanceFresh
          committed).1 then
        (({ engine with rollover := rollover }.commitRaw engine.current).committedFrame,
          { engine with rollover := rollover }.commitRaw engine.current)
      else
        { engine with rollover := rollover, stabilizer := engine.verdict.2 }.followDecision
          original engine.current committed engine.verdict.1 := by
  unfold processActive
  dsimp only
  rw [isCommitted]
  dsimp only
  change (if engine.isLatePrompt engine.current committed then _ else
    if (engine.observeRollover engine.current engine.aligned engine.raw.distanceFresh
      committed).1 then _ else _) = _
  rw [← current, ← aligned, observed, ← isCommitted]
  rfl

theorem SameObserved.current {before after : AmapV38Compat} (same : SameObserved before after) :
    after.current = before.current := by
  unfold AmapV38Compat.current
  rw [same.raw]

/-- The tracker when it is fed with the distance of the raw head. -/
def fed (head ver : Int) : AmapProgressTracker :=
  if engine.current.dist ≤ 0 then engine.progress
  else
    engine.progress.update engine.current.dist engine.current.nodeDistance
      (if 0 < engine.current.nodeDistance then engine.current.nodeDistance
        else engine.progress.denominatorM)
      (engine.identity head ver) false

theorem updateCommittedProgress_eq (head ver : Int) :
    engine.updateCommittedProgress engine.current.dist engine.current.nodeDistance head ver =
      { engine with progress := engine.fed head ver } := by
  unfold fed updateCommittedProgress
  by_cases nothing : engine.current.dist ≤ 0
  · rw [if_pos nothing, if_pos nothing]
  · rw [if_neg nothing, if_neg nothing]

/-- A hold with a distance for a node: what is committed stays. -/
structure Holds (head ver : Int) (before after : AmapV38Compat) : Prop where
  observed : SameObserved before after
  committed : after.committed = before.committed
  progress : after.progress = before.fed head ver
  stabilizer : before.stabilizer.SameCommit after.stabilizer
  locked : after.formalLock.locked = before.formalLock.locked
  road : after.formalLock.road = before.formalLock.road
  lockIdentity : after.formalLock.identity = before.formalLock.identity

theorem noteCompletion_sameCommit (stabilizer : AmapDisplayStabilizer) :
    stabilizer.SameCommit stabilizer.noteCompletion := by
  unfold AmapDisplayStabilizer.noteCompletion
  split_ifs <;> exact ⟨rfl, rfl, rfl⟩

theorem markCompletionFrame_keeps (lock : AmapFormalLock) :
    lock.markCompletionFrame.locked = lock.locked ∧ lock.markCompletionFrame.road = lock.road ∧
      lock.markCompletionFrame.identity = lock.identity := by
  unfold AmapFormalLock.markCompletionFrame
  split_ifs <;> exact ⟨rfl, rfl, rfl⟩

/-- A distance is fed after the completion has been noted. -/
theorem Holds.feed {noted : AmapV38Compat} {head ver : Int} (before : Holds head ver engine
      { noted with progress := engine.fed head ver }) (same : noted.progress = engine.progress) :
    Holds head ver engine (noted.updateCommittedProgress engine.current.dist
      engine.current.nodeDistance head ver) := by
  have current : noted.current = engine.current := before.observed.current
  have generation : noted.routeGeneration = engine.routeGeneration :=
    before.observed.routeGeneration
  have fedEq : noted.fed head ver = engine.fed head ver := by
    unfold fed identity
    rw [current, same, generation]
  have updated := noted.updateCommittedProgress_eq head ver
  rw [current, fedEq] at updated
  rw [updated]
  exact before

theorem holdLatePrompt_holds (committed : AmapSnapshot) :
    Holds engine.current.head engine.current.ver engine
      (engine.holdLatePrompt engine.current committed).2 := by
  have keeps := markCompletionFrame_keeps engine.formalLock
  unfold holdLatePrompt
  dsimp only
  split_ifs
  · refine Holds.feed engine ?_ rfl
    exact ⟨⟨rfl, rfl, rfl, rfl⟩, rfl, rfl, noteCompletion_sameCommit _, keeps.1, keeps.2.1,
      keeps.2.2⟩
  · refine Holds.feed engine ?_ rfl
    exact ⟨⟨rfl, rfl, rfl, rfl⟩, rfl, rfl, ⟨rfl, rfl, rfl⟩, rfl, rfl, rfl⟩

theorem holdCommitted_holds (committed : AmapSnapshot) (rollover : AmapRollover)
    {stabilizer : AmapDisplayStabilizer} (sameCommit : engine.stabilizer.SameCommit stabilizer) :
    Holds committed.physicalHead committed.physicalVer engine
      ({ engine with rollover := rollover, stabilizer := stabilizer }.holdCommitted
        engine.current committed).2 := by
  have keeps := markCompletionFrame_keeps engine.formalLock
  have noted := noteCompletion_sameCommit stabilizer
  have notedCommit : engine.stabilizer.SameCommit stabilizer.noteCompletion :=
    ⟨noted.1.trans sameCommit.1, noted.2.1.trans sameCommit.2.1,
      noted.2.2.trans sameCommit.2.2⟩
  unfold holdCommitted
  dsimp only
  split_ifs
  · refine Holds.feed engine ?_ rfl
    exact ⟨⟨rfl, rfl, rfl, rfl⟩, rfl, rfl, notedCommit, keeps.1, keeps.2.1, keeps.2.2⟩
  · refine Holds.feed engine ?_ rfl
    exact ⟨⟨rfl, rfl, rfl, rfl⟩, rfl, rfl, notedCommit, keeps.1, keeps.2.1, keeps.2.2⟩
  · refine Holds.feed engine ?_ rfl
    exact ⟨⟨rfl, rfl, rfl, rfl⟩, rfl, rfl, sameCommit, rfl, rfl, rfl⟩

/-- The committed snapshot at another physical maneuver. -/
def movedTo (raw : RawHead) (committed : AmapSnapshot) : AmapSnapshot :=
  { committed with
    physicalHead := raw.head, physicalVer := raw.ver
    physicalGeneration := engine.routeGeneration }

/-- An accepted frame: the identity of what is committed moves. -/
structure Accepts (committed : AmapSnapshot) (before after : AmapV38Compat) : Prop where
  observed : SameObserved before after
  committed : after.committed = some (before.movedTo before.current committed)
  progress : after.progress = before.fed before.current.head before.current.ver
  stabilizer : after.stabilizer = before.verdict.2
  formalLock : after.formalLock = before.formalLock.updatePhysicalIdentity
    (before.identity before.current.head before.current.ver)

theorem acceptSameVisual_accepts (committed : AmapSnapshot) (rollover : AmapRollover) :
    Accepts committed engine
      ({ engine with rollover := rollover, stabilizer := engine.verdict.2 }.acceptSameVisual
        engine.current committed).2 := by
  have updated := updateCommittedProgress_eq { engine with
    rollover := rollover
    stabilizer := engine.verdict.2
    formalLock := engine.formalLock.updatePhysicalIdentity
      (engine.identity engine.current.head engine.current.ver)
    committed := some (engine.movedTo engine.current committed) } engine.current.head
      engine.current.ver
  unfold acceptSameVisual
  dsimp only
  refine Eq.mpr (congrArg (Accepts committed engine) updated) ?_
  exact ⟨⟨rfl, rfl, rfl, rfl⟩, rfl, rfl, rfl, rfl⟩

/-- The tracker of a commit. -/
def commitProgress : AmapProgressTracker :=
  .commit engine.current.dist
    (if 0 < engine.current.nodeDistance then engine.current.nodeDistance
      else engine.current.dist)
    (engine.identity engine.current.head engine.current.ver) false

/-- The raw cache as a snapshot. -/
def commitSnapshot : AmapSnapshot :=
  applyTrackedDistance engine.commitProgress
    { AmapSnapshot.fromRaw engine.raw with
      visualKey := engine.current.visual
      rawType := engine.current.type
      physicalHead := engine.current.head
      physicalVer := engine.current.ver
      physicalGeneration := engine.routeGeneration }

/-- A commit of the raw cache. -/
structure Commits (before after : AmapV38Compat) : Prop where
  observed : SameObserved before after
  valid : before.current.valid = true
  committed : after.committed = some before.commitSnapshot
  progress : after.progress = before.commitProgress
  stabilizer : after.stabilizer = before.stabilizer.seed before.current.visual
    (before.identity before.current.head before.current.ver) before.current.dist
  formalLock : after.formalLock = .commit before.current.road
    (before.identity before.current.head before.current.ver)

theorem commitRaw_commits (valid : engine.current.valid = true) :
    Commits engine (engine.commitRaw engine.current) :=
  ⟨⟨rfl, rfl, rfl, rfl⟩, valid, rfl, rfl, rfl, rfl⟩

/-- An answer of the engine while the route is active. -/
inductive ActiveCase (original : List UInt8) : V38Branch → List UInt8 × AmapV38Compat → Prop
  | empty : engine.committed = none → ActiveCase original .original (original, engine)
  | first (after : AmapV38Compat) : engine.committed = none → Commits engine after →
      ActiveCase original .commit (after.committedFrame, after)
  | again (committed : AmapSnapshot) (after : AmapV38Compat) :
      engine.committed = some committed →
      engine.isLatePrompt engine.current committed = false →
      (engine.sameAsCommitted engine.current committed = false ∨
        (engine.verdict.1 ≠ .acceptSameVisual ∧ engine.verdict.1 ≠ .hold)) →
      Commits engine after → ActiveCase original .commit (after.committedFrame, after)
  | prompt (committed : AmapSnapshot) (after : AmapV38Compat) :
      engine.committed = some committed →
      engine.isLatePrompt engine.current committed = true →
      Holds engine.current.head engine.current.ver engine after →
      ActiveCase original .prompt ((after.holdFrame committed).toPayload, after)
  | accept (committed : AmapSnapshot) (after : AmapV38Compat) :
      engine.committed = some committed → engine.verdict.1 = .acceptSameVisual →
      engine.current.valid = true → Accepts committed engine after →
      ActiveCase original .accept
        ((after.acceptFrame (engine.movedTo engine.current committed)).toPayload, after)
  | hold (committed : AmapSnapshot) (after : AmapV38Compat) :
      engine.committed = some committed →
      engine.isLatePrompt engine.current committed = false → engine.verdict.1 = .hold →
      Holds committed.physicalHead committed.physicalVer engine after →
      ActiveCase original .hold ((after.holdFrame committed).toPayload, after)

/-- An answer of the engine. -/
inductive AnswerCase (call : V38Call) : V38Branch → List UInt8 × AmapV38Compat → Prop
  | passed (after : AmapV38Compat) : (after = engine ∨ after = engine.awake) →
      AnswerCase call .original (call.original, after)
  | hidden (startedMs : Int) : engine.committed = none →
      AnswerCase call .hidden (protectVisibilityOnly call.original,
        { engine with softInactiveStartedMs := startedMs })
  | soft (committed : AmapSnapshot) (startedMs : Int) : engine.enabled = true →
      engine.committed = some committed →
      AnswerCase call .soft ((engine.softFrame call.routeState committed).toPayload,
        { engine with softInactiveStartedMs := startedMs })
  | active {branch : V38Branch} {result : List UInt8 × AmapV38Compat} : engine.enabled = true →
      isSoftInactive call.routeState call.maneuverCount call.visibleInApp = false →
      ActiveCase engine.awake call.original branch result → AnswerCase call branch result

theorem holdCommitted_payload (raw : RawHead) (committed : AmapSnapshot) :
    (engine.holdCommitted raw committed).1 =
      ((engine.holdCommitted raw committed).2.holdFrame committed).toPayload := by
  unfold holdCommitted
  rfl

theorem acceptSameVisual_payload {raw : RawHead} (committed : AmapSnapshot)
    (current : (engine.acceptSameVisual raw committed).2.current = raw) :
    (engine.acceptSameVisual raw committed).1 =
      ((engine.acceptSameVisual raw committed).2.acceptFrame
        (engine.movedTo raw committed)).toPayload := by
  unfold acceptFrame
  rw [current]
  rfl

theorem verdict_hold (held : engine.verdict.1 = .hold) :
    engine.stabilizer.SameCommit engine.verdict.2 :=
  AmapDisplayStabilizer.evaluate_hold held

theorem active_case (original : List UInt8) :
    ActiveCase engine original engine.activeBranch (engine.processActive original) := by
  have taken : engine.verdict.1 ≠ .hold → engine.current.valid = true := by
    intro other
    have isAligned := (AmapDisplayStabilizer.evaluate_taken other).1
    simp only [aligned, Bool.and_eq_true] at isAligned
    exact isAligned.1
  unfold activeBranch
  cases committedEq : engine.committed with
  | none =>
      rw [engine.processActive_none original committedEq]
      dsimp only
      split_ifs with ready
      · simp only [Bool.and_eq_true] at ready
        exact .first _ committedEq (engine.commitRaw_commits ready.1)
      · exact .empty committedEq
  | some committed =>
      obtain ⟨rollover, observed⟩ := engine.observeRollover_eq engine.current engine.aligned
        engine.raw.distanceFresh committed
      have overwrites := fun valid stabilizer =>
        engine.commitRaw_overwrites rollover stabilizer (engine.current_visual_ne_nil valid)
      rw [engine.processActive_some original committedEq observed]
      dsimp only
      by_cases late : engine.isLatePrompt engine.current committed = true
      · rw [if_pos late, if_pos late]
        exact .prompt committed _ committedEq late (engine.holdLatePrompt_holds committed)
      rw [if_neg late, if_neg late]
      have notLate : engine.isLatePrompt engine.current committed = false :=
        Bool.eq_false_iff.mpr late
      by_cases later : (engine.observeRollover engine.current engine.aligned
          engine.raw.distanceFresh committed).1 = true
      · rw [if_pos later, if_pos later]
        obtain ⟨valid, other⟩ := engine.observeRollover_later later
        have sameCommit := overwrites valid engine.stabilizer
        rw [sameCommit]
        exact .again committed _ committedEq notLate (.inl other) (engine.commitRaw_commits valid)
      rw [if_neg later, if_neg later]
      cases verdictEq : engine.verdict.1 with
      | hold =>
          have payload := holdCommitted_payload { engine with
            rollover := rollover, stabilizer := engine.verdict.2 } engine.current committed
          have holds := engine.holdCommitted_holds committed rollover
            (engine.verdict_hold verdictEq)
          dsimp only [followDecision]
          generalize holdCommitted engine.current committed _ = result at payload holds ⊢
          rw [show result = (_, result.2) from Prod.ext payload rfl]
          exact .hold committed result.2 committedEq notLate verdictEq holds
      | acceptSameVisual =>
          have valid := taken (by rw [verdictEq]; decide)
          have accepts := engine.acceptSameVisual_accepts committed rollover
          have payload := acceptSameVisual_payload { engine with
            rollover := rollover, stabilizer := engine.verdict.2 } committed
              accepts.observed.current
          dsimp only [followDecision]
          generalize acceptSameVisual engine.current committed _ = result at payload accepts ⊢
          rw [show result = (_, result.2) from Prod.ext payload rfl]
          exact .accept committed result.2 committedEq verdictEq valid accepts
      | pass | commitNewVisual | commitNewPhysical =>
          have valid := taken (by rw [verdictEq]; decide)
          simp only [followDecision, valid, if_true, overwrites valid]
          exact .again committed _ committedEq notLate
            (.inr (by rw [verdictEq]; exact ⟨by decide, by decide⟩))
            (engine.commitRaw_commits valid)

/-- The time at which the hold began. -/
def softStart (now : Int) : Int :=
  if engine.softInactiveStartedMs = 0 then now else engine.softInactiveStartedMs

theorem softStart_eq (now : Int) :
    (if engine.softInactiveStartedMs = 0 then { engine with softInactiveStartedMs := now }
      else engine) = { engine with softInactiveStartedMs := engine.softStart now } := by
  unfold softStart
  split_ifs
  · rfl
  · rfl

theorem holdSoftInactive_none (original : List UInt8) (now routeState : Int)
    (nothing : engine.committed = none) :
    engine.holdSoftInactive original now routeState =
      (protectVisibilityOnly original,
        { engine with softInactiveStartedMs := engine.softStart now }) := by
  have committed : ({ engine with
      softInactiveStartedMs := engine.softStart now } : AmapV38Compat).committed = none := nothing
  unfold holdSoftInactive
  rw [softStart_eq]
  generalize ({ engine with
    softInactiveStartedMs := engine.softStart now } : AmapV38Compat) = started at committed
  dsimp only
  rw [committed]

theorem holdSoftInactive_some (original : List UInt8) (now routeState : Int)
    {committed : AmapSnapshot} (isCommitted : engine.committed = some committed) :
    engine.holdSoftInactive original now routeState =
      (({ engine with softInactiveStartedMs := engine.softStart now }.softFrame routeState
          committed).toPayload,
        { engine with softInactiveStartedMs := engine.softStart now }) := by
  have startedCommitted : ({ engine with
      softInactiveStartedMs := engine.softStart now } : AmapV38Compat).committed =
        some committed := isCommitted
  unfold holdSoftInactive softFrame
  rw [softStart_eq]
  generalize ({ engine with
    softInactiveStartedMs := engine.softStart now } : AmapV38Compat) = started at startedCommitted
  dsimp only
  rw [startedCommitted]

/-- Every call is answered by its branch. -/
theorem answer_case (call : V38Call) :
    AnswerCase engine call (engine.branch call) (engine.answer call) := by
  unfold branch answer process
  by_cases idle : (!engine.enabled || call.original.isEmpty) = true
  · rw [if_pos idle, if_pos idle]
    exact .passed engine (.inl rfl)
  have enabled : engine.enabled = true := by
    simp only [Bool.or_eq_true, Bool.not_eq_true', not_or, Bool.not_eq_false] at idle
    exact idle.1
  rw [if_neg idle, if_neg idle]
  by_cases cleared : call.routeState = 0 ∨ call.sourceSupportsRg = 0
  · rw [if_pos cleared, if_pos cleared]
    exact .passed engine.awake (.inr rfl)
  rw [if_neg cleared, if_neg cleared]
  by_cases soft : isSoftInactive call.routeState call.maneuverCount call.visibleInApp = true
  · rw [if_pos soft, if_pos soft]
    by_cases expired : engine.softInactiveExpired = true
    · rw [if_pos expired, if_pos expired]
      exact .passed engine (.inl rfl)
    · rw [if_neg expired, if_neg expired]
      cases committedEq : engine.committed with
      | none =>
          rw [engine.holdSoftInactive_none _ _ _ committedEq]
          exact .hidden _ committedEq
      | some committed =>
          rw [engine.holdSoftInactive_some _ _ _ committedEq]
          exact .soft committed _ enabled committedEq
  · rw [if_neg soft, if_neg soft]
    exact .active enabled (Bool.eq_false_iff.mpr soft) (engine.awake.active_case call.original)

/-- What is sent is the snapshot that is shown. -/
theorem answer_payload (call : V38Call) :
    (engine.answer call).1 =
      payloadOf call.original ((engine.answer call).2.shown call (engine.branch call))
        (engine.branch call) := by
  have way := engine.answer_case call
  generalize engine.answer call = result at way
  generalize engine.branch call = branch at way
  cases way with
  | passed => rfl
  | hidden => rfl
  | soft committed startedMs enabled isCommitted =>
      dsimp only [shown]
      rw [isCommitted]
      rfl
  | active enabled awake way =>
      cases way with
      | empty => rfl
      | first after nothing commits | again _ after _ _ _ commits =>
          dsimp only [shown, committedFrame]
          rw [commits.committed]
          rfl
      | prompt committed after isCommitted _ holds | hold committed after isCommitted _ _ holds =>
          dsimp only [shown]
          rw [holds.committed, isCommitted]
          rfl
      | accept committed after isCommitted _ _ accepts =>
          dsimp only [shown]
          rw [accepts.committed]
          rfl

/-- The distance of the raw head that the frame brings itself. -/
def carried (data : BusData) : Option Int :=
  if 0 ≤ engine.raw.distManeuverM then data.numField (.route .distManeuverM) (-1)
  else
    (slotOf engine.raw.head).bind fun slot => data.numField (.maneuver slot .distance) (-1)

end AmapV38Compat

/-- An answer: whether the engine was enabled for it, whether anything was
committed, the branch, the distance that the frame brought, the engine after
the answer, and the snapshot that is shown. -/
structure V38Event where
  enables : Bool
  commits : Bool
  branch : V38Branch
  carried : Option Int
  engine : AmapV38Compat
  shown : Option AmapSnapshot

/-- What the router does with the engine after it has observed a frame. -/
inductive V38Turn where
  | ignore
  | disable
  | reset
  | process (call : V38Call)
  | confirm (call : V38Call)

inductive V38Label where
  | frame (data : BusData) (now : Int) (turn : V38Turn)
  | disable
  | reset
  | expire

/-- The engine that answers. -/
def AmapV38Compat.ready (enables : Bool) (observed : AmapV38Compat) : AmapV38Compat :=
  if enables then observed.enable else observed

/-- The event of an answer to an observed frame. -/
def v38Event (enables : Bool) (carried : Option Int) (call : V38Call) (observed : AmapV38Compat) :
    V38Event :=
  let ready := observed.ready enables
  let branch := ready.branch call
  let after := (ready.answer call).2
  { enables
    commits := (enables && observed.current.valid) || decide (branch = .commit)
    branch, carried, engine := after, shown := after.shown call branch }

def v38Answer (enables : Bool) (carried : Option Int) (call : V38Call) :
    TracedOp AmapV38Compat V38Event := fun observed =>
  let event := v38Event enables carried call observed
  (event.engine, [event])

def v38Step : V38Label → TracedOp AmapV38Compat V38Event
  | .frame data now turn => fun engine =>
      let observed := engine.observe data now
      match turn with
      | .ignore => (observed, [])
      | .disable => (observed.disable, [])
      | .reset => (.reset, [])
      | .process call => v38Answer false (observed.carried data) call observed
      | .confirm call => v38Answer true (observed.carried data) call observed
  | .disable => .silent AmapV38Compat.disable
  | .reset => .silent fun _ => .reset
  | .expire => .silent AmapV38Compat.noteSoftInactiveExpired

def amapV38Compat : TracedSystem AmapV38Compat V38Label V38Event where
  init := .reset
  step engine label := some (v38Step label engine)

/-- Runs in which every answer meets a condition on the observed frame. -/
def Answering (allowed : Bool → Option Int → V38Call → AmapV38Compat → Prop) :
    AmapV38Compat → List V38Event → V38Label → Prop
  | engine, _, .frame data now (.process call) =>
      allowed false ((engine.observe data now).carried data) call (engine.observe data now)
  | engine, _, .frame data now (.confirm call) =>
      allowed true ((engine.observe data now).carried data) call (engine.observe data now)
  | _, _, _ => True

namespace AmapV38Compat

/-- Nothing of what has been committed changes. -/
structure SameMemory (before after : AmapV38Compat) : Prop where
  committed : after.committed = before.committed
  stabilizer : after.stabilizer = before.stabilizer
  formalLock : after.formalLock = before.formalLock
  progress : after.progress = before.progress
  enabled : after.enabled = before.enabled

theorem observe_sameMemory (data : BusData) (now : Int) (engine : AmapV38Compat) :
    SameMemory engine (engine.observe data now) := by
  unfold observe noteEvidence
  split_ifs
  · exact ⟨rfl, rfl, rfl, rfl, rfl⟩
  · exact ⟨rfl, rfl, rfl, rfl, rfl⟩

theorem awake_sameMemory (engine : AmapV38Compat) : SameMemory engine engine.awake :=
  ⟨rfl, rfl, rfl, rfl, rfl⟩

/-- The induction rule of these runs. -/
theorem invariant_of_answers {allowed : Bool → Option Int → V38Call → AmapV38Compat → Prop}
    (holds : AmapV38Compat → List V38Event → Prop) (atStart : holds .reset [])
    (remembers : ∀ engine after events, SameMemory engine after → holds engine events →
      holds after events)
    (disables : ∀ engine events, holds engine events → holds engine.disable events)
    (resets : ∀ engine events, holds engine events → holds .reset events)
    (answers : ∀ enables carried call observed events, holds observed events →
      allowed enables carried call observed →
        holds (v38Event enables carried call observed).engine
          (events ++ [v38Event enables carried call observed]))
    {engine : AmapV38Compat} {events : List V38Event}
    (run : amapV38Compat.RunWithin (Answering allowed) engine events) : holds engine events := by
  refine run.invariant holds atStart ?_
  intro engine next events later label before guard stepTo
  obtain ⟨rfl, rfl⟩ : (v38Step label engine).1 = next ∧ (v38Step label engine).2 = later :=
    Prod.mk.injEq _ _ _ _ ▸ Option.some.inj stepTo
  cases label with
  | disable => simpa [v38Step, TracedOp.silent] using disables engine events before
  | reset => simpa [v38Step, TracedOp.silent] using resets engine events before
  | expire =>
      have same : SameMemory engine engine.noteSoftInactiveExpired := ⟨rfl, rfl, rfl, rfl, rfl⟩
      simpa [v38Step, TracedOp.silent] using remembers _ _ events same before
  | frame data now turn =>
      have observed := remembers _ _ events (observe_sameMemory data now engine) before
      cases turn with
      | ignore => simpa [v38Step] using observed
      | disable => simpa [v38Step] using disables _ events observed
      | reset => simpa [v38Step] using resets _ events observed
      | process call | confirm call => exact answers _ _ call _ events observed guard

end AmapV38Compat

namespace AmapRouteGuidance

/-- The engine of the router takes steps of its own. -/
theorem amapStep_engine (label : AmapLabel) (router : AmapRouteGuidance) :
    (∃ inner, (v38Step inner router.v38).1 = (amapStep label router).1.v38) ∨
      (amapStep label router).1.v38 = router.v38 := by
  cases label with
  | start | stop => exact .inl ⟨.reset, rfl⟩
  | frame type payload times =>
      by_cases ours : type = evtRgdUpdate ∧ payload ≠ []
      · left
        obtain ⟨rfl, nonempty⟩ := ours
        obtain ⟨middle, forwarded, finish, way, result⟩ := onFrame_case nonempty times router
        rw [amapStep, result]
        generalize observedEq : router.observeFrame (parseText payload) times.observed = observed
          at way
        have engine : observed.v38 = router.v38.observe (parseText payload) times.observed := by
          rw [← observedEq]
          rfl
        let turn (turn : V38Turn) := V38Label.frame (parseText payload) times.observed turn
        let call : V38Call := ⟨payload, times.decided, observed.rawRouteState,
          observed.rawManeuverCount, observed.rawVisibleInApp, observed.rawSourceSupportsRg⟩
        cases way with
        | released | recovered =>
            exact ⟨turn .disable, congrArg AmapV38Compat.disable engine.symm⟩
        | cleared => exact ⟨turn .reset, rfl⟩
        | plain | begun | probing => exact ⟨turn .ignore, engine.symm⟩
        | confirmed ready _ _ _ _ readyEq =>
            subst readyEq
            refine ⟨turn (.confirm call), ?_⟩
            exact congrArg (fun engine : AmapV38Compat => (engine.enable.answer call).2)
              engine.symm
        | engine active _ _ activeEq =>
            subst activeEq
            refine ⟨turn (.process call), ?_⟩
            exact congrArg (fun engine : AmapV38Compat => (engine.answer call).2) engine.symm
      · right
        rw [amapStep, onFrame_passed ours]
        rfl
  | probeWakes generation =>
      dsimp only [amapStep, probeWakes]
      split_ifs
      · exact .inl ⟨.disable, rfl⟩
      · exact .inr rfl
  | softWakes generation now =>
      dsimp only [amapStep, softWakes]
      split_ifs
      · exact .inl ⟨.expire, rfl⟩
      · exact .inr rfl

/-- The engine of a router goes through a run of its own. -/
theorem engine_run {router : AmapRouteGuidance} {calls : List BridgeCall}
    (run : amapRouteGuidance.Run router calls) :
    ∃ events, amapV38Compat.Run router.v38 events := by
  refine run.invariant (fun router _ => ∃ events, amapV38Compat.Run router.v38 events)
    ⟨[], .start⟩ ?_
  intro router next calls events label before _ stepTo
  obtain ⟨answers, engineRun⟩ := before
  have nextEq : (amapStep label router).1 = next := congrArg Prod.fst (Option.some.inj stepTo)
  rw [← nextEq]
  rcases amapStep_engine label router with ⟨inner, stepped⟩ | same
  · rw [← stepped]
    exact ⟨_, engineRun.next trivial rfl⟩
  · rw [same]
    exact ⟨answers, engineRun⟩

end AmapRouteGuidance

end CarplayRgi
