import CarplayRgi.AmapV38Runs

/-!
# Repeated frames during a soft-inactive hold

A hold ends a grace period after it began, or after the last frame with
guidance evidence.  Evidence is a matter of which keys a frame has, not of
what has changed since the frame before it, so this file says exactly which
repeated frames leave the deadline where it is.
-/

namespace CarplayRgi

open RouteGuidance

namespace AmapV38Compat

section Started

variable (engine : AmapV38Compat)

@[simp]
theorem updateCommittedProgress_startedMs (dist nodeDistance head ver : Int) :
    (engine.updateCommittedProgress dist nodeDistance head ver).softInactiveStartedMs =
      engine.softInactiveStartedMs := by
  unfold updateCommittedProgress
  by_cases unknown : dist ≤ 0
  · rw [if_pos unknown]
  · rw [if_neg unknown]

@[simp]
theorem holdLatePrompt_startedMs (raw : RawHead) (committed : AmapSnapshot) :
    (engine.holdLatePrompt raw committed).2.softInactiveStartedMs =
      engine.softInactiveStartedMs := by
  simp only [holdLatePrompt, updateCommittedProgress_startedMs]
  split_ifs
  · rfl
  · rfl

@[simp]
theorem observeRollover_startedMs (raw : RawHead) (aligned distanceFresh : Bool)
    (committed : AmapSnapshot) :
    (engine.observeRollover raw aligned distanceFresh committed).2.softInactiveStartedMs =
      engine.softInactiveStartedMs := by
  unfold observeRollover
  split_ifs
  · rfl
  · rfl

@[simp]
theorem holdCommitted_startedMs (raw : RawHead) (committed : AmapSnapshot) :
    (engine.holdCommitted raw committed).2.softInactiveStartedMs =
      engine.softInactiveStartedMs := by
  simp only [holdCommitted, updateCommittedProgress_startedMs]
  split_ifs
  · rfl
  · rfl
  · rfl

@[simp]
theorem acceptSameVisual_startedMs (raw : RawHead) (committed : AmapSnapshot) :
    (engine.acceptSameVisual raw committed).2.softInactiveStartedMs =
      engine.softInactiveStartedMs := by
  simp only [acceptSameVisual, updateCommittedProgress_startedMs]

@[simp]
theorem followDecision_startedMs (original : List UInt8) (raw : RawHead)
    (committed : AmapSnapshot) (decision : StabilizerDecision) :
    (engine.followDecision original raw committed decision).2.softInactiveStartedMs =
      engine.softInactiveStartedMs := by
  cases decision with
  | pass =>
      unfold followDecision
      dsimp only
      split_ifs
      · rfl
      · rfl
  | hold => exact holdCommitted_startedMs engine raw committed
  | acceptSameVisual => exact acceptSameVisual_startedMs engine raw committed
  | commitNewVisual | commitNewPhysical => rfl

/-- An answer to a frame of an active route begins no hold. -/
theorem processActive_startedMs (original : List UInt8) :
    (engine.processActive original).2.softInactiveStartedMs = engine.softInactiveStartedMs := by
  unfold processActive
  dsimp only
  cases engine.committed with
  | none =>
      dsimp only
      split_ifs
      · rfl
      · rfl
  | some committed =>
      dsimp only
      split_ifs
      · exact holdLatePrompt_startedMs engine _ committed
      · exact observeRollover_startedMs engine _ _ _ committed
      · rw [followDecision_startedMs]
        exact observeRollover_startedMs engine _ _ _ committed

theorem isSoftInactiveHolding_iff :
    engine.isSoftInactiveHolding = true ↔
      engine.enabled = true ∧ engine.softInactiveExpired = false ∧
        0 < engine.softInactiveStartedMs := by
  simp [isSoftInactiveHolding, and_assoc]

end Started

/-- The time from which the grace period of a hold counts. -/
def holdAnchor (engine : AmapV38Compat) : Int :=
  max engine.softInactiveStartedMs engine.lastGuidanceEvidenceMs

theorem deadline_of_holding {engine : AmapV38Compat}
    (holding : engine.isSoftInactiveHolding = true) :
    engine.softInactiveDeadlineMs = engine.holdAnchor + softInactiveGraceMs :=
  if_pos holding

theorem deadline_of_ended {engine : AmapV38Compat}
    (ended : engine.isSoftInactiveHolding = false) : engine.softInactiveDeadlineMs = 0 := by
  rw [softInactiveDeadlineMs, ended]
  rfl

theorem deadline_pos {engine : AmapV38Compat} (holding : engine.isSoftInactiveHolding = true) :
    0 < engine.softInactiveDeadlineMs := by
  have started := ((isSoftInactiveHolding_iff engine).mp holding).2.2
  rw [deadline_of_holding holding, holdAnchor, softInactiveGraceMs]
  omega

/-- What a frame brings to the anchor of a hold. -/
def anchorAfter (data : BusData) (now : Int) (engine : AmapV38Compat) : Int :=
  max engine.softInactiveStartedMs
    (if hasFreshGuidanceEvidence data then now else engine.lastGuidanceEvidenceMs)

/-- Observing a frame moves the anchor of a hold and nothing else of it. -/
theorem observe_holding {engine : AmapV38Compat} (holding : engine.isSoftInactiveHolding = true)
    (data : BusData) (now : Int) :
    (engine.observe data now).isSoftInactiveHolding = true ∧
      (engine.observe data now).holdAnchor = engine.anchorAfter data now := by
  obtain ⟨enabled, running, started⟩ := (isSoftInactiveHolding_iff engine).mp holding
  unfold observe noteEvidence anchorAfter
  by_cases fresh : hasFreshGuidanceEvidence data = true
  · rw [if_pos fresh, if_pos fresh]
    refine ⟨(isSoftInactiveHolding_iff _).mpr ⟨enabled, ?_, started⟩, rfl⟩
    simp [noteActivity, running]
  · rw [if_neg fresh, if_neg fresh]
    exact ⟨holding, rfl⟩

/-- An answer leaves a hold as it is when the route is still soft-inactive. -/
theorem process_keepsHold {engine : AmapV38Compat}
    (holding : engine.isSoftInactiveHolding = true) (original : List UInt8) (now : Int)
    {routeState maneuverCount visibleInApp sourceSupportsRg : Int} (supported : sourceSupportsRg ≠ 0)
    (soft : isSoftInactive routeState maneuverCount visibleInApp = true) :
    let after :=
      (engine.process original now routeState maneuverCount visibleInApp sourceSupportsRg).2
    after.isSoftInactiveHolding = true ∧ after.holdAnchor = engine.holdAnchor := by
  obtain ⟨enabled, running, started⟩ := (isSoftInactiveHolding_iff engine).mp holding
  have isOne : routeState = 1 := (of_decide_eq_true soft).1
  have start : engine.softStart now = engine.softInactiveStartedMs := if_neg (by omega)
  have sameEngine : { engine with softInactiveStartedMs := engine.softStart now } = engine := by
    rw [start]
  dsimp only
  unfold process
  split_ifs with idle cleared expired
  · exact ⟨holding, rfl⟩
  · omega
  · exact ⟨holding, rfl⟩
  · cases committedEq : engine.committed with
    | none =>
        rw [engine.holdSoftInactive_none _ _ _ committedEq, sameEngine]
        exact ⟨holding, rfl⟩
    | some committed =>
        rw [engine.holdSoftInactive_some _ _ _ committedEq, sameEngine]
        exact ⟨holding, rfl⟩

/-- Any other answer ends the hold. -/
theorem process_endsHold {engine : AmapV38Compat} {original : List UInt8}
    (nonempty : original ≠ []) (now : Int)
    {routeState maneuverCount visibleInApp sourceSupportsRg : Int}
    (active : isSoftInactive routeState maneuverCount visibleInApp = false) :
    (engine.process original now routeState maneuverCount visibleInApp
      sourceSupportsRg).2.isSoftInactiveHolding = false := by
  unfold process
  simp only [active, Bool.false_eq_true, if_false]
  split_ifs with idle cleared
  · have disabled : engine.enabled = false := by simpa [nonempty] using idle
    simp [isSoftInactiveHolding, disabled]
  · simp [isSoftInactiveHolding]
  · simp [isSoftInactiveHolding, processActive_startedMs]

end AmapV38Compat

namespace AmapRouteGuidance

open AmapV38Compat

/-- The frame leaves the route soft-inactive, and with the source it had. -/
def staysInactive (data : BusData) (router : AmapRouteGuidance) : Bool :=
  let updated := router.updateRawState data
  !AmapProtocolDetector.sourceChangedAwayFromAmap data &&
    !AmapProtocolDetector.isHardClear updated.rawRouteState updated.rawSourceSupportsRg data &&
    isSoftInactive updated.rawRouteState updated.rawManeuverCount updated.rawVisibleInApp

/-- A hold ends with a frame that changes the state of the route, and no other
frame does anything but move its anchor. -/
theorem onFrame_holding {payload : List UInt8} (nonempty : payload ≠ []) (times : FrameTimes)
    {router : AmapRouteGuidance} (isolated : Isolated router)
    (holding : router.v38.isSoftInactiveHolding = true) :
    let after := (onFrame evtRgdUpdate payload times router).1.v38
    after.isSoftInactiveHolding = router.staysInactive (parseText payload) ∧
      (router.staysInactive (parseText payload) = true →
        after.holdAnchor = router.v38.anchorAfter (parseText payload) times.observed) := by
  have compat : router.detector.mode = .v38Compat := by
    by_contra other
    have enabled := ((isSoftInactiveHolding_iff router.v38).mp holding).1
    rw [isolated.disabled other] at enabled
    cases enabled
  obtain ⟨middle, forwarded, finish, way, result⟩ := onFrame_case nonempty times router
  have observedHold := observe_holding holding (parseText payload) times.observed
  rw [result]
  generalize parseText payload = data at way observedHold ⊢
  have isEngine : (router.observeFrame data times.observed).detector.mode = .v38Compat := compat
  unfold staysInactive
  dsimp only
  cases way with
  | released _ changed =>
      simp [changed, forward, super, isSoftInactiveHolding, AmapV38Compat.disable]
  | cleared clear =>
      have clearNow : AmapProtocolDetector.isHardClear (router.updateRawState data).rawRouteState
        (router.updateRawState data).rawSourceSupportsRg data = true := clear
      simp [clearNow, forward, super, isSoftInactiveHolding, AmapV38Compat.reset]
  | plain _ legacy | begun _ legacy => exact absurd (legacy.symm.trans isEngine) (by decide)
  | recovered _ probing | confirmed _ _ probing | probing _ probing =>
      exact absurd (probing.symm.trans isEngine) (by decide)
  | engine active goesOn _ activeEq =>
      subst activeEq
      have stays : AmapProtocolDetector.sourceChangedAwayFromAmap data = false := by
        by_contra changed
        exact goesOn.stays ⟨by rw [isEngine]; decide, by simpa using changed⟩
      have notCleared : AmapProtocolDetector.isHardClear
          (router.updateRawState data).rawRouteState
          (router.updateRawState data).rawSourceSupportsRg data = false := goesOn.notCleared
      rw [stays, notCleared, Bool.not_false, Bool.true_and, Bool.true_and]
      have supported : (router.updateRawState data).rawSourceSupportsRg ≠ 0 := by
        intro unsupported
        simp [AmapProtocolDetector.isHardClear, unsupported] at notCleared
      cases soft : isSoftInactive (router.updateRawState data).rawRouteState
          (router.updateRawState data).rawManeuverCount
          (router.updateRawState data).rawVisibleInApp with
      | true =>
          obtain ⟨holds, anchor⟩ := process_keepsHold observedHold.1 payload times.decided
            supported soft
          exact ⟨holds, fun _ => anchor.trans observedHold.2⟩
      | false =>
          exact ⟨process_endsHold nonempty times.decided soft, fun stays => by cases stays⟩

/-- The evidence of the frame, if it has any, leaves the anchor where it is. -/
def KeepsAnchor (data : BusData) (now : Int) (router : AmapRouteGuidance) : Prop :=
  hasFreshGuidanceEvidence data = true →
    max router.v38.softInactiveStartedMs now = router.v38.holdAnchor

theorem keepsAnchor_iff {data : BusData} {now : Int} {router : AmapRouteGuidance} :
    router.KeepsAnchor data now ↔ router.v38.anchorAfter data now = router.v38.holdAnchor := by
  unfold KeepsAnchor anchorAfter
  by_cases fresh : hasFreshGuidanceEvidence data = true
  · rw [if_pos fresh]
    exact ⟨fun keeps => keeps fresh, fun same _ => same⟩
  · rw [if_neg fresh]
    exact ⟨fun _ => rfl, fun _ isFresh => absurd isFresh fresh⟩

/-- A frame leaves the deadline of a hold unchanged if and only if it neither
ends the hold nor moves its anchor. -/
theorem deadline_onFrame_iff {payload : List UInt8} (nonempty : payload ≠ []) (times : FrameTimes)
    {router : AmapRouteGuidance} (isolated : Isolated router)
    (holding : router.v38.isSoftInactiveHolding = true) :
    (onFrame evtRgdUpdate payload times router).1.v38.softInactiveDeadlineMs =
        router.v38.softInactiveDeadlineMs ↔
      router.staysInactive (parseText payload) = true ∧
        router.KeepsAnchor (parseText payload) times.observed := by
  obtain ⟨goesOn, anchor⟩ := onFrame_holding nonempty times isolated holding
  generalize (onFrame evtRgdUpdate payload times router).1.v38 = after at goesOn anchor ⊢
  rw [keepsAnchor_iff]
  cases stays : router.staysInactive (parseText payload) with
  | true =>
      rw [stays] at goesOn
      rw [deadline_of_holding goesOn, deadline_of_holding holding, anchor stays]
      constructor
      · intro same
        exact ⟨rfl, by omega⟩
      · intro same
        rw [same.2]
  | false =>
      rw [stays] at goesOn
      rw [deadline_of_ended goesOn]
      have positive := deadline_pos holding
      constructor
      · intro same
        omega
      · intro same
        cases same.1

/-- A hold never runs without its timer. -/
def TimerWatches (router : AmapRouteGuidance) : Prop :=
  router.v38.isSoftInactiveHolding = true → router.timers.softTimerRunning = true

theorem timerWatches_of_disabled {router : AmapRouteGuidance} (disabled : router.v38.enabled = false) :
    TimerWatches router := by
  intro holding
  rw [isSoftInactiveHolding, disabled] at holding
  cases holding

theorem timerWatches_sync (router : AmapRouteGuidance) :
    TimerWatches router.syncSoftInactiveTimer := by
  intro holding
  have before : router.v38.isSoftInactiveHolding = true := holding
  unfold syncSoftInactiveTimer
  dsimp only
  rw [if_pos before]
  unfold AmapTimers.ensureSoft
  split_ifs with running
  · exact running
  · rfl

theorem timerWatches_onFrame {type : Nat} {payload : List UInt8} {times : FrameTimes}
    {router : AmapRouteGuidance} (isolated : Isolated router) (watches : TimerWatches router) :
    TimerWatches (onFrame type payload times router).1 := by
  by_cases ours : type = evtRgdUpdate ∧ payload ≠ []
  · obtain ⟨rfl, nonempty⟩ := ours
    obtain ⟨middle, forwarded, finish, way, result⟩ := onFrame_case nonempty times router
    have enabled := observe_enabled (parseText payload) times.observed router.v38
    have observedDisabled : (router.observeFrame (parseText payload) times.observed).detector.mode ≠
        .v38Compat →
          (router.observeFrame (parseText payload) times.observed).v38.enabled = false := by
      intro other
      exact enabled.trans (isolated.disabled other)
    rw [result]
    cases way with
    | released | cleared | recovered => exact timerWatches_of_disabled rfl
    | plain _ legacy | begun _ legacy =>
        exact timerWatches_of_disabled (observedDisabled (by rw [legacy]; decide))
    | probing _ probing =>
        exact timerWatches_of_disabled (observedDisabled (by rw [probing]; decide))
    | confirmed | engine => exact timerWatches_sync _
  · rw [onFrame_passed ours]
    exact watches

theorem timerWatches_amapStep {label : AmapLabel} {router : AmapRouteGuidance}
    (isolated : Isolated router) (watches : TimerWatches router) :
    TimerWatches (amapStep label router).1 := by
  cases label with
  | start | stop => exact timerWatches_of_disabled rfl
  | frame type payload times => exact timerWatches_onFrame isolated watches
  | probeWakes generation =>
      dsimp only [amapStep, probeWakes]
      split_ifs
      · exact timerWatches_of_disabled rfl
      · exact watches
  | softWakes generation now =>
      dsimp only [amapStep, softWakes]
      split_ifs
      · intro holding
        simp [forward, super, isSoftInactiveHolding, noteSoftInactiveExpired] at holding
      · exact watches

/-- The timer of a hold ends it once its deadline has come. -/
theorem softWakes_ends {router : AmapRouteGuidance} (watches : TimerWatches router) {now : Int}
    (due : router.v38.softInactiveDeadlineMs ≤ now) :
    (softWakes router.timers.softGeneration now router).1.v38.isSoftInactiveHolding = false := by
  unfold softWakes
  split_ifs with expires
  · simp [forward, super, isSoftInactiveHolding, noteSoftInactiveExpired]
  · by_contra holding
    have isHolding : router.v38.isSoftInactiveHolding = true := by simpa using holding
    exact expires ⟨watches isHolding, rfl, isHolding, due⟩

/-- The fields of the route that are guidance: the list, the distances, the
times and the name of the road. -/
def guidanceKeys : List RouteKey :=
  [.maneuverList, .distManeuverM, .distDestM, .etaSeconds, .timeRemainingSeconds, .currentRoad]

/-- A frame whose guidance fields, with those of the head, have the values of the
frame before it. -/
structure SameGuidance (head : Int) (previous data : BusData) : Prop where
  route : ∀ key ∈ guidanceKeys,
    data.str (RgdKey.route key).text = previous.str (RgdKey.route key).text
  head : ∀ slot, slotOf head = some slot → ∀ key,
    data.str (RgdKey.maneuver slot key).text = previous.str (RgdKey.maneuver slot key).text

/-- The frame that a label brings to the router. -/
def frameData : AmapLabel → Option BusData
  | .frame type payload _ =>
      if type = evtRgdUpdate ∧ payload ≠ [] then some (parseText payload) else none
  | _ => none

def previousFrame (labels : List AmapLabel) : Option BusData :=
  (labels.filterMap frameData).getLast?

/-- Labels during which a hold goes on, with repeated frames only. -/
def HeldRepeats (previous : BusData) : List AmapLabel → AmapRouteGuidance → Prop
  | [], _ => True
  | label :: later, router =>
      (∀ data, frameData label = some data → SameGuidance router.v38.raw.head previous data) ∧
        (amapStep label router).1.v38.isSoftInactiveHolding = true ∧
        HeldRepeats previous later (amapStep label router).1

/-- Every frame leaves the anchor where it is when it comes. -/
def KeepAnchors : List AmapLabel → AmapRouteGuidance → Prop
  | [], _ => True
  | label :: later, router =>
      (∀ type payload times data, label = .frame type payload times →
        frameData label = some data → router.KeepsAnchor data times.observed) ∧
        KeepAnchors later (amapStep label router).1

/-- While a hold goes on, its deadline is moved by evidence only. -/
theorem deadline_amapStep {label : AmapLabel} {router : AmapRouteGuidance}
    (isolated : Isolated router) (holding : router.v38.isSoftInactiveHolding = true)
    (goesOn : (amapStep label router).1.v38.isSoftInactiveHolding = true)
    (keeps : ∀ type payload times data, label = .frame type payload times →
      frameData label = some data → router.KeepsAnchor data times.observed) :
    (amapStep label router).1.v38.softInactiveDeadlineMs = router.v38.softInactiveDeadlineMs := by
  cases label with
  | start | stop => cases goesOn
  | frame type payload times =>
      dsimp only [amapStep] at goesOn ⊢
      by_cases ours : type = evtRgdUpdate ∧ payload ≠ []
      · have kept := keeps type payload times (parseText payload) rfl (if_pos ours)
        obtain ⟨rfl, nonempty⟩ := ours
        have stays := (onFrame_holding nonempty times isolated holding).1
        exact (deadline_onFrame_iff nonempty times isolated holding).mpr
          ⟨stays.symm.trans goesOn, kept⟩
      · rw [onFrame_passed ours]
        rfl
  | probeWakes generation =>
      dsimp only [amapStep, probeWakes] at goesOn ⊢
      split_ifs at goesOn ⊢
      · cases goesOn
      · rfl
  | softWakes generation now =>
      dsimp only [amapStep, softWakes] at goesOn ⊢
      split_ifs at goesOn ⊢
      · simp [forward, super, isSoftInactiveHolding, noteSoftInactiveExpired] at goesOn
      · rfl

theorem deadline_repeats {previous : BusData} {later : List AmapLabel} {router : AmapRouteGuidance}
    (isolated : Isolated router) (watches : TimerWatches router)
    (holding : router.v38.isSoftInactiveHolding = true) (repeats : HeldRepeats previous later router)
    (keep : KeepAnchors later router) :
    (performAll amapStep later router).1.v38.softInactiveDeadlineMs =
        router.v38.softInactiveDeadlineMs ∧
      TimerWatches (performAll amapStep later router).1 := by
  induction later generalizing router with
  | nil => exact ⟨rfl, watches⟩
  | cons label later ih =>
      obtain ⟨-, goesOn, later⟩ := repeats
      obtain ⟨keepsFirst, keepsLater⟩ := keep
      obtain ⟨same, watched⟩ := ih (isolated_amapStep isolated)
        (timerWatches_amapStep isolated watches) goesOn later keepsLater
      exact ⟨same.trans (deadline_amapStep isolated holding goesOn keepsFirst), watched⟩

theorem timerWatches_of_run {router : AmapRouteGuidance} {calls : List BridgeCall}
    (run : amapRouteGuidance.Run router calls) : TimerWatches router := by
  refine (run.invariant (fun router _ => Isolated router ∧ TimerWatches router)
    ⟨isolated_of_legacy rfl rfl, timerWatches_of_disabled rfl⟩ ?_).2
  intro router next calls events label before _ stepTo
  have nextEq : (amapStep label router).1 = next := congrArg Prod.fst (Option.some.inj stepTo)
  rw [← nextEq]
  exact ⟨isolated_amapStep before.1, timerWatches_amapStep before.1 before.2⟩

/-- What repeated frames do to a hold: a frame leaves the deadline unchanged if
and only if it leaves the route inactive and its evidence, if any, comes at
the time that the anchor has; and as long as all frames do so, the hold ends
when its deadline has come. -/
structure HeldUntilDeadline (previous : BusData) (router : AmapRouteGuidance) : Prop where
  frame : ∀ payload times, payload ≠ [] →
    SameGuidance router.v38.raw.head previous (parseText payload) →
      ((onFrame evtRgdUpdate payload times router).1.v38.softInactiveDeadlineMs =
          router.v38.softInactiveDeadlineMs ↔
        router.staysInactive (parseText payload) = true ∧
          router.KeepsAnchor (parseText payload) times.observed)
  run : ∀ later, HeldRepeats previous later router → KeepAnchors later router →
    let after := (performAll amapStep later router).1
    after.v38.softInactiveDeadlineMs = router.v38.softInactiveDeadlineMs ∧
      ∀ now, router.v38.softInactiveDeadlineMs ≤ now →
        (softWakes after.timers.softGeneration now after).1.v38.isSoftInactiveHolding = false

/-- A hold in any run, whichever frame it is whose guidance is repeated. -/
theorem held_until_deadline {labels : List AmapLabel}
    (holding : (performAll amapStep labels fresh).1.v38.isSoftInactiveHolding = true)
    (previous : BusData) : HeldUntilDeadline previous (performAll amapStep labels fresh).1 := by
  have run := run_performAll fresh amapStep labels
  have isolated := isolated_of_run run
  generalize (performAll amapStep labels fresh).1 = router at holding run isolated ⊢
  constructor
  · intro payload times nonempty _
    exact deadline_onFrame_iff nonempty times isolated holding
  · intro later repeats keep
    obtain ⟨same, watches⟩ :=
      deadline_repeats isolated (timerWatches_of_run run) holding repeats keep
    exact ⟨same, fun now due => softWakes_ends watches (same.trans_le due)⟩

def timedFrame (text : String) (now : Int) : AmapLabel :=
  .frame evtRgdUpdate (Utf8Text.encode text.toList) ⟨now, now⟩

/-- A soft-inactive route, with the time of arrival. -/
def softText : String :=
  "route_state:n:1\nmaneuver_count:n:0\nvisible_in_app:n:0\neta_seconds:n:600\n"

/-- A probe, its confirmation, and a hold that begins at 4000. -/
def heldRoute : List AmapLabel :=
  [.start, timedFrame "route_state:n:1\nvisible_in_app:n:1\n" 1000, timedFrame softText 2000,
    timedFrame "route_state:n:3\nmaneuver_count:n:1\n" 3000, timedFrame softText 4000]

theorem previousFrame_heldRoute :
    previousFrame heldRoute = some (parseText (Utf8Text.encode softText.toList)) :=
  rfl

/-- The hold, its deadline, and the one after another frame like the last. -/
theorem heldRoute_deadlines :
    (performAll amapStep heldRoute fresh).1.v38.isSoftInactiveHolding = true ∧
      (performAll amapStep heldRoute fresh).1.v38.softInactiveDeadlineMs = 9000 ∧
      (onFrame evtRgdUpdate (Utf8Text.encode softText.toList) ⟨8000, 8000⟩
        (performAll amapStep heldRoute fresh).1).1.v38.softInactiveDeadlineMs = 13000 := by
  decide +kernel

theorem heldRoute_held_until_deadline :
    HeldUntilDeadline (parseText (Utf8Text.encode softText.toList))
      (performAll amapStep heldRoute fresh).1 :=
  held_until_deadline heldRoute_deadlines.1 _

/-- The same frame again, with its time of arrival, postpones the deadline. -/
theorem repeated_arrival_postpones :
    ¬ ∀ labels previous payload times,
      (performAll amapStep labels fresh).1.v38.isSoftInactiveHolding = true →
        previousFrame labels = some previous → payload ≠ [] →
          SameGuidance (performAll amapStep labels fresh).1.v38.raw.head previous
              (parseText payload) →
            (onFrame evtRgdUpdate payload times
                (performAll amapStep labels fresh).1).1.v38.softInactiveDeadlineMs =
              (performAll amapStep labels fresh).1.v38.softInactiveDeadlineMs := by
  intro unchanged
  obtain ⟨holding, before, after⟩ := heldRoute_deadlines
  have same := unchanged heldRoute _ (Utf8Text.encode softText.toList) ⟨8000, 8000⟩ holding
    previousFrame_heldRoute (by decide) ⟨fun _ _ => rfl, fun _ _ _ => rfl⟩
  rw [before, after] at same
  omega

end AmapRouteGuidance

end CarplayRgi
