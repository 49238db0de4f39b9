import CarplayRgi.AmapRouteGuidance
import CarplayRgi.TracedPairs

/-!
# What becomes of a frame

A frame that the router has observed takes one of eight ways to the receiver.
From this follows what a probe remembers, and that a source which is known not
to be Amap is never probed.
-/

namespace CarplayRgi

open RouteGuidance

namespace AmapRouteGuidance

/-- The source stays and the route goes on. -/
structure GoesOn (data : BusData) (observed : AmapRouteGuidance) : Prop where
  stays : ¬ (observed.detector.mode ≠ .legacy ∧
    AmapProtocolDetector.sourceChangedAwayFromAmap data = true)
  notCleared : AmapProtocolDetector.isHardClear observed.rawRouteState
    observed.rawSourceSupportsRg data = false

def probeWanted (router : AmapRouteGuidance) : Bool :=
  router.detector.shouldBeginProbe router.rawRouteState router.rawManeuverCount
    router.rawVisibleInApp router.rawSourceSupportsRg

/-- The frame gives evidence that ends a probe. -/
def Confirms (data : BusData) (router : AmapRouteGuidance) : Prop :=
  0 < router.rawRouteState ∧ router.rawSourceSupportsRg ≠ 0 ∧
    router.detector.hasV38ConfirmationEvidence data = true

/-- What the engine answers from a state, and the state with the engine after it. -/
def processed (payload : List UInt8) (now : Int) (router : AmapRouteGuidance) :
    List UInt8 × AmapV38Compat :=
  router.v38.process payload now router.rawRouteState router.rawManeuverCount
    router.rawVisibleInApp router.rawSourceSupportsRg

def ensureProbeTimer (router : AmapRouteGuidance) : AmapRouteGuidance :=
  { router with timers := router.timers.ensureProbe }

/-- A frame on its way: the state in which something is forwarded, what is
forwarded, and what is done about the timers after it. -/
inductive FrameCase (payload : List UInt8) (data : BusData) (now : Int)
    (observed : AmapRouteGuidance) :
    AmapRouteGuidance → List UInt8 → (AmapRouteGuidance → AmapRouteGuidance) → Prop
  | released : observed.detector.mode ≠ .legacy →
      AmapProtocolDetector.sourceChangedAwayFromAmap data = true →
      FrameCase payload data now observed
        { observed.cancelTimers with
          v38 := observed.v38.disable, detector := observed.detector.resetRouteOnly } payload id
  | cleared : AmapProtocolDetector.isHardClear observed.rawRouteState
        observed.rawSourceSupportsRg data = true →
      FrameCase payload data now observed
        { observed.cancelTimers with
          v38 := .reset, detector := observed.detector.resetRouteOnly } payload id
  | plain : GoesOn data observed → observed.detector.mode = .legacy →
      observed.observeActiveRoute.probeWanted = false →
      FrameCase payload data now observed observed.observeActiveRoute payload id
  | begun : GoesOn data observed → observed.detector.mode = .legacy →
      observed.observeActiveRoute.probeWanted = true →
      FrameCase payload data now observed
        { observed.observeActiveRoute with
          detector := observed.observeActiveRoute.detector.beginProbe now data }
        (observed.protectProbeFrame payload data) ensureProbeTimer
  | recovered : GoesOn data observed → observed.detector.mode = .probing →
      observed.rawVisibleInApp = 1 →
      FrameCase payload data now observed
        { observed.observeActiveRoute with
          timers := observed.timers.cancelProbe
          detector := observed.observeActiveRoute.detector.rejectProbe
          v38 := observed.v38.disable } payload id
  | confirmed (ready : AmapRouteGuidance) : GoesOn data observed →
      observed.detector.mode = .probing → observed.rawVisibleInApp ≠ 1 →
      Confirms data observed →
      ready = { observed.observeActiveRoute with
        timers := observed.timers.cancelProbe
        detector := observed.observeActiveRoute.detector.confirmV38
        v38 := observed.v38.enable } →
      FrameCase payload data now observed { ready with v38 := (ready.processed payload now).2 }
        (ready.normalizeActiveV38Visibility (ready.processed payload now).1) syncSoftInactiveTimer
  | probing : GoesOn data observed → observed.detector.mode = .probing →
      observed.rawVisibleInApp ≠ 1 → ¬ Confirms data observed →
      FrameCase payload data now observed observed.observeActiveRoute
        (observed.protectProbeFrame payload data) ensureProbeTimer
  | engine (active : AmapRouteGuidance) : GoesOn data observed →
      observed.detector.mode = .v38Compat → active = observed.observeActiveRoute →
      FrameCase payload data now observed { active with v38 := (active.processed payload now).2 }
        (active.normalizeActiveV38Visibility (active.processed payload now).1)
        syncSoftInactiveTimer

/-- Whether a route has been seen does not decide on the mode, the source or the
baseline. -/
theorem observeActiveRoute_detector (router : AmapRouteGuidance) :
    router.observeActiveRoute.detector = router.detector ∨
      router.observeActiveRoute.detector = { router.detector with activeRouteSeen := true } := by
  unfold observeActiveRoute AmapProtocolDetector.observeActiveRoute
  dsimp only
  split_ifs
  · exact .inr rfl
  · exact .inl rfl

@[simp]
theorem observeActiveRoute_mode (router : AmapRouteGuidance) :
    router.observeActiveRoute.detector.mode = router.detector.mode := by
  rcases observeActiveRoute_detector router with same | seen
  · rw [same]
  · rw [seen]

@[simp]
theorem observeActiveRoute_sourceName (router : AmapRouteGuidance) :
    router.observeActiveRoute.detector.sourceName = router.detector.sourceName := by
  rcases observeActiveRoute_detector router with same | seen
  · rw [same]
  · rw [seen]

@[simp]
theorem observeActiveRoute_baseline (router : AmapRouteGuidance) :
    router.observeActiveRoute.detector.baseline = router.detector.baseline := by
  rcases observeActiveRoute_detector router with same | seen
  · rw [same]
  · rw [seen]

theorem confirms_observeActiveRoute {data : BusData} {router : AmapRouteGuidance} :
    Confirms data router.observeActiveRoute ↔ Confirms data router := by
  unfold Confirms AmapProtocolDetector.hasV38ConfirmationEvidence
  rw [observeActiveRoute_baseline]
  rfl

/-- Every frame takes one of the ways. -/
theorem onFrame_case {payload : List UInt8} (nonempty : payload ≠ []) (times : FrameTimes)
    (router : AmapRouteGuidance) :
    ∃ middle forwarded finish,
      FrameCase payload (parseText payload) times.decided
        (router.observeFrame (parseText payload) times.observed) middle forwarded finish ∧
      onFrame evtRgdUpdate payload times router =
        (finish (forward forwarded middle).1, (forward forwarded middle).2) := by
  unfold onFrame
  rw [if_neg (not_or.mpr ⟨fun other => other rfl, nonempty⟩)]
  dsimp only
  generalize parseText payload = data
  generalize router.observeFrame data times.observed = observed
  generalize times.decided = now
  unfold onObservedFrame
  split_ifs with changed clear
  · exact ⟨_, _, _, .released changed.1 changed.2, rfl⟩
  · exact ⟨_, _, _, .cleared clear, rfl⟩
  have goesOn : GoesOn data observed := ⟨changed, by simpa using clear⟩
  have mode := observeActiveRoute_mode observed
  unfold onRouteFrame
  rw [mode]
  cases current : observed.detector.mode with
  | legacy =>
      dsimp only
      unfold onLegacyFrame
      split_ifs with wanted
      · refine ⟨_, _, _, .begun goesOn current wanted, ?_⟩
        simp only [forwardProtected, TracedOp.andThen, TracedOp.silent, List.append_nil]
        rfl
      · exact ⟨_, _, _, .plain goesOn current (Bool.eq_false_iff.mpr wanted), rfl⟩
  | probing =>
      dsimp only
      unfold onProbingFrame
      split_ifs with visible confirms
      · exact ⟨_, _, _, .recovered goesOn current visible, rfl⟩
      · refine ⟨_, _, _, .confirmed _ goesOn current visible
          (confirms_observeActiveRoute.mp confirms) rfl, ?_⟩
        simp only [forwardV38, TracedOp.andThen, TracedOp.silent, List.append_nil]
        rfl
      · refine ⟨_, _, _, .probing goesOn current visible
          (fun shows => confirms (confirms_observeActiveRoute.mpr shows)), ?_⟩
        simp only [forwardProtected, TracedOp.andThen, TracedOp.silent, List.append_nil]
        rfl
  | v38Compat =>
      dsimp only
      refine ⟨_, _, _, .engine _ goesOn current rfl, ?_⟩
      simp only [forwardV38, TracedOp.andThen, TracedOp.silent, List.append_nil]
      rfl

/-- Other events, and frames without a payload, are not looked at. -/
theorem onFrame_passed {type : Nat} {payload : List UInt8}
    (other : ¬ (type = evtRgdUpdate ∧ payload ≠ [])) (times : FrameTimes)
    (router : AmapRouteGuidance) :
    onFrame type payload times router = super (RouteGuidance.onFrame type payload) router := by
  unfold onFrame
  rw [if_pos]
  by_contra neither
  exact other (by simpa [not_or] using neither)

/-- Only a source that may be probed is, and the engine is enabled in its own
mode only. -/
structure Isolated (router : AmapRouteGuidance) : Prop where
  allowed : router.detector.mode ≠ .legacy → router.detector.sourceAllowsBehaviorProbe = true
  disabled : router.detector.mode ≠ .v38Compat → router.v38.enabled = false

theorem isolated_of_legacy {router : AmapRouteGuidance} (legacy : router.detector.mode = .legacy)
    (disabled : router.v38.enabled = false) : Isolated router :=
  ⟨fun other => absurd legacy other, fun _ => disabled⟩

theorem sourceAllows_congr {first second : AmapProtocolDetector}
    (same : first.sourceName = second.sourceName) :
    first.sourceAllowsBehaviorProbe = second.sourceAllowsBehaviorProbe := by
  unfold AmapProtocolDetector.sourceAllowsBehaviorProbe
  rw [same]

theorem observe_enabled (data : BusData) (now : Int) (engine : AmapV38Compat) :
    (engine.observe data now).enabled = engine.enabled := by
  unfold AmapV38Compat.observe AmapV38Compat.noteEvidence
  split_ifs <;> rfl

/-- A frame that does not lead away from Amap names no other source. -/
theorem observed_sourceAllows {data : BusData} {now : Int} {router : AmapRouteGuidance}
    (allowed : router.detector.sourceAllowsBehaviorProbe = true)
    (goesOn : GoesOn data (router.observeFrame data now))
    (notLegacy : router.detector.mode ≠ .legacy) :
    (router.observeFrame data now).detector.sourceAllowsBehaviorProbe = true := by
  have named : (router.observeFrame data now).detector.sourceName =
      (AmapProtocolDetector.namedSource data <|> router.detector.sourceName) := rfl
  have stays : AmapProtocolDetector.sourceChangedAwayFromAmap data = false := by
    by_contra changed
    exact goesOn.stays ⟨notLegacy, by simpa using changed⟩
  cases source : AmapProtocolDetector.namedSource data with
  | none =>
      rw [source] at named
      exact (sourceAllows_congr named).trans allowed
  | some name =>
      rw [source] at named
      simp only [AmapProtocolDetector.sourceChangedAwayFromAmap, source, Option.any_some,
        Bool.not_eq_false'] at stays
      have nameEq : (router.observeFrame data now).detector.sourceName = some name := named
      unfold AmapProtocolDetector.sourceAllowsBehaviorProbe
      rw [nameEq]
      cases name with
      | nil => rfl
      | cons => exact stays

theorem isolated_onFrame {type : Nat} {payload : List UInt8} {times : FrameTimes}
    {router : AmapRouteGuidance} (isolated : Isolated router) :
    Isolated (onFrame type payload times router).1 := by
  by_cases ours : type = evtRgdUpdate ∧ payload ≠ []
  · obtain ⟨rfl, nonempty⟩ := ours
    obtain ⟨middle, forwarded, finish, way, result⟩ := onFrame_case nonempty times router
    have enabled := observe_enabled (parseText payload) times.observed router.v38
    rw [result]
    generalize observedEq : router.observeFrame (parseText payload) times.observed = observed at way
    have mode : observed.detector.mode = router.detector.mode := by rw [← observedEq]; rfl
    have engine : observed.v38.enabled = router.v38.enabled := by
      rw [← observedEq]
      exact enabled
    have allowed : GoesOn (parseText payload) observed → observed.detector.mode ≠ .legacy →
        observed.observeActiveRoute.detector.sourceAllowsBehaviorProbe = true := by
      intro goesOn notLegacy
      rw [sourceAllows_congr (observeActiveRoute_sourceName observed), ← observedEq]
      rw [← observedEq] at goesOn
      rw [mode] at notLegacy
      exact observed_sourceAllows (isolated.allowed notLegacy) goesOn notLegacy
    cases way with
    | released | cleared | recovered => exact isolated_of_legacy rfl rfl
    | plain goesOn legacy =>
        refine isolated_of_legacy ((observeActiveRoute_mode observed).trans legacy) ?_
        exact engine.trans (isolated.disabled (by rw [← mode, legacy]; decide))
    | begun goesOn legacy wanted =>
        refine ⟨fun _ => ?_, fun _ => ?_⟩
        · simp only [probeWanted, AmapProtocolDetector.shouldBeginProbe, Bool.and_eq_true] at wanted
          exact wanted.1.1.2
        · exact engine.trans (isolated.disabled (by rw [← mode, legacy]; decide))
    | confirmed ready goesOn probing _ _ readyEq =>
        subst readyEq
        exact ⟨fun _ => allowed goesOn (by rw [probing]; decide), fun other => absurd rfl other⟩
    | probing goesOn probing =>
        refine ⟨fun _ => allowed goesOn (by rw [probing]; decide), fun _ => ?_⟩
        exact engine.trans (isolated.disabled (by rw [← mode, probing]; decide))
    | engine active goesOn compat activeEq =>
        subst activeEq
        refine ⟨fun _ => allowed goesOn (by rw [compat]; decide), fun other => ?_⟩
        exact absurd ((observeActiveRoute_mode observed).trans compat) other
  · rw [onFrame_passed ours]
    exact ⟨isolated.allowed, isolated.disabled⟩

theorem isolated_amapStep {label : AmapLabel} {router : AmapRouteGuidance}
    (isolated : Isolated router) : Isolated (amapStep label router).1 := by
  cases label with
  | start | stop => exact isolated_of_legacy rfl rfl
  | frame type payload times => exact isolated_onFrame isolated
  | probeWakes generation =>
      dsimp only [amapStep, probeWakes]
      split_ifs
      · exact isolated_of_legacy rfl rfl
      · exact isolated
  | softWakes generation now =>
      dsimp only [amapStep, softWakes]
      split_ifs
      · exact ⟨isolated.allowed, isolated.disabled⟩
      · exact isolated

theorem isolated_of_run {router : AmapRouteGuidance} {calls : List BridgeCall}
    (run : amapRouteGuidance.Run router calls) : Isolated router := by
  refine run.invariant (fun router _ => Isolated router) (isolated_of_legacy rfl rfl) ?_
  intro router next calls events label isolated _ stepTo
  have nextEq : (amapStep label router).1 = next := congrArg Prod.fst (Option.some.inj stepTo)
  rw [← nextEq]
  exact isolated_amapStep isolated

/-- What is left of the router for a source that is known not to be Amap: every
frame reaches the receiver as it is, in the legacy mode and with the engine
disabled, and the timers send nothing. -/
structure LeavesForeignSources (router : AmapRouteGuidance) : Prop where
  probed : router.detector.mode ≠ .legacy → router.detector.sourceAllowsBehaviorProbe = true
  frames : ∀ type payload times,
    (onFrame type payload times router).1.detector.sourceAllowsBehaviorProbe = false →
      ∃ front : AmapRouteGuidance, front.guidance = router.guidance ∧
        front.detector.mode = .legacy ∧ front.v38.enabled = false ∧
        onFrame type payload times router = super (RouteGuidance.onFrame type payload) front
  timers : router.detector.sourceAllowsBehaviorProbe = false → ∀ generation now,
    probeWakes generation router = (router, []) ∧ softWakes generation now router = (router, [])

/-- A frame that leaves the router in the legacy mode is forwarded as it is. -/
theorem FrameCase.asItIs_of_legacy {payload forwarded : List UInt8} {data : BusData} {now : Int}
    {observed middle : AmapRouteGuidance} {finish : AmapRouteGuidance → AmapRouteGuidance}
    (way : FrameCase payload data now observed middle forwarded finish)
    (legacy : (finish (forward forwarded middle).1).detector.mode = .legacy) :
    forwarded = payload ∧ finish = id ∧ middle.guidance = observed.guidance := by
  cases way with
  | released | cleared | plain | recovered => exact ⟨rfl, rfl, rfl⟩
  | begun => cases legacy
  | confirmed ready _ _ _ _ readyEq =>
      subst readyEq
      cases legacy
  | probing _ probing =>
      have mode := (observeActiveRoute_mode observed).trans probing
      exact absurd (mode.symm.trans legacy) (by decide)
  | engine active _ compat activeEq =>
      subst activeEq
      have mode := (observeActiveRoute_mode observed).trans compat
      exact absurd (mode.symm.trans legacy) (by decide)

/-- A frame of a foreign source is forwarded. -/
theorem onFrame_foreign {router : AmapRouteGuidance} (isolated : Isolated router) {type : Nat}
    {payload : List UInt8} {times : FrameTimes}
    (foreign : (onFrame type payload times router).1.detector.sourceAllowsBehaviorProbe = false) :
    ∃ front : AmapRouteGuidance, front.guidance = router.guidance ∧
      front.detector.mode = .legacy ∧ front.v38.enabled = false ∧
      onFrame type payload times router = super (RouteGuidance.onFrame type payload) front := by
  have after : Isolated (onFrame type payload times router).1 := isolated_onFrame isolated
  have legacy : (onFrame type payload times router).1.detector.mode = .legacy := by
    by_contra other
    rw [after.allowed other] at foreign
    cases foreign
  have disabled := after.disabled (by rw [legacy]; decide)
  by_cases ours : type = evtRgdUpdate ∧ payload ≠ []
  · obtain ⟨rfl, nonempty⟩ := ours
    obtain ⟨middle, forwarded, finish, way, result⟩ := onFrame_case nonempty times router
    have receiver : (router.observeFrame (parseText payload) times.observed).guidance =
        router.guidance := rfl
    rw [result] at legacy disabled ⊢
    obtain ⟨rfl, rfl, sameReceiver⟩ := way.asItIs_of_legacy legacy
    exact ⟨middle, sameReceiver.trans receiver, legacy, disabled, rfl⟩
  · have passed := onFrame_passed ours times router
    rw [passed] at legacy disabled
    exact ⟨router, rfl, legacy, disabled, passed⟩

/-- A timer of the router is only of use while a source is probed or held. -/
theorem wakes_foreign {router : AmapRouteGuidance} (isolated : Isolated router)
    (foreign : router.detector.sourceAllowsBehaviorProbe = false) (generation : Int32) (now : Int) :
    probeWakes generation router = (router, []) ∧
      softWakes generation now router = (router, []) := by
  have legacy : router.detector.mode = .legacy := by
    by_contra other
    rw [isolated.allowed other] at foreign
    cases foreign
  have disabled := isolated.disabled (by rw [legacy]; decide)
  constructor
  · exact if_neg fun wakes => absurd (legacy.symm.trans wakes.2.2) (by decide)
  · refine if_neg fun wakes => ?_
    have holding := wakes.2.2.1
    rw [AmapV38Compat.isSoftInactiveHolding, disabled] at holding
    cases holding

/-- In every run, a source that is known not to be Amap is left alone. -/
theorem foreign_sources_left_alone {router : AmapRouteGuidance} {calls : List BridgeCall}
    (run : amapRouteGuidance.Run router calls) : LeavesForeignSources router where
  probed := (isolated_of_run run).allowed
  frames _ _ _ foreign := onFrame_foreign (isolated_of_run run) foreign
  timers foreign generation now := wakes_foreign (isolated_of_run run) foreign generation now

def textFrame (text : String) : AmapLabel :=
  .frame evtRgdUpdate (Utf8Text.encode text.toList) ⟨0, 0⟩

/-- A probe of Amap, and then a frame that names another source. -/
def renamedLabels : List AmapLabel :=
  [.start, textFrame "source_name:s:Amap\nroute_state:n:1\nvisible_in_app:n:1\n",
    textFrame "visible_in_app:n:0\nmaneuver_count:n:0\n", textFrame "source_name:s:Waze\n"]

theorem renamed_source_left_alone :
    (performAll amapStep renamedLabels fresh).1.detector.sourceAllowsBehaviorProbe = false ∧
      LeavesForeignSources (performAll amapStep renamedLabels fresh).1 :=
  ⟨by decide +kernel, foreign_sources_left_alone (run_performAll fresh amapStep renamedLabels)⟩

/-- The keys that evidence is taken from. -/
def evidenceKeys : List RouteKey :=
  [.routeState, .maneuverCount, .maneuverList, .amapRouteGeneration, .amapHeadIapIndex,
    .distManeuverM, .amapRouteUpdateSeq]

/-- The frames say the same wherever evidence is taken from. -/
def SameEvidence (first second : BusData) : Prop :=
  ∀ key ∈ evidenceKeys, second.str (RgdKey.route key).text = first.str (RgdKey.route key).text

theorem SameEvidence.has_eq {first second : BusData} (same : SameEvidence first second)
    {key : RouteKey} (isEvidence : key ∈ evidenceKeys) :
    second.has (RgdKey.route key).text = first.has (RgdKey.route key).text := by
  rw [Bool.eq_iff_iff, BusData.has_iff, BusData.has_iff, same key isEvidence]

theorem SameEvidence.evidence_eq {first second : BusData} (same : SameEvidence first second)
    (detector : AmapProtocolDetector) :
    detector.hasV38ConfirmationEvidence second = detector.hasV38ConfirmationEvidence first := by
  have routeState : RouteKey.routeState ∈ evidenceKeys := by decide
  have maneuverCount : RouteKey.maneuverCount ∈ evidenceKeys := by decide
  have baseline : AmapProtocolDetector.baselineOf second =
      AmapProtocolDetector.baselineOf first := by
    simp only [AmapProtocolDetector.baselineOf, BusData.num]
    rw [same .amapRouteUpdateSeq (by decide), same .amapRouteGeneration (by decide),
      same .amapHeadIapIndex (by decide), same .distManeuverM (by decide)]
  simp only [AmapProtocolDetector.hasV38ConfirmationEvidence, BusData.numField, BusData.num,
    BusData.intList, baseline]
  rw [same.has_eq routeState, same.has_eq maneuverCount,
    same .routeState (by decide), same .maneuverCount (by decide), same .maneuverList (by decide)]

/-- The labels do not end the probe that is under way. -/
def StaysProbing (labels : List AmapLabel) (router : AmapRouteGuidance) : Prop :=
  ∀ taken, taken <+: labels → (performAll amapStep taken router).1.detector.mode = .probing

/-- A probe that goes on keeps its baseline. -/
theorem baseline_amapStep {label : AmapLabel} {router : AmapRouteGuidance}
    (before : router.detector.mode = .probing)
    (after : (amapStep label router).1.detector.mode = .probing) :
    (amapStep label router).1.detector.baseline = router.detector.baseline := by
  cases label with
  | start | stop => cases after
  | frame type payload times =>
      dsimp only [amapStep] at after ⊢
      by_cases ours : type = evtRgdUpdate ∧ payload ≠ []
      · obtain ⟨rfl, nonempty⟩ := ours
        obtain ⟨middle, forwarded, finish, way, result⟩ := onFrame_case nonempty times router
        rw [result] at after ⊢
        have mode : (router.observeFrame (parseText payload) times.observed).detector.mode =
            .probing := before
        have baseline : (router.observeFrame (parseText payload)
            times.observed).detector.baseline = router.detector.baseline := rfl
        generalize router.observeFrame (parseText payload) times.observed = observed
          at way mode baseline
        cases way with
        | released | cleared | recovered => cases after
        | plain _ legacy | begun _ legacy => exact absurd (mode.symm.trans legacy) (by decide)
        | confirmed ready _ _ _ _ readyEq =>
            subst readyEq
            cases after
        | probing => exact (observeActiveRoute_baseline observed).trans baseline
        | engine active _ compat => exact absurd (mode.symm.trans compat) (by decide)
      · rw [onFrame_passed ours]
        rfl
  | probeWakes generation =>
      dsimp only [amapStep, probeWakes] at after ⊢
      split_ifs at after ⊢
      · cases after
      · rfl
  | softWakes generation now =>
      dsimp only [amapStep, softWakes]
      split_ifs
      · rfl
      · rfl

theorem StaysProbing.baseline_eq {labels : List AmapLabel} {router : AmapRouteGuidance}
    (stays : StaysProbing labels router) :
    (performAll amapStep labels router).1.detector.baseline = router.detector.baseline := by
  induction labels generalizing router with
  | nil => rfl
  | cons label labels ih =>
      have first : router.detector.mode = .probing := stays [] (List.nil_prefix)
      have second : (amapStep label router).1.detector.mode = .probing :=
        stays [label] (List.cons_prefix_cons.mpr ⟨rfl, List.nil_prefix⟩)
      have later : StaysProbing labels (amapStep label router).1 := fun taken isPrefix =>
        stays (label :: taken) (List.cons_prefix_cons.mpr ⟨rfl, isPrefix⟩)
      exact (ih later).trans (baseline_amapStep first second)

/-- What a frame that begins a probe is like. -/
theorem baseline_of_begun {router : AmapRouteGuidance} {payload : List UInt8} {times : FrameTimes}
    (legacy : router.detector.mode = .legacy)
    (begun : (onFrame evtRgdUpdate payload times router).1.detector.mode = .probing) :
    (onFrame evtRgdUpdate payload times router).1.detector.baseline =
        AmapProtocolDetector.baselineOf (parseText payload) ∧
      ((parseText payload).numField (.route .routeState) (-1)).any (1 < ·) = false ∧
      ((parseText payload).numField (.route .maneuverCount) 0).any (0 < ·) = false := by
  by_cases nonempty : payload = []
  · rw [onFrame_passed (fun ours => ours.2 nonempty)] at begun
    exact absurd (legacy.symm.trans begun) (by decide)
  obtain ⟨middle, forwarded, finish, way, result⟩ := onFrame_case nonempty times router
  rw [result] at begun ⊢
  have mode : (router.observeFrame (parseText payload) times.observed).detector.mode =
      .legacy := legacy
  have routeState : (router.observeFrame (parseText payload) times.observed).rawRouteState =
      ((parseText payload).numField (.route .routeState) (-1)).getD router.rawRouteState := rfl
  have count : (router.observeFrame (parseText payload) times.observed).rawManeuverCount =
      ((parseText payload).numField (.route .maneuverCount) 0).getD router.rawManeuverCount := rfl
  generalize router.observeFrame (parseText payload) times.observed = observed
    at way mode routeState count
  cases way with
  | released | cleared | recovered => cases begun
  | plain =>
      have stays := (observeActiveRoute_mode observed).trans mode
      exact absurd (stays.symm.trans begun) (by decide)
  | confirmed _ _ probing | probing _ probing => exact absurd (mode.symm.trans probing) (by decide)
  | engine _ _ compat => exact absurd (mode.symm.trans compat) (by decide)
  | begun _ _ wanted =>
      simp only [probeWanted, AmapProtocolDetector.shouldBeginProbe, Bool.and_eq_true,
        decide_eq_true_eq] at wanted
      obtain ⟨-, isRoute, isEmpty, -⟩ := wanted
      have isOne : observed.rawRouteState = 1 := isRoute
      have isZero : observed.rawManeuverCount = 0 := isEmpty
      refine ⟨rfl, ?_, ?_⟩
      · rw [routeState] at isOne
        cases read : (parseText payload).numField (.route .routeState) (-1) with
        | none => rfl
        | some value =>
            rw [read, Option.getD_some] at isOne
            simp [isOne]
      · rw [count] at isZero
        cases read : (parseText payload).numField (.route .maneuverCount) 0 with
        | none => rfl
        | some value =>
            rw [read, Option.getD_some] at isZero
            simp [isZero]

/-- The baseline of a probe confirms the probe if and only if it has a maneuver
list that is not empty. -/
theorem baseline_confirms_iff {router : AmapRouteGuidance} {payload : List UInt8}
    {times : FrameTimes} (legacy : router.detector.mode = .legacy)
    (begun : (onFrame evtRgdUpdate payload times router).1.detector.mode = .probing) :
    (∀ labels data,
      StaysProbing labels (onFrame evtRgdUpdate payload times router).1 →
        SameEvidence (parseText payload) data →
          (performAll amapStep labels
            (onFrame evtRgdUpdate payload times router).1).1.detector.hasV38ConfirmationEvidence
              data = false) ↔
      ((parseText payload).intList (RgdKey.route .maneuverList).text).any (· ≠ []) = false := by
  obtain ⟨baseline, noRoute, noCount⟩ := baseline_of_begun legacy begun
  have evidence : ∀ detector : AmapProtocolDetector,
      detector.baseline = AmapProtocolDetector.baselineOf (parseText payload) →
      detector.hasV38ConfirmationEvidence (parseText payload) =
        ((parseText payload).intList (RgdKey.route .maneuverList).text).any (· ≠ []) := by
    intro detector same
    rw [AmapProtocolDetector.hasV38ConfirmationEvidence, noRoute, noCount, same,
      AmapProtocolDetector.showsProgress_self, Bool.false_or, Bool.false_or, Bool.or_false]
  constructor
  · intro never
    have stays : StaysProbing [] (onFrame evtRgdUpdate payload times router).1 := by
      intro taken isPrefix
      rw [List.prefix_nil.mp isPrefix]
      exact begun
    have atOnce := never [] (parseText payload) stays fun _ _ => rfl
    rwa [performAll, evidence _ baseline] at atOnce
  · intro noList labels data stays same
    rw [same.evidence_eq, evidence _ (stays.baseline_eq.trans baseline)]
    exact noList

/-- A route that is shown. -/
def shownRoute : AmapRouteGuidance :=
  (performAll amapStep [.start, textFrame "route_state:n:1\nvisible_in_app:n:1\n"] fresh).1

def emptyFrame : List UInt8 :=
  Utf8Text.encode "route_state:n:1\nmaneuver_count:n:0\nvisible_in_app:n:0\n".toList

/-- The frame that begins a probe of the route, once more. -/
theorem emptyFrame_confirms_nothing :
    (onFrame evtRgdUpdate emptyFrame ⟨0, 0⟩ shownRoute).1.detector.hasV38ConfirmationEvidence
      (parseText emptyFrame) = false := by
  have legacy : shownRoute.detector.mode = .legacy := by decide +kernel
  have begun : (onFrame evtRgdUpdate emptyFrame ⟨0, 0⟩ shownRoute).1.detector.mode = .probing := by
    decide +kernel
  refine (baseline_confirms_iff legacy begun).mpr (by decide +kernel) [] _ ?_ fun _ _ => rfl
  intro taken isPrefix
  rw [List.prefix_nil.mp isPrefix]
  exact begun

def listedFrame : List UInt8 :=
  Utf8Text.encode
    "route_state:n:1\nmaneuver_count:n:0\nmaneuver_list:s:3\nvisible_in_app:n:0\n".toList

/-- With a maneuver list, the frame that begins a probe confirms it. -/
theorem listedFrame_confirms_itself :
    ¬ ∀ router calls, amapRouteGuidance.Run router calls →
      ∀ payload times, router.detector.mode = .legacy →
        (onFrame evtRgdUpdate payload times router).1.detector.mode = .probing →
          ∀ labels data, StaysProbing labels (onFrame evtRgdUpdate payload times router).1 →
            SameEvidence (parseText payload) data →
              (performAll amapStep labels
                (onFrame evtRgdUpdate payload times router).1).1.detector.hasV38ConfirmationEvidence
                  data = false := by
  intro never
  have begun : (onFrame evtRgdUpdate listedFrame ⟨0, 0⟩ shownRoute).1.detector.mode = .probing := by
    decide +kernel
  have quiet := never shownRoute _ (run_performAll fresh amapStep _) listedFrame ⟨0, 0⟩
    (by decide +kernel) begun [] (parseText listedFrame)
    (fun taken isPrefix => by
      rw [List.prefix_nil.mp isPrefix]
      exact begun)
    fun _ _ => rfl
  exact absurd quiet (by decide +kernel)

end AmapRouteGuidance

end CarplayRgi
