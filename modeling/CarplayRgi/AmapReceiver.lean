import CarplayRgi.AmapProtectedFrames
import CarplayRgi.RouteGuidanceGate

/-!
# The receiver behind the router

Whatever the router forwards, the receiver behind it goes through a run of its
own.  After a probe has timed out the receiver is inactive, and it stays so as
long as no frame that repeats the inactive route carries a visibility: such a
frame begins the next probe at once, and is protected.
-/

namespace CarplayRgi

open RouteGuidance Utf8Text

namespace AmapRouteGuidance

theorem FrameCase.middle_guidance {payload forwarded : List UInt8} {data : BusData} {now : Int}
    {observed middle : AmapRouteGuidance} {finish : AmapRouteGuidance → AmapRouteGuidance}
    (way : FrameCase payload data now observed middle forwarded finish) :
    middle.guidance = observed.guidance := by
  cases way with
  | confirmed ready _ _ _ _ readyEq =>
      subst readyEq
      rfl
  | engine active _ _ activeEq =>
      subst activeEq
      rfl
  | released | cleared | plain | begun | recovered | probing => rfl

theorem FrameCase.finish_guidance {payload forwarded : List UInt8} {data : BusData} {now : Int}
    {observed middle : AmapRouteGuidance} {finish : AmapRouteGuidance → AmapRouteGuidance}
    (way : FrameCase payload data now observed middle forwarded finish)
    (router : AmapRouteGuidance) : (finish router).guidance = router.guidance := by
  cases way <;> rfl

/-- A step of the router is a step of the receiver, or none. -/
theorem amapStep_receiver (label : AmapLabel) (router : AmapRouteGuidance) :
    (∃ inner, routeGuidanceStep inner router.guidance =
        ((amapStep label router).1.guidance, (amapStep label router).2)) ∨
      ((amapStep label router).1.guidance = router.guidance ∧ (amapStep label router).2 = []) := by
  cases label with
  | start => exact .inl ⟨.start, rfl⟩
  | stop => exact .inl ⟨.stop, rfl⟩
  | frame type payload times =>
      left
      by_cases ours : type = evtRgdUpdate ∧ payload ≠ []
      · obtain ⟨rfl, nonempty⟩ := ours
        obtain ⟨middle, forwarded, finish, way, result⟩ := onFrame_case nonempty times router
        refine ⟨.frame evtRgdUpdate forwarded, ?_⟩
        have sameReceiver : middle.guidance = router.guidance := way.middle_guidance
        rw [amapStep, result, way.finish_guidance, ← sameReceiver]
        rfl
      · refine ⟨.frame type payload, ?_⟩
        rw [amapStep, onFrame_passed ours]
        rfl
  | probeWakes generation =>
      dsimp only [amapStep, probeWakes]
      split_ifs
      · exact .inl ⟨.frame evtRgdUpdate router.probeInactiveFrame, rfl⟩
      · exact .inr ⟨rfl, rfl⟩
  | softWakes generation now =>
      dsimp only [amapStep, softWakes]
      split_ifs
      · exact .inl
          ⟨.frame evtRgdUpdate router.v38.noteSoftInactiveExpired.buildSoftInactiveExpiryFrame, rfl⟩
      · exact .inr ⟨rfl, rfl⟩

theorem receiver_step {router : AmapRouteGuidance} {calls : List BridgeCall}
    (before : routeGuidance.Run router.guidance calls) (label : AmapLabel) :
    routeGuidance.Run (amapStep label router).1.guidance
      (calls ++ (amapStep label router).2) := by
  rcases amapStep_receiver label router with ⟨inner, stepped⟩ | ⟨same, silent⟩
  · exact .next before trivial (congrArg some stepped)
  · rw [same, silent, List.append_nil]
    exact before

/-- The calls of a run of the router are those of a run of the receiver. -/
theorem receiver_run {router : AmapRouteGuidance} {calls : List BridgeCall}
    (run : amapRouteGuidance.Run router calls) : routeGuidance.Run router.guidance calls := by
  refine run.invariant (fun router calls => routeGuidance.Run router.guidance calls) .start ?_
  intro router next calls events label before _ stepTo
  obtain ⟨rfl, rfl⟩ : (amapStep label router).1 = next ∧ (amapStep label router).2 = events :=
    Prod.mk.injEq _ _ _ _ ▸ Option.some.inj stepTo
  exact receiver_step before label

/-- No record of the frame has the key, also where the table has no room. -/
def Lacks (key : RouteKey) (payload : List UInt8) : Prop :=
  ∀ record ∈ frameRecords (decode payload), record.1 ≠ (RgdKey.route key).text

theorem Lacks.str_eq {key : RouteKey} {payload : List UInt8} (lacks : Lacks key payload) :
    (parseText payload).str (RgdKey.route key).text = none := by
  rw [BusData.str, Option.map_eq_none_iff, List.find?_eq_none, parseText_frameRecords]
  intro record member
  simpa using lacks record (List.mem_of_mem_take member)

theorem Lacks.has_eq {key : RouteKey} {payload : List UInt8} (lacks : Lacks key payload) :
    (parseText payload).has (RgdKey.route key).text = false := by
  rw [Bool.eq_false_iff, Ne, BusData.has_iff, lacks.str_eq]
  decide

/-- The protection of a frame adds no key. -/
theorem Lacks.protected {key : RouteKey} {payload : List UInt8} (lacks : Lacks key payload)
    (data : BusData) (router : AmapRouteGuidance) :
    Lacks key (router.protectProbeFrame payload data) := by
  intro record member
  rw [frameRecords_protectProbeFrame] at member
  obtain ⟨original, inside, changed⟩ := List.mem_filterMap.mp member
  rw [protectRecord_key changed]
  exact lacks original inside

theorem visibleInAppField_of_lacks {payload : List UInt8} (lacks : Lacks .visibleInApp payload) :
    visibleInAppField (parseText payload) = none := by
  unfold visibleInAppField BusData.numField
  rw [lacks.has_eq]
  rfl

/-- While the receiver runs, it shows no guidance. -/
def Hides (rg : RouteGuidance) : Prop :=
  rg.running = true → rg.state.route.visibleInApp = 0

/-- A frame that says nothing else about the visibility leaves it hidden. -/
theorem hides_onFrame {rg : RouteGuidance} {payload : List UInt8}
    (noReason : rg.state.route.disconnectReason = none)
    (noKey : (parseText payload).has (RgdKey.route .disconnectReason).text = false)
    (hidden : visibleInAppField (parseText payload) = some 0 ∨
      visibleInAppField (parseText payload) = none ∧ Hides rg) :
    Hides (RouteGuidance.onFrame evtRgdUpdate payload rg).1 := by
  by_cases running : rg.running = true
  · intro _
    refine (onFrame_visibleInApp ⟨running, noReason⟩ noKey).trans ?_
    rcases hidden with isZero | ⟨same, hides⟩
    · rw [isZero]
      rfl
    · rw [same]
      exact hides running
  · have ignored : RouteGuidance.onFrame evtRgdUpdate payload rg = (rg, []) := by
      simp [RouteGuidance.onFrame, running]
    rw [ignored]
    exact fun isRunning => absurd isRunning running

theorem hides_of_inactiveText {rg : RouteGuidance}
    (noReason : rg.state.route.disconnectReason = none) (routeState : Option Int)
    (sourceSupportsRg : Int) :
    Hides (RouteGuidance.onFrame evtRgdUpdate
      (encode (AmapV38Compat.inactiveText routeState sourceSupportsRg)) rg).1 := by
  have str := AmapV38Compat.inactiveText_str routeState sourceSupportsRg
  have zero : parseInt ['0'] = some 0 := by decide
  refine hides_onFrame noReason (AmapV38Compat.inactiveText_noDisconnect _ _) (.inl ?_)
  · have visible : (parseText (encode (AmapV38Compat.inactiveText routeState
        sourceSupportsRg))).str (RgdKey.route .visibleInApp).text = some ['0'] := by
      rw [str]
      unfold AmapV38Compat.inactiveLines
      cases routeState <;> split_ifs <;> simp
    have present : (parseText (encode (AmapV38Compat.inactiveText routeState
        sourceSupportsRg))).has (RgdKey.route .visibleInApp).text = true := by
      rw [BusData.has_iff, visible]
      rfl
    simp [visibleInAppField, BusData.numField, BusData.num, present, visible, zero]

/-- The timer of the probe ends it when it wakes. -/
structure ProbeExpires (generation : Int32) (router : AmapRouteGuidance) : Prop where
  running : router.timers.probeTimerRunning = true
  current : generation = router.timers.probeGeneration
  probing : router.detector.mode = .probing

/-- The frame repeats the inactive route: nothing new is said, and neither the
source nor the route changes. -/
structure RepeatsInactive (payload : List UInt8) (data : BusData) (observed : AmapRouteGuidance) :
    Prop where
  routeState : observed.rawRouteState = 1
  maneuverCount : observed.rawManeuverCount = 0
  visibleInApp : observed.rawVisibleInApp = 0
  goesOn : GoesOn data observed
  noEvidence : observed.detector.mode = .probing →
    observed.detector.hasV38ConfirmationEvidence data = false
  noDisconnect : Lacks .disconnectReason payload

def RepeatsAt : AmapLabel → AmapRouteGuidance → Prop
  | .start, _ | .stop, _ => False
  | .probeWakes _, _ | .softWakes _ _, _ => True
  | .frame type payload times, router =>
      type = evtRgdUpdate ∧ payload ≠ [] ∧
        RepeatsInactive payload (parseText payload)
          (router.observeFrame (parseText payload) times.observed)

/-- Every frame repeats the inactive route, and the timers may wake in between. -/
def Repeats : List AmapLabel → AmapRouteGuidance → Prop
  | [], _ => True
  | label :: labels, router => RepeatsAt label router ∧ Repeats labels (amapStep label router).1

/-- The receiver shows nothing, and the engine does not answer. -/
structure Dormant (router : AmapRouteGuidance) : Prop where
  notEngine : router.detector.mode ≠ .v38Compat
  reached : ∃ calls, routeGuidance.Run router.guidance calls
  hides : Hides router.guidance

theorem Dormant.inactive {router : AmapRouteGuidance} (dormant : Dormant router) :
    router.guidance.rgActive = false := by
  obtain ⟨calls, run⟩ := dormant.reached
  have gating := routeGuidance_gating run
  by_contra active
  rw [Bool.not_eq_false] at active
  have running : router.guidance.running = true := by
    by_contra idle
    rw [gating.idle (Bool.eq_false_iff.mpr idle)] at active
    cases active
  exact (gating.admissible active).visibleInApp (dormant.hides running)

theorem dormant_probeWakes {router : AmapRouteGuidance} {calls : List BridgeCall}
    (reached : routeGuidance.Run router.guidance calls) {generation : Int32}
    (expires : ProbeExpires generation router) :
    Dormant (amapStep (.probeWakes generation) router).1 := by
  have noReason := (routeGuidance_gating reached).noReason
  refine ⟨?_, ⟨_, receiver_step reached _⟩, ?_⟩
  all_goals
    dsimp only [amapStep, probeWakes]
    rw [if_pos ⟨expires.running, expires.current, expires.probing⟩]
  · exact fun engine => AmapMode.noConfusion engine
  · exact hides_of_inactiveText noReason _ _

theorem dormant_frame {router : AmapRouteGuidance} (dormant : Dormant router)
    {payload : List UInt8} (nonempty : payload ≠ []) {times : FrameTimes}
    (repeats : RepeatsInactive payload (parseText payload)
      (router.observeFrame (parseText payload) times.observed))
    (noVisibility : Lacks .visibleInApp payload) :
    Dormant (onFrame evtRgdUpdate payload times router).1 := by
  obtain ⟨calls, run⟩ := dormant.reached
  have noReason := (routeGuidance_gating run).noReason
  -- what is forwarded says as little about the visibility as the frame
  have quiet : ∀ forwarded, Lacks .disconnectReason forwarded → Lacks .visibleInApp forwarded →
      Hides (RouteGuidance.onFrame evtRgdUpdate forwarded router.guidance).1 :=
    fun forwarded noDisconnect noVisible => hides_onFrame noReason noDisconnect.has_eq
      (.inr ⟨visibleInAppField_of_lacks noVisible, dormant.hides⟩)
  have reached : ∃ calls, routeGuidance.Run
      (onFrame evtRgdUpdate payload times router).1.guidance calls :=
    ⟨_, receiver_step run (.frame evtRgdUpdate payload times)⟩
  obtain ⟨middle, forwarded, finish, way, result⟩ := onFrame_case nonempty times router
  have mode : (router.observeFrame (parseText payload) times.observed).detector.mode =
      router.detector.mode := rfl
  have receiver : (router.observeFrame (parseText payload) times.observed).guidance =
      router.guidance := rfl
  rw [result] at reached ⊢
  generalize router.observeFrame (parseText payload) times.observed = observed
    at way repeats mode receiver
  rw [← receiver] at quiet
  cases way with
  | released notLegacy changed => exact absurd ⟨notLegacy, changed⟩ repeats.goesOn.stays
  | cleared clear => exact absurd (repeats.goesOn.notCleared.symm.trans clear) Bool.false_ne_true
  | plain _ legacy =>
      refine ⟨?_, reached, quiet payload repeats.noDisconnect noVisibility⟩
      rw [id, forward, super, observeActiveRoute_mode, legacy]
      decide
  | begun =>
      refine ⟨?_, reached, quiet _ (repeats.noDisconnect.protected _ _)
        (noVisibility.protected _ _)⟩
      exact fun engine => AmapMode.noConfusion engine
  | recovered _ _ visible =>
      exact absurd (repeats.visibleInApp.symm.trans visible) (by decide)
  | confirmed _ _ probing _ confirms =>
      exact absurd ((repeats.noEvidence probing).symm.trans confirms.2.2) Bool.false_ne_true
  | probing _ probing =>
      refine ⟨?_, reached, quiet _ (repeats.noDisconnect.protected _ _)
        (noVisibility.protected _ _)⟩
      rw [ensureProbeTimer, forward, super, observeActiveRoute_mode, probing]
      decide
  | engine _ _ compat => exact absurd (mode.symm.trans compat) dormant.notEngine

theorem dormant_step {label : AmapLabel} {router : AmapRouteGuidance} (dormant : Dormant router)
    (repeats : RepeatsAt label router)
    (noVisibility : ∀ type payload times, label = .frame type payload times →
      Lacks .visibleInApp payload) :
    Dormant (amapStep label router).1 := by
  obtain ⟨calls, run⟩ := dormant.reached
  cases label with
  | start | stop => exact absurd repeats not_false
  | frame type payload times =>
      obtain ⟨rfl, nonempty, repeats⟩ := repeats
      exact dormant_frame dormant nonempty repeats (noVisibility _ _ _ rfl)
  | probeWakes generation =>
      by_cases expires : ProbeExpires generation router
      · exact dormant_probeWakes run expires
      · dsimp only [amapStep, probeWakes]
        rw [if_neg fun wakes => expires ⟨wakes.1, wakes.2.1, wakes.2.2⟩]
        exact dormant
  | softWakes generation now =>
      refine ⟨?_, ⟨_, receiver_step run _⟩, ?_⟩
      all_goals
        dsimp only [amapStep, softWakes]
        split_ifs
      · exact dormant.notEngine
      · exact dormant.notEngine
      · exact hides_of_inactiveText (routeGuidance_gating run).noReason _ _
      · exact dormant.hides

/-- A route whose probe has timed out stays inactive while it is repeated, if
no frame carries a visibility. -/
theorem expired_probe_stays_inactive {router : AmapRouteGuidance} {calls : List BridgeCall}
    (run : amapRouteGuidance.Run router calls) {generation : Int32}
    (expires : ProbeExpires generation router) {labels : List AmapLabel}
    (repeats : Repeats labels (amapStep (.probeWakes generation) router).1)
    (noVisibility : ∀ type payload times, .frame type payload times ∈ labels →
      Lacks .visibleInApp payload) :
    (performAll amapStep labels
      (amapStep (.probeWakes generation) router).1).1.guidance.rgActive = false := by
  have dormant := dormant_probeWakes (receiver_run run) expires
  generalize (amapStep (.probeWakes generation) router).1 = expired at repeats dormant
  clear expires
  induction labels generalizing expired with
  | nil => exact dormant.inactive
  | cons label labels ih =>
      have next := dormant_step dormant repeats.1 fun type payload times isFrame =>
        noVisibility type payload times (by rw [isFrame]; exact List.mem_cons_self)
      exact ih (fun type payload times inside =>
        noVisibility type payload times (List.mem_cons_of_mem _ inside)) _ repeats.2 next

/-- The shown route while it is probed. -/
def probedRoute : AmapRouteGuidance :=
  (performAll amapStep [.frame evtRgdUpdate emptyFrame ⟨0, 0⟩] shownRoute).1

theorem probedRoute_run : ∃ calls, amapRouteGuidance.Run probedRoute calls :=
  ⟨_, run_append (run_performAll fresh amapStep _) [.frame evtRgdUpdate emptyFrame ⟨0, 0⟩]⟩

/-- The count is repeated without the visibility. -/
def countFrame : List UInt8 := encode "route_state:n:1\nmaneuver_count:n:0\n".toList

instance (key : RouteKey) (payload : List UInt8) : Decidable (Lacks key payload) :=
  inferInstanceAs (Decidable (∀ record ∈ frameRecords (decode payload), _))

instance (data : BusData) (observed : AmapRouteGuidance) : Decidable (GoesOn data observed) :=
  decidable_of_iff
    (¬ (observed.detector.mode ≠ .legacy ∧
        AmapProtocolDetector.sourceChangedAwayFromAmap data = true) ∧
      AmapProtocolDetector.isHardClear observed.rawRouteState observed.rawSourceSupportsRg data =
        false)
    ⟨fun both => ⟨both.1, both.2⟩, fun goesOn => ⟨goesOn.stays, goesOn.notCleared⟩⟩

instance (generation : Int32) (router : AmapRouteGuidance) :
    Decidable (ProbeExpires generation router) :=
  decidable_of_iff
    (router.timers.probeTimerRunning = true ∧ generation = router.timers.probeGeneration ∧
      router.detector.mode = .probing)
    ⟨fun all => ⟨all.1, all.2.1, all.2.2⟩,
      fun expires => ⟨expires.running, expires.current, expires.probing⟩⟩

instance (payload : List UInt8) (data : BusData) (observed : AmapRouteGuidance) :
    Decidable (RepeatsInactive payload data observed) :=
  decidable_of_iff
    ((observed.rawRouteState = 1 ∧ observed.rawManeuverCount = 0 ∧ observed.rawVisibleInApp = 0) ∧
      GoesOn data observed ∧
      (observed.detector.mode = .probing →
        observed.detector.hasV38ConfirmationEvidence data = false) ∧
      Lacks .disconnectReason payload)
    ⟨fun ⟨⟨routeState, count, visible⟩, goesOn, noEvidence, noDisconnect⟩ =>
        ⟨routeState, count, visible, goesOn, noEvidence, noDisconnect⟩,
      fun repeats => ⟨⟨repeats.routeState, repeats.maneuverCount, repeats.visibleInApp⟩,
        repeats.goesOn, repeats.noEvidence, repeats.noDisconnect⟩⟩

/-- The shown route once its probe has timed out. -/
def expiredRoute : AmapRouteGuidance := (amapStep (.probeWakes 1) probedRoute).1

/-- Both frames repeat the route that has timed out, and the one with the
visibility shows it again. -/
theorem expiredRoute_repeats :
    ProbeExpires 1 probedRoute ∧
      (countFrame ≠ [] ∧ Lacks .visibleInApp countFrame ∧
        RepeatsInactive countFrame (parseText countFrame)
          (expiredRoute.observeFrame (parseText countFrame) 0)) ∧
      (emptyFrame ≠ [] ∧
        RepeatsInactive emptyFrame (parseText emptyFrame)
          (expiredRoute.observeFrame (parseText emptyFrame) 0)) ∧
      (amapStep (.frame evtRgdUpdate emptyFrame ⟨0, 0⟩) expiredRoute).1.guidance.rgActive =
        true := by
  decide +kernel

theorem countFrame_stays_inactive :
    (performAll amapStep [.frame evtRgdUpdate countFrame ⟨0, 0⟩]
      (amapStep (.probeWakes 1) probedRoute).1).1.guidance.rgActive = false := by
  obtain ⟨calls, run⟩ := probedRoute_run
  obtain ⟨expires, ⟨nonempty, lacks, repeats⟩, -⟩ := expiredRoute_repeats
  refine expired_probe_stays_inactive run expires ⟨⟨rfl, nonempty, repeats⟩, trivial⟩ ?_
  intro type payload times inside
  cases List.mem_singleton.mp inside
  exact lacks

/-- The frame that began the probe begins the next one, and guidance is active
again. -/
theorem emptyFrame_reactivates :
    ¬ ∀ router calls, amapRouteGuidance.Run router calls →
      ∀ generation, ProbeExpires generation router →
        ∀ labels, Repeats labels (amapStep (.probeWakes generation) router).1 →
          (performAll amapStep labels
            (amapStep (.probeWakes generation) router).1).1.guidance.rgActive = false := by
  intro stays
  obtain ⟨calls, run⟩ := probedRoute_run
  obtain ⟨expires, -, ⟨nonempty, again⟩, active⟩ := expiredRoute_repeats
  have repeats : Repeats [.frame evtRgdUpdate emptyFrame ⟨0, 0⟩]
      (amapStep (.probeWakes 1) probedRoute).1 :=
    ⟨⟨rfl, nonempty, again⟩, trivial⟩
  have inactive := stays probedRoute calls run 1 expires _ repeats
  simp only [performAll, TracedOp.andThen] at inactive
  rw [expiredRoute, inactive] at active
  exact Bool.noConfusion active

end AmapRouteGuidance

end CarplayRgi
