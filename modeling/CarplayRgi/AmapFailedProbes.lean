import CarplayRgi.PublishedFrames
import CarplayRgi.RouteGuidanceAlike

/-!
# What a failed probe leaves behind

The frames of the hook are fed to the router and to a plain receiver.  While a
source is probed, the receiver behind the router does not see the visibility,
the empty list and the count of zero, and the timer of the probe sends it a
frame of its own.  Whether the receivers agree again after the probe depends on
what the frame that is forwarded next ends.
-/

namespace CarplayRgi

open RouteGuidance RgdState Utf8Text DecimalText

namespace AmapRouteGuidance

/-- The frame reaches the receiver as it is: the source has changed, the route
is cleared, no probe is wanted, or the route is visible again. -/
def forwardsAsItIs (payload : List UInt8) (times : FrameTimes) (router : AmapRouteGuidance) :
    Bool :=
  let data := parseText payload
  let observed := router.observeFrame data times.observed
  decide (payload = []) ||
    (decide (observed.detector.mode ≠ .legacy) &&
      AmapProtocolDetector.sourceChangedAwayFromAmap data) ||
    AmapProtocolDetector.isHardClear observed.rawRouteState observed.rawSourceSupportsRg data ||
    match observed.detector.mode with
    | .legacy => !observed.observeActiveRoute.probeWanted
    | .probing => decide (observed.rawVisibleInApp = 1)
    | .v38Compat => false

/-- The frame is protected, and the route goes on in a probe. -/
structure Protects (payload : List UInt8) (times : FrameTimes) (router : AmapRouteGuidance) :
    Prop where
  guidance : (onFrame evtRgdUpdate payload times router).1.guidance =
    (RouteGuidance.onFrame evtRgdUpdate
      ((router.observeFrame (parseText payload) times.observed).protectProbeFrame payload
        (parseText payload)) router.guidance).1
  stays : (parseText payload).has (RgdKey.route .disconnectReason).text = false
  begun : router.detector.mode = .legacy →
    (router.observeFrame (parseText payload) times.observed).rawRouteState = 1
  mode : router.detector.mode = .legacy ∨ router.detector.mode = .probing

theorem GoesOn.stays_connected {data : BusData} {observed : AmapRouteGuidance}
    (goesOn : GoesOn data observed) :
    data.has (RgdKey.route .disconnectReason).text = false := by
  have notCleared := goesOn.notCleared
  rw [AmapProtocolDetector.isHardClear, Bool.or_eq_false_iff] at notCleared
  exact notCleared.2

theorem asItIs_onFrame {payload : List UInt8} (nonempty : payload ≠ []) {times : FrameTimes}
    {router : AmapRouteGuidance} (asItIs : router.forwardsAsItIs payload times = true) :
    (onFrame evtRgdUpdate payload times router).1.guidance =
        (RouteGuidance.onFrame evtRgdUpdate payload router.guidance).1 ∧
      (onFrame evtRgdUpdate payload times router).1.detector.mode = .legacy := by
  obtain ⟨middle, forwarded, finish, way, result⟩ := onFrame_case nonempty times router
  have receiver : (router.observeFrame (parseText payload) times.observed).guidance =
      router.guidance := rfl
  unfold forwardsAsItIs at asItIs
  dsimp only at asItIs
  rw [result]
  generalize router.observeFrame (parseText payload) times.observed = observed
    at way receiver asItIs
  rw [← receiver]
  have passes : GoesOn (parseText payload) observed →
      (match observed.detector.mode with
        | .legacy => !observed.observeActiveRoute.probeWanted
        | .probing => decide (observed.rawVisibleInApp = 1)
        | .v38Compat => false) = true := by
    intro goesOn
    simpa [nonempty, goesOn.notCleared, goesOn.stays] using asItIs
  cases way with
  | released | cleared | recovered => exact ⟨rfl, rfl⟩
  | plain _ legacy => exact ⟨rfl, (observeActiveRoute_mode observed).trans legacy⟩
  | begun goesOn legacy wanted =>
      have wantsNone := passes goesOn
      rw [legacy] at wantsNone
      simp [wanted] at wantsNone
  | confirmed _ goesOn probing hidden =>
      have visible := passes goesOn
      rw [probing] at visible
      exact absurd (of_decide_eq_true visible) hidden
  | probing goesOn probing hidden =>
      have visible := passes goesOn
      rw [probing] at visible
      exact absurd (of_decide_eq_true visible) hidden
  | engine _ goesOn compat =>
      have impossible := passes goesOn
      rw [compat] at impossible
      cases impossible

theorem protects_onFrame {payload : List UInt8} (nonempty : payload ≠ []) {times : FrameTimes}
    {router : AmapRouteGuidance} (changed : router.forwardsAsItIs payload times = false)
    (never : (onFrame evtRgdUpdate payload times router).1.detector.mode ≠ .v38Compat) :
    Protects payload times router := by
  obtain ⟨middle, forwarded, finish, way, result⟩ := onFrame_case nonempty times router
  have mode : (router.observeFrame (parseText payload) times.observed).detector.mode =
      router.detector.mode := rfl
  unfold forwardsAsItIs at changed
  dsimp only at changed
  have receiver : middle.guidance = router.guidance := way.middle_guidance
  have guidance : (onFrame evtRgdUpdate payload times router).1.guidance =
      (RouteGuidance.onFrame evtRgdUpdate forwarded router.guidance).1 := by
    rw [result, way.finish_guidance, ← receiver]
    rfl
  rw [result] at never
  generalize observedEq : router.observeFrame (parseText payload) times.observed = observed
    at way mode changed
  cases way with
  | released notLegacy isChanged => simp [notLegacy, isChanged] at changed
  | cleared clear => simp [clear] at changed
  | plain _ legacy noProbe => simp [legacy, noProbe] at changed
  | recovered _ probing visible => simp [probing, visible] at changed
  | begun goesOn legacy wanted =>
      refine ⟨by rw [guidance, observedEq], goesOn.stays_connected, fun _ => ?_,
        .inl (mode.symm.trans legacy)⟩
      simp only [probeWanted, AmapProtocolDetector.shouldBeginProbe, Bool.and_eq_true,
        decide_eq_true_eq] at wanted
      rw [observedEq]
      exact wanted.2.1
  | probing goesOn probing =>
      refine ⟨by rw [guidance, observedEq], goesOn.stays_connected, fun legacy => ?_,
        .inr (mode.symm.trans probing)⟩
      exact absurd (probing.symm.trans (mode.trans legacy)) (by decide)
  | confirmed ready _ _ _ _ readyEq =>
      subst readyEq
      exact absurd rfl never
  | engine active _ compat activeEq =>
      subst activeEq
      exact absurd ((observeActiveRoute_mode observed).trans compat) never

/-- The raw values are those of the observed frame. -/
theorem onFrame_raw {payload : List UInt8} (nonempty : payload ≠ []) (times : FrameTimes)
    (router : AmapRouteGuidance) :
    (onFrame evtRgdUpdate payload times router).1.rawRouteState =
        ((parseText payload).numField (.route .routeState) (-1)).getD router.rawRouteState ∧
      (onFrame evtRgdUpdate payload times router).1.rawSourceSupportsRg =
        ((parseText payload).numField (.route .sourceSupportsRg) (-1)).getD
          router.rawSourceSupportsRg := by
  obtain ⟨middle, forwarded, finish, way, result⟩ := onFrame_case nonempty times router
  have observedRaw : (router.observeFrame (parseText payload) times.observed).rawRouteState =
      ((parseText payload).numField (.route .routeState) (-1)).getD router.rawRouteState ∧
    (router.observeFrame (parseText payload) times.observed).rawSourceSupportsRg =
      ((parseText payload).numField (.route .sourceSupportsRg) (-1)).getD
        router.rawSourceSupportsRg := ⟨rfl, rfl⟩
  rw [result]
  rw [← observedRaw.1, ← observedRaw.2]
  cases way with
  | confirmed ready _ _ _ _ readyEq =>
      subst readyEq
      exact ⟨rfl, rfl⟩
  | engine active _ _ activeEq =>
      subst activeEq
      exact ⟨rfl, rfl⟩
  | released | cleared | plain | begun | recovered | probing => exact ⟨rfl, rfl⟩

end AmapRouteGuidance

/-- A router, and a receiver that has none in front of it. -/
structure TwoReceivers where
  router : AmapRouteGuidance
  plain : RouteGuidance

inductive TwoReceiversLabel where
  /-- Both receive a frame. -/
  | frame (payload : List UInt8) (times : FrameTimes)
  /-- The timer of a probe wakes. -/
  | probeWakes (generation : Int32)

/-- A frame, whether it is forwarded as it is, and both receivers before and
after it. -/
structure ReceivedFrame where
  payload : List UInt8
  asItIs : Bool
  before : TwoReceivers
  after : TwoReceivers

def twoReceiversStep : TwoReceiversLabel → TracedOp TwoReceivers ReceivedFrame
  | .frame payload times => fun two =>
      let after : TwoReceivers :=
        ⟨(AmapRouteGuidance.onFrame evtRgdUpdate payload times two.router).1,
          (RouteGuidance.onFrame evtRgdUpdate payload two.plain).1⟩
      (after, [⟨payload, two.router.forwardsAsItIs payload times, two, after⟩])
  | .probeWakes generation => fun two =>
      ({ two with router := (AmapRouteGuidance.probeWakes generation two.router).1 }, [])

/-- Both have been started before the first frame. -/
def TwoReceivers.started : TwoReceivers :=
  ⟨(AmapRouteGuidance.start .fresh).1, (RouteGuidance.start .fresh).1⟩

def twoReceivers : TracedSystem TwoReceivers TwoReceiversLabel ReceivedFrame where
  init := .started
  step two label := some (twoReceiversStep label two)

/-- The frames that the events of the hook publish. -/
def publishedFrames (events : List HookEvent) : List (List UInt8) :=
  events.filterMap fun event => event.published.map frameText

namespace TwoReceivers

open AmapRouteGuidance

/-- The timer of a probe repeats the route that the receiver knows. -/
structure RepeatsRoute (two : TwoReceivers) : Prop where
  routeState : two.router.rawRouteState < 0 ∨
    two.router.rawRouteState = two.plain.state.route.routeState
  sourceSupportsRg : two.router.rawSourceSupportsRg < 0 ∨
    two.router.rawSourceSupportsRg = two.plain.state.route.sourceSupportsRg

/-- What the router remembers of the route is no older than what the receiver
knows: a probe begins when the receiver knows of a route, and its timer repeats
that route. -/
def KnowsRoute (two : TwoReceivers) : TwoReceiversLabel → Prop
  | .frame payload times =>
      two.router.forwardsAsItIs payload times = false → two.router.detector.mode = .legacy →
        0 ≤ two.plain.state.route.routeState ∨
          (parseText payload).has (RgdKey.route .routeState).text = true
  | .probeWakes generation => ProbeExpires generation two.router → two.RepeatsRoute

/-- The receivers differ at most in what a probe has held back. -/
structure Shadowed (two : TwoReceivers) : Prop where
  notEngine : two.router.detector.mode ≠ .v38Compat
  routerReady : Ready two.router.guidance
  plainReady : Ready two.plain
  related : Related two.router.guidance two.plain
  probed : two.router.detector.mode = .probing → SameRoute two.router.guidance two.plain
  rawRouteState : Fits 32 two.router.rawRouteState
  rawSourceSupportsRg : Fits 32 two.router.rawSourceSupportsRg

theorem fits_unknown : Fits 32 (-1) := by decide

theorem started_shadowed : started.Shadowed := by
  have ready : Ready (RouteGuidance.start .fresh).1 := by
    refine ⟨⟨rfl, rfl⟩, fun known => ?_⟩
    have impossible : (0 : Int) ≤ -1 := known
    exact absurd impossible (by decide)
  have started : (AmapRouteGuidance.start .fresh).1.detector.mode = .legacy := rfl
  refine ⟨?_, ready, ready, .inl rfl, fun probing => ?_, fits_unknown, fits_unknown⟩
  · exact fun engine => AmapMode.noConfusion (started.symm.trans engine)
  · exact AmapMode.noConfusion (started.symm.trans probing)

theorem fits_getD {data : BusData} {key : RgdKey} {number : Int} (fits : Fits 32 number) :
    Fits 32 ((data.numField key (-1)).getD number) := by
  cases read : data.numField key (-1) with
  | none => exact fits
  | some v => exact data.numField_fits key fits_unknown read

variable {two : TwoReceivers}

/-- A protected frame keeps the receivers in agreement on the route. -/
theorem Shadowed.protects (shadowed : two.Shadowed) {payload : List UInt8}
    (reaches : ∀ key, key ≠ .maneuverList → Reaches key payload) {times : FrameTimes}
    (knows : two.KnowsRoute (.frame payload times))
    (changed : two.router.forwardsAsItIs payload times = false)
    (protects : Protects payload times two.router) :
    SameRoute (AmapRouteGuidance.onFrame evtRgdUpdate payload times two.router).1.guidance
      (RouteGuidance.onFrame evtRgdUpdate payload two.plain).1 := by
  have guidance := protects.guidance
  generalize two.router.observeFrame (parseText payload) times.observed = observed at guidance
  have str : ∀ key ∉ protectedKeys,
      (parseText (observed.protectProbeFrame payload (parseText payload))).str
        (RgdKey.route key).text = (parseText payload).str (RgdKey.route key).text :=
    fun key other => str_protectProbeFrame other
      (reaches key fun isList => other (isList ▸ by decide)) _ _
  have numField : ∀ key ∉ protectedKeys,
      (parseText (observed.protectProbeFrame payload (parseText payload))).numField
        (.route key) (-1) = (parseText payload).numField (.route key) (-1) := by
    intro key other
    rw [BusData.numField_eq_map, BusData.numField_eq_map, str key other]
  have stays : (parseText (observed.protectProbeFrame payload (parseText payload))).has
      (RgdKey.route .disconnectReason).text = false := by
    rw [← protects.stays, Bool.eq_iff_iff, BusData.has_iff, BusData.has_iff,
      str .disconnectReason (by decide)]
  rw [guidance]
  refine sameRoute_onFrame shadowed.routerReady.receives shadowed.plainReady.receives
    shadowed.related.sameGate stays protects.stays (numField _ (by decide))
    (numField _ (by decide)) ?_
  rcases protects.mode with legacy | probing
  · rcases knows changed legacy with known | present
    · exact .inl known
    · right
      have raw : ((parseText payload).numField (.route .routeState) (-1)).getD
          two.router.rawRouteState = 1 := protects.begun legacy
      rw [← GateFields.numField_isSome _ _ (-1), Option.isSome_iff_exists] at present
      obtain ⟨v, isSome⟩ := present
      rw [isSome] at raw
      exact ⟨v, isSome, by rw [show v = 1 from raw]; decide⟩
  · exact .inl (shadowed.probed probing).known

theorem Shadowed.frame (shadowed : two.Shadowed) {payload : List UInt8} (nonempty : payload ≠ [])
    (reaches : ∀ key, key ≠ .maneuverList → Reaches key payload) {times : FrameTimes}
    (knows : two.KnowsRoute (.frame payload times))
    (never : (twoReceiversStep (.frame payload times) two).1.router.detector.mode ≠ .v38Compat) :
    (twoReceiversStep (.frame payload times) two).1.Shadowed ∧
      (two.router.forwardsAsItIs payload times = true →
        (Alike (twoReceiversStep (.frame payload times) two).1.router.guidance
            (twoReceiversStep (.frame payload times) two).1.plain ↔
          MakesUp payload two.router.guidance two.plain)) := by
  obtain ⟨rawRouteState, rawSource⟩ := onFrame_raw nonempty times two.router
  have fitsRoute : Fits 32
      (AmapRouteGuidance.onFrame evtRgdUpdate payload times two.router).1.rawRouteState := by
    rw [rawRouteState]
    exact fits_getD shadowed.rawRouteState
  have fitsSource : Fits 32
      (AmapRouteGuidance.onFrame evtRgdUpdate payload times two.router).1.rawSourceSupportsRg := by
    rw [rawSource]
    exact fits_getD shadowed.rawSourceSupportsRg
  have plainReady := shadowed.plainReady.onFrame payload
  cases asItIs : two.router.forwardsAsItIs payload times with
  | true =>
      obtain ⟨guidance, legacy⟩ := asItIs_onFrame nonempty asItIs
      obtain ⟨related, alike⟩ := shadowed.related.onFrame shadowed.routerReady shadowed.plainReady
        payload
      have routerReady := shadowed.routerReady.onFrame payload
      rw [← guidance] at related alike routerReady
      refine ⟨⟨never, routerReady, plainReady, related, fun probing => ?_, fitsRoute, fitsSource⟩,
        fun _ => alike⟩
      exact AmapMode.noConfusion (legacy.symm.trans probing)
  | false =>
      have protects := protects_onFrame nonempty asItIs never
      have sameRoute := shadowed.protects reaches knows asItIs protects
      have routerReady := shadowed.routerReady.onFrame
        ((two.router.observeFrame (parseText payload) times.observed).protectProbeFrame payload
          (parseText payload))
      rw [← protects.guidance] at routerReady
      exact ⟨⟨never, routerReady, plainReady, .inr sameRoute, fun _ => sameRoute, fitsRoute,
        fitsSource⟩, fun isAsItIs => absurd isAsItIs Bool.false_ne_true⟩

/-- The frame of the timer keeps the receivers in agreement on the route. -/
theorem Shadowed.expires (shadowed : two.Shadowed) {generation : Int32}
    (expires : ProbeExpires generation two.router) (repeats : two.RepeatsRoute) :
    (twoReceiversStep (.probeWakes generation) two).1.Shadowed := by
  have sameRoute := shadowed.probed expires.probing
  have fits : ∀ number ∈ (if 0 ≤ two.router.rawRouteState then some two.router.rawRouteState
      else none), Fits 32 number := by
    intro number isSome
    split_ifs at isSome
    · exact Option.some.inj isSome ▸ shadowed.rawRouteState
    · cases isSome
  have stays := AmapV38Compat.inactiveText_noDisconnect
    (if 0 ≤ two.router.rawRouteState then some two.router.rawRouteState else none)
    two.router.rawSourceSupportsRg
  have routeState := AmapV38Compat.inactiveText_routeState fits two.router.rawSourceSupportsRg
  have source := AmapV38Compat.inactiveText_sourceSupportsRg
    (if 0 ≤ two.router.rawRouteState then some two.router.rawRouteState else none)
    shadowed.rawSourceSupportsRg
  have gate := onFrame_gate shadowed.routerReady.receives stays
  have routerReady := shadowed.routerReady.onFrame two.router.probeInactiveFrame
  have kept : (RouteGuidance.onFrame evtRgdUpdate two.router.probeInactiveFrame
      two.router.guidance).1.state.route.gate.SameRoute two.router.guidance.state.route.gate := by
    have read := GateFields.read_sameRoute (parseText two.router.probeInactiveFrame)
      two.router.guidance.state.route.gate
    have repeated : (two.router.guidance.state.route.gate.readRoute
        (parseText two.router.probeInactiveFrame)).SameRoute
          two.router.guidance.state.route.gate := by
      refine GateFields.readRoute_repeats ?_ ?_
      · intro v isSome
        rw [probeInactiveFrame, routeState] at isSome
        split_ifs at isSome with known
        have isRaw := repeats.routeState.resolve_left (not_lt.mpr known)
        exact (Option.some.inj isSome).symm.trans (isRaw.trans sameRoute.same.routeState.symm)
      · intro v isSome
        rw [probeInactiveFrame, source] at isSome
        split_ifs at isSome with known
        have isRaw := repeats.sourceSupportsRg.resolve_left (not_lt.mpr known)
        exact (Option.some.inj isSome).symm.trans
          (isRaw.trans sameRoute.same.sourceSupportsRg.symm)
    rw [show (RouteGuidance.onFrame evtRgdUpdate two.router.probeInactiveFrame
      two.router.guidance).1.state.route.gate = _ from gate]
    exact ⟨read.routeState.trans repeated.routeState,
      read.sourceSupportsRg.trans repeated.sourceSupportsRg⟩
  have after : SameRoute (RouteGuidance.onFrame evtRgdUpdate two.router.probeInactiveFrame
      two.router.guidance).1 two.plain :=
    ⟨sameRoute.known, kept.routeState.trans sameRoute.same.routeState,
      kept.sourceSupportsRg.trans sameRoute.same.sourceSupportsRg⟩
  dsimp only [twoReceiversStep, AmapRouteGuidance.probeWakes]
  rw [if_pos ⟨expires.running, expires.current, expires.probing⟩]
  refine ⟨?_, routerReady, shadowed.plainReady, .inr after, fun _ => after,
    shadowed.rawRouteState, shadowed.rawSourceSupportsRg⟩
  exact fun engine => AmapMode.noConfusion engine

theorem Shadowed.wakes (shadowed : two.Shadowed) {generation : Int32}
    (knows : two.KnowsRoute (.probeWakes generation)) :
    (twoReceiversStep (.probeWakes generation) two).1.Shadowed := by
  by_cases expires : ProbeExpires generation two.router
  · exact shadowed.expires expires (knows expires)
  · dsimp only [twoReceiversStep, AmapRouteGuidance.probeWakes]
    rw [if_neg fun wakes => expires ⟨wakes.1, wakes.2.1, wakes.2.2⟩]
    exact shadowed

theorem frameText_ne_nil (records : List RgdRecord) : frameText records ≠ [] := by
  have header : encode "@routeguidance\n".toList ≠ [] := by decide
  exact fun empty => header (List.append_eq_nil_iff.mp empty).1

/-- The frame is one of the hook, and the router is not in its V38 mode after
it. -/
def Admits (overlay : Bool) (event : ReceivedFrame) : Prop :=
  (∃ records, PublishedForm overlay records ∧ event.payload = frameText records) ∧
    event.after.router.detector.mode ≠ .v38Compat

/-- The receivers agree after a frame that is forwarded as it is if and only if
the frame makes up for their differences. -/
def AgreesExactly (event : ReceivedFrame) : Prop :=
  event.asItIs = true →
    (Alike event.after.router.guidance event.after.plain ↔
      MakesUp event.payload event.before.router.guidance event.before.plain)

theorem shadowed_run {overlay : Bool} {trace : List ReceivedFrame}
    (run : twoReceivers.RunWithin (fun two _ label => two.KnowsRoute label) two trace)
    (admits : ∀ event ∈ trace, Admits overlay event) :
    two.Shadowed ∧ ∀ event ∈ trace, AgreesExactly event := by
  revert admits
  refine run.invariant (fun two trace => (∀ event ∈ trace, Admits overlay event) →
    two.Shadowed ∧ ∀ event ∈ trace, AgreesExactly event)
    (fun _ => ⟨started_shadowed, fun _ member => absurd member List.not_mem_nil⟩) ?_
  intro two next trace events label before knows stepTo admits
  obtain ⟨rfl, rfl⟩ : (twoReceiversStep label two).1 = next ∧
      (twoReceiversStep label two).2 = events := Prod.mk.inj (Option.some.inj stepTo)
  obtain ⟨shadowed, exact⟩ := before fun event member => admits event (List.mem_append_left _ member)
  cases label with
  | frame payload times =>
      obtain ⟨⟨records, form, payloadEq⟩, never⟩ := admits _
        (List.mem_append_right trace (List.mem_singleton_self _))
      dsimp only at payloadEq never
      have nonempty : payload ≠ [] := payloadEq ▸ frameText_ne_nil records
      have reaches : ∀ key, key ≠ .maneuverList → Reaches key payload := fun key notList =>
        payloadEq ▸ form.reaches notList
      obtain ⟨after, agrees⟩ := shadowed.frame nonempty reaches knows never
      refine ⟨after, fun event member => ?_⟩
      rcases List.mem_append.mp member with earlier | last
      · exact exact event earlier
      · rw [List.mem_singleton.mp last]
        exact agrees
  | probeWakes generation =>
      refine ⟨shadowed.wakes knows, fun event member => ?_⟩
      rcases List.mem_append.mp member with earlier | none
      · exact exact event earlier
      · exact absurd none List.not_mem_nil

theorem exists_form_of_published {overlay : Bool} {hook : RgdState} {hookTrace : List HookEvent}
    (hookRun : (rgdHook overlay).Run hook hookTrace) {payload : List UInt8}
    (member : payload ∈ publishedFrames hookTrace) :
    ∃ records, PublishedForm overlay records ∧ payload = frameText records := by
  obtain ⟨event, inside, isFrame⟩ := List.mem_filterMap.mp member
  obtain ⟨records, published, rfl⟩ := Option.map_eq_some_iff.mp isFrame
  exact ⟨records, publishesForms_of_run hookRun event inside records published, rfl⟩

/-- As long as the router remembers no older route than the receiver, a frame
that is forwarded as it is leaves no trace of a probe if and only if it makes up
for what the receivers differ in. -/
theorem no_trace_iff_makes_up {overlay : Bool} {hook : RgdState} {hookTrace : List HookEvent}
    (hookRun : (rgdHook overlay).Run hook hookTrace) {trace : List ReceivedFrame}
    (run : twoReceivers.RunWithin (fun two _ label => two.KnowsRoute label) two trace)
    (published : trace.map ReceivedFrame.payload <+: publishedFrames hookTrace)
    (never : ∀ event ∈ trace, event.after.router.detector.mode ≠ .v38Compat) :
    ∀ event ∈ trace, event.asItIs = true →
      (Alike event.after.router.guidance event.after.plain ↔
        MakesUp event.payload event.before.router.guidance event.before.plain) := by
  have admits : ∀ event ∈ trace, Admits overlay event := fun event member =>
    ⟨exists_form_of_published hookRun
      (published.subset (List.mem_map.mpr ⟨event, member, rfl⟩)), never event member⟩
  exact (shadowed_run run admits).2

theorem asItIs_of_hardClear {payload : List UInt8} {times : FrameTimes}
    {router : AmapRouteGuidance}
    (clear : AmapProtocolDetector.isHardClear
      (router.observeFrame (parseText payload) times.observed).rawRouteState
      (router.observeFrame (parseText payload) times.observed).rawSourceSupportsRg
      (parseText payload) = true) : router.forwardsAsItIs payload times = true := by
  unfold forwardsAsItIs
  dsimp only
  rw [clear, Bool.or_true, Bool.true_or]

/-- A frame that begins a probe. -/
theorem onFrame_begins {payload : List UInt8} (nonempty : payload ≠ []) {times : FrameTimes}
    {router : AmapRouteGuidance} (legacy : router.detector.mode = .legacy)
    (notCleared : AmapProtocolDetector.isHardClear
      (router.observeFrame (parseText payload) times.observed).rawRouteState
      (router.observeFrame (parseText payload) times.observed).rawSourceSupportsRg
      (parseText payload) = false)
    (wanted : (router.observeFrame (parseText payload) times.observed).observeActiveRoute.probeWanted
      = true) :
    router.forwardsAsItIs payload times = false ∧
      (AmapRouteGuidance.onFrame evtRgdUpdate payload times router).1.detector.mode = .probing := by
  have mode : (router.observeFrame (parseText payload) times.observed).detector.mode = .legacy :=
    legacy
  constructor
  · unfold forwardsAsItIs
    simp only [nonempty, mode, notCleared, wanted]
    rfl
  · obtain ⟨middle, forwarded, finish, way, result⟩ := onFrame_case nonempty times router
    rw [result]
    generalize router.observeFrame (parseText payload) times.observed = observed
      at way mode notCleared wanted
    cases way with
    | begun => rfl
    | released notLegacy => exact absurd mode notLegacy
    | cleared clear => exact absurd (notCleared.symm.trans clear) Bool.false_ne_true
    | plain _ _ noProbe => exact absurd (noProbe.symm.trans wanted) Bool.false_ne_true
    | recovered _ probing | confirmed _ _ probing | probing _ probing | engine _ _ probing =>
        exact AmapMode.noConfusion (mode.symm.trans probing)

/-- The lanes of a snapshot without lanes. -/
def clearedLanes : List RgdRecord :=
  (List.finRange maneuverCacheSize).flatMap writeLaneClearKeys

def shownRecords : List RgdRecord :=
  [numberRecord (.route .routeState) 1, numberRecord (.route .visibleInApp) 1] ++ clearedLanes

def hiddenRecords : List RgdRecord :=
  [numberRecord (.route .routeState) 1, numberRecord (.route .visibleInApp) 0,
    numberRecord (.route .maneuverCount) 0] ++ clearedLanes

/-- A route is shown, then hidden, and then it ends. -/
def endedLabels : List HookLabel :=
  [.message 0x5201 [0x40, 0x40, 0, 16, 0x52, 0x01, 0, 5, 0, 1, 1, 0, 5, 0, 15, 1] 100 fun _ => [],
    .message 0x5201 [0x40, 0x40, 0, 17, 0x52, 0x01, 0, 5, 0, 15, 0, 0, 6, 0, 14, 0, 0] 200
      fun _ => [],
    .message 0x5201 (routeStateFrame 0) 300 fun _ => [], .tick 5000]

theorem endedLabels_published :
    (performAll (rgdHookStep false) endedLabels .initial).2.filterMap HookEvent.published =
      [clearRecords .init, shownRecords, hiddenRecords, endRecords] := by
  decide +kernel

def feed (records : List RgdRecord) : TwoReceiversLabel := .frame (frameText records) ⟨0, 0⟩

def clearedTwo : TwoReceivers := (twoReceiversStep (feed (clearRecords .init)) started).1

def shownTwo : TwoReceivers := (twoReceiversStep (feed shownRecords) clearedTwo).1

theorem form_of_ended {records : List RgdRecord}
    (member : records ∈ [clearRecords .init, shownRecords, hiddenRecords, endRecords]) :
    PublishedForm false records := by
  rw [← endedLabels_published] at member
  obtain ⟨event, inside, published⟩ := List.mem_filterMap.mp member
  exact publishesForms_of_run (run_performAll .initial (rgdHookStep false) endedLabels) event inside
    records published

theorem routeState_of_ended {records : List RgdRecord}
    (member : records ∈ [clearRecords .init, shownRecords, hiddenRecords, endRecords]) :
    (readRecords records).has (RgdKey.route .routeState).text = true := by
  have present : ∀ records ∈ [clearRecords .init, shownRecords, hiddenRecords, endRecords],
      (readRecords records).has (RgdKey.route .routeState).text = true := by
    decide +kernel
  exact present records member

theorem Shadowed.feed (shadowed : two.Shadowed) {records : List RgdRecord}
    (member : records ∈ [clearRecords .init, shownRecords, hiddenRecords, endRecords])
    (never : (twoReceiversStep (feed records) two).1.router.detector.mode ≠ .v38Compat) :
    (twoReceiversStep (feed records) two).1.Shadowed := by
  refine (shadowed.frame (frameText_ne_nil records) (fun _ => (form_of_ended member).reaches)
    (fun _ _ => .inr ?_) never).1
  rw [parseText_eq_readRecords]
  exact routeState_of_ended member

theorem asItIs_feed {records : List RgdRecord}
    (asItIs : two.router.forwardsAsItIs (frameText records) ⟨0, 0⟩ = true) :
    (twoReceiversStep (feed records) two).1.router.detector.mode ≠ .v38Compat := by
  have legacy : (twoReceiversStep (feed records) two).1.router.detector.mode = .legacy :=
    (asItIs_onFrame (frameText_ne_nil records) asItIs).2
  rw [legacy]
  decide

/-- What the frame says that begins the probe. -/
structure Hides (data : BusData) : Prop where
  routeState : data.numField (.route .routeState) (-1) = some 1
  maneuverCount : data.numField (.route .maneuverCount) 0 = some 0
  visibleInApp : visibleInAppField data = some 0
  sourceSupportsRg : data.numField (.route .sourceSupportsRg) (-1) = none
  sourceName : AmapProtocolDetector.namedSource data = none
  stays : data.has (RgdKey.route .disconnectReason).text = false

theorem hiddenRecords_hides : Hides (parseText (frameText hiddenRecords)) := by
  rw [parseText_eq_readRecords]
  constructor <;> decide +kernel

/-- A router that forwards a shown route. -/
structure Shows (router : AmapRouteGuidance) : Prop where
  detector : router.detector = ⟨.legacy, none, true, 0, AmapProtocolDetector.noBaseline⟩
  sourceSupportsRg : router.rawSourceSupportsRg = -1

theorem Hides.notCleared {data : BusData} (hides : Hides data) {router : AmapRouteGuidance}
    (shows : Shows router) :
    AmapProtocolDetector.isHardClear (router.observeFrame data 0).rawRouteState
      (router.observeFrame data 0).rawSourceSupportsRg data = false := by
  simp [observeFrame, updateRawState, AmapProtocolDetector.isHardClear, hides.routeState,
    hides.sourceSupportsRg, shows.sourceSupportsRg, hides.stays]

theorem Hides.probeWanted {data : BusData} (hides : Hides data) {router : AmapRouteGuidance}
    (shows : Shows router) :
    (router.observeFrame data 0).observeActiveRoute.probeWanted = true := by
  simp [observeFrame, updateRawState, observeActiveRoute, AmapRouteGuidance.probeWanted,
    AmapProtocolDetector.observeActiveRoute, AmapProtocolDetector.observeSource,
    AmapProtocolDetector.shouldBeginProbe, AmapProtocolDetector.sourceAllowsBehaviorProbe,
    hides.routeState, hides.maneuverCount, hides.visibleInApp, hides.sourceSupportsRg,
    hides.sourceName, shows.detector, shows.sourceSupportsRg]

/-- The route is hidden, and a probe begins. -/
theorem hidden_begins {router : AmapRouteGuidance} (shows : Shows router) :
    router.forwardsAsItIs (frameText hiddenRecords) ⟨0, 0⟩ = false ∧
      (AmapRouteGuidance.onFrame evtRgdUpdate (frameText hiddenRecords) ⟨0, 0⟩
        router).1.detector.mode = .probing := by
  have legacy : router.detector.mode = .legacy := by rw [shows.detector]
  exact onFrame_begins (frameText_ne_nil _) legacy (hiddenRecords_hides.notCleared shows)
    (hiddenRecords_hides.probeWanted shows)

/-- The probe hides the visibility from the receiver behind the router. -/
theorem hidden_visibleInApp (shadowed : two.Shadowed) (shows : Shows two.router) :
    (twoReceiversStep (feed hiddenRecords) two).1.router.guidance.state.route.visibleInApp = -1 ∧
      (twoReceiversStep (feed hiddenRecords) two).1.plain.state.route.visibleInApp = 0 := by
  obtain ⟨changed, probing⟩ := hidden_begins shows
  have reaches : ∀ key, key ≠ .maneuverList → Reaches key (frameText hiddenRecords) := fun _ =>
    (form_of_ended (by simp)).reaches
  have hides := hiddenRecords_hides
  have present : (parseText (frameText hiddenRecords)).has (RgdKey.route .visibleInApp).text =
      true := by
    rw [← GateFields.visibleInAppField_isSome, hides.visibleInApp]
    rfl
  have protects := protects_onFrame (frameText_ne_nil hiddenRecords) changed fun engine =>
    AmapMode.noConfusion (probing.symm.trans engine)
  have hidden : (two.router.observeFrame (parseText (frameText hiddenRecords)) 0).rawVisibleInApp =
      0 := by
    simp [observeFrame, updateRawState, hides.visibleInApp]
  have plain := onFrame_visibleInApp shadowed.plainReady.receives hides.stays
  rw [hides.visibleInApp] at plain
  refine ⟨?_, plain⟩
  have guidance := protects.guidance
  generalize two.router.observeFrame (parseText (frameText hiddenRecords)) 0 = observed
    at guidance hidden
  have stays : (parseText (observed.protectProbeFrame (frameText hiddenRecords)
      (parseText (frameText hiddenRecords)))).has (RgdKey.route .disconnectReason).text = false := by
    rw [← hides.stays, Bool.eq_iff_iff, BusData.has_iff, BusData.has_iff,
      str_protectProbeFrame (by decide) (reaches _ (by decide))]
  have router := onFrame_visibleInApp shadowed.routerReady.receives stays
  rw [visibleInAppField_protectProbeFrame (reaches _ (by decide)) hidden present] at router
  exact (congrArg (fun rg : RouteGuidance => rg.state.route.visibleInApp) guidance).trans router

/-- The end of the route is forwarded as it is, and says nothing about the
visibility. -/
theorem ended_differs (shadowed : two.Shadowed)
    (router : two.router.guidance.state.route.visibleInApp = -1)
    (plain : two.plain.state.route.visibleInApp = 0) :
    two.router.forwardsAsItIs (frameText endRecords) ⟨0, 0⟩ = true ∧
      ¬ Alike (twoReceiversStep (feed endRecords) two).1.router.guidance
        (twoReceiversStep (feed endRecords) two).1.plain := by
  have ends : (parseText (frameText endRecords)).numField (.route .routeState) (-1) = some 0 ∧
      visibleInAppField (parseText (frameText endRecords)) = none ∧
      (parseText (frameText endRecords)).has (RgdKey.route .disconnectReason).text = false := by
    rw [parseText_eq_readRecords]
    decide +kernel
  have asItIs : two.router.forwardsAsItIs (frameText endRecords) ⟨0, 0⟩ = true := by
    refine asItIs_of_hardClear ?_
    simp [observeFrame, updateRawState, AmapProtocolDetector.isHardClear, ends.1]
  refine ⟨asItIs, fun alike => ?_⟩
  have guidance := (asItIs_onFrame (frameText_ne_nil endRecords) asItIs).1
  have routerAfter := onFrame_visibleInApp shadowed.routerReady.receives ends.2.2
  have plainAfter := onFrame_visibleInApp shadowed.plainReady.receives ends.2.2
  rw [ends.2.1] at routerAfter plainAfter
  rw [← guidance] at routerAfter
  have same : (-1 : Int) = 0 :=
    (routerAfter.trans router).symm.trans (alike.gate.visibleInApp.trans (plainAfter.trans plain))
  exact absurd same (by decide)

theorem never_of_hidden (shows : Shows two.router) :
    (twoReceiversStep (feed hiddenRecords) two).1.router.detector.mode ≠ .v38Compat := by
  have probing : (twoReceiversStep (feed hiddenRecords) two).1.router.detector.mode = .probing :=
    (hidden_begins shows).2
  rw [probing]
  decide

theorem clearedTwo_asItIs :
    started.router.forwardsAsItIs (frameText (clearRecords .init)) ⟨0, 0⟩ = true := by
  refine asItIs_of_hardClear ?_
  rw [parseText_eq_readRecords]
  decide +kernel

theorem shownTwo_asItIs :
    clearedTwo.router.forwardsAsItIs (frameText shownRecords) ⟨0, 0⟩ = true := by
  simp only [clearedTwo, feed, twoReceiversStep, forwardsAsItIs, AmapRouteGuidance.onFrame,
    parseText_eq_readRecords]
  decide +kernel

theorem shownTwo_shows : Shows shownTwo.router := by
  constructor <;>
    (simp only [shownTwo, clearedTwo, feed, twoReceiversStep, AmapRouteGuidance.onFrame,
      parseText_eq_readRecords]
     decide +kernel)

theorem shownTwo_shadowed : shownTwo.Shadowed :=
  (started_shadowed.feed (by simp) (asItIs_feed clearedTwo_asItIs)).feed
    (by simp) (asItIs_feed shownTwo_asItIs)

def hiddenTwo : TwoReceivers := (twoReceiversStep (feed hiddenRecords) shownTwo).1

def endedTwo : TwoReceivers := (twoReceiversStep (feed endRecords) hiddenTwo).1

/-- A frame fed to both receivers. -/
def fed (records : List RgdRecord) (before after : TwoReceivers) : ReceivedFrame :=
  ⟨frameText records, before.router.forwardsAsItIs (frameText records) ⟨0, 0⟩, before, after⟩

def endedTrace : List ReceivedFrame :=
  [fed (clearRecords .init) started clearedTwo, fed shownRecords clearedTwo shownTwo,
    fed hiddenRecords shownTwo hiddenTwo, fed endRecords hiddenTwo endedTwo]

theorem endedTrace_eq :
    performAll twoReceiversStep
      ([clearRecords .init, shownRecords, hiddenRecords, endRecords].map feed) started =
        (endedTwo, endedTrace) := rfl

theorem endedTrace_published :
    endedTrace.map ReceivedFrame.payload <+:
      publishedFrames (performAll (rgdHookStep false) endedLabels .initial).2 := by
  have frames : publishedFrames (performAll (rgdHookStep false) endedLabels .initial).2 =
      [clearRecords .init, shownRecords, hiddenRecords, endRecords].map frameText := by
    rw [← endedLabels_published, publishedFrames, List.map_filterMap]
  rw [frames]
  exact List.prefix_refl _

theorem hiddenTwo_never : hiddenTwo.router.detector.mode ≠ .v38Compat := by
  unfold hiddenTwo
  exact never_of_hidden shownTwo_shows

theorem hiddenTwo_shadowed : hiddenTwo.Shadowed := by
  unfold hiddenTwo
  exact shownTwo_shadowed.feed (by simp) (never_of_hidden shownTwo_shows)

theorem endedTwo_differs :
    hiddenTwo.router.forwardsAsItIs (frameText endRecords) ⟨0, 0⟩ = true ∧
      ¬ Alike endedTwo.router.guidance endedTwo.plain := by
  have hidden := hidden_visibleInApp shownTwo_shadowed shownTwo_shows
  rw [← hiddenTwo] at hidden
  unfold endedTwo
  exact ended_differs hiddenTwo_shadowed hidden.1 hidden.2

theorem endedTrace_never : ∀ event ∈ endedTrace, event.after.router.detector.mode ≠ .v38Compat := by
  intro event member
  simp only [endedTrace, List.mem_cons, List.not_mem_nil, or_false] at member
  rcases member with rfl | rfl | rfl | rfl
  all_goals dsimp only [fed]
  · unfold clearedTwo
    exact asItIs_feed clearedTwo_asItIs
  · unfold shownTwo
    exact asItIs_feed shownTwo_asItIs
  · exact hiddenTwo_never
  · unfold endedTwo
    exact asItIs_feed endedTwo_differs.1

theorem knows_feed (two : TwoReceivers) {records : List RgdRecord}
    (member : records ∈ [clearRecords .init, shownRecords, hiddenRecords, endRecords]) :
    two.KnowsRoute (feed records) := by
  have present := routeState_of_ended member
  rw [← parseText_eq_readRecords] at present
  exact fun _ _ => .inr present

theorem endedTrace_run :
    twoReceivers.RunWithin (fun two _ label => two.KnowsRoute label) endedTwo endedTrace := by
  have allowed : AllowedAll twoReceiversStep (fun two _ label => two.KnowsRoute label)
      ([clearRecords .init, shownRecords, hiddenRecords, endRecords].map feed) started [] :=
    ⟨knows_feed _ (by simp), knows_feed _ (by simp), knows_feed _ (by simp),
      knows_feed _ (by simp), trivial⟩
  have run : twoReceivers.RunWithin (fun two _ label => two.KnowsRoute label)
      (performAll twoReceiversStep _ started).1 (performAll twoReceiversStep _ started).2 :=
    runWithin_performAll_start allowed
  rw [endedTrace_eq] at run
  exact run

theorem endedTrace_no_trace_iff_makes_up :
    hiddenTwo.router.forwardsAsItIs (frameText endRecords) ⟨0, 0⟩ = true ∧
      ∀ event ∈ endedTrace, event.asItIs = true →
        (Alike event.after.router.guidance event.after.plain ↔
          MakesUp event.payload event.before.router.guidance event.before.plain) :=
  ⟨endedTwo_differs.1, no_trace_iff_makes_up
    (run_performAll .initial (rgdHookStep false) endedLabels) endedTrace_run endedTrace_published
    endedTrace_never⟩

/-- The end of a route that is being probed does not restore the visibility. -/
theorem hidden_visibility_survives_end :
    ¬ ∀ overlay hook hookTrace, (rgdHook overlay).Run hook hookTrace →
      ∀ two trace, twoReceivers.Run two trace →
        trace.map ReceivedFrame.payload <+: publishedFrames hookTrace →
          (∀ event ∈ trace, event.after.router.detector.mode ≠ .v38Compat) →
            ∀ event ∈ trace, event.asItIs = true →
              Alike event.after.router.guidance event.after.plain := by
  intro agree
  have alike := agree false _ _ (run_performAll .initial (rgdHookStep false) endedLabels) _ _
    endedTrace_run.run endedTrace_published endedTrace_never
    (fed endRecords hiddenTwo endedTwo) (by simp [endedTrace])
  dsimp only [fed] at alike
  exact endedTwo_differs.2 (alike endedTwo_differs.1)

end TwoReceivers

end CarplayRgi
