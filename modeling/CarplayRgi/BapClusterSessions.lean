import CarplayRgi.BapClusterDisplay

/-!
# The cluster over whole sessions

Between two calls of the receiver the zone belongs to its first maneuver, and
what the cluster has been told is what its state says: an update tells all that
depends on a flag it finds set, and nothing changes under a clean flag.
-/

namespace CarplayRgi

open BapBridge RouteGuidance

/-- In a session the zone belongs to the first maneuver, and the cluster shows
what is expected.  Before the first update with icons an arrival without a
distance is shown as a street to follow. -/
structure InGuidance (state : State) (zone : ApproachZone) (cluster : Cluster) : Prop where
  idx : zone.lastFirstManeuverIdx = firstIdx state
  ver : zone.lastFirstManeuverVer = firstVer state
  entered : zone.inApproachZone = true → 1 < cluster.windows
  shows : Displayable state →
    (isArrival state = true → hasUsableDistance state = true ∨ 1 < cluster.windows) →
      cluster.shown = some (expectedDescriptors state zone)
  tells : Displayable state → ∀ value, cluster.maneuverState = some value →
    value = ClusterBridge.bapState state (approaching state zone)
  lanes : hasAnyManeuver state = true → ∀ lanes, cluster.lanes = some lanes →
    lanes = expectedLanes state

section Session

variable {before after state : State} {zone : ApproachZone} {cluster : Cluster}

theorem RouteGuidance.SameIcons.bargraph (same : SameIcons before after)
    (distances : SameDistances before after) :
    bargraphDenominatorM after = bargraphDenominatorM before := by
  have step : BapBridge.firstValue after ManeuverFields.distance =
      BapBridge.firstValue before ManeuverFields.distance := by
    unfold BapBridge.firstValue
    rw [same.firstIdx]
    congr 2
    funext slot
    exact distances.distance slot
  have threshold : prepareThreshold after = prepareThreshold before := by
    unfold prepareThreshold isHighway
    rw [step, same.firstType]
  unfold bargraphDenominatorM
  rw [step, threshold]

theorem RouteGuidance.SameIcons.bapState (same : SameIcons before after)
    (distances : SameDistances before after) (nowApproach : Bool) :
    ClusterBridge.bapState after nowApproach = ClusterBridge.bapState before nowApproach := by
  unfold ClusterBridge.bapState hasUsableDistance
  rw [same.bargraph distances, distances.distManeuverM]

/-- The lanes depend on nothing else. -/
theorem expectedLanes_laneState (state : State) :
    expectedLanes (laneState state) = expectedLanes state := rfl

theorem expectedLanes_congr (same : laneState after = laneState before) :
    hasAnyManeuver after = hasAnyManeuver before ∧ expectedLanes after = expectedLanes before := by
  have counted : hasAnyManeuver (laneState after) = hasAnyManeuver (laneState before) := by
    rw [same]
  rw [← expectedLanes_laneState, same, expectedLanes_laneState]
  exact ⟨counted, rfl⟩

theorem InGuidance.transfer (session : InGuidance before zone cluster)
    (same : SameIcons before after) (distances : SameDistances before after)
    (sameLanes : laneState after = laneState before) : InGuidance after zone cluster := by
  obtain ⟨sameAny, expected⟩ := expectedLanes_congr sameLanes
  refine ⟨session.idx.trans same.firstIdx.symm, session.ver.trans same.firstVer.symm,
    session.entered, fun displayable arrival => ?_, fun displayable value told => ?_,
    fun any lanes told => (session.lanes (sameAny ▸ any) lanes told).trans expected.symm⟩
  · rw [same.expected]
    refine session.shows (same.displayable displayable) fun isArrival => ?_
    have usable : hasUsableDistance before = hasUsableDistance after := by
      unfold hasUsableDistance
      rw [distances.distManeuverM]
    rw [usable]
    exact arrival (same.isArrival.trans isArrival)
  · rw [same.bapState distances, approaching, same.isArrival]
    exact session.tells (same.displayable displayable) value told

/-- A zone that does not change adds no flags. -/
theorem not_changed_of_clean (clean : Disjoint (zone.dirty state) iconFlags) :
    zone.approachChanged state = false ∧ Disjoint state.dirtyMask iconFlags := by
  unfold ApproachZone.dirty at clean
  cases changed : zone.approachChanged state with
  | true =>
      rw [if_pos changed] at clean
      have icon : DirtyFlag.maneuverIcon ∈
          state.dirtyMask ∪ {.distMan, .laneGuidance, .maneuverText, .maneuverIcon} := by simp
      exact absurd (by decide) (Finset.disjoint_left.mp clean icon)
  | false =>
      rw [if_neg (by rw [changed]; decide)] at clean
      exact ⟨rfl, clean⟩

/-- Flags that stay clean although the zone changes. -/
theorem clean_of_dirty (flags : Finset DirtyFlag) (clean : Disjoint (zone.dirty state) flags) :
    Disjoint state.dirtyMask flags := by
  unfold ApproachZone.dirty at clean
  split_ifs at clean
  · exact Finset.disjoint_of_subset_left Finset.subset_union_left clean
  · exact clean

theorem iconFlags_subset_stateFlags : iconFlags ⊆ ClusterBridge.stateFlags := by decide

/-- Entering the zone is told with descriptors. -/
theorem entered_follow (zone : ApproachZone) (inside : (zone.follow state).inApproachZone = true) :
    zone.inApproachZone = true ∨ ClusterBridge.descriptorSent state zone = true := by
  cases changed : zone.approachChanged state with
  | false =>
      left
      rw [ApproachZone.follow, if_neg (by rw [changed]; decide), ApproachZone.notePrimary] at inside
      split at inside
      · cases inside
      · exact inside
  | true =>
      right
      have dirty : ¬ Disjoint (zone.dirty state) iconFlags := fun clean =>
        absurd (changed.symm.trans (not_changed_of_clean clean).1) (by decide)
      have holds := changed
      simp only [ApproachZone.approachChanged, Bool.and_eq_true] at holds
      rw [ClusterBridge.descriptorSent, decide_eq_false dirty, holds.2, holds.1.2]
      simp

/-- After an update with icons the cluster shows them, and after one without
any it has to have shown them before. -/
theorem inGuidance_updated {bridge : ClusterBridge}
    (entered : bridge.zone.inApproachZone = true → 1 < cluster.windows)
    (begun : 0 < cluster.windows)
    (shown : Disjoint (bridge.zone.dirty state) iconFlags → Displayable state →
      (isArrival state = true → hasUsableDistance state = true ∨ 1 < cluster.windows) →
        cluster.shown = some (expectedDescriptors state (bridge.zone.follow state)))
    (told : Disjoint (bridge.zone.dirty state) ClusterBridge.stateFlags → Displayable state →
      ∀ value, cluster.maneuverState = some value →
        value = ClusterBridge.bapState state (approaching state (bridge.zone.follow state)))
    (toldLanes : Disjoint (bridge.zone.dirty state) laneFlags → hasAnyManeuver state = true →
      ∀ lanes, cluster.lanes = some lanes → lanes = expectedLanes state) :
    InGuidance state (bridge.zone.follow state) (ClusterBridge.updated state bridge cluster) := by
  obtain ⟨idx, ver⟩ := follow_primary state bridge.zone
  refine ⟨idx, ver, fun inside => ?_, fun displayable arrival => ?_, fun displayable value => ?_,
    fun any lanes => ?_⟩
  · unfold ClusterBridge.updated
    dsimp only
    rcases entered_follow bridge.zone inside with earlier | sent
    · have windows := entered earlier
      split <;> omega
    · rw [if_pos sent]
      omega
  · unfold ClusterBridge.updated at arrival ⊢
    dsimp only at arrival ⊢
    by_cases clean : Disjoint (bridge.zone.dirty state) iconFlags
    · have quiet := ClusterBridge.iconMessage_of_clean clean
      rw [quiet.2, if_neg (by decide)] at arrival
      rw [quiet.1, Option.none_or]
      exact shown clean displayable arrival
    · rw [(ClusterBridge.iconMessage_of_dirty displayable clean).1, Option.some_or]
  · unfold ClusterBridge.updated
    dsimp only
    intro isTold
    by_cases clean : Disjoint (bridge.zone.dirty state) ClusterBridge.stateFlags
    · rw [ClusterBridge.stateMessage_of_clean clean, Option.none_or] at isTold
      exact told clean displayable value isTold
    · rw [ClusterBridge.stateMessage_of_dirty displayable clean, Option.some_or] at isTold
      exact (Option.some.inj isTold).symm
  · unfold ClusterBridge.updated
    dsimp only
    intro isTold
    by_cases clean : Disjoint (bridge.zone.dirty state) laneFlags
    · rw [ClusterBridge.laneMessage_of_clean clean, Option.none_or] at isTold
      exact toldLanes clean any lanes isTold
    · rw [ClusterBridge.laneMessage_of_dirty any clean, Option.some_or] at isTold
      exact (Option.some.inj isTold).symm

end Session

/-- What holds between two calls of the receiver. -/
structure Told (link : ClusterLink) (cluster : Cluster) : Prop where
  idle : link.rg.running = false → link.rg.rgActive = false
  closed : cluster.staged = none
  alternates : Alternates link.bridge cluster
  active : cluster.status = some 1 → link.rg.rgActive = true ∧ link.bridge.initialized = true
  begun : cluster.status = some 1 → 0 < cluster.windows
  session : cluster.status = some 1 → InGuidance link.rg.state link.bridge.zone cluster

namespace ClusterLink

theorem performAll_of_not (calls : List BridgeCall) {bridge : ClusterBridge}
    (notInitialized : bridge.initialized = false) : performAll calls bridge = (bridge, []) := by
  rw [performAll, if_neg (by rw [notInitialized]; decide)]

theorem performAll_nil (bridge : ClusterBridge) : performAll [] bridge = (bridge, []) := by
  rw [performAll]
  exact ite_self _

theorem performAll_single (call : BridgeCall) {bridge : ClusterBridge}
    (initialized : bridge.initialized = true) :
    performAll [call] bridge = ClusterBridge.perform call bridge := by
  rw [performAll, if_pos initialized]
  rfl

theorem performAll_pair (first second : BridgeCall) {bridge : ClusterBridge}
    (initialized : bridge.initialized = true) :
    performAll [first, second] bridge =
      (ClusterBridge.perform first).andThen (ClusterBridge.perform second) bridge := by
  rw [performAll, if_pos initialized]
  rfl

end ClusterLink

/-- The first messages of a session. -/
theorem onStart_receive {bridge : ClusterBridge} {cluster : Cluster}
    (alternates : Alternates bridge cluster) :
    cluster.receiveAll (ClusterBridge.onStart bridge).2 =
        ⟨some 1, none, some [createDescriptor ManeuverMapper.followStreet
          ManeuverMapper.dirStraight 0 []], some (bridge.nextVariant, 0), 1, none, none⟩ ∧
      (ClusterBridge.onStart bridge).1.zone = .outside ∧
      (ClusterBridge.onStart bridge).1.initialized = bridge.initialized ∧
      (ClusterBridge.onStart bridge).1.nextVariant ≠ bridge.nextVariant := by
  refine ⟨?_, rfl, rfl, ClusterBridge.nextVariant_sendExitView bridge⟩
  have window : Cluster.receive
      ⟨some 1, some [createDescriptor ManeuverMapper.followStreet ManeuverMapper.dirStraight 0 []],
        cluster.shown, cluster.exitView, 0, none, none⟩ (.exitView bridge.nextVariant 0) =
      ⟨some 1, none, some [createDescriptor ManeuverMapper.followStreet
        ManeuverMapper.dirStraight 0 []], some (bridge.nextVariant, 0), 1, none, none⟩ :=
    if_neg alternates
  exact window

/-- The last messages of a session. -/
theorem onShutdown_receive {bridge : ClusterBridge} {cluster : Cluster}
    (alternates : Alternates bridge cluster) :
    cluster.receiveAll (ClusterBridge.onShutdown bridge).2 =
        ⟨some 0, none, some [createDescriptor 0 0 0 []], some (bridge.nextVariant, 0), 1, some 0,
          some (false, [])⟩ ∧
      (ClusterBridge.onShutdown bridge).1.initialized = bridge.initialized ∧
      (ClusterBridge.onShutdown bridge).1.nextVariant ≠ bridge.nextVariant := by
  refine ⟨?_, rfl, ClusterBridge.nextVariant_sendExitView bridge⟩
  have window : Cluster.receive
      ⟨some 0, some [createDescriptor 0 0 0 []], cluster.shown, cluster.exitView, 0, none, none⟩
        (.exitView bridge.nextVariant 0) =
      ⟨some 0, none, some [createDescriptor 0 0 0 []], some (bridge.nextVariant, 0), 1, none,
        none⟩ := if_neg alternates
  exact congrArg (fun taken : Cluster =>
    { taken with maneuverState := some 0, lanes := some (false, []) }) window

/-- The first update of a session, behind its start. -/
theorem inGuidance_started (state : State) {bridge : ClusterBridge} {cluster : Cluster}
    (outside : bridge.zone = .outside) (windows : cluster.windows = 1)
    (shown : cluster.shown = some [createDescriptor ManeuverMapper.followStreet
      ManeuverMapper.dirStraight 0 []])
    (untold : cluster.maneuverState = none) (noLanes : cluster.lanes = none) :
    InGuidance state (bridge.zone.follow state) (ClusterBridge.updated state bridge cluster) := by
  refine inGuidance_updated (fun inside => ?_) (by omega) (fun clean displayable arrival => ?_)
    (fun _ _ value told => ?_) (fun _ _ lanes told => ?_)
  · rw [outside] at inside
    cases inside
  · have quiet := not_changed_of_clean clean
    have away : (bridge.zone.follow state).inApproachZone = false := by
      rw [ApproachZone.follow, if_neg (by rw [quiet.1]; decide), outside, ApproachZone.notePrimary]
      split
      · rfl
      · rfl
    have notArrived : isArrival state = false := by
      by_contra arrived
      rw [Bool.not_eq_false] at arrived
      rcases arrival arrived with usable | later
      · have inside := inside_of_arrival displayable arrived usable bridge.zone
        exact absurd (away.symm.trans inside) (by decide)
      · omega
    rw [shown, expectedDescriptors, approaching, notArrived, away]
    rfl
  · rw [untold] at told
    cases told
  · rw [noLanes] at told
    cases told

/-- An update within a session. -/
theorem InGuidance.update {old state : State} {bridge : ClusterBridge} {cluster : Cluster}
    (session : InGuidance old bridge.zone cluster) (begun : 0 < cluster.windows)
    (icons : Disjoint state.dirtyMask iconFlags → SameIcons old state)
    (distances : Disjoint state.dirtyMask ClusterBridge.stateFlags → SameDistances old state)
    (lanes : Disjoint state.dirtyMask laneFlags → laneState state = laneState old) :
    InGuidance state (bridge.zone.follow state) (ClusterBridge.updated state bridge cluster) := by
  have kept (clean : Disjoint (bridge.zone.dirty state) iconFlags) :
      SameIcons old state ∧ bridge.zone.follow state = bridge.zone := by
    have quiet := not_changed_of_clean clean
    have same := icons quiet.2
    refine ⟨same, ?_⟩
    rw [ApproachZone.follow, if_neg (by rw [quiet.1]; decide)]
    exact notePrimary_of_noted (session.idx.trans same.firstIdx.symm)
      (session.ver.trans same.firstVer.symm)
  refine inGuidance_updated session.entered begun (fun clean displayable arrival => ?_)
    (fun clean displayable value told => ?_) (fun clean any shownLanes told => ?_)
  · obtain ⟨same, sameZone⟩ := kept clean
    have inside := fun arrived usable => inside_of_arrival displayable arrived usable bridge.zone
    rw [sameZone] at inside ⊢
    rw [same.expected]
    refine session.shows (same.displayable displayable) fun arrived => ?_
    have arrivedNow := same.isArrival.trans arrived
    rcases arrival arrivedNow with usable | later
    · exact .inr (session.entered (inside arrivedNow usable))
    · exact .inr later
  · have cleanIcons : Disjoint (bridge.zone.dirty state) iconFlags :=
      Finset.disjoint_of_subset_right iconFlags_subset_stateFlags clean
    obtain ⟨same, sameZone⟩ := kept cleanIcons
    rw [sameZone, same.bapState (distances (clean_of_dirty _ clean)), approaching, same.isArrival]
    exact session.tells (same.displayable displayable) value told
  · obtain ⟨sameAny, expected⟩ := expectedLanes_congr (lanes (clean_of_dirty _ clean))
    exact (session.lanes (sameAny ▸ any) shownLanes told).trans expected.symm

namespace Told

variable {link : ClusterLink} {cluster : Cluster} (told : Told link cluster)

include told

theorem not_status (out : link.rg.rgActive = false ∨ link.bridge.initialized = false) :
    cluster.status ≠ some 1 := by
  intro status
  obtain ⟨active, initialized⟩ := told.active status
  rcases out with inactive | notInitialized
  · exact absurd (active.symm.trans inactive) (by decide)
  · exact absurd (initialized.symm.trans notInitialized) (by decide)

/-- The receiver has made no calls. -/
theorem quiet {rg : RouteGuidance} (idle : rg.running = false → rg.rgActive = false)
    (same : cluster.status = some 1 →
      rg.rgActive = true ∧ InGuidance rg.state link.bridge.zone cluster) :
    Told ⟨rg, link.bridge⟩ cluster where
  idle := idle
  closed := told.closed
  alternates := told.alternates
  active status := ⟨(same status).1, (told.active status).2⟩
  begun := told.begun
  session status := (same status).2

/-- A bridge that is not initialized hears nothing. -/
theorem deaf {rg : RouteGuidance} (idle : rg.running = false → rg.rgActive = false)
    (notInitialized : link.bridge.initialized = false) (calls : List BridgeCall) :
    Told ⟨rg, (ClusterLink.performAll calls link.bridge).1⟩
      (cluster.receiveAll (ClusterLink.performAll calls link.bridge).2) := by
  rw [ClusterLink.performAll_of_not calls notInitialized]
  exact told.quiet idle fun status => absurd status (told.not_status (.inr notInitialized))

theorem stops {rg : RouteGuidance} (idle : rg.running = false → rg.rgActive = false) :
    Told ⟨rg, (ClusterLink.performAll [.onStop, .onShutdown] link.bridge).1⟩
      (cluster.receiveAll (ClusterLink.performAll [.onStop, .onShutdown] link.bridge).2) := by
  cases initialized : link.bridge.initialized with
  | false => exact told.deaf idle initialized _
  | true =>
      have left : Alternates link.bridge.leaveZone cluster := told.alternates
      obtain ⟨received, -, variant⟩ := onShutdown_receive left
      rw [ClusterLink.performAll_pair _ _ initialized]
      have calls : cluster.receiveAll ((ClusterBridge.perform .onStop).andThen
          (ClusterBridge.perform .onShutdown) link.bridge).2 =
          ⟨some 0, none, some [createDescriptor 0 0 0 []],
            some (link.bridge.leaveZone.nextVariant, 0), 1, some 0, some (false, [])⟩ :=
        received
      rw [calls]
      refine ⟨idle, rfl, fun same => ?_, nofun, nofun, nofun⟩
      exact variant (Prod.mk.inj (Option.some.inj same)).1.symm

theorem starts {rg : RouteGuidance} (idle : rg.running = false → rg.rgActive = false)
    {state : State} (notEmpty : state.dirtyMask ≠ ∅) (isActive : rg.rgActive = true)
    (isState : rg.state = state.clearDirty) :
    Told ⟨rg, (ClusterLink.performAll [.onStart, .update state] link.bridge).1⟩
      (cluster.receiveAll (ClusterLink.performAll [.onStart, .update state] link.bridge).2) := by
  cases initialized : link.bridge.initialized with
  | false => exact told.deaf idle initialized _
  | true =>
      obtain ⟨received, outside, sameInit, variant⟩ := onStart_receive told.alternates
      have alternates : Alternates (ClusterBridge.onStart link.bridge).1
          (cluster.receiveAll (ClusterBridge.onStart link.bridge).2) := by
        rw [received]
        exact fun same => variant (Prod.mk.inj (Option.some.inj same)).1.symm
      have closed : (cluster.receiveAll (ClusterBridge.onStart link.bridge).2).staged = none := by
        rw [received]
      obtain ⟨updatedTo, alternatesThen, zone, stillInit⟩ :=
        ClusterBridge.update_receive notEmpty alternates closed
      have session : InGuidance state ((ClusterBridge.onStart link.bridge).1.zone.follow state)
          (ClusterBridge.updated state (ClusterBridge.onStart link.bridge).1
            (cluster.receiveAll (ClusterBridge.onStart link.bridge).2)) :=
        inGuidance_started state outside (by rw [received]) (by rw [received]) (by rw [received])
          (by rw [received])
      rw [ClusterLink.performAll_pair _ _ initialized]
      have calls : cluster.receiveAll ((ClusterBridge.perform .onStart).andThen
          (ClusterBridge.perform (.update state)) link.bridge).2 =
          ClusterBridge.updated state (ClusterBridge.onStart link.bridge).1
            (cluster.receiveAll (ClusterBridge.onStart link.bridge).2) := by
        rw [← updatedTo]
        exact Cluster.receiveAll_append _ _ _
      rw [calls]
      refine ⟨idle, rfl, alternatesThen, fun _ => ⟨isActive, ?_⟩, fun _ => ?_, fun _ => ?_⟩
      · exact stillInit.trans (sameInit.trans initialized)
      · rw [ClusterBridge.updated, received]
        dsimp only
        split <;> omega
      · rw [isState]
        have zoneEq : ((ClusterBridge.perform .onStart).andThen
            (ClusterBridge.perform (.update state)) link.bridge).1.zone =
              (ClusterBridge.onStart link.bridge).1.zone.follow state := zone
        dsimp only
        rw [zoneEq]
        exact session.transfer (sameIcons_clearDirty state) (sameDistances_clearDirty state) rfl

/-- An update of an active receiver, whether or not its session has reached the
cluster. -/
theorem updates {rg : RouteGuidance} (idle : rg.running = false → rg.rgActive = false)
    {state : State} (isActive : rg.rgActive = true) (isState : rg.state = state.clearDirty)
    (icons : Disjoint state.dirtyMask iconFlags → SameIcons link.rg.state state)
    (distances : Disjoint state.dirtyMask ClusterBridge.stateFlags →
      SameDistances link.rg.state state)
    (lanes : Disjoint state.dirtyMask laneFlags → laneState state = laneState link.rg.state) :
    Told ⟨rg, (ClusterLink.performAll [.update state] link.bridge).1⟩
      (cluster.receiveAll (ClusterLink.performAll [.update state] link.bridge).2) := by
  have cleared : SameIcons state rg.state ∧ SameDistances state rg.state ∧
      laneState rg.state = laneState state := by
    rw [isState]
    exact ⟨sameIcons_clearDirty state, sameDistances_clearDirty state, rfl⟩
  cases initialized : link.bridge.initialized with
  | false => exact told.deaf idle initialized _
  | true =>
      rw [ClusterLink.performAll_single _ initialized, ClusterBridge.perform]
      by_cases empty : state.dirtyMask = ∅
      · have nothing : ClusterBridge.update state link.bridge = (link.bridge, []) := if_pos empty
        rw [nothing]
        refine told.quiet idle fun status => ⟨isActive, ?_⟩
        have clean (flags : Finset DirtyFlag) : Disjoint state.dirtyMask flags := by
          rw [empty]
          exact Finset.disjoint_empty_left flags
        have session := (told.session status).transfer (icons (clean _)) (distances (clean _))
          (lanes (clean _))
        exact session.transfer cleared.1 cleared.2.1 cleared.2.2
      · obtain ⟨updatedTo, alternates, zone, stillInit⟩ :=
          ClusterBridge.update_receive empty told.alternates told.closed
        rw [updatedTo]
        refine ⟨idle, rfl, alternates, fun _ => ⟨isActive, stillInit.trans initialized⟩,
          fun status => ?_, fun status => ?_⟩
        · have begun := told.begun status
          rw [ClusterBridge.updated]
          dsimp only
          split <;> omega
        · have session := (told.session status).update (told.begun status) icons distances lanes
          rw [← zone] at session
          exact session.transfer cleared.1 cleared.2.1 cleared.2.2

/-- A frame that reaches a running receiver. -/
theorem dispatch {payload : List UInt8} (running : link.rg.running = true) :
    Told ⟨(RouteGuidance.dispatch (absorb payload link.rg)).1,
        (ClusterLink.performAll (RouteGuidance.dispatch (absorb payload link.rg)).2
          link.bridge).1⟩
      (cluster.receiveAll
        (ClusterLink.performAll (RouteGuidance.dispatch (absorb payload link.rg)).2
          link.bridge).2) := by
  have icons : Disjoint (absorb payload link.rg).state.dirtyMask iconFlags →
      SameIcons link.rg.state (absorb payload link.rg).state :=
    fun clean => sameIcons_absorb clean.symm
  have distances : Disjoint (absorb payload link.rg).state.dirtyMask ClusterBridge.stateFlags →
      SameDistances link.rg.state (absorb payload link.rg).state :=
    fun clean => sameDistances_absorb (Finset.disjoint_of_subset_left (by decide) clean.symm)
  have lanes : Disjoint (absorb payload link.rg).state.dirtyMask laneFlags →
      laneState (absorb payload link.rg).state = laneState link.rg.state :=
    fun clean => laneState_absorb clean.symm
  have runs (stopped : (absorb payload link.rg).running = false) : False :=
    absurd (running.symm.trans stopped) (by decide)
  have sameActive : (absorb payload link.rg).rgActive = link.rg.rgActive := rfl
  have outcome := dispatch_case (absorb payload link.rg)
  generalize RouteGuidance.dispatch (absorb payload link.rg) = result at outcome
  obtain ⟨after, calls⟩ := result
  dsimp only at outcome ⊢
  cases outcome with
  | unchanged clean =>
      rw [ClusterLink.performAll_nil]
      refine told.quiet (fun stopped => (runs stopped).elim) fun status => ?_
      have disjoint (flags : Finset DirtyFlag) :
          Disjoint (absorb payload link.rg).state.dirtyMask flags := by
        rw [clean]
        exact Finset.disjoint_empty_left flags
      exact ⟨(told.active status).1,
        (told.session status).transfer (icons (disjoint _)) (distances (disjoint _))
          (lanes (disjoint _))⟩
  | disconnected => exact told.stops fun _ => rfl
  | activated _ delta =>
      refine told.starts ?_ (fun clean => ?_) ?_ ?_
      · exact fun stopped => (runs stopped).elim
      · simp [hasActivationDelta, clean] at delta
      · rfl
      · rfl
  | deactivated => exact told.stops fun _ => rfl
  | updated _ _ active =>
      refine told.updates ?_ ?_ ?_ icons distances lanes
      · exact fun stopped => (runs stopped).elim
      · exact active
      · rfl
  | silent _ _ inactive =>
      rw [ClusterLink.performAll_nil]
      exact told.quiet (fun _ => inactive) fun status =>
        absurd status (told.not_status (.inl (sameActive.symm.trans inactive)))

theorem step (label : ClusterLabel) :
    Told (ClusterLink.step label link).1
      (cluster.receiveAll (ClusterLink.step label link).2) := by
  cases label with
  | init isNaviService =>
      refine ⟨told.idle, told.closed, told.alternates, fun status => ?_, told.begun, told.session⟩
      obtain ⟨active, initialized⟩ := told.active status
      refine ⟨active, ?_⟩
      change (link.bridge.initialized || isNaviService) = true
      rw [initialized, Bool.true_or]
  | guidance label =>
      dsimp only [ClusterLink.step]
      cases label with
      | start =>
          dsimp only [routeGuidanceStep, start]
          split_ifs with running
          · rw [ClusterLink.performAll_nil]
            exact told.quiet told.idle fun status =>
              ⟨(told.active status).1, told.session status⟩
          · rw [ClusterLink.performAll_nil]
            exact told.quiet (fun _ => rfl) fun status =>
              absurd status (told.not_status (.inl (told.idle (Bool.eq_false_iff.mpr running))))
      | stop =>
          dsimp only [routeGuidanceStep, stop]
          split_ifs with running
          · exact told.stops fun _ => rfl
          · rw [ClusterLink.performAll_nil]
            exact told.quiet told.idle fun status =>
              ⟨(told.active status).1, told.session status⟩
      | frame type payload =>
          dsimp only [routeGuidanceStep, onFrame]
          split_ifs with taken
          · rw [Bool.and_eq_true] at taken
            exact told.dispatch taken.1
          · rw [ClusterLink.performAll_nil]
            exact told.quiet told.idle fun status =>
              ⟨(told.active status).1, told.session status⟩

end Told

theorem told_of_run {link : ClusterLink} {history : List ClusterCall}
    (run : clusterLink.Run link history) : Told link (Cluster.after history) := by
  refine run.invariant (fun link history => Told link (Cluster.after history)) ?_ ?_
  · exact ⟨fun _ => rfl, rfl, nofun, nofun, nofun, nofun⟩
  · intro link next history calls label told _ stepTo
    obtain ⟨rfl, rfl⟩ := Prod.mk.inj (Option.some.inj stepTo)
    rw [Cluster.after, Cluster.receiveAll_append]
    exact told.step label

/-- A left turn that is near. -/
def leftTurnFrame : List UInt8 :=
  Utf8Text.encode ("route_state:n:1\nmaneuver_count:n:1\nmaneuver_list:s:0\nm0_type:n:1\n" ++
    "m0_junction_type:n:0\ndist_maneuver_m:n:120\n").toList

def leftTurnLabels : List ClusterLabel :=
  [.init true, .guidance .start, .guidance (.frame evtRgdUpdate leftTurnFrame)]

theorem left_turn_run : ∃ link history, clusterLink.Run link history ∧
    (Cluster.after history).status = some 1 ∧ Displayable link.rg.state ∧
    isArrival link.rg.state = false ∧
    (Cluster.after history).shown = some [⟨ManeuverMapper.turn, ManeuverMapper.dirLeft, 0, []⟩] ∧
    (Cluster.after history).maneuverState = some 2 := by
  obtain ⟨link, history, run, checked⟩ := clusterLink.exists_run_of_replay leftTurnLabels
    (fun result => decide ((Cluster.after result.2).status = some 1) &&
      hasAnyManeuver result.1.rg.state && hasManeuverList result.1.rg.state &&
      showManeuver result.1.rg.state && !isArrival result.1.rg.state &&
      decide ((Cluster.after result.2).shown =
        some [⟨ManeuverMapper.turn, ManeuverMapper.dirLeft, 0, []⟩]) &&
      decide ((Cluster.after result.2).maneuverState = some 2))
    (by decide +kernel)
  simp only [Bool.and_eq_true, decide_eq_true_eq, Bool.not_eq_true'] at checked
  obtain ⟨⟨⟨⟨⟨⟨status, any⟩, list⟩, shown⟩, noArrival⟩, descriptors⟩, told⟩ := checked
  exact ⟨link, history, run, status, ⟨any, list, shown⟩, noArrival, descriptors, told⟩

/-- Two lanes, of which the first also goes straight ahead. -/
def twoLanesFrame : List UInt8 :=
  Utf8Text.encode ("route_state:n:1\nmaneuver_count:n:1\nlane_guidance_showing:n:1\n" ++
    "lane_guidance_index:n:7\nlg0_index:n:7\nlg0_lane_count:n:2\n" ++
    "lg0_lane_directions:s:-90,0\nlg0_lane_angles:s:-90,0|0\n").toList

def twoLanesLabels : List ClusterLabel :=
  [.init true, .guidance .start, .guidance (.frame evtRgdUpdate twoLanesFrame)]

end CarplayRgi
