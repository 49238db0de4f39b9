import CarplayRgi.BapCluster

/-!
# What the cluster shows

The cluster stages the descriptors that it is sent, and takes them over with an
exit view that differs from the last one.  An update that finds icons changed
makes it show the maneuvers of the state if the first of them can be shown:
themselves in the approach zone, and a street to follow outside of it.
-/

namespace CarplayRgi

open BapBridge RouteGuidance

/-- The cluster as the bridge relies on it: descriptors are taken over when the
exit view changes, and an exit view that does not change is not passed on.  It
only observes the calls; what answers them (`AppConnectorNavi`) is not part of the
sources, and nothing of it goes back to the bridge. -/
structure Cluster where
  status : Option Int
  staged : Option (List ManeuverDescriptor)
  shown : Option (List ManeuverDescriptor)
  exitView : Option (Int × Int)
  -- How often descriptors have been taken over since the status.
  windows : Nat
  -- The state of the maneuver, and the lanes, since the status.
  maneuverState : Option Int
  lanes : Option (Bool × List LaneGuidanceData)

namespace Cluster

def fresh : Cluster := ⟨none, none, none, none, 0, none, none⟩

/-- What a call makes visible. -/
def receive (cluster : Cluster) : ClusterCall → Cluster
  | .rgStatus status =>
      { cluster with status := some status, windows := 0, maneuverState := none, lanes := none }
  | .maneuverDescriptor descriptors => { cluster with staged := some descriptors }
  | .exitView variant num =>
      if cluster.exitView = some (variant, num) then cluster
      else
        { cluster with
          staged := none
          shown := cluster.staged.or cluster.shown
          exitView := some (variant, num)
          windows := cluster.windows + 1 }
  | .maneuverState state => { cluster with maneuverState := some state }
  | .laneGuidance on lanes => { cluster with lanes := some (on, lanes) }
  | .activeRgType _ | .currentPositionInfo _ => cluster

def receiveAll (cluster : Cluster) (calls : List ClusterCall) : Cluster :=
  calls.foldl receive cluster

/-- The cluster after all messages of a history. -/
def after (history : List ClusterCall) : Cluster := fresh.receiveAll history

theorem receiveAll_append (cluster : Cluster) (first second : List ClusterCall) :
    cluster.receiveAll (first ++ second) = (cluster.receiveAll first).receiveAll second :=
  List.foldl_append

end Cluster

/-- The first maneuver of the list can be shown. -/
structure Displayable (state : State) : Prop where
  any : hasAnyManeuver state = true
  list : hasManeuverList state = true
  shown : showManeuver state = true

/-- An arrival is shown as if it was near. -/
def approaching (state : State) (zone : ApproachZone) : Bool :=
  isArrival state || zone.inApproachZone

def expectedDescriptors (state : State) (zone : ApproachZone) : List ManeuverDescriptor :=
  if approaching state zone then (validManeuvers state).map maneuverDescriptor
  else [createDescriptor ManeuverMapper.followStreet ManeuverMapper.dirStraight 0 []]

/-- The lanes of the state, and whether there are any. -/
def expectedLanes (state : State) : Bool × List LaneGuidanceData :=
  let lanes :=
    if state.route.laneGuidanceShowing = 1 then ((sendLaneGuidance state).map realLanes).getD []
    else []
  (decide (lanes ≠ []), lanes)

section Same

variable {before after : State}

theorem RouteGuidance.SameIcons.list (same : SameIcons before after) :
    getManeuverIndexList after = getManeuverIndexList before := by
  unfold getManeuverIndexList
  rw [same.maneuverOrder]

/-- A number that the icons show. -/
theorem RouteGuidance.SameIcons.firstValue (same : SameIcons before after)
    {field : ManeuverFields → Int} (isIcon : ∀ man, field (iconView man) = field man) :
    firstValue after field = firstValue before field := by
  unfold BapBridge.firstValue firstIdx
  rw [same.list]
  congr 2
  funext slot
  rw [← isIcon, same.icons, isIcon]

theorem RouteGuidance.SameIcons.firstIdx (same : SameIcons before after) :
    firstIdx after = BapBridge.firstIdx before := by
  unfold BapBridge.firstIdx
  rw [same.list]

theorem RouteGuidance.SameIcons.firstType (same : SameIcons before after) :
    firstType after = BapBridge.firstType before :=
  same.firstValue fun _ => rfl

theorem RouteGuidance.SameIcons.firstVer (same : SameIcons before after) :
    firstVer after = BapBridge.firstVer before :=
  same.firstValue fun _ => rfl

theorem RouteGuidance.SameIcons.displayable (same : SameIcons before after)
    (displayable : Displayable after) : Displayable before := by
  obtain ⟨any, list, shown⟩ := displayable
  refine ⟨?_, ?_, ?_⟩
  · rw [← any, hasAnyManeuver, hasAnyManeuver, same.maneuverCount]
  · rw [← list, hasManeuverList, hasManeuverList, same.list]
  · rw [← shown, showManeuver, showManeuver, same.firstType]

theorem RouteGuidance.SameIcons.isArrival (same : SameIcons before after) :
    isArrival after = BapBridge.isArrival before := by
  unfold BapBridge.isArrival
  rw [same.firstType]

theorem RouteGuidance.SameIcons.descriptors (same : SameIcons before after) :
    (validManeuvers after).map maneuverDescriptor =
      (validManeuvers before).map maneuverDescriptor := by
  have views (state : State) : (validManeuvers state).map maneuverDescriptor =
      ((((((getManeuverIndexList state).filterMap slotOf).map fun slot =>
        iconView (state.maneuver slot)).takeWhile fun man =>
          ManeuverMapper.isValidType man.type).take maxBapManeuvers)).map maneuverDescriptor := by
    simp only [validManeuvers, List.takeWhile_map, ← List.map_take, List.map_map]
    rfl
  rw [views after, views before, same.list]
  simp only [same.icons]

theorem RouteGuidance.SameIcons.expected (same : SameIcons before after) (zone : ApproachZone) :
    expectedDescriptors after zone = expectedDescriptors before zone := by
  unfold expectedDescriptors approaching
  rw [same.descriptors, same.isArrival]

end Same

section Zone

variable {state : State} {zone : ApproachZone}

/-- Clearing the flags changes nothing that is shown. -/
theorem sameIcons_clearDirty (state : State) : SameIcons state state.clearDirty :=
  ⟨rfl, rfl, fun _ => rfl⟩

theorem sameDistances_clearDirty (state : State) : SameDistances state state.clearDirty :=
  ⟨rfl, fun _ => rfl⟩

theorem notePrimary_primary (state : State) (zone : ApproachZone) :
    (zone.notePrimary state).lastFirstManeuverIdx = firstIdx state ∧
      (zone.notePrimary state).lastFirstManeuverVer = firstVer state := by
  unfold ApproachZone.notePrimary
  split
  · exact ⟨rfl, rfl⟩
  · rename_i noted
    rw [not_or, not_not, not_not] at noted
    exact ⟨noted.1.symm, noted.2.symm⟩

theorem follow_primary (state : State) (zone : ApproachZone) :
    (zone.follow state).lastFirstManeuverIdx = firstIdx state ∧
      (zone.follow state).lastFirstManeuverVer = firstVer state := by
  unfold ApproachZone.follow
  split
  · exact notePrimary_primary state zone
  · exact notePrimary_primary state zone

/-- A zone that has noted the first maneuver notes nothing new. -/
theorem notePrimary_of_noted (idx : zone.lastFirstManeuverIdx = firstIdx state)
    (ver : zone.lastFirstManeuverVer = firstVer state) : zone.notePrimary state = zone := by
  unfold ApproachZone.notePrimary
  rw [if_neg (by rw [idx, ver]; simp)]

/-- What an update decides is what it leaves in the zone. -/
theorem nowApproach_eq (displayable : Displayable state) (zone : ApproachZone) :
    zone.nowApproach state = approaching state (zone.follow state) := by
  unfold approaching
  by_cases changed : zone.approachChanged state = true
  · have now : (zone.follow state).inApproachZone = zone.nowApproach state := by
      rw [ApproachZone.follow, if_pos changed]
    rw [now, ApproachZone.nowApproach, ← Bool.or_assoc, Bool.or_self]
  · have noted : zone.follow state = zone.notePrimary state := by
      rw [ApproachZone.follow, if_neg changed]
    rw [noted]
    cases usable : hasUsableDistance state with
    | false =>
        rw [ApproachZone.nowApproach, if_neg (by rw [usable]; decide)]
    | true =>
        have same : zone.nowApproach state = (zone.notePrimary state).inApproachZone := by
          by_contra differs
          exact changed (by
            simp [ApproachZone.approachChanged, usable, differs, displayable.shown,
              displayable.list])
        rw [same, ← same, ApproachZone.nowApproach, ← Bool.or_assoc, Bool.or_self]

/-- An arrival at a known distance is always in the zone. -/
theorem inside_of_arrival (displayable : Displayable state) (arrived : isArrival state = true)
    (usable : hasUsableDistance state = true) (zone : ApproachZone) :
    (zone.follow state).inApproachZone = true := by
  have near : zone.nowApproach state = true := by
    rw [ApproachZone.nowApproach, arrived, Bool.true_or]
  by_cases changed : zone.approachChanged state = true
  · rw [ApproachZone.follow, if_pos changed]
    exact near
  · rw [ApproachZone.follow, if_neg changed]
    by_contra outside
    exact changed (by
      simp [ApproachZone.approachChanged, usable, near, outside, displayable.shown,
        displayable.list])

end Zone

namespace ClusterBridge

/-- The variant of the next exit view. -/
def nextVariant (bridge : ClusterBridge) : Int :=
  if (wrapInt (bridge.exitViewSendCount + 1)).tmod 2 = 0 then exitViewEu else exitViewNar

/-- The parity of the counter changes also where it wraps. -/
theorem wrapInt_succ_tmod (count : Int) :
    (wrapInt (count + 1)).tmod 2 = 0 ↔ ¬ count.tmod 2 = 0 := by
  obtain ⟨turns, wrapped⟩ := Int.dvd_bmod_sub_self (x := count + 1) (m := 2 ^ 32)
  rw [← Int.dvd_iff_tmod_eq_zero, ← Int.dvd_iff_tmod_eq_zero, wrapInt]
  omega

theorem nextVariant_sendExitView (bridge : ClusterBridge) :
    (sendExitView bridge).1.nextVariant ≠ bridge.nextVariant := by
  unfold nextVariant sendExitView
  dsimp only
  by_cases even : (wrapInt (bridge.exitViewSendCount + 1)).tmod 2 = 0
  · rw [if_pos even, if_neg (mt (wrapInt_succ_tmod _).mp (not_not.mpr even))]
    decide
  · rw [if_neg even, if_pos ((wrapInt_succ_tmod _).mpr even)]
    decide

end ClusterBridge

/-- The next exit view will be another one than that of the cluster. -/
def Alternates (bridge : ClusterBridge) (cluster : Cluster) : Prop :=
  cluster.exitView ≠ some (bridge.nextVariant, 0)

/-- The cluster after it has taken over what was staged. -/
def Cluster.takeOver (cluster : Cluster) (variant : Int) : Cluster :=
  { cluster with
    staged := none
    shown := cluster.staged.or cluster.shown
    exitView := some (variant, 0)
    windows := cluster.windows + 1 }

/-- The exit view behind descriptors makes the cluster take them over. -/
theorem receiveAll_closeWindow {bridge : ClusterBridge} {cluster : Cluster}
    (alternates : Alternates bridge cluster) (sent : Bool) :
    cluster.receiveAll (ClusterBridge.closeWindow sent bridge).2 =
        (if sent then cluster.takeOver bridge.nextVariant else cluster) ∧
      Alternates (ClusterBridge.closeWindow sent bridge).1
        (if sent then cluster.takeOver bridge.nextVariant else cluster) := by
  cases sent with
  | false => exact ⟨rfl, alternates⟩
  | true =>
      refine ⟨if_neg alternates, fun same => ?_⟩
      have variants := (Prod.mk.inj (Option.some.inj same)).1
      exact ClusterBridge.nextVariant_sendExitView bridge variants.symm

theorem ClusterBridge.closeWindow_frame (sent : Bool) (bridge : ClusterBridge) :
    (closeWindow sent bridge).1.zone = bridge.zone ∧
      (closeWindow sent bridge).1.initialized = bridge.initialized := by
  cases sent with
  | false => exact ⟨rfl, rfl⟩
  | true => exact ⟨rfl, rfl⟩

/-- Messages that say nothing to the model of the cluster. -/
theorem receiveAll_unseen {cluster : Cluster} {calls : List ClusterCall}
    (unseen : ∀ call ∈ calls, cluster.receive call = cluster) :
    cluster.receiveAll calls = cluster := by
  induction calls with
  | nil => rfl
  | cons call calls ih =>
      rw [Cluster.receiveAll, List.foldl_cons, unseen call List.mem_cons_self]
      exact ih fun other member => unseen other (List.mem_cons_of_mem call member)

namespace ClusterBridge

variable (state : State) (zone : ApproachZone)

/-- The descriptors of an update, if it has any. -/
def iconMessage : Option (List ManeuverDescriptor) :=
  (iconCalls state zone).head?.bind fun call =>
    match call with
    | .maneuverDescriptor descriptors => some descriptors
    | _ => none

/-- The maneuver state of an update, if it has any. -/
def stateMessage : Option Int :=
  (stateCalls state zone).head?.bind fun call =>
    match call with
    | .maneuverState value => some value
    | _ => none

theorem sendManeuvers_cases : sendManeuvers state = [] ∨
    ∃ descriptors, sendManeuvers state = [.maneuverDescriptor descriptors] := by
  unfold sendManeuvers
  split_ifs
  · exact .inr ⟨_, rfl⟩
  · exact .inl rfl
  · exact .inr ⟨_, rfl⟩

/-- An update has one message with descriptors at most, and marks that it has
sent it. -/
theorem iconCalls_cases :
    (iconCalls state zone = [] ∧ iconMessage state zone = none) ∨
      ∃ descriptors, iconCalls state zone = [.maneuverDescriptor descriptors] ∧
        iconMessage state zone = some descriptors ∧ descriptorSent state zone = true := by
  have split : iconCalls state zone = [] ∨
      ∃ descriptors, iconCalls state zone = [.maneuverDescriptor descriptors] ∧
        descriptorSent state zone = true := by
    unfold iconCalls descriptorSent
    by_cases clean : Disjoint (zone.dirty state) iconFlags
    · exact .inl (if_pos clean)
    · rw [if_neg clean, decide_eq_false clean, Bool.not_false, Bool.true_and]
      split_ifs with explicit list shown near clear away
      · exact .inr ⟨_, rfl, by rw [explicit, Bool.true_or, Bool.true_or]⟩
      · rcases sendManeuvers_cases state with none | ⟨descriptors, some⟩
        · exact .inl none
        · exact .inr ⟨descriptors, some, by rw [list, shown]; simp⟩
      · exact .inr ⟨_, rfl, by rw [list, shown]; simp⟩
      · exact .inr ⟨_, rfl, by rw [clear, Bool.or_true]⟩
      · exact .inl rfl
      · exact .inr ⟨_, rfl, by rw [away, Bool.or_true]⟩
      · exact .inl rfl
  rcases split with none | ⟨descriptors, some, sent⟩
  · exact .inl ⟨none, by rw [iconMessage, none]; rfl⟩
  · exact .inr ⟨descriptors, some, by rw [iconMessage, some]; rfl, sent⟩

theorem stateCalls_cases :
    (stateCalls state zone = [] ∧ stateMessage state zone = none) ∨
      ∃ value, stateCalls state zone = [.maneuverState value] ∧
        stateMessage state zone = some value := by
  have split : stateCalls state zone = [] ∨
      ∃ value, stateCalls state zone = [.maneuverState value] := by
    unfold stateCalls
    split_ifs
    · exact .inl rfl
    · exact .inr ⟨_, rfl⟩
    · exact .inr ⟨_, rfl⟩
    · exact .inr ⟨_, rfl⟩
    · exact .inr ⟨_, rfl⟩
    · exact .inl rfl
  rcases split with none | ⟨value, some⟩
  · exact .inl ⟨none, by rw [stateMessage, none]; rfl⟩
  · exact .inr ⟨value, some, by rw [stateMessage, some]; rfl⟩

variable {state zone}

/-- The first slot of the list is valid if it can be shown. -/
theorem validManeuvers_ne_nil (displayable : Displayable state) : validManeuvers state ≠ [] := by
  have shown := displayable.shown
  unfold showManeuver firstType firstValue firstIdx at shown
  unfold validManeuvers
  cases list : getManeuverIndexList state with
  | nil =>
      rw [list] at shown
      simp [slotOf, ManeuverMapper.isValidType, ManeuverMapper.mtNoTurn] at shown
  | cons first rest =>
      rw [list, List.headD_cons] at shown
      cases isSlot : slotOf first with
      | none =>
          rw [isSlot] at shown
          simp [ManeuverMapper.isValidType, ManeuverMapper.mtNoTurn] at shown
      | some slot =>
          rw [isSlot, Option.map_some, Option.getD_some] at shown
          simp [isSlot, shown, maxBapManeuvers]

theorem not_clears (any : hasAnyManeuver state = true) : explicitClear state = false ∧
    shouldClearManeuver state = false := by
  simp only [hasAnyManeuver, decide_eq_true_eq] at any
  have some : state.route.maneuverCount ≠ 0 := by omega
  exact ⟨decide_eq_false fun clear => some clear.2.1, decide_eq_false fun clear => some clear.1⟩

/-- What is sent while the first maneuver can be shown. -/
theorem iconMessage_of_dirty (displayable : Displayable state)
    (dirty : ¬ Disjoint (zone.dirty state) iconFlags) :
    iconMessage state zone = some (expectedDescriptors state (zone.follow state)) ∧
      descriptorSent state zone = true := by
  have clears := not_clears displayable.any
  have calls : iconCalls state zone =
      [.maneuverDescriptor (expectedDescriptors state (zone.follow state))] := by
    unfold iconCalls expectedDescriptors
    rw [if_neg dirty, clears.1, if_neg Bool.false_ne_true, if_pos displayable.list,
      if_pos displayable.shown, nowApproach_eq displayable]
    split
    · have valid := validManeuvers_ne_nil displayable
      rw [sendManeuvers, if_neg (by rw [displayable.list]; simp [valid])]
    · rfl
  refine ⟨by rw [iconMessage, calls]; rfl, ?_⟩
  rw [descriptorSent, decide_eq_false dirty, displayable.list, displayable.shown]
  simp

theorem iconMessage_of_clean (clean : Disjoint (zone.dirty state) iconFlags) :
    iconMessage state zone = none ∧ descriptorSent state zone = false := by
  refine ⟨?_, ?_⟩
  · rw [iconMessage, iconCalls, if_pos clean]
    rfl
  · rw [descriptorSent, decide_eq_true clean]
    rfl

theorem stateMessage_of_dirty (displayable : Displayable state)
    (dirty : ¬ Disjoint (zone.dirty state) stateFlags) :
    stateMessage state zone =
      some (bapState state (approaching state (zone.follow state))) := by
  have clears := not_clears displayable.any
  rw [stateMessage, stateCalls, if_neg dirty, clears.1, if_neg Bool.false_ne_true, clears.2,
    displayable.list, displayable.shown, nowApproach_eq displayable]
  rfl

/-- The lanes of an update, if it has any. -/
def laneMessage (state : State) (dirty : Finset DirtyFlag) :
    Option (Bool × List LaneGuidanceData) :=
  (laneCalls state dirty).head?.bind fun call =>
    match call with
    | .laneGuidance on lanes => some (on, lanes)
    | _ => none

theorem laneCalls_cases (state : State) (dirty : Finset DirtyFlag) :
    (laneCalls state dirty = [] ∧ laneMessage state dirty = none) ∨
      ∃ on lanes, laneCalls state dirty = [.laneGuidance on lanes] ∧
        laneMessage state dirty = some (on, lanes) := by
  have split : laneCalls state dirty = [] ∨
      ∃ on lanes, laneCalls state dirty = [.laneGuidance on lanes] := by
    unfold laneCalls
    split_ifs
    · exact .inl rfl
    · rw [sendLanes]
      split
      · exact .inr ⟨_, _, rfl⟩
      · exact .inr ⟨_, _, rfl⟩
    · exact .inr ⟨_, _, rfl⟩
  rcases split with none | ⟨on, lanes, some⟩
  · exact .inl ⟨none, by rw [laneMessage, none]; rfl⟩
  · exact .inr ⟨on, lanes, some, by rw [laneMessage, some]; rfl⟩

/-- With maneuvers ahead, the lanes that are sent are those of the state. -/
theorem laneMessage_of_dirty {dirty : Finset DirtyFlag} (any : hasAnyManeuver state = true)
    (isDirty : ¬ Disjoint dirty laneFlags) :
    laneMessage state dirty = some (expectedLanes state) := by
  have notCleared := not_clears any
  have calls : laneCalls state dirty =
      [.laneGuidance (expectedLanes state).1 (expectedLanes state).2] := by
    unfold laneCalls expectedLanes clears
    rw [if_neg isDirty, notCleared.1, notCleared.2]
    by_cases showing : state.route.laneGuidanceShowing = 1
    · rw [if_pos showing, if_pos (by simpa using showing), sendLanes]
      cases sendLaneGuidance state with
      | none => rfl
      | some lanes => rfl
    · rw [if_neg showing, if_neg (by simpa using showing)]
      rfl
  rw [laneMessage, calls]
  rfl

theorem laneMessage_of_clean {dirty : Finset DirtyFlag} (clean : Disjoint dirty laneFlags) :
    laneMessage state dirty = none := by
  rw [laneMessage, laneCalls, if_pos clean]
  rfl

theorem stateMessage_of_clean (clean : Disjoint (zone.dirty state) stateFlags) :
    stateMessage state zone = none := by
  rw [stateMessage, stateCalls, if_pos clean]
  rfl

theorem showText_frame (state : State) (dirty : Finset DirtyFlag) (bridge : ClusterBridge) :
    ∃ latched calls, showText state dirty bridge =
        ({ bridge with latchedTurnToText := latched }, calls) ∧
      ∀ call ∈ calls, ∀ cluster : Cluster, cluster.receive call = cluster := by
  unfold showText
  split_ifs
  · exact ⟨bridge.latchedTurnToText, [], rfl, nofun⟩
  · exact ⟨_, _, rfl, fun call isCall cluster => by rw [List.mem_singleton.mp isCall]; rfl⟩
  · exact ⟨_, _, rfl, fun call isCall cluster => by rw [List.mem_singleton.mp isCall]; rfl⟩

/-- The cluster behind an update. -/
def updated (state : State) (bridge : ClusterBridge) (cluster : Cluster) : Cluster where
  status := cluster.status
  staged := none
  shown := (iconMessage state bridge.zone).or cluster.shown
  exitView :=
    if descriptorSent state bridge.zone then some (bridge.nextVariant, 0) else cluster.exitView
  windows := if descriptorSent state bridge.zone then cluster.windows + 1 else cluster.windows
  maneuverState := (stateMessage state bridge.zone).or cluster.maneuverState
  lanes := (laneMessage state (bridge.zone.dirty state)).or cluster.lanes

theorem update_eq {state : State} (notEmpty : state.dirtyMask ≠ ∅) (bridge : ClusterBridge) :
    ∃ texts latched, (∀ call ∈ texts, ∀ cluster : Cluster, cluster.receive call = cluster) ∧
      update state bridge =
        ({ (closeWindow (descriptorSent state bridge.zone) (bridge.follow state)).1 with
            latchedTurnToText := latched },
          iconCalls state bridge.zone ++
            ((closeWindow (descriptorSent state bridge.zone) (bridge.follow state)).2 ++
            (texts ++ (stateCalls state bridge.zone ++
              laneCalls state (bridge.zone.dirty state))))) := by
  obtain ⟨latched, texts, shownText, unseen⟩ := showText_frame state (bridge.zone.dirty state)
    (closeWindow (descriptorSent state bridge.zone) (bridge.follow state)).1
  refine ⟨texts, latched, unseen, ?_⟩
  unfold update
  rw [if_neg notEmpty]
  simp only [TracedOp.andThen, sends, shownText]

theorem receiveAll_iconCalls (state : State) (zone : ApproachZone) {cluster : Cluster}
    (closed : cluster.staged = none) :
    cluster.receiveAll (iconCalls state zone) =
      { cluster with staged := iconMessage state zone } := by
  rcases iconCalls_cases state zone with ⟨calls, message⟩ | ⟨descriptors, calls, message, -⟩
  · rw [calls, message, ← closed]
    rfl
  · rw [calls, message]
    rfl

theorem receiveAll_stateCalls (state : State) (zone : ApproachZone) (cluster : Cluster) :
    cluster.receiveAll (stateCalls state zone) =
      { cluster with maneuverState := (stateMessage state zone).or cluster.maneuverState } := by
  rcases stateCalls_cases state zone with ⟨calls, message⟩ | ⟨value, calls, message⟩
  · rw [calls, message]
    rfl
  · rw [calls, message]
    rfl

theorem receiveAll_laneCalls (state : State) (dirty : Finset DirtyFlag) (cluster : Cluster) :
    cluster.receiveAll (laneCalls state dirty) =
      { cluster with lanes := (laneMessage state dirty).or cluster.lanes } := by
  rcases laneCalls_cases state dirty with ⟨calls, message⟩ | ⟨on, lanes, calls, message⟩
  · rw [calls, message]
    rfl
  · rw [calls, message]
    rfl

theorem update_receive {state : State} (notEmpty : state.dirtyMask ≠ ∅) {bridge : ClusterBridge}
    {cluster : Cluster} (alternates : Alternates bridge cluster)
    (closed : cluster.staged = none) :
    cluster.receiveAll (update state bridge).2 = updated state bridge cluster ∧
      Alternates (update state bridge).1 (updated state bridge cluster) ∧
      (update state bridge).1.zone = bridge.zone.follow state ∧
      (update state bridge).1.initialized = bridge.initialized := by
  obtain ⟨texts, latched, unseen, updateEq⟩ := update_eq notEmpty bridge
  have staged : Alternates (bridge.follow state)
      { cluster with staged := iconMessage state bridge.zone } := alternates
  have window := receiveAll_closeWindow staged (descriptorSent state bridge.zone)
  have frame := closeWindow_frame (descriptorSent state bridge.zone) (bridge.follow state)
  have sameVariant : (bridge.follow state).nextVariant = bridge.nextVariant := rfl
  -- An update that sends no exit view has staged nothing.
  have taken : (if descriptorSent state bridge.zone then
        Cluster.takeOver { cluster with staged := iconMessage state bridge.zone }
          (bridge.follow state).nextVariant
      else { cluster with staged := iconMessage state bridge.zone }) =
      { updated state bridge cluster with
        maneuverState := cluster.maneuverState, lanes := cluster.lanes } := by
    rw [sameVariant]
    rcases iconCalls_cases state bridge.zone with ⟨-, message⟩ | ⟨descriptors, -, message, sent⟩
    · cases sent : descriptorSent state bridge.zone with
      | false => simp [updated, sent, message]
      | true => simp [updated, sent, message, Cluster.takeOver]
    · simp [updated, sent, message, Cluster.takeOver]
  rw [taken] at window
  rw [updateEq]
  refine ⟨?_, window.2, frame.1, frame.2⟩
  simp only [Cluster.receiveAll_append]
  rw [receiveAll_iconCalls state bridge.zone closed, window.1,
    receiveAll_unseen fun call isText => unseen call isText _, receiveAll_stateCalls,
    receiveAll_laneCalls]
  rfl

end ClusterBridge

/-- A direction for each of the other lane angles, none of them twice. -/
theorem distinct_codes (codes : List Int) :
    (codes.foldl (fun kept code => if code ∈ kept then kept else kept ++ [code]) []).Nodup ∧
      ∀ code ∈ codes.foldl (fun kept code => if code ∈ kept then kept else kept ++ [code]) [],
        code ∈ codes := by
  induction codes using List.reverseRecOn with
  | nil => exact ⟨List.nodup_nil, nofun⟩
  | append_singleton codes code ih =>
      obtain ⟨distinct, from_⟩ := ih
      rw [List.foldl_append, List.foldl_cons, List.foldl_nil]
      split_ifs with again
      · exact ⟨distinct, fun other member => List.mem_append_left _ (from_ other member)⟩
      · refine ⟨List.nodup_append.mpr ⟨distinct, List.nodup_singleton code, ?_⟩, ?_⟩
        · intro kept isKept last isLast same
          rw [List.mem_singleton] at isLast
          exact again (isLast ▸ same ▸ isKept)
        · intro other member
          rcases List.mem_append.mp member with earlier | last
          · exact List.mem_append_left _ (from_ other earlier)
          · exact List.mem_append_right _ last

/-- A lane as the cluster takes it: the other directions ascend, and are
neither that of the lane nor unknown. -/
structure LaneGuidanceData.WellFormed (lane : LaneGuidanceData) : Prop where
  ascending : lane.sideStreets.Pairwise (· < ·)
  others : ∀ code ∈ lane.sideStreets, code ≠ lane.direction ∧ code ≠ 0xFF
  guidanceInfo : 0 ≤ lane.guidanceInfo ∧ lane.guidanceInfo ≤ 2

theorem wellFormed_laneGuidanceData (lanes : ShownLanes) (laneIdx : Nat) :
    (laneGuidanceData lanes laneIdx).WellFormed := by
  have codes := distinct_codes ((((anglesOf lanes laneIdx).drop
    (if (lanes.directions.getD [])[laneIdx]? = some 1000 then 1 else 0)).map
      mapRawLaneValueToDirectionCode).filter fun code =>
        decide (code ≠ 0xFF ∧ code ≠ mapLaneDirection lanes laneIdx))
  refine ⟨?_, fun code isOther => ?_, ?_⟩
  · have sorted : (mapLaneSideStreets lanes laneIdx).Pairwise (· ≤ ·) :=
      List.pairwise_insertionSort (· ≤ ·) _
    have distinct : (mapLaneSideStreets lanes laneIdx).Nodup :=
      (List.perm_insertionSort (· ≤ ·) _).nodup_iff.mpr codes.1
    exact (sorted.and distinct).imp fun both => lt_of_le_of_ne both.1 both.2
  · have member := codes.2 code ((List.mem_insertionSort (· ≤ ·)).mp isOther)
    have keeps := (List.mem_filter.mp member).2
    rw [decide_eq_true_eq] at keeps
    exact ⟨keeps.2, keeps.1⟩
  · unfold laneGuidanceData mapGuidanceInfo
    dsimp only
    split
    · decide
    · split_ifs with outside
      · decide
      · omega

theorem realLanes_wellFormed (lanes : ShownLanes) :
    (realLanes lanes).length ≤ 8 ∧ ∀ lane ∈ realLanes lanes, lane.WellFormed := by
  unfold realLanes
  refine ⟨?_, fun lane isLane => ?_⟩
  · have filtered := List.length_filter_le (shouldEmitLane lanes)
      (List.range (min lanes.count 8).toNat)
    rw [List.length_map]
    rw [List.length_range] at filtered
    omega
  · obtain ⟨laneIdx, -, rfl⟩ := List.mem_map.mp isLane
    exact wellFormed_laneGuidanceData lanes laneIdx

theorem expectedLanes_wellFormed (state : State) :
    (expectedLanes state).2.length ≤ 8 ∧ ∀ lane ∈ (expectedLanes state).2, lane.WellFormed := by
  unfold expectedLanes
  dsimp only
  split
  · cases sendLaneGuidance state with
    | none => exact ⟨Nat.zero_le 8, nofun⟩
    | some lanes => exact realLanes_wellFormed lanes
  · exact ⟨Nat.zero_le 8, nofun⟩

end CarplayRgi
