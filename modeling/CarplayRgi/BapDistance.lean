import CarplayRgi.BapApproach
import CarplayRgi.TracedSystems

/-!
# The distance to the maneuver

Close to the maneuver an update leaves the distance to a thread, which sends it
again and again with a blinking bar.  The thread is started when the approach
zone is entered, and is armed by an update whose first maneuver can be shown.
So a distance is lost if and only if that maneuver cannot be shown, or if the
route is cleared.
-/

namespace CarplayRgi

open BapBridge RouteGuidance

/-- A call of the service: the distance, as it is formatted by the car, and the
bar. -/
structure DistanceCall where
  meters : Int
  formatted : Int × Int
  bargraphOn : Bool
  bargraph : Int

/-- The fields of the blinking bar. -/
structure ActionBlink where
  armed : Bool
  distM : Int
  bargraphDenominatorM : Int
  full : Bool

namespace ActionBlink

def reset : ActionBlink := ⟨false, -1, -1, true⟩

/-- Nothing that blinks: the bar is full again when it begins to blink. -/
def isIdle (blink : ActionBlink) : Bool :=
  !blink.armed || decide (blink.distM ≤ 0 ∨ blink.bargraphDenominatorM ≤ 0 ∨
    blink.bargraphDenominatorM < blink.distM)

def updateContext (armed : Bool) (distM bargraphDenominatorM : Int) (blink : ActionBlink) :
    ActionBlink :=
  let updated : ActionBlink := ⟨armed, distM, bargraphDenominatorM, blink.full⟩
  { updated with full := updated.isIdle || blink.full }

end ActionBlink

/-- The last distance that has been sent, with its bar. -/
structure LastDistance where
  distM : Int
  barOn : Bool
  bar : Int

structure DistanceBridge where
  initialized : Bool
  zone : ApproachZone
  blink : ActionBlink
  last : Option LastDistance
  actionBlinkThreadRunning : Bool
  actionBlinkGeneration : Int
  -- The generations of the threads that have not returned.
  threads : List Int

namespace DistanceBridge

def fresh : DistanceBridge := ⟨false, .outside, .reset, none, false, 0, []⟩

def startActionBlinkThread (bridge : DistanceBridge) : DistanceBridge :=
  if bridge.actionBlinkThreadRunning then bridge
  else
    let generation := wrapInt (bridge.actionBlinkGeneration + 1)
    { bridge with
      actionBlinkThreadRunning := true, actionBlinkGeneration := generation
      threads := generation :: bridge.threads }

def stopActionBlinkThread (bridge : DistanceBridge) : DistanceBridge :=
  if !bridge.actionBlinkThreadRunning then bridge
  else
    { bridge with
      actionBlinkThreadRunning := false
      actionBlinkGeneration := wrapInt (bridge.actionBlinkGeneration + 1), blink := .reset }

/-- The bar of a distance in percent. -/
def linearBargraph (distM bargraphDenominatorM : Int) : Int :=
  max 0 (min 100 ((wrapInt (distM * 100)).tdiv bargraphDenominatorM))

variable (formatDistanceToTurn : Int → Int × Int)

def sendDistanceToManeuverRaw (meters : Int) (bargraphOn : Bool) (bargraph : Int) :
    TracedOp DistanceBridge DistanceCall := fun bridge =>
  if 0 < meters then
    ({ bridge with last := some ⟨meters, bargraphOn, bargraph⟩ },
      [⟨meters, formatDistanceToTurn meters, bargraphOn, bargraph⟩])
  else ({ bridge with last := none }, [⟨meters, (-1, 0), false, 0⟩])

/-- A thread of an earlier generation returns. -/
def sendActionBlinkTick (generation : Int) : TracedOp DistanceBridge DistanceCall := fun bridge =>
  if generation ≠ bridge.actionBlinkGeneration then
    ({ bridge with threads := bridge.threads.erase generation }, [])
  else if bridge.blink.isIdle then (bridge, [])
  else if bargraphBlinkPercent ≤
      linearBargraph bridge.blink.distM bridge.blink.bargraphDenominatorM then
    ({ bridge with blink := { bridge.blink with full := true } }, [])
  else
    sendDistanceToManeuverRaw formatDistanceToTurn bridge.blink.distM true
      (if bridge.blink.full then 100 else 0)
      { bridge with blink := { bridge.blink with full := !bridge.blink.full } }

def init (isNaviService : Bool) (bridge : DistanceBridge) : DistanceBridge :=
  { bridge with initialized := bridge.initialized || isNaviService }

def onStart : TracedOp DistanceBridge DistanceCall := fun bridge =>
  sendDistanceToManeuverRaw formatDistanceToTurn 0 false 0
    { bridge with zone := .outside, blink := .reset, last := none }

def onStop : TracedOp DistanceBridge DistanceCall := fun bridge =>
  ({ bridge.stopActionBlinkThread with zone := .outside }, [])

/-- The approach zone is left as it is. -/
def onShutdown : TracedOp DistanceBridge DistanceCall := fun bridge =>
  sendDistanceToManeuverRaw formatDistanceToTurn 0 false 0 bridge.stopActionBlinkThread

/-- Whether an update arms the thread. -/
def arms (state : State) : Bool :=
  hasManeuverList state && showManeuver state && decide (0 < bargraphDenominatorM state) &&
    !shouldClearManeuver state && !explicitClear state

def followZone (state : State) (bridge : DistanceBridge) : DistanceBridge :=
  let followed := { bridge with zone := bridge.zone.follow state }
  if bridge.zone.approachChanged state then
    if bridge.zone.nowApproach state then followed.startActionBlinkThread
    else followed.stopActionBlinkThread
  else followed

/-- There is no distance for the moment. -/
def transientNoDistance (state : State) : Bool :=
  decide (state.route.distManeuverM ≤ 0) && !shouldClearManeuver state && !explicitClear state &&
    hasManeuverList state && hasAnyManeuver state

def distanceFlags : Finset DirtyFlag := {.distMan, .maneuverIcon, .maneuverList, .maneuverCount}

/-- The branch of `update` for the distance to the maneuver. -/
def showDistance (state : State) : TracedOp DistanceBridge DistanceCall := fun bridge =>
  let distM := state.route.distManeuverM
  let send := sendDistanceToManeuverRaw formatDistanceToTurn
  if transientNoDistance state then
    match bridge.last with
    | some last => send last.distM last.barOn last.bar bridge
    | none => send 0 false 0 bridge
  else if distM ≤ 0 ∨ shouldClearManeuver state = true then
    send 0 false 0 { bridge with blink := .reset }
  else if 0 < bargraphDenominatorM state ∧ distM ≤ bargraphDenominatorM state then
    let bargraph := linearBargraph distM (bargraphDenominatorM state)
    -- Here the thread sends the distance.
    if bargraph < bargraphBlinkPercent then (bridge, [])
    else send distM true bargraph bridge
  else send distM false 0 { bridge with blink := { bridge.blink with full := true } }

/-- `update`. -/
def update (state : State) : TracedOp DistanceBridge DistanceCall := fun bridge =>
  if state.dirtyMask = ∅ then (bridge, [])
  else
    let context :=
      { bridge with
        blink := bridge.blink.updateContext (arms state) state.route.distManeuverM
          (bargraphDenominatorM state) }
    let followed := context.followZone state
    if Disjoint (bridge.zone.dirty state) distanceFlags then (followed, [])
    else showDistance formatDistanceToTurn state followed

def perform : BridgeCall → TracedOp DistanceBridge DistanceCall
  | .onStart => onStart formatDistanceToTurn
  | .onStop => onStop
  | .onShutdown => onShutdown formatDistanceToTurn
  | .update state => update formatDistanceToTurn state

end DistanceBridge

/-- A call of the receiver or a tick of a thread, with what it sends. -/
inductive DistanceEvent where
  | called (call : BridgeCall) (sent : List DistanceCall)
  | ticked (sent : List DistanceCall)

inductive DistanceLabel where
  | init (isNaviService : Bool)
  | call (call : BridgeCall)
  | tick (generation : Int)

/-- A bridge without a service ignores every call. -/
def distanceStep (formatDistanceToTurn : Int → Int × Int) (bridge : DistanceBridge) :
    DistanceLabel → Option (DistanceBridge × List DistanceEvent)
  | .init isNaviService => some (bridge.init isNaviService, [])
  | .call call =>
      if bridge.initialized then
        let performed := DistanceBridge.perform formatDistanceToTurn call bridge
        some (performed.1, [.called call performed.2])
      else some (bridge, [])
  | .tick generation =>
      if generation ∈ bridge.threads then
        let ticked := DistanceBridge.sendActionBlinkTick formatDistanceToTurn generation bridge
        some (ticked.1, [.ticked ticked.2])
      else none

def bapDistance (formatDistanceToTurn : Int → Int × Int) :
    TracedSystem DistanceBridge DistanceLabel DistanceEvent where
  init := .fresh
  step := distanceStep formatDistanceToTurn

def DistanceEvent.starts : DistanceEvent → Prop
  | .called .onStart _ => True
  | _ => False

def DistanceEvent.stops : DistanceEvent → Prop
  | .called .onStop _ | .called .onShutdown _ => True
  | _ => False

/-- A start that no stop and no shutdown has followed. -/
def DistanceActive : List DistanceEvent → Prop :=
  Since DistanceEvent.stops DistanceEvent.starts

namespace DistanceBridge

variable {formatDistanceToTurn : Int → Int × Int} {state : State} {bridge : DistanceBridge}

/-- Neither the thread nor the zone changes. -/
structure SameThread (before after : DistanceBridge) : Prop where
  initialized : after.initialized = before.initialized
  zone : after.zone = before.zone
  running : after.actionBlinkThreadRunning = before.actionBlinkThreadRunning
  generation : after.actionBlinkGeneration = before.actionBlinkGeneration
  threads : after.threads = before.threads

theorem SameThread.send {before : DistanceBridge} (same : SameThread before bridge) (meters : Int)
    (bargraphOn : Bool) (bargraph : Int) : SameThread before
      (sendDistanceToManeuverRaw formatDistanceToTurn meters bargraphOn bargraph bridge).1 := by
  obtain ⟨initialized, zone, running, generation, threads⟩ := same
  unfold sendDistanceToManeuverRaw
  split_ifs
  · exact ⟨initialized, zone, running, generation, threads⟩
  · exact ⟨initialized, zone, running, generation, threads⟩

theorem onStart_sameThread :
    SameThread { bridge with zone := .outside, blink := .reset, last := none }
      (onStart formatDistanceToTurn bridge).1 := by
  unfold onStart
  refine SameThread.send ?_ 0 false 0
  exact ⟨rfl, rfl, rfl, rfl, rfl⟩

theorem onShutdown_sameThread :
    SameThread bridge.stopActionBlinkThread (onShutdown formatDistanceToTurn bridge).1 := by
  unfold onShutdown
  refine SameThread.send ?_ 0 false 0
  exact ⟨rfl, rfl, rfl, rfl, rfl⟩

theorem showDistance_sameThread :
    SameThread bridge (showDistance formatDistanceToTurn state bridge).1 := by
  have here : SameThread bridge bridge := ⟨rfl, rfl, rfl, rfl, rfl⟩
  unfold showDistance
  dsimp only
  split_ifs
  · cases bridge.last with
    | none => exact here.send 0 false 0
    | some last => exact here.send last.distM last.barOn last.bar
  · refine SameThread.send ?_ 0 false 0
    exact ⟨rfl, rfl, rfl, rfl, rfl⟩
  · exact here
  · exact here.send _ _ _
  · refine SameThread.send ?_ _ _ _
    exact ⟨rfl, rfl, rfl, rfl, rfl⟩

/-- A running thread has not returned. -/
def ThreadAlive (bridge : DistanceBridge) : Prop :=
  bridge.actionBlinkThreadRunning = true → bridge.actionBlinkGeneration ∈ bridge.threads

/-- In the approach zone the thread runs. -/
def RunsInZone (bridge : DistanceBridge) : Prop :=
  bridge.zone.inApproachZone = true → bridge.actionBlinkThreadRunning = true

theorem SameThread.alive {before after : DistanceBridge} (same : SameThread before after)
    (alive : before.ThreadAlive) : after.ThreadAlive := by
  intro running
  rw [same.generation, same.threads]
  exact alive (same.running.symm.trans running)

theorem SameThread.runsInZone {before after : DistanceBridge} (same : SameThread before after)
    (runs : before.RunsInZone) : after.RunsInZone := by
  intro inside
  rw [same.running]
  exact runs (same.zone ▸ inside)

theorem start_running (bridge : DistanceBridge) :
    bridge.startActionBlinkThread.actionBlinkThreadRunning = true := by
  unfold startActionBlinkThread
  split_ifs with running
  · exact running
  · rfl

theorem ThreadAlive.start (alive : bridge.ThreadAlive) :
    bridge.startActionBlinkThread.ThreadAlive := by
  unfold startActionBlinkThread
  split_ifs
  · exact alive
  · exact fun _ => List.mem_cons_self

theorem stop_not_running (bridge : DistanceBridge) :
    bridge.stopActionBlinkThread.actionBlinkThreadRunning = false := by
  unfold stopActionBlinkThread
  split_ifs with stopped
  · simpa using stopped
  · rfl

theorem ThreadAlive.stop (bridge : DistanceBridge) : bridge.stopActionBlinkThread.ThreadAlive :=
  fun running => absurd (bridge.stop_not_running.symm.trans running) (by decide)

theorem start_zone (bridge : DistanceBridge) :
    bridge.startActionBlinkThread.zone = bridge.zone := by
  unfold startActionBlinkThread
  split_ifs
  · rfl
  · rfl

theorem stop_zone (bridge : DistanceBridge) : bridge.stopActionBlinkThread.zone = bridge.zone := by
  unfold stopActionBlinkThread
  split_ifs
  · rfl
  · rfl

theorem ThreadAlive.follow (alive : bridge.ThreadAlive) (state : State) :
    (bridge.followZone state).ThreadAlive := by
  unfold followZone
  dsimp only
  split_ifs
  · exact ThreadAlive.start alive
  · exact ThreadAlive.stop _
  · exact alive

/-- A zone that does not change was entered before, or is left for another
maneuver. -/
theorem notePrimary_inside {zone : ApproachZone}
    (inside : (zone.notePrimary state).inApproachZone = true) : zone.inApproachZone = true := by
  unfold ApproachZone.notePrimary at inside
  split_ifs at inside
  exact inside

theorem RunsInZone.follow (runs : bridge.RunsInZone) (state : State) :
    (bridge.followZone state).RunsInZone := by
  intro inside
  unfold followZone at inside ⊢
  dsimp only at inside ⊢
  split_ifs at inside ⊢ with changed near
  · exact start_running _
  · rw [stop_zone] at inside
    simp [ApproachZone.follow, changed, near] at inside
  · rw [ApproachZone.follow, if_neg changed] at inside
    exact runs (notePrimary_inside inside)

theorem followZone_zone (state : State) (bridge : DistanceBridge) :
    (bridge.followZone state).zone = bridge.zone.follow state := by
  unfold followZone
  dsimp only
  split_ifs
  · rw [start_zone]
  · rw [stop_zone]
  · rfl

theorem followZone_initialized (state : State) (bridge : DistanceBridge) :
    (bridge.followZone state).initialized = bridge.initialized := by
  unfold followZone startActionBlinkThread stopActionBlinkThread
  dsimp only
  split_ifs <;> rfl

/-- What an update leaves before it shows the distance. -/
def followed (state : State) (bridge : DistanceBridge) : DistanceBridge :=
  { bridge with
    blink := bridge.blink.updateContext (arms state) state.route.distManeuverM
      (bargraphDenominatorM state) }.followZone state

theorem update_sameThread : SameThread bridge (update formatDistanceToTurn state bridge).1 ∨
    SameThread (bridge.followed state) (update formatDistanceToTurn state bridge).1 := by
  unfold update
  dsimp only
  split_ifs
  · exact .inl ⟨rfl, rfl, rfl, rfl, rfl⟩
  · exact .inr ⟨rfl, rfl, rfl, rfl, rfl⟩
  · exact .inr showDistance_sameThread

theorem update_initialized :
    (update formatDistanceToTurn state bridge).1.initialized = bridge.initialized := by
  rcases @update_sameThread formatDistanceToTurn state bridge with same | same
  · exact same.initialized
  · exact same.initialized.trans (followZone_initialized state _)

theorem ThreadAlive.update (alive : bridge.ThreadAlive) :
    (update formatDistanceToTurn state bridge).1.ThreadAlive := by
  rcases @update_sameThread formatDistanceToTurn state bridge with same | same
  · exact same.alive alive
  · refine same.alive (ThreadAlive.follow ?_ state)
    exact alive

theorem RunsInZone.update (runs : bridge.RunsInZone) :
    (update formatDistanceToTurn state bridge).1.RunsInZone := by
  rcases @update_sameThread formatDistanceToTurn state bridge with same | same
  · exact same.runsInZone runs
  · refine same.runsInZone (RunsInZone.follow ?_ state)
    exact runs

theorem tick_keeps {generation : Int} (alive : bridge.ThreadAlive) :
    let ticked := (sendActionBlinkTick formatDistanceToTurn generation bridge).1
    ticked.ThreadAlive ∧ ticked.initialized = bridge.initialized ∧ ticked.zone = bridge.zone ∧
      ticked.actionBlinkThreadRunning = bridge.actionBlinkThreadRunning := by
  have same : ∀ bar, SameThread bridge (sendDistanceToManeuverRaw formatDistanceToTurn
      bridge.blink.distM true bar
      { bridge with blink := { bridge.blink with full := !bridge.blink.full } }).1 := by
    intro bar
    refine SameThread.send ?_ _ _ _
    exact ⟨rfl, rfl, rfl, rfl, rfl⟩
  unfold sendActionBlinkTick
  dsimp only
  split_ifs with stale
  · refine ⟨fun running => ?_, rfl, rfl, rfl⟩
    exact (List.mem_erase_of_ne (Ne.symm stale)).mpr (alive running)
  · exact ⟨alive, rfl, rfl, rfl⟩
  · exact ⟨alive, rfl, rfl, rfl⟩
  · exact ⟨(same _).alive alive, (same _).initialized, (same _).zone, (same _).running⟩
  · exact ⟨(same _).alive alive, (same _).initialized, (same _).zone, (same _).running⟩

end DistanceBridge

/-- What holds along a run: an active bridge has its service, and its thread runs
in the approach zone. -/
structure DistanceKept (bridge : DistanceBridge) (trace : List DistanceEvent) : Prop where
  alive : bridge.ThreadAlive
  initialized : DistanceActive trace → bridge.initialized = true
  runs : DistanceActive trace → bridge.RunsInZone

theorem distanceActive_snoc {trace : List DistanceEvent} {event : DistanceEvent}
    (active : DistanceActive (trace ++ [event])) (starts : ¬ event.starts) :
    DistanceActive trace :=
  ((since_snoc_iff.mp active).resolve_left starts).2

theorem not_active_of_stops {trace : List DistanceEvent} {event : DistanceEvent}
    (starts : ¬ event.starts) (stops : event.stops) : ¬ DistanceActive (trace ++ [event]) :=
  fun active => ((since_snoc_iff.mp active).resolve_left starts).1 stops

theorem distanceKept_step {formatDistanceToTurn : Int → Int × Int} {bridge next : DistanceBridge}
    {trace events : List DistanceEvent} {label : DistanceLabel} (kept : DistanceKept bridge trace)
    (stepTo : distanceStep formatDistanceToTurn bridge label = some (next, events)) :
    DistanceKept next (trace ++ events) := by
  obtain ⟨alive, initialized, runs⟩ := kept
  cases label with
  | init isNaviService =>
      cases stepTo
      rw [List.append_nil]
      refine ⟨alive, fun active => ?_, runs⟩
      rw [DistanceBridge.init, initialized active, Bool.true_or]
  | tick generation =>
      simp only [distanceStep] at stepTo
      split_ifs at stepTo
      cases stepTo
      obtain ⟨ticks, same, zone, running⟩ :=
        @DistanceBridge.tick_keeps formatDistanceToTurn bridge generation alive
      refine ⟨ticks, fun active => ?_, fun active inside => ?_⟩
      · exact same.trans (initialized (distanceActive_snoc active not_false))
      · exact running.trans (runs (distanceActive_snoc active not_false) (zone ▸ inside))
  | call call =>
      simp only [distanceStep] at stepTo
      split_ifs at stepTo with service
      · cases stepTo
        cases call with
        | onStart =>
            have same := @DistanceBridge.onStart_sameThread formatDistanceToTurn bridge
            exact ⟨same.alive alive, fun _ => same.initialized.trans service,
              fun _ => same.runsInZone nofun⟩
        | onStop =>
            refine ⟨DistanceBridge.ThreadAlive.stop bridge, fun active => ?_, fun active => ?_⟩
            · exact absurd active (not_active_of_stops not_false trivial)
            · exact absurd active (not_active_of_stops not_false trivial)
        | onShutdown =>
            refine ⟨?_, fun active => ?_, fun active => ?_⟩
            · exact DistanceBridge.onShutdown_sameThread.alive
                (DistanceBridge.ThreadAlive.stop bridge)
            · exact absurd active (not_active_of_stops not_false trivial)
            · exact absurd active (not_active_of_stops not_false trivial)
        | update state =>
            refine ⟨alive.update, fun active => ?_, fun active => ?_⟩
            · exact DistanceBridge.update_initialized.trans service
            · exact (runs (distanceActive_snoc active not_false)).update
      · cases stepTo
        rw [List.append_nil]
        exact ⟨alive, initialized, runs⟩

theorem distanceKept_run {formatDistanceToTurn : Int → Int × Int} {bridge : DistanceBridge}
    {trace : List DistanceEvent} (run : (bapDistance formatDistanceToTurn).Run bridge trace) :
    DistanceKept bridge trace := by
  refine run.invariant DistanceKept ?_ fun kept _ stepTo => distanceKept_step kept stepTo
  refine ⟨fun running => absurd running Bool.false_ne_true, ?_,
    fun _ inside => absurd inside Bool.false_ne_true⟩
  rintro ⟨before, mark, later, split, -⟩
  simp at split

/-- The bar of the distance would be shorter than a fifth. -/
structure InBlinkZone (state : State) : Prop where
  positive : 0 < state.route.distManeuverM
  known : 0 < bargraphDenominatorM state
  close : (state.route.distManeuverM * 100).tdiv (bargraphDenominatorM state) <
    bargraphBlinkPercent

theorem bargraphDenominatorM_le (state : State) :
    bargraphDenominatorM state ≤ 150 ∧ bargraphDenominatorM state ≤ prepareThreshold state := by
  have cap : (prepareThreshold state * bargraphActionPercentOfPrepare).tdiv 100 ≤ 150 ∧
      (prepareThreshold state * bargraphActionPercentOfPrepare).tdiv 100 ≤
        prepareThreshold state ∧ 0 ≤ prepareThreshold state := by
    unfold prepareThreshold
    split_ifs <;> decide
  unfold bargraphDenominatorM
  dsimp only
  split_ifs <;> omega

/-- A denominator comes from a first maneuver. -/
theorem hasManeuverList_of_known {state : State} (known : 0 < bargraphDenominatorM state) :
    hasManeuverList state = true := by
  by_contra missing
  have empty : getManeuverIndexList state = [] := by
    simpa [hasManeuverList] using missing
  have unknown : firstValue state ManeuverFields.distance = -1 := by
    unfold firstValue firstIdx
    rw [empty]
    rfl
  unfold bargraphDenominatorM at known
  rw [unknown] at known
  simp at known

namespace InBlinkZone

variable {state : State} (inZone : InBlinkZone state)

include inZone

theorem lt_denominator : state.route.distManeuverM < bargraphDenominatorM state := by
  obtain ⟨positive, known, close⟩ := inZone
  rw [Int.tdiv_eq_ediv_of_nonneg (by omega)] at close
  have product := (Int.ediv_lt_iff_lt_mul known).mp close
  unfold bargraphBlinkPercent at product
  omega

theorem linearBargraph_lt : DistanceBridge.linearBargraph state.route.distManeuverM
    (bargraphDenominatorM state) < bargraphBlinkPercent := by
  have near := inZone.lt_denominator
  have cap := (bargraphDenominatorM_le state).1
  have positive := inZone.positive
  have noWrap : wrapInt (state.route.distManeuverM * 100) = state.route.distManeuverM * 100 := by
    unfold wrapInt
    exact Int.bmod_eq_of_le (by omega) (by omega)
  unfold DistanceBridge.linearBargraph
  rw [noWrap]
  have close := inZone.close
  unfold bargraphBlinkPercent at close ⊢
  omega

theorem nowApproach (zone : ApproachZone) : zone.nowApproach state = true := by
  have near := inZone.lt_denominator
  have below := (bargraphDenominatorM_le state).2
  unfold ApproachZone.nowApproach hasUsableDistance
  rw [if_pos (by simp [inZone.positive]), Bool.or_eq_true, decide_eq_true_eq]
  omega

theorem follow_inside (shown : showManeuver state = true) (zone : ApproachZone) :
    (zone.follow state).inApproachZone = true := by
  have listed := hasManeuverList_of_known inZone.known
  have usable : hasUsableDistance state = true := by simp [hasUsableDistance, inZone.positive]
  unfold ApproachZone.follow ApproachZone.approachChanged
  rw [inZone.nowApproach, shown, listed, usable]
  by_cases inside : (zone.notePrimary state).inApproachZone = true
  · simp [inside]
  · simp [inside]

end InBlinkZone

namespace DistanceBridge

variable (formatDistanceToTurn : Int → Int × Int) (state : State) (bridge : DistanceBridge)

/-- Some call sends the distance. -/
def Sends (meters : Int) (sent : List DistanceCall) : Prop := ∃ call ∈ sent, call.meters = meters

/-- The thread runs with the distance, and sends it when it ticks. -/
structure ArmedWith (meters : Int) : Prop where
  running : bridge.actionBlinkThreadRunning = true
  alive : bridge.actionBlinkGeneration ∈ bridge.threads
  armed : bridge.blink.armed = true
  distM : bridge.blink.distM = meters
  ticks : Sends meters
    (sendActionBlinkTick formatDistanceToTurn bridge.actionBlinkGeneration bridge).2

/-- An update sends its distance, or leaves it to the thread. -/
def KeepsDistance : Prop :=
  Sends state.route.distManeuverM (update formatDistanceToTurn state bridge).2 ∨
    (update formatDistanceToTurn state bridge).1.ArmedWith formatDistanceToTurn
      state.route.distManeuverM

variable {formatDistanceToTurn state bridge}

/-- The context of an update in the blink zone stays, and the thread runs if the
first maneuver is shown. -/
theorem followed_blink (bridge : DistanceBridge) (inZone : InBlinkZone state) :
    (bridge.followed state).blink = bridge.blink.updateContext (arms state)
      state.route.distManeuverM (bargraphDenominatorM state) := by
  unfold followed followZone startActionBlinkThread
  dsimp only
  rw [inZone.nowApproach, if_pos rfl]
  split_ifs <;> rfl

theorem followed_running (inZone : InBlinkZone state) (shown : showManeuver state = true)
    (runs : bridge.RunsInZone) : (bridge.followed state).actionBlinkThreadRunning = true := by
  have context : ({ bridge with
      blink := bridge.blink.updateContext (arms state) state.route.distManeuverM
        (bargraphDenominatorM state) } : DistanceBridge).RunsInZone := runs
  refine context.follow state ?_
  rw [followZone_zone]
  exact inZone.follow_inside shown bridge.zone

/-- In the blink zone, an update sends nothing or clears the distance. -/
theorem update_eq (inZone : InBlinkZone state) (dirty : .distMan ∈ state.dirtyMask) :
    update formatDistanceToTurn state bridge =
      if shouldClearManeuver state then
        sendDistanceToManeuverRaw formatDistanceToTurn 0 false 0
          { bridge.followed state with blink := .reset }
      else (bridge.followed state, []) := by
  have someDirty : state.dirtyMask ≠ ∅ := Finset.ne_empty_of_mem dirty
  have toShow : ¬ Disjoint (bridge.zone.dirty state) distanceFlags := by
    refine Finset.not_disjoint_iff.mpr ⟨.distMan, ?_, by decide⟩
    unfold ApproachZone.dirty
    split_ifs
    · exact Finset.mem_union_left _ dirty
    · exact dirty
  have positive : ¬ state.route.distManeuverM ≤ 0 := Int.not_le.mpr inZone.positive
  have transient : transientNoDistance state = false := by
    simp [transientNoDistance, inZone.positive]
  have near := Int.le_of_lt inZone.lt_denominator
  unfold update showDistance
  dsimp only
  rw [if_neg someDirty, if_neg toShow, transient, if_neg (by decide)]
  by_cases clears : shouldClearManeuver state = true
  · rw [if_pos (.inr clears), if_pos clears]
    rfl
  · rw [if_neg (by simp [positive, clears]), if_neg clears, if_pos ⟨inZone.known, near⟩,
      if_pos inZone.linearBargraph_lt]
    rfl

theorem arms_eq (inZone : InBlinkZone state) (active : shouldClearManeuver state = false) :
    arms state = showManeuver state := by
  have noClear : explicitClear state = false := by
    simp only [shouldClearManeuver, explicitClear, decide_eq_false_iff_not] at active ⊢
    exact fun clears => active clears.2
  simp [arms, hasManeuverList_of_known inZone.known, inZone.known, active, noClear]

/-- A thread that is armed with a distance of the blink zone sends it. -/
theorem tick_sends (inZone : InBlinkZone state)
    (armed : bridge.blink.armed = true) (distM : bridge.blink.distM = state.route.distManeuverM)
    (denominator : bridge.blink.bargraphDenominatorM = bargraphDenominatorM state) :
    Sends state.route.distManeuverM (sendActionBlinkTick formatDistanceToTurn
      bridge.actionBlinkGeneration bridge).2 := by
  have near := inZone.lt_denominator
  have positive := inZone.positive
  have known := inZone.known
  have busy : bridge.blink.isIdle = false := by
    simp only [ActionBlink.isIdle, armed, distM, denominator, Bool.not_true, Bool.false_or,
      decide_eq_false_iff_not]
    omega
  have short : ¬ bargraphBlinkPercent ≤
      linearBargraph bridge.blink.distM bridge.blink.bargraphDenominatorM := by
    rw [distM, denominator]
    exact Int.not_le.mpr inZone.linearBargraph_lt
  unfold sendActionBlinkTick sendDistanceToManeuverRaw
  rw [if_neg (not_not_intro rfl), busy, if_neg (by decide), if_neg short, distM,
    if_pos positive]
  exact ⟨_, List.mem_singleton_self _, rfl⟩

/-- A distance of the blink zone is kept if and only if its maneuver is shown and
the route is not cleared. -/
theorem keepsDistance_iff (alive : bridge.ThreadAlive) (runs : bridge.RunsInZone)
    (inZone : InBlinkZone state) (dirty : .distMan ∈ state.dirtyMask) :
    bridge.KeepsDistance formatDistanceToTurn state ↔
      showManeuver state = true ∧ shouldClearManeuver state = false := by
  have positive := inZone.positive
  have blink := bridge.followed_blink inZone
  unfold KeepsDistance
  rw [update_eq inZone dirty]
  by_cases clears : shouldClearManeuver state = true
  · rw [if_pos clears, clears]
    refine iff_of_false ?_ (by simp)
    rintro (⟨call, isCall, meters⟩ | armed)
    · obtain rfl := List.mem_singleton.mp isCall
      exact positive.ne meters
    · exact absurd armed.armed (by simp [sendDistanceToManeuverRaw, ActionBlink.reset])
  have active : shouldClearManeuver state = false := Bool.eq_false_iff.mpr clears
  rw [if_neg clears]
  constructor
  · rintro (⟨call, isCall, -⟩ | armed)
    · exact absurd isCall List.not_mem_nil
    · refine ⟨?_, active⟩
      have isArmed : (bridge.followed state).blink.armed = true := armed.armed
      rw [blink] at isArmed
      exact (arms_eq inZone active).symm.trans isArmed
  · rintro ⟨shown, -⟩
    have running := followed_running inZone shown runs
    have armed : (bridge.followed state).blink.armed = true := by
      rw [blink]
      exact (arms_eq inZone active).trans shown
    have followedAlive : (bridge.followed state).ThreadAlive := by
      refine ThreadAlive.follow ?_ state
      exact alive
    refine .inr ⟨running, followedAlive running, armed, by rw [blink]; rfl, ?_⟩
    exact tick_sends inZone armed (by rw [blink]; rfl) (by rw [blink]; rfl)

end DistanceBridge

/-- Along every run, an active bridge keeps a distance of the blink zone if and
only if the first maneuver has a type that is shown and the route is not
cleared. -/
theorem blink_distance_kept_iff {formatDistanceToTurn : Int → Int × Int}
    {bridge : DistanceBridge} {trace : List DistanceEvent}
    (run : (bapDistance formatDistanceToTurn).Run bridge trace) (active : DistanceActive trace)
    {state : State} (inZone : InBlinkZone state) (dirty : .distMan ∈ state.dirtyMask) :
    bridge.KeepsDistance formatDistanceToTurn state ↔
      ManeuverMapper.isValidType (firstType state) = true ∧ shouldClearManeuver state = false := by
  have kept := distanceKept_run run
  exact DistanceBridge.keepsDistance_iff kept.alive (kept.runs active) inZone dirty

/-- A car that shows meters. -/
def plainMeters (meters : Int) : Int × Int := (meters, 0)

def startedBridge : DistanceBridge :=
  (DistanceBridge.onStart plainMeters (DistanceBridge.fresh.init true)).1

def startedTrace : List DistanceEvent := [.called .onStart [⟨0, (-1, 0), false, 0⟩]]

theorem startedBridge_run : (bapDistance plainMeters).Run startedBridge startedTrace := by
  have initialized : (bapDistance plainMeters).step .fresh (.init true) =
      some (DistanceBridge.fresh.init true, []) := rfl
  have started : (bapDistance plainMeters).step (DistanceBridge.fresh.init true) (.call .onStart) =
      some (startedBridge, startedTrace) := rfl
  exact .next (.next .start trivial initialized) trivial started

theorem startedTrace_active : DistanceActive startedTrace := by
  have starts : DistanceEvent.starts (.called .onStart [⟨0, (-1, 0), false, 0⟩]) := trivial
  exact since_now [] starts

/-- Five meters to a maneuver of a type. -/
def fiveMetersTo (type : Int) : State where
  route := { routeState := 1, maneuverCount := 1, maneuverOrder := some [0], distManeuverM := 5 }
  maneuver _ := { type := type, ver := 1, distance := 500 }
  lane _ := {}
  dirtyMask := {.distMan}

theorem left_turn_distance_kept :
    startedBridge.KeepsDistance plainMeters (fiveMetersTo 1) ↔
      ManeuverMapper.isValidType (firstType (fiveMetersTo 1)) = true ∧
        shouldClearManeuver (fiveMetersTo 1) = false := by
  have inZone : InBlinkZone (fiveMetersTo 1) := ⟨by decide, by decide, by decide⟩
  exact blink_distance_kept_iff startedBridge_run startedTrace_active inZone (by decide)

/-- The distance to a maneuver of an unknown type is lost. -/
theorem unknown_type_distance_lost :
    ¬ ∀ formatDistanceToTurn bridge trace, (bapDistance formatDistanceToTurn).Run bridge trace →
      DistanceActive trace → ∀ state, InBlinkZone state → .distMan ∈ state.dirtyMask →
        bridge.KeepsDistance formatDistanceToTurn state := by
  intro keeps
  have inZone : InBlinkZone (fiveMetersTo 54) := ⟨by decide, by decide, by decide⟩
  have nothing : (DistanceBridge.update plainMeters (fiveMetersTo 54) startedBridge).2.length =
      0 := by
    decide +kernel
  have unarmed : (DistanceBridge.update plainMeters (fiveMetersTo 54)
      startedBridge).1.blink.armed = false := by
    decide +kernel
  rcases keeps _ _ _ startedBridge_run startedTrace_active (fiveMetersTo 54) inZone (by decide) with
    ⟨call, isCall, -⟩ | armed
  · exact absurd (List.length_pos_of_mem isCall) nothing.not_gt
  · exact Bool.false_ne_true (unarmed.symm.trans armed.armed)

end CarplayRgi
