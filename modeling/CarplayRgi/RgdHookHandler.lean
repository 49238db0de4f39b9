import CarplayRgi.RgdHookSnapshot

/-!
# Message handling and the debounce tick of the hook

The iAP2 thread runs whole message handlers and clears; the timer thread runs
the tick.  Two systems share these operations: in `rgdHook` every operation is
one step, and in `rgdHookWithTimer` the tick is two steps, because it releases
the lock between claiming a pending zero and sending the end frame.  The flag
`overlay` selects the source that the build compiles after the V38 overlay.
-/

namespace CarplayRgi

namespace RgdState

/-- Any data that shows a route is still being guided. -/
def rgdUpdateHasActiveEvidence (upd : RgdUpdate) : Bool :=
  upd.routeState.any (0 < ·) || upd.maneuverCount.any (0 < ·) ||
    upd.maneuverList.any (· ≠ []) || upd.distToManeuver.any (0 < ·) ||
    upd.distanceRemaining.any (0 < ·) || upd.destination.any (· ≠ []) ||
    upd.currentRoad.any (· ≠ [])

/-- `rgd_update_cache_merge`: a field of the update replaces that of the cache. -/
def rgdUpdateCacheMerge (upd cache : RgdUpdate) : RgdUpdate where
  componentIds := upd.componentIds <|> cache.componentIds
  routeState := upd.routeState <|> cache.routeState
  maneuverState := upd.maneuverState <|> cache.maneuverState
  currentRoad := upd.currentRoad <|> cache.currentRoad
  destination := upd.destination <|> cache.destination
  eta := upd.eta <|> cache.eta
  timeRemaining := upd.timeRemaining <|> cache.timeRemaining
  distanceRemaining := upd.distanceRemaining <|> cache.distanceRemaining
  distanceString := upd.distanceString <|> cache.distanceString
  distanceUnits := upd.distanceUnits <|> cache.distanceUnits
  distToManeuver := upd.distToManeuver <|> cache.distToManeuver
  distToManeuverString := upd.distToManeuverString <|> cache.distToManeuverString
  distToManeuverUnits := upd.distToManeuverUnits <|> cache.distToManeuverUnits
  maneuverCount := upd.maneuverCount <|> cache.maneuverCount
  maneuverList := upd.maneuverList <|> cache.maneuverList
  visibleInApp := upd.visibleInApp <|> cache.visibleInApp
  laneGuidanceIndex := upd.laneGuidanceIndex <|> cache.laneGuidanceIndex
  laneGuidanceTotal := upd.laneGuidanceTotal <|> cache.laneGuidanceTotal
  laneGuidanceShowing := upd.laneGuidanceShowing <|> cache.laneGuidanceShowing
  sourceName := upd.sourceName <|> cache.sourceName
  sourceSupportsRouteGuidance :=
    upd.sourceSupportsRouteGuidance <|> cache.sourceSupportsRouteGuidance
  laneGuidanceSlot := upd.laneGuidanceSlot <|> cache.laneGuidanceSlot

def mergeUpdate (upd : RgdUpdate) (state : RgdState) : RgdState :=
  { state with updateCache := rgdUpdateCacheMerge upd state.updateCache }

/-- Resolve the lane slot of an update that carries a lane index. -/
def enrichLaneSlot (upd : RgdUpdate) (state : RgdState) : RgdUpdate × RgdState :=
  match upd.laneGuidanceIndex with
  | none => (upd, state)
  | some index =>
      let lookup := rgdLookupLaneSlot index state
      ({ upd with
          laneGuidanceSlot := some ((lookup.1.map fun slot => (slot.val : Int)).getD (-1)) },
        lookup.2)

/-- The state from which the snapshot of an update is written. -/
def mergedUpdate (upd : RgdUpdate) (state : RgdState) : RgdState :=
  mergeUpdate (enrichLaneSlot upd state).1 (enrichLaneSlot upd state).2

/-- `write_bus_update_partial`. -/
def writeBusUpdatePartial (overlay : Bool) (stack : RgdKey → List UInt8) (upd : RgdUpdate) :
    TracedOp RgdState HookEvent := fun state =>
  if upd = {} then (state, [])
  else
    writeBusSnapshotFromCache overlay stack none (some (enrichLaneSlot upd state).1)
      (mergedUpdate upd state)

/-- A hard clear empties the caches and is passed on at once. -/
def hardClearZero (state : RgdState) : RgdState :=
  let cleared := rgdCancelPendingZero (rgdManeuverMapReset (rgdUpdateCacheReset state))
  { cleared with zero := { cleared.zero with emittedRouteState := 0 } }

/-- Start waiting for the fate of a zero; a reroute zero never times out. -/
def startPendingZero (now : Nat) (fromReroute : Bool) (state : RgdState) : RgdState :=
  if state.zero.startedMs = 0 then
    { state with
      zero :=
        { state.zero with
          startedMs := now
          fromReroute := fromReroute
          deadlineMs := if fromReroute then 0 else (now + routeZeroNormalGraceMs) % 2 ^ 64 } }
  else state

/-- The raw route state is remembered before anything is decided. -/
def noteRaw (routeState : Nat) (state : RgdState) : RgdState :=
  { state with zero := { state.zero with lastRouteState := routeState } }

/-- A zero that follows a reroute, raw or published. -/
def zeroFromReroute (prevState : Nat) (state : RgdState) : Bool :=
  decide (prevState = rgdStateRerouting) ||
    decide (state.zero.emittedRouteState = rgdStateRerouting)

/-- A zero that is held back: it resets the caches but is not published. -/
def suppressZero (prevState now : Nat) : TracedOp RgdState HookEvent := fun state =>
  let fromReroute := zeroFromReroute prevState state
  let emptied := rgdUpdateCacheReset state
  if 0 < prevState then
    (startPendingZero now fromReroute (rgdManeuverMapReset emptied), [.mapReset true])
  else (startPendingZero now fromReroute emptied, [])

/-- A positive route state cancels a pending zero and will be published. -/
def notePositive (routeState : Nat) (state : RgdState) : RgdState :=
  let cancelled := rgdCancelPendingZero state
  { cancelled with zero := { cancelled.zero with emittedRouteState := routeState } }

/-- The `route_state` branch of the handler, with whether the update is held
back. -/
def noteRouteState (routeState now : Nat) (hardClear : Bool) (state : RgdState) :
    (RgdState × List HookEvent) × Bool :=
  let noted := noteRaw routeState state
  if routeState = 0 then
    if hardClear then ((hardClearZero noted, [.mapReset false]), false)
    else if noted.zero.emittedRouteState = 0 then ((noted, []), false)
    else (suppressZero state.zero.lastRouteState now noted, true)
  else ((notePositive routeState noted, []), false)

/-- `source_supports_rg = 0`. -/
def isHardClear (upd : RgdUpdate) : Bool :=
  decide (upd.sourceSupportsRouteGuidance = some 0)

/-- The debounce decision for a 0x5201. -/
def debounceUpdate (upd : RgdUpdate) (now : Nat) (state : RgdState) :
    (RgdState × List HookEvent) × Bool :=
  match upd.routeState with
  | some routeState => noteRouteState routeState now (isHardClear upd) state
  | none =>
      if rgdUpdateHasActiveEvidence upd then ((rgdCancelPendingZero state, []), false)
      else ((state, []), !isHardClear upd && decide (state.zero.startedMs ≠ 0))

/-- The overlay notes an accepted update before it is merged. -/
def noteUpdate (overlay : Bool) (upd : RgdUpdate) (state : RgdState) : RgdState :=
  if overlay then amapMetaNoteRouteUpdate upd (isHardClear upd) state else state

def acceptedEvent (overlay : Bool) (upd : RgdUpdate) (state : RgdState) : HookEvent :=
  .accepted upd (overlay && amapMetaBumps upd (isHardClear upd) state.amap)

/-- A 0x5201 that is not held back. -/
def acceptUpdate (overlay : Bool) (stack : RgdKey → List UInt8) (upd : RgdUpdate) :
    TracedOp RgdState HookEvent := fun state =>
  let written := writeBusUpdatePartial overlay stack upd (noteUpdate overlay upd state)
  (written.1, acceptedEvent overlay upd state :: written.2)

def handleUpdate (overlay : Bool) (stack : RgdKey → List UInt8) (now : Nat) (upd : RgdUpdate) :
    TracedOp RgdState HookEvent := fun state =>
  let debounced := debounceUpdate upd now { state with haveUpdate := true }
  if debounced.2 then (debounced.1.1, .routeUpdate upd :: debounced.1.2)
  else
    let accepted := acceptUpdate overlay stack upd debounced.1.1
    (accepted.1, .routeUpdate upd :: (debounced.1.2 ++ accepted.2))

/-- Some field of the write mask is present. -/
def hasWritableField (man : RgdManeuver) : Bool :=
  decide ({ man with componentIds := none, index := none } ≠ {})

/-- Replace the record of a slot and exchange linked lanes. -/
def cacheManeuver (slot : Slot) (man : RgdManeuver) (map : ManeuverMap) : ManeuverMap :=
  rgdBackpropagateLinkedLanes slot
    (rgdResolveLinkedLanes slot { map with slotCache := Function.update map.slotCache slot man })

/-- Cache a maneuver in the slot of its index. -/
def storeManeuver (idx : Nat) (man : RgdManeuver) (state : RgdState) : RgdState :=
  let found := rgdSlotForIapIndex idx state
  { found.2.1 with maneuvers := cacheManeuver found.1 man found.2.1.maneuvers }

/-- `write_bus_maneuver_partial`. -/
def writeBusManeuverPartial (overlay : Bool) (stack : RgdKey → List UInt8) (man : RgdManeuver) :
    TracedOp RgdState HookEvent := fun state =>
  match man.index with
  | none => (state, [])
  | some idx =>
      if !hasWritableField man || !state.rgdCanProcessManeuverIndex idx then (state, [])
      else
        let stored := storeManeuver idx man state
        let found := rgdSlotForIapIndex idx state
        let published :=
          writeBusSnapshotFromCache overlay stack (some (stored.maneuvers.slotCache found.1)) none
            stored
        (published.1, found.2.2 ++ published.2)

def handleManeuver (overlay : Bool) (stack : RgdKey → List UInt8) (man : RgdManeuver) :
    TracedOp RgdState HookEvent := fun state =>
  writeBusManeuverPartial overlay stack man (rgdCancelPendingZero state)

/-- Lanes without a text of their own take the text of the event. -/
def fillLaneDescriptions (lane : RgdLaneGuidance) : RgdLaneGuidance :=
  match lane.laneGuidanceDescription with
  | some (first :: rest) =>
      { lane with
        laneInformations := lane.laneInformations.map fun lanes =>
          lanes.map fun one => if one.description = [] then { one with description := first :: rest }
            else one }
  | _ => lane

/-- The event index of a 0x5204: its own, else that of the first listed
maneuver. -/
def laneEventIndex (lane : RgdLaneGuidance) (state : RgdState) : Nat :=
  lane.laneGuidanceIndex.getD (state.listedIndexes.head?.getD emptyIndex)

/-- Cache the lanes of an event, with the slot they are cached in. -/
def cacheLane (lane : RgdLaneGuidance) (state : RgdState) : Option Slot × RgdState :=
  let iapIdx := laneEventIndex lane state
  if lane.laneInformations.isNone || decide (iapIdx = emptyIndex) then (none, state)
  else
    let found := rgdLaneSlotForIapIndex iapIdx state
    let stored := fillLaneDescriptions { lane with laneGuidanceIndex := some iapIdx }
    (some found.1,
      { found.2 with
        lanes :=
          { found.2.lanes with
            laneCache := Function.update found.2.lanes.laneCache found.1 stored } })

/-- The slot update that a 0x5204 for the current lane event brings. -/
def activeLaneUpdate (iapIdx : Nat) (slot : Option Slot) (state : RgdState) :
    Option RgdUpdate × RgdState :=
  if iapIdx = emptyIndex then (none, state)
  else
    let lookup :=
      match slot with
      | some cached => (some cached, state)
      | none => rgdLookupLaneSlot iapIdx state
    if state.updateCache.laneGuidanceIndex = some iapIdx then
      (some
        { laneGuidanceSlot := some ((lookup.1.map fun slot => (slot.val : Int)).getD (-1)) },
        lookup.2)
    else (none, lookup.2)

/-- The slot update of a 0x5204 once its lanes are cached. -/
def activeLane (lane : RgdLaneGuidance) (state : RgdState) : Option RgdUpdate × RgdState :=
  activeLaneUpdate (laneEventIndex lane state) (cacheLane lane state).1 (cacheLane lane state).2

/-- The state after the lanes and the slot update are cached. -/
def storeLane (lane : RgdLaneGuidance) (state : RgdState) : RgdState :=
  match (activeLane lane state).1 with
  | none => (activeLane lane state).2
  | some upd => mergeUpdate upd (activeLane lane state).2

/-- `write_bus_lane_guidance_partial`.  The maneuver of the same slot number
is passed on to the snapshot writer. -/
def writeBusLaneGuidancePartial (overlay : Bool) (stack : RgdKey → List UInt8)
    (lane : RgdLaneGuidance) : TracedOp RgdState HookEvent := fun state =>
  if lane.laneGuidanceIndex.isNone && lane.laneInformations.isNone then (state, [])
  else if (cacheLane lane state).1.isNone && (activeLane lane state).1.isNone then
    (storeLane lane state, [])
  else
    writeBusSnapshotFromCache overlay stack
      ((cacheLane lane state).1.map (storeLane lane state).maneuvers.slotCache)
      (activeLane lane state).1 (storeLane lane state)

def handleLane (overlay : Bool) (stack : RgdKey → List UInt8) (lane : RgdLaneGuidance) :
    TracedOp RgdState HookEvent := fun state =>
  writeBusLaneGuidancePartial overlay stack lane (rgdCancelPendingZero state)

end RgdState

/-- The reasons with which `rgd_clear_state` is called. -/
inductive ClearReason where
  | init | shutdown | disconnect | identifyEnd | moduleShutdown
  deriving DecidableEq

def ClearReason.text : ClearReason → List Char
  | .init => "init".toList
  | .shutdown => "shutdown".toList
  | .disconnect => "disconnect".toList
  | .identifyEnd => "identify_end".toList
  | .moduleShutdown => "module_shutdown".toList

namespace RgdState

/-- The frame of a tick, and the start of that of a clear. -/
def endRecords : List RgdRecord :=
  [numberRecord (.route .routeState) 0, numberRecord (.route .maneuverCount) 0]

def clearRecords (reason : ClearReason) : List RgdRecord :=
  endRecords ++ [stringRecord (.route .disconnectReason) (Utf8Text.encode reason.text)]

/-- `rgd_clear_state`. -/
def rgdClearState (overlay : Bool) (reason : ClearReason) : TracedOp RgdState HookEvent :=
  fun state =>
    let reset :=
      rgdUpdateCacheReset
        (rgdManeuverMapReset { state with haveUpdate := false, zero := ⟨0, 0, 0, false, 0⟩ })
    (if overlay then { reset with amap := amapMetaResetHead reset.amap } else reset,
      [.mapReset false, .stateCleared, .endFrame (clearRecords reason)])

/-- `rgd_lazy_init`. -/
def rgdLazyInit (overlay : Bool) : TracedOp RgdState HookEvent := fun state =>
  if state.initialized then (state, [])
  else rgdClearState overlay .init { state with initialized := true }

def iap2MsgRouteGuidanceUpdate : Nat := 0x5201
def iap2MsgRouteGuidanceManeuver : Nat := 0x5202
def iap2MsgRouteGuidanceLane : Nat := 0x5204

def handleFrame (overlay : Bool) (msgid : Nat) (raw : List UInt8) (now : Nat)
    (stack : RgdKey → List UInt8) : TracedOp RgdState HookEvent :=
  if msgid = iap2MsgRouteGuidanceUpdate then
    handleUpdate overlay stack now (rgdParseUpdate raw)
  else if msgid = iap2MsgRouteGuidanceManeuver then
    handleManeuver overlay stack (rgdParseManeuver raw)
  else if msgid = iap2MsgRouteGuidanceLane then
    handleLane overlay stack (rgdParseLaneGuidance raw)
  else TracedOp.silent id

/-- `rgd_message_handler`. -/
def rgdMessageHandler (overlay : Bool) (msgid : Nat) (raw : List UInt8) (now : Nat)
    (stack : RgdKey → List UInt8) : TracedOp RgdState HookEvent :=
  (rgdLazyInit overlay).andThen (handleFrame overlay msgid raw now stack)

/-- Whether the tick finds a pending zero whose deadline has passed. -/
def zeroIsDue (now : Nat) (state : RgdState) : Bool :=
  !(decide (state.zero.startedMs = 0) || decide (state.zero.emittedRouteState = 0)) &&
    !(state.zero.fromReroute || decide (state.zero.deadlineMs = 0)) &&
    decide (state.zero.deadlineMs ≤ now)

def claimZero (state : RgdState) : RgdState :=
  { state with
    zero :=
      { state.zero with
        startedMs := 0, deadlineMs := 0, fromReroute := false, emittedRouteState := 0 } }

/-- `rgd_periodic_tick` as one step. -/
def rgdPeriodicTick (now : Nat) : TracedOp RgdState HookEvent := fun state =>
  if zeroIsDue now state then (claimZero state, [.endFrame endRecords]) else (state, [])

end RgdState

open RgdState

inductive HookLabel where
  | message (msgid : Nat) (raw : List UInt8) (now : Nat) (stack : RgdKey → List UInt8)
  | tick (now : Nat)
  | clear (reason : ClearReason)

/-- The hook with one step for each message, tick and clear. -/
def rgdHookStep (overlay : Bool) : HookLabel → TracedOp RgdState HookEvent
  | .message msgid raw now stack => rgdMessageHandler overlay msgid raw now stack
  | .tick now => rgdPeriodicTick now
  | .clear reason => rgdClearState overlay reason

def rgdHook (overlay : Bool) : TracedSystem RgdState HookLabel HookEvent where
  init := .initial
  step state label := some (rgdHookStep overlay label state)

inductive TimerLabel where
  | message (msgid : Nat) (raw : List UInt8) (now : Nat) (stack : RgdKey → List UInt8)
  | clear (reason : ClearReason)
  | tickClaim (now : Nat)
  | tickSend

/-- The hook with a timer thread that may stand between its two steps. -/
structure TimedState where
  hook : RgdState
  claimed : Bool

def rgdHookWithTimerStep (overlay : Bool) (state : TimedState) :
    TimerLabel → Option (TimedState × List HookEvent)
  | .message msgid raw now stack =>
      let handled := rgdMessageHandler overlay msgid raw now stack state.hook
      some ({ state with hook := handled.1 }, handled.2)
  | .clear reason =>
      let cleared := rgdClearState overlay reason state.hook
      some ({ state with hook := cleared.1 }, cleared.2)
  | .tickClaim now =>
      if state.claimed then none
      else if zeroIsDue now state.hook then some (⟨claimZero state.hook, true⟩, [])
      else some (state, [])
  | .tickSend =>
      if state.claimed then some ({ state with claimed := false }, [.endFrame endRecords]) else none

def rgdHookWithTimer (overlay : Bool) : TracedSystem TimedState TimerLabel HookEvent where
  init := ⟨.initial, false⟩
  step := rgdHookWithTimerStep overlay

end CarplayRgi
