import CarplayRgi.BusText
import CarplayRgi.RgdTlv
import CarplayRgi.SlotTables

/-!
# The state of the route-guidance hook

The module state `g_rgd`: two bounded slot maps for maneuvers and lane events,
the merged cache of route updates, the bookkeeping of a pending zero route
state, and the native Amap metadata that exists only in the overlay build.
An index of `0xFFFF` marks an empty slot, although a phone may send it.
-/

namespace CarplayRgi

/-- `0xFFFF`, the index of an empty slot. -/
def emptyIndex : Nat := 0xFFFF

def rgdStateRerouting : Nat := 5

def routeZeroNormalGraceMs : Nat := 800

/-- The maneuver slots: `slot_to_iap_idx`, `slot_seq` and `seq_counter` are the
table; the versions count assignments. -/
structure ManeuverMap where
  table : SlotTable Nat maneuverCacheSize (2 ^ 32)
  slotVer : Slot → Nat
  verCounter : Nat
  slotCache : Slot → RgdManeuver

/-- The lane-guidance slots. -/
structure LaneMap where
  table : SlotTable Nat maneuverCacheSize (2 ^ 32)
  laneCache : Slot → RgdLaneGuidance

/-- The debounce fields. -/
structure RouteZero where
  lastRouteState : Nat
  startedMs : Nat
  deadlineMs : Nat
  fromReroute : Bool
  emittedRouteState : Nat
  deriving DecidableEq

/-- The fields added by the V38 overlay. -/
structure AmapMeta where
  routeGeneration : Nat
  routeUpdateSeq : Nat
  headIapIndex : Nat
  headAligned : Bool
  distanceFresh : Bool
  deriving DecidableEq

/-- `g_rgd`.  The current list is present after a 0x5201 with a maneuver list,
which may be empty. -/
structure RgdState where
  initialized : Bool
  haveUpdate : Bool
  zero : RouteZero
  currentList : Option (List Nat)
  highestListIndex : Nat
  maneuvers : ManeuverMap
  lanes : LaneMap
  updateCache : RgdUpdate
  amap : AmapMeta

/-- Static initialisation: every field is zero but the Amap generation and
head, so the slots hold index 0 until the first reset. -/
def RgdState.initial : RgdState where
  initialized := false
  haveUpdate := false
  zero := ⟨0, 0, 0, false, 0⟩
  currentList := none
  highestListIndex := 0
  maneuvers := ⟨SlotTable.cleared 0, fun _ => 0, 0, fun _ => {}⟩
  lanes := ⟨SlotTable.cleared 0, fun _ => {}⟩
  updateCache := {}
  amap := ⟨1, 0, emptyIndex, false, false⟩

/-- What a step of the hook does that a property may speak about. -/
inductive HookEvent where
  | routeUpdate (upd : RgdUpdate)
  /-- An update that is not held back, and whether it bumps the generation. -/
  | accepted (upd : RgdUpdate) (bumps : Bool)
  | stateCleared
  /-- The slot maps are emptied, possibly by a zero that is held back. -/
  | mapReset (suppressed : Bool)
  | slotAssigned (slot : Slot) (index : Nat)
  /-- A full snapshot handed to the bus, with the state it was built from. -/
  | snapshot (state : RgdState) (records : List RgdRecord)
  /-- A minimal end frame handed to the bus. -/
  | endFrame (records : List RgdRecord)
  /-- A snapshot that did not fit the text builder and was not sent. -/
  | overflowed

/-- The records of the frame that an event hands to the bus. -/
def HookEvent.published : HookEvent → Option (List RgdRecord)
  | .snapshot _ records => some records
  | .endFrame records => some records
  | _ => none

namespace RgdState

def rgdUpdateCacheReset (state : RgdState) : RgdState :=
  { state with updateCache := {} }

def rgdManeuverMapReset (state : RgdState) : RgdState :=
  { state with
    currentList := none
    highestListIndex := 0
    maneuvers := ⟨SlotTable.cleared emptyIndex, fun _ => 0, 0, fun _ => {}⟩
    lanes := ⟨SlotTable.cleared emptyIndex, fun _ => {}⟩ }

def rgdCancelPendingZero (state : RgdState) : RgdState :=
  if state.zero.startedMs = 0 then state
  else { state with zero := { state.zero with startedMs := 0, deadlineMs := 0, fromReroute := false } }

/-- The list that the current-list tests run over. -/
def listedIndexes (state : RgdState) : List Nat :=
  state.currentList.getD []

def rgdMinCurrentIndex (state : RgdState) : Option Nat :=
  state.listedIndexes.min?

/-- An empty list accepts every index. -/
def rgdCanProcessManeuverIndex (state : RgdState) (idx : Nat) : Bool :=
  if !state.haveUpdate then false
  else if state.currentList.isNone then true
  else if state.listedIndexes.isEmpty then true
  else if state.zero.lastRouteState = rgdStateRerouting then true
  else
    match state.rgdMinCurrentIndex with
    | none => false
    | some least => decide (least ≤ idx)

def rgdIsActiveIndex (state : RgdState) (idx : Nat) : Bool :=
  state.listedIndexes.contains idx

def rgdFindSlotForIapIndexNoTouch (state : RgdState) (idx : Nat) : Option Slot :=
  state.maneuvers.table.find? idx

/-- A lane event is active when it is the current one, or is listed, or is
linked by a listed maneuver. -/
def rgdIsActiveLaneIndex (state : RgdState) (laneIdx : Nat) : Bool :=
  decide (state.updateCache.laneGuidanceIndex = some laneIdx) ||
    state.listedIndexes.any fun idx =>
      decide (idx = laneIdx) ||
        match state.rgdFindSlotForIapIndexNoTouch idx with
        | none => false
        | some slot =>
            decide ((state.maneuvers.slotCache slot).linkedLaneGuidanceIndex = some laneIdx)

/-- `rgd_slot_for_iap_index` with `create` false: a lookup that refreshes the
slot it finds. -/
def rgdLookupSlot (idx : Nat) (map : ManeuverMap) : Option Slot × ManeuverMap :=
  match map.table.find? idx with
  | none => (none, map)
  | some slot => (some slot, { map with table := map.table.touch slot })

/-- Give a slot to an index: a new stamp and a new version. -/
def assignSlot (slot : Slot) (idx : Nat) (map : ManeuverMap) : ManeuverMap :=
  let version := (map.verCounter + 1) % 2 ^ 32
  { map with
    table := map.table.assign slot idx
    slotVer := Function.update map.slotVer slot version
    verCounter := version }

/-- `rgd_slot_for_iap_index` with `create` true: the slot that holds the index,
or the first empty slot, or the oldest slot that is not listed. -/
def rgdSlotForIapIndex (idx : Nat) (state : RgdState) : Slot × RgdState × List HookEvent :=
  match state.maneuvers.table.find? idx with
  | some slot =>
      (slot,
        { state with
          maneuvers := { state.maneuvers with table := state.maneuvers.table.touch slot } }, [])
  | none =>
      match state.maneuvers.table.find? emptyIndex with
      | some slot =>
          (slot, { state with maneuvers := assignSlot slot idx state.maneuvers },
            [.slotAssigned slot idx])
      | none =>
          let slot := state.maneuvers.table.victim state.rgdIsActiveIndex
          let assigned := assignSlot slot idx state.maneuvers
          (slot,
            { state with
              maneuvers :=
                { assigned with slotCache := Function.update assigned.slotCache slot {} } },
            [.slotAssigned slot idx])

/-- `rgd_lane_slot_for_iap_index` with `create` false. -/
def rgdLookupLaneSlot (idx : Nat) (state : RgdState) : Option Slot × RgdState :=
  match state.lanes.table.find? idx with
  | none => (none, state)
  | some slot =>
      (some slot,
        { state with lanes := { state.lanes with table := state.lanes.table.touch slot } })

/-- `rgd_lane_slot_for_iap_index` with `create` true. -/
def rgdLaneSlotForIapIndex (idx : Nat) (state : RgdState) : Slot × RgdState :=
  match state.lanes.table.find? idx with
  | some slot =>
      (slot, { state with lanes := { state.lanes with table := state.lanes.table.touch slot } })
  | none =>
      match state.lanes.table.find? emptyIndex with
      | some slot =>
          (slot, { state with lanes := { state.lanes with table := state.lanes.table.assign slot idx } })
      | none =>
          let slot := state.lanes.table.victim state.rgdIsActiveLaneIndex
          (slot,
            { state with
              lanes :=
                { table := state.lanes.table.assign slot idx
                  laneCache := Function.update state.lanes.laneCache slot {} } })

def rgdLaneSlotHasData (state : RgdState) (slot : Slot) : Bool :=
  (state.lanes.laneCache slot).laneGuidanceIndex.isSome &&
    (state.lanes.laneCache slot).laneInformations.isSome

/-- A lane event that has fallen behind the current list. -/
def isStaleLane (state : RgdState) (least : Nat) (slot : Slot) : Bool :=
  let laneIdx := state.lanes.table.key slot
  decide (laneIdx ≠ emptyIndex) && decide (laneIdx < least) &&
    decide (state.updateCache.laneGuidanceIndex ≠ some laneIdx)

/-- `rgd_prune_stale_lane_cache`, with whether a slot was emptied. -/
def rgdPruneStaleLaneCache (state : RgdState) : Bool × RgdState :=
  if state.zero.lastRouteState = rgdStateRerouting then (false, state)
  else
    match state.rgdMinCurrentIndex with
    | none => (false, state)
    | some least =>
        let stale := state.isStaleLane least
        ((List.finRange maneuverCacheSize).any stale,
          { state with
            lanes :=
              { table :=
                  { state.lanes.table with
                    key := fun slot => if stale slot then emptyIndex else state.lanes.table.key slot
                    stamp := fun slot => if stale slot then 0 else state.lanes.table.stamp slot }
                laneCache := fun slot => if stale slot then {} else state.lanes.laneCache slot } })

/-- The lanes that a maneuver can lend to the maneuvers linked to it. -/
def lendableLanes (man : RgdManeuver) : Option (List RgdLane) :=
  man.laneGuidance.filter (· ≠ [])

/-- Copy the lanes of the maneuver with the linked index, when it is cached
with lanes of its own. -/
def rgdResolveLinkedLanes (slot : Slot) (map : ManeuverMap) : ManeuverMap :=
  let man := map.slotCache slot
  match man.linkedLaneGuidanceIndex, man.laneGuidance with
  | some linked, none =>
      let lookup := rgdLookupSlot linked map
      match lookup.1.bind fun linkedSlot => lendableLanes (map.slotCache linkedSlot) with
      | none => lookup.2
      | some lanes =>
          { lookup.2 with
            slotCache := Function.update map.slotCache slot { man with laneGuidance := some lanes } }
  | _, _ => map

/-- A maneuver without lanes takes those of the maneuver it links to. -/
def takeLanes (sourceIndex : Nat) (lanes : List RgdLane) (man : RgdManeuver) : RgdManeuver :=
  if man.laneGuidance = none ∧ man.linkedLaneGuidanceIndex = some sourceIndex then
    { man with laneGuidance := some lanes }
  else man

/-- Copy the lanes of a slot to every maneuver that links to its index. -/
def rgdBackpropagateLinkedLanes (source : Slot) (map : ManeuverMap) : ManeuverMap :=
  match lendableLanes (map.slotCache source) with
  | none => map
  | some lanes =>
      if map.table.key source = emptyIndex then map
      else
        { map with
          slotCache := fun slot =>
            if slot = source then map.slotCache slot
            else takeLanes (map.table.key source) lanes (map.slotCache slot) }

def amapMetaNextNonzero (value : Nat) : Nat :=
  let next := (value + 1) % 2 ^ 32
  if next = 0 then 1 else next

def amapMetaBumpGeneration (amap : AmapMeta) : AmapMeta :=
  { amap with routeGeneration := amapMetaNextNonzero amap.routeGeneration }

def amapMetaResetHead (amap : AmapMeta) : AmapMeta :=
  { amapMetaBumpGeneration amap with
    headIapIndex := emptyIndex, headAligned := false, distanceFresh := false }

/-- Whether the selected head has a fresh distance and a cached type. -/
def amapHeadIsAligned (state : RgdState) : Bool :=
  if state.amap.headIapIndex = emptyIndex || !state.amap.distanceFresh then false
  else
    match state.rgdFindSlotForIapIndexNoTouch state.amap.headIapIndex with
    | none => false
    | some slot => (state.maneuvers.slotCache slot).maneuverType.isSome

def amapMetaRefreshAlignment (state : RgdState) : RgdState :=
  { state with amap := { state.amap with headAligned := state.amapHeadIsAligned } }

/-- The head that a route update selects. -/
def amapNewHead (list : List Nat) : Nat :=
  list.head?.getD emptyIndex

def amapMetaSelectHead (newHead : Nat) (amap : AmapMeta) : AmapMeta :=
  if newHead = amap.headIapIndex then amap
  else { amapMetaBumpGeneration amap with headIapIndex := newHead }

/-- The head and the freshness of its distance after an update. -/
def amapMetaNoteList (upd : RgdUpdate) (amap : AmapMeta) : AmapMeta :=
  match upd.maneuverList with
  | some list =>
      { amapMetaSelectHead (amapNewHead list) amap with
        distanceFresh := upd.distToManeuver.isSome }
  | none => if upd.distToManeuver.isSome then { amap with distanceFresh := true } else amap

/-- Whether an update moves the head to another index or clears it. -/
def amapMetaBumps (upd : RgdUpdate) (hardClear : Bool) (amap : AmapMeta) : Bool :=
  hardClear || upd.maneuverList.any fun list => decide (amapNewHead list ≠ amap.headIapIndex)

/-- One accepted 0x5201 is one step of the update sequence. -/
def amapMetaNoteRouteUpdate (upd : RgdUpdate) (hardClear : Bool) (state : RgdState) : RgdState :=
  let counted :=
    { state.amap with routeUpdateSeq := amapMetaNextNonzero state.amap.routeUpdateSeq }
  if hardClear then { state with amap := amapMetaResetHead counted }
  else amapMetaRefreshAlignment { state with amap := amapMetaNoteList upd counted }

end RgdState

end CarplayRgi
