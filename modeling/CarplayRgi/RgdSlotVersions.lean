import CarplayRgi.RgdRouteSizes
import CarplayRgi.RgdSnapshotRuns

/-!
# Slot versions

The version of a slot counts the slot assignments since the last map reset, up
to the one that filled the slot.  A zero that is held back resets this count
without publishing an end, so two routes may show the same version.  Without
such a reset two occupants of a slot differ in version as long as the number
of assignments between them is not a multiple of 65535.
-/

namespace CarplayRgi

/-- The version counter and the version of each slot. -/
structure VersionLedger where
  counter : Nat
  ver : Slot → Nat

/-- What an event does to the versions. -/
def VersionLedger.note (ledger : VersionLedger) : HookEvent → VersionLedger
  | .mapReset _ => ⟨0, fun _ => 0⟩
  | .slotAssigned slot _ =>
      let next := (ledger.counter + 1) % 2 ^ 32
      ⟨next, Function.update ledger.ver slot next⟩
  | _ => ledger

def versionLedger (events : List HookEvent) (ledger : VersionLedger) : VersionLedger :=
  events.foldl VersionLedger.note ledger

@[simp]
theorem versionLedger_append (first second : List HookEvent) (ledger : VersionLedger) :
    versionLedger (first ++ second) ledger = versionLedger second (versionLedger first ledger) := by
  simp [versionLedger]

/-- An event that leaves the versions alone. -/
def KeepsVersions : HookEvent → Prop
  | .mapReset _ => False
  | .slotAssigned _ _ => False
  | _ => True

theorem versionLedger_of_keeps {events : List HookEvent}
    (keeps : ∀ event ∈ events, KeepsVersions event) (ledger : VersionLedger) :
    versionLedger events ledger = ledger := by
  induction events with
  | nil => rfl
  | cons event events ih =>
      have first : ledger.note event = ledger := by
        have kept := keeps event List.mem_cons_self
        cases event <;> first | rfl | exact kept.elim
      have rest := ih fun later member => keeps later (List.mem_cons_of_mem event member)
      change versionLedger events (ledger.note event) = ledger
      rw [first, rest]

namespace RgdState

/-- The versions held by the hook. -/
def versions (state : RgdState) : VersionLedger :=
  ⟨state.maneuvers.verCounter, state.maneuvers.slotVer⟩

theorem versions_congr {first second : RgdState} (same : first.maneuvers = second.maneuvers) :
    first.versions = second.versions := by
  simp only [versions, same]

/-- The versions after a step are those that its events note. -/
def NotesVersions (before after : RgdState) (events : List HookEvent) : Prop :=
  after.versions = versionLedger events before.versions

theorem NotesVersions.trans {first second third : RgdState} {events later : List HookEvent}
    (left : NotesVersions first second events) (right : NotesVersions second third later) :
    NotesVersions first third (events ++ later) := by
  unfold NotesVersions at *
  rw [versionLedger_append, ← left, right]

theorem notesVersions_of_keeps {before after : RgdState} {events : List HookEvent}
    (same : after.maneuvers = before.maneuvers)
    (keeps : ∀ event ∈ events, KeepsVersions event) : NotesVersions before after events := by
  unfold NotesVersions
  rw [versionLedger_of_keeps keeps, versions_congr same]

theorem writeBusSnapshotFromCache_versions (overlay : Bool) (stack : RgdKey → List UInt8)
    (extraMan : Option RgdManeuver) (currentUpd : Option RgdUpdate) (state : RgdState) :
    NotesVersions state (writeBusSnapshotFromCache overlay stack extraMan currentUpd state).1
      (writeBusSnapshotFromCache overlay stack extraMan currentUpd state).2 := by
  refine notesVersions_of_keeps
    (writeBusSnapshotFromCache_keeps overlay stack extraMan currentUpd state).maneuvers ?_
  intro event member
  rcases mem_writeBusSnapshotFromCache member with rfl | rfl <;> trivial

theorem rgdSlotForIapIndex_versions (idx : Nat) (state : RgdState) :
    NotesVersions state (rgdSlotForIapIndex idx state).2.1 (rgdSlotForIapIndex idx state).2.2 := by
  unfold rgdSlotForIapIndex
  split
  · rfl
  · split
    · rfl
    · rfl

theorem rgdResolveLinkedLanes_versions (slot : Slot) (map : ManeuverMap) :
    (rgdResolveLinkedLanes slot map).verCounter = map.verCounter ∧
      (rgdResolveLinkedLanes slot map).slotVer = map.slotVer := by
  have lookup : ∀ linked, (rgdLookupSlot linked map).2.verCounter = map.verCounter ∧
      (rgdLookupSlot linked map).2.slotVer = map.slotVer := by
    intro linked
    unfold rgdLookupSlot
    split <;> exact ⟨rfl, rfl⟩
  unfold rgdResolveLinkedLanes
  dsimp only
  split
  · split
    · exact lookup _
    · exact lookup _
  · exact ⟨rfl, rfl⟩

theorem rgdBackpropagateLinkedLanes_versions (source : Slot) (map : ManeuverMap) :
    (rgdBackpropagateLinkedLanes source map).verCounter = map.verCounter ∧
      (rgdBackpropagateLinkedLanes source map).slotVer = map.slotVer := by
  unfold rgdBackpropagateLinkedLanes
  split
  · exact ⟨rfl, rfl⟩
  · split <;> exact ⟨rfl, rfl⟩

theorem storeManeuver_versions (idx : Nat) (man : RgdManeuver) (state : RgdState) :
    (storeManeuver idx man state).versions = (rgdSlotForIapIndex idx state).2.1.versions := by
  obtain ⟨backCounter, backVer⟩ :=
    rgdBackpropagateLinkedLanes_versions (rgdSlotForIapIndex idx state).1
      (rgdResolveLinkedLanes (rgdSlotForIapIndex idx state).1
        { (rgdSlotForIapIndex idx state).2.1.maneuvers with
          slotCache :=
            Function.update (rgdSlotForIapIndex idx state).2.1.maneuvers.slotCache
              (rgdSlotForIapIndex idx state).1 man })
  obtain ⟨counter, ver⟩ :=
    rgdResolveLinkedLanes_versions (rgdSlotForIapIndex idx state).1
      { (rgdSlotForIapIndex idx state).2.1.maneuvers with
        slotCache :=
          Function.update (rgdSlotForIapIndex idx state).2.1.maneuvers.slotCache
            (rgdSlotForIapIndex idx state).1 man }
  simp only [versions, storeManeuver, cacheManeuver, backCounter, backVer, counter, ver]

theorem handleManeuver_versions (overlay : Bool) (stack : RgdKey → List UInt8) (man : RgdManeuver)
    (state : RgdState) :
    NotesVersions state (handleManeuver overlay stack man state).1
      (handleManeuver overlay stack man state).2 := by
  have cancelled : NotesVersions state (rgdCancelPendingZero state) [] :=
    notesVersions_of_keeps (by simp) (by simp)
  rcases handleManeuver_cases overlay stack man state with
    skipped | ⟨idx, extraMan, -, -, written⟩
  · rw [skipped]
    exact cancelled
  · rw [written]
    have assigned : NotesVersions state (storeManeuver idx man (rgdCancelPendingZero state))
        (rgdSlotForIapIndex idx (rgdCancelPendingZero state)).2.2 := by
      have found := cancelled.trans (rgdSlotForIapIndex_versions idx (rgdCancelPendingZero state))
      unfold NotesVersions at found ⊢
      rw [storeManeuver_versions, found, List.nil_append]
    exact assigned.trans (writeBusSnapshotFromCache_versions overlay stack extraMan none _)

theorem handleLane_versions (overlay : Bool) (stack : RgdKey → List UInt8) (lane : RgdLaneGuidance)
    (state : RgdState) :
    NotesVersions state (handleLane overlay stack lane state).1
      (handleLane overlay stack lane state).2 := by
  obtain ⟨lanes, laneSlot, storedEq⟩ := storeLane_frame lane (rgdCancelPendingZero state)
  have stored : NotesVersions state (storeLane lane (rgdCancelPendingZero state)) [] :=
    notesVersions_of_keeps (by simp [storedEq]) (by simp)
  rcases handleLane_cases overlay stack lane state with skipped | cached | ⟨extraMan, written⟩
  · rw [skipped]
    exact notesVersions_of_keeps (by simp) (by simp)
  · rw [cached]
    exact stored
  · rw [written]
    exact stored.trans (writeBusSnapshotFromCache_versions overlay stack extraMan _ _)

theorem DebounceCase.versions {upd : RgdUpdate} {now : Nat} {state after : RgdState}
    {events : List HookEvent} {held : Bool}
    (outcome : DebounceCase upd now state after events held) :
    NotesVersions state after events := by
  cases outcome with
  | hardClear zero hard => simp [NotesVersions, RgdState.versions, hardClearZero]; rfl
  | passZero zero soft idle => rfl
  | flushZero zero soft active previous => simp [NotesVersions, RgdState.versions]; rfl
  | holdZero zero soft active previous => simp [NotesVersions, RgdState.versions]; rfl
  | positive routeState positiveEq nonzero =>
      simp [NotesVersions, RgdState.versions, notePositive]; rfl
  | evidence absent evident => simp [NotesVersions, RgdState.versions]; rfl
  | held absent silent soft started => rfl
  | passed absent silent quiet => rfl

theorem acceptUpdate_versions (overlay : Bool) (stack : RgdKey → List UInt8) (upd : RgdUpdate)
    (state : RgdState) :
    NotesVersions state (acceptUpdate overlay stack upd state).1
      (acceptUpdate overlay stack upd state).2 := by
  obtain ⟨amap, notedEq⟩ := noteUpdate_frame overlay upd state
  have noted : NotesVersions state (noteUpdate overlay upd state)
      [acceptedEvent overlay upd state] :=
    notesVersions_of_keeps (by rw [notedEq]) (by simp [acceptedEvent, KeepsVersions])
  rcases acceptUpdate_cases overlay stack upd state with ⟨-, skipped⟩ | ⟨-, written⟩
  · rw [skipped]
    exact noted
  · obtain ⟨laneSlot, table, -, mergedEq⟩ := mergedUpdate_frame upd (noteUpdate overlay upd state)
    have merged : NotesVersions (noteUpdate overlay upd state)
        (mergedUpdate upd (noteUpdate overlay upd state)) [] :=
      notesVersions_of_keeps (by rw [mergedEq]) (by simp)
    rw [written]
    exact noted.trans (merged.trans (writeBusSnapshotFromCache_versions overlay stack none _ _))

theorem handleUpdate_versions (overlay : Bool) (stack : RgdKey → List UInt8) (now : Nat)
    (upd : RgdUpdate) (state : RgdState) :
    NotesVersions state (handleUpdate overlay stack now upd state).1
      (handleUpdate overlay stack now upd state).2 := by
  obtain ⟨debounced, events, held, -, outcome, result⟩ :=
    handleUpdate_cases overlay stack now upd state
  have arrival : NotesVersions state { state with haveUpdate := true } [.routeUpdate upd] := rfl
  have decided := arrival.trans outcome.versions
  rcases result with ⟨-, result⟩ | ⟨-, result⟩
  · rw [result]
    exact decided
  · rw [result]
    exact decided.trans (acceptUpdate_versions overlay stack upd debounced)

theorem rgdClearState_versions (overlay : Bool) (reason : ClearReason) (state : RgdState) :
    NotesVersions state (rgdClearState overlay reason state).1
      (rgdClearState overlay reason state).2 := by
  cases overlay <;> rfl

theorem handleFrame_versions (overlay : Bool) (msgid : Nat) (raw : List UInt8) (now : Nat)
    (stack : RgdKey → List UInt8) (state : RgdState) :
    NotesVersions state (handleFrame overlay msgid raw now stack state).1
      (handleFrame overlay msgid raw now stack state).2 :=
  @handleFrame_cases (fun result => NotesVersions state result.1 result.2) overlay msgid raw now
    stack state (handleUpdate_versions overlay stack now _ state)
    (handleManeuver_versions overlay stack _ state) (handleLane_versions overlay stack _ state) rfl

theorem rgdHookStep_versions (overlay : Bool) (label : HookLabel) (state : RgdState) :
    NotesVersions state (rgdHookStep overlay label state).1
      (rgdHookStep overlay label state).2 := by
  cases label with
  | message msgid raw now stack =>
      have ready : NotesVersions state (rgdLazyInit overlay state).1
          (rgdLazyInit overlay state).2 := by
        unfold rgdLazyInit
        split
        · rfl
        · exact rgdClearState_versions overlay .init { state with initialized := true }
      exact ready.trans (handleFrame_versions overlay msgid raw now stack _)
  | tick now =>
      simp only [rgdHookStep, rgdPeriodicTick]
      split <;> rfl
  | clear reason => exact rgdClearState_versions overlay reason state

end RgdState

/-- The hook's versions are those noted by its events. -/
theorem rgdHook_versions {overlay : Bool} {state : RgdState} {history : List HookEvent}
    (run : (rgdHook overlay).Run state history) :
    state.versions = versionLedger history ⟨0, fun _ => 0⟩ := by
  refine run.invariant (fun state history =>
    state.versions = versionLedger history ⟨0, fun _ => 0⟩) rfl ?_
  intro before after trace events label held _ stepTo
  obtain ⟨rfl, rfl⟩ : (rgdHookStep overlay label before).1 = after ∧
      (rgdHookStep overlay label before).2 = events := by
    simpa [rgdHook, Prod.ext_iff] using stepTo
  have noted := RgdState.rgdHookStep_versions overlay label before
  unfold RgdState.NotesVersions at noted
  rw [noted, held, versionLedger_append]

/-- The number of events up to the last one that passes a test. -/
def lastWhere (test : HookEvent → Bool) (events : List HookEvent) : Nat :=
  (events.foldl
    (fun (count : Nat × Nat) event =>
      (count.1 + 1, if test event then count.1 + 1 else count.2)) (0, 0)).2

theorem lastWhere_snoc (test : HookEvent → Bool) (events : List HookEvent) (event : HookEvent) :
    lastWhere test (events ++ [event]) =
      if test event then events.length + 1 else lastWhere test events := by
  have counts : ∀ list : List HookEvent,
      (list.foldl
        (fun (count : Nat × Nat) event =>
          (count.1 + 1, if test event then count.1 + 1 else count.2)) (0, 0)).1 = list.length := by
    intro list
    induction list using List.reverseRecOn with
    | nil => rfl
    | append_singleton list last ih => simp [ih]
  simp [lastWhere, counts]

theorem lastWhere_le_length (test : HookEvent → Bool) (events : List HookEvent) :
    lastWhere test events ≤ events.length := by
  induction events using List.reverseRecOn with
  | nil => exact le_rfl
  | append_singleton events event ih =>
      rw [lastWhere_snoc, List.length_append, List.length_singleton]
      split <;> omega

theorem lastWhere_mono {first second : HookEvent → Bool}
    (implies : ∀ event, first event = true → second event = true) (events : List HookEvent) :
    lastWhere first events ≤ lastWhere second events := by
  induction events using List.reverseRecOn with
  | nil => exact le_rfl
  | append_singleton events event ih =>
      rw [lastWhere_snoc, lastWhere_snoc]
      by_cases passes : first event = true
      · rw [if_pos passes, if_pos (implies event passes)]
      · rw [if_neg passes]
        have short := lastWhere_le_length first events
        split <;> omega

theorem lastWhere_append_of_none {test : HookEvent → Bool} (events : List HookEvent)
    {later : List HookEvent} (none : ∀ event ∈ later, test event = false) :
    lastWhere test (events ++ later) = lastWhere test events := by
  induction later using List.reverseRecOn with
  | nil => rw [List.append_nil]
  | append_singleton later event ih =>
      have fails := none event (by simp)
      rw [← List.append_assoc, lastWhere_snoc, fails]
      exact ih fun other member => none other (List.mem_append_left _ member)

theorem lastWhere_append_of_some {test : HookEvent → Bool} (events : List HookEvent)
    {later : List HookEvent} (some : ∃ event ∈ later, test event = true) :
    events.length < lastWhere test (events ++ later) := by
  obtain ⟨event, member, passes⟩ := some
  induction later using List.reverseRecOn with
  | nil => cases member
  | append_singleton later last ih =>
      rw [← List.append_assoc, lastWhere_snoc]
      by_cases lastPasses : test last = true
      · rw [if_pos lastPasses, List.length_append]
        omega
      · rw [if_neg lastPasses]
        rcases List.mem_append.mp member with earlier | isLast
        · exact ih earlier
        · rw [List.mem_singleton.mp isLast] at passes
          exact absurd passes lastPasses

def isReset : HookEvent → Bool
  | .mapReset _ => true
  | _ => false

def isAssignment : HookEvent → Bool
  | .slotAssigned _ _ => true
  | _ => false

/-- The event gives the slot a new occupant: an assignment of the slot, or a
reset of the map. -/
def fillsSlot (slot : Slot) : HookEvent → Bool
  | .mapReset _ => true
  | .slotAssigned other _ => decide (other = slot)
  | _ => false

/-- The occupant of a slot, identified by the event that made it one. -/
def occupant (slot : Slot) (events : List HookEvent) : Nat :=
  lastWhere (fillsSlot slot) events

def assignments (events : List HookEvent) : Nat :=
  events.countP isAssignment

/-- Slot assignments since the last map reset. -/
def assignmentsSinceReset (events : List HookEvent) : Nat :=
  assignments events - assignments (events.take (lastWhere isReset events))

/-- Slot assignments up to the one that made the occupant of a slot. -/
def assignmentsToOccupant (slot : Slot) (events : List HookEvent) : Nat :=
  assignments (events.take (occupant slot events))

theorem lastReset_le_occupant (slot : Slot) (events : List HookEvent) :
    lastWhere isReset events ≤ occupant slot events := by
  refine lastWhere_mono (fun event reset => ?_) events
  cases event with
  | mapReset suppressed => rfl
  | _ => cases reset

theorem assignments_take_mono {events : List HookEvent} {first second : Nat}
    (order : first ≤ second) : assignments (events.take first) ≤ assignments (events.take second) :=
  ((List.take_prefix_take_left order).sublist).countP_le

theorem take_lastWhere_snoc {test : HookEvent → Bool} (events : List HookEvent)
    {event : HookEvent} :
    (events ++ [event]).take (lastWhere test events) = events.take (lastWhere test events) :=
  List.take_append_of_le_length (lastWhere_le_length test events)

theorem take_lastWhere_of_passes {test : HookEvent → Bool} {events : List HookEvent}
    {event : HookEvent} (passes : test event = true) :
    (events ++ [event]).take (lastWhere test (events ++ [event])) = events ++ [event] := by
  rw [lastWhere_snoc, if_pos passes]
  exact List.take_of_length_le (by simp)

theorem take_lastWhere_of_fails {test : HookEvent → Bool} {events : List HookEvent}
    {event : HookEvent} (fails : test event = false) :
    (events ++ [event]).take (lastWhere test (events ++ [event])) =
      events.take (lastWhere test events) := by
  rw [lastWhere_snoc, fails]
  exact take_lastWhere_snoc events

theorem versionLedger_snoc (events : List HookEvent) (event : HookEvent) (ledger : VersionLedger) :
    versionLedger (events ++ [event]) ledger = (versionLedger events ledger).note event := by
  simp [versionLedger]

/-- The counter and the versions of the ledger are numbers of assignments. -/
theorem versionLedger_eq (events : List HookEvent) :
    (versionLedger events ⟨0, fun _ => 0⟩).counter = assignmentsSinceReset events % 2 ^ 32 ∧
    ∀ slot, (versionLedger events ⟨0, fun _ => 0⟩).ver slot =
      (assignmentsToOccupant slot events -
        assignments (events.take (lastWhere isReset events))) % 2 ^ 32 := by
  induction events using List.reverseRecOn with
  | nil => exact ⟨rfl, fun slot => rfl⟩
  | append_singleton events event ih =>
      obtain ⟨counterEq, verEq⟩ := ih
      have baseLe : assignments (events.take (lastWhere isReset events)) ≤ assignments events :=
        (List.take_sublist _ _).countP_le
      rw [versionLedger_snoc]
      unfold assignmentsSinceReset assignmentsToOccupant occupant at *
      cases event with
      | mapReset suppressed =>
          refine ⟨?_, fun slot => ?_⟩
          · rw [take_lastWhere_of_passes rfl, Nat.sub_self]
            rfl
          · rw [take_lastWhere_of_passes rfl, take_lastWhere_of_passes rfl, Nat.sub_self]
            rfl
      | slotAssigned other index =>
          have added : assignments (events ++ [.slotAssigned other index]) =
              assignments events + 1 := by
            simp [assignments, isAssignment]
          have counted : ((versionLedger events ⟨0, fun _ => 0⟩).counter + 1) % 2 ^ 32 =
              (assignments events + 1 -
                assignments (events.take (lastWhere isReset events))) % 2 ^ 32 := by
            rw [counterEq]
            omega
          refine ⟨?_, fun slot => ?_⟩
          · rw [take_lastWhere_of_fails rfl, added]
            exact counted
          · rw [@take_lastWhere_of_fails isReset _ _ rfl]
            by_cases same : other = slot
            · subst same
              rw [take_lastWhere_of_passes (by simp [fillsSlot]), added]
              simp only [VersionLedger.note, Function.update_self]
              exact counted
            · rw [take_lastWhere_of_fails (by simp [fillsSlot, same]), ← verEq]
              simp only [VersionLedger.note]
              exact Function.update_of_ne (Ne.symm same) _ _
      | _ =>
          have unchanged : ∀ added : HookEvent, isAssignment added = false →
              assignments (events ++ [added]) = assignments events := by
            intro added notAssignment
            simp [assignments, notAssignment]
          refine ⟨?_, fun slot => ?_⟩
          · rw [take_lastWhere_of_fails rfl, unchanged _ rfl]
            exact counterEq
          · rw [take_lastWhere_of_fails rfl, take_lastWhere_of_fails rfl]
            exact verEq slot

/-- A reset that is not suppressed. -/
def opensReset : HookEvent → Bool
  | .mapReset suppressed => !suppressed
  | _ => false

def showsEnd (event : HookEvent) : Bool :=
  decide (event.routeState = some (.num 0))

/-- Whether such a reset has not been published as an end yet. -/
def resetOpen : List HookEvent → Bool :=
  pending opensReset showsEnd

theorem resetOpen_snoc (events : List HookEvent) (event : HookEvent) :
    resetOpen (events ++ [event]) =
      (opensReset event || (resetOpen events && !showsEnd event)) :=
  pending_snoc events event

/-- A snapshot before the end is published lists no slot. -/
def ListsNothingWhileOpen (past : List HookEvent) (event : HookEvent) : Prop :=
  resetOpen past = true →
    ∀ shown records, event = .snapshot shown records → shown.listedSlots = []

/-- Every reset that is not suppressed is published within its step. -/
structure ResetsPublished (events : List HookEvent) : Prop where
  closed : resetOpen events = false
  listsNothing : Always ListsNothingWhileOpen events

theorem ResetsPublished.append {trace events : List HookEvent} (before : ResetsPublished trace)
    (quiet : ∀ event ∈ events, opensReset event = false) : ResetsPublished (trace ++ events) := by
  induction events generalizing trace with
  | nil => simpa using before
  | cons event events ih =>
      have next : ResetsPublished (trace ++ [event]) := by
        refine ⟨?_, before.listsNothing.snoc ?_⟩
        · rw [resetOpen_snoc, before.closed, quiet event List.mem_cons_self]
          simp
        · intro isOpen
          rw [before.closed] at isOpen
          cases isOpen
      simpa using ih next fun later member => quiet later (List.mem_cons_of_mem event member)

theorem ResetsPublished.reset_end {trace : List HookEvent} (before : ResetsPublished trace)
    {middle : HookEvent} {last : HookEvent}
    (notSnapshot : ∀ shown records, middle ≠ .snapshot shown records)
    (listsNothing : ∀ shown records, last = .snapshot shown records → shown.listedSlots = [])
    (ends : last.routeState = some (.num 0)) :
    ResetsPublished (trace ++ [.mapReset false, middle, last]) := by
  have split : trace ++ [.mapReset false, middle, last] =
      trace ++ [.mapReset false] ++ [middle] ++ [last] := by simp
  rw [split]
  refine ⟨?_, ((before.listsNothing.snoc ?_).snoc ?_).snoc ?_⟩
  · rw [resetOpen_snoc]
    cases last with
    | mapReset suppressed => cases ends
    | _ => simp [opensReset, showsEnd, ends]
  · intro _ shown records equal
    cases equal
  · intro _ shown records equal
    exact absurd equal (notSnapshot shown records)
  · intro _
    exact listsNothing

namespace RgdState

theorem rgdClearState_resets (overlay : Bool) (reason : ClearReason) (state : RgdState)
    {trace : List HookEvent} (before : ResetsPublished trace) :
    ResetsPublished (trace ++ (rgdClearState overlay reason state).2) := by
  refine before.reset_end (by simp) (by simp) ?_
  simp [HookEvent.routeState, HookEvent.published, clearRecords, endRecords]

theorem writeBusSnapshotFromCache_quiet {overlay : Bool} {stack : RgdKey → List UInt8}
    {extraMan : Option RgdManeuver} {currentUpd : Option RgdUpdate} {state : RgdState} :
    ∀ event ∈ (writeBusSnapshotFromCache overlay stack extraMan currentUpd state).2,
      opensReset event = false := by
  intro event member
  rcases mem_writeBusSnapshotFromCache member with rfl | rfl <;> rfl

theorem acceptUpdate_quiet {overlay : Bool} {stack : RgdKey → List UInt8} {upd : RgdUpdate}
    {state : RgdState} :
    ∀ event ∈ (acceptUpdate overlay stack upd state).2, opensReset event = false := by
  intro event member
  rcases acceptUpdate_cases overlay stack upd state with ⟨-, skipped⟩ | ⟨-, written⟩
  · rw [skipped, List.mem_singleton] at member
    rw [member]
    rfl
  · rw [written] at member
    rcases List.mem_cons.mp member with rfl | published
    · rfl
    · exact writeBusSnapshotFromCache_quiet event published

/-- Only a hard clear resets the maps without being suppressed. -/
theorem DebounceCase.quiet_or_hard {upd : RgdUpdate} {now : Nat} {state after : RgdState}
    {events : List HookEvent} {held : Bool}
    (outcome : DebounceCase upd now state after events held) :
    (∀ event ∈ events, opensReset event = false) ∨
      (upd.routeState = some 0 ∧ isHardClear upd = true ∧ events = [.mapReset false] ∧
        held = false ∧ SlotsEmpty after ∧ after.updateCache = {}) := by
  cases outcome with
  | hardClear zero hard =>
      refine .inr ⟨zero, by simp [isHardClear, hard], rfl, rfl, ?_, ?_⟩
      · refine ⟨fun slot => ?_, fun slot => ?_⟩
        · simp only [hardClearZero, rgdCancelPendingZero_maneuvers]
          rfl
        · simp only [hardClearZero, rgdCancelPendingZero_lanes]
          rfl
      · simp only [hardClearZero, rgdCancelPendingZero_updateCache]
        rfl
  | flushZero zero soft active previous => exact .inl (by simp [opensReset])
  | passZero zero soft idle => exact .inl (by simp)
  | holdZero zero soft active previous => exact .inl (by simp)
  | positive routeState positiveEq nonzero => exact .inl (by simp)
  | evidence absent evident => exact .inl (by simp)
  | held absent silent soft started => exact .inl (by simp)
  | passed absent silent quiet => exact .inl (by simp)

/-- The state after an accepted update with empty slots lists nothing. -/
theorem acceptUpdate_listsNothing (overlay : Bool) (stack : RgdKey → List UInt8) (upd : RgdUpdate)
    {state : RgdState} (empty : SlotsEmpty state) :
    (acceptUpdate overlay stack upd state).1.listedSlots = [] := by
  have maneuvers : (acceptUpdate overlay stack upd state).1.maneuvers = state.maneuvers := by
    obtain ⟨amap, notedEq⟩ := noteUpdate_frame overlay upd state
    rcases acceptUpdate_cases overlay stack upd state with ⟨-, skipped⟩ | ⟨-, written⟩
    · rw [skipped, notedEq]
    · obtain ⟨laneSlot, table, -, mergedEq⟩ := mergedUpdate_frame upd (noteUpdate overlay upd state)
      rw [written]
      dsimp only
      rw [(writeBusSnapshotFromCache_keeps overlay stack none _ _).maneuvers, mergedEq, notedEq]
  rw [List.eq_nil_iff_forall_not_mem]
  intro slot listed
  obtain ⟨idx, -, -, typed⟩ := maneuverType_of_mem_listedSlots listed
  rw [maneuvers, empty.maneuvers slot] at typed
  cases typed

theorem handleUpdate_resets (overlay : Bool) (stack : RgdKey → List UInt8) (now : Nat)
    {upd : RgdUpdate} (sized : UpdateSized upd) (state : RgdState) {trace : List HookEvent}
    (before : ResetsPublished trace) :
    ResetsPublished (trace ++ (handleUpdate overlay stack now upd state).2) := by
  obtain ⟨debounced, events, held, -, outcome, result⟩ :=
    handleUpdate_cases overlay stack now upd state
  rcases outcome.quiet_or_hard with quiet | ⟨zero, hard, rfl, rfl, empty, noCache⟩
  · have arrived : ∀ event ∈ .routeUpdate upd :: events, opensReset event = false := by
      intro event member
      rcases List.mem_cons.mp member with rfl | reset
      · rfl
      · exact quiet event reset
    rcases result with ⟨-, result⟩ | ⟨-, result⟩
    · rw [result]
      exact before.append arrived
    · rw [result, ← List.cons_append, ← List.append_assoc]
      exact (before.append arrived).append acceptUpdate_quiet
  · rcases result with ⟨isHeld, -⟩ | ⟨-, result⟩
    · cases isHeld
    · obtain ⟨records, sent, recordsShow⟩ := acceptUpdate_publishes zero
        (hardClear_fits overlay stack sized hard empty noCache)
      have arrived : ResetsPublished (trace ++ [.routeUpdate upd]) :=
        before.append (by simp [opensReset])
      have published : ResetsPublished (trace ++ [.routeUpdate upd] ++
          [.mapReset false, acceptedEvent overlay upd debounced,
            .snapshot (acceptUpdate overlay stack upd debounced).1 records]) := by
        refine arrived.reset_end (by simp [acceptedEvent]) ?_ recordsShow
        intro shown others equal
        cases equal
        exact acceptUpdate_listsNothing overlay stack upd empty
      rw [result, sent]
      simpa using published

theorem handleFrame_resets (overlay : Bool) (msgid : Nat) (raw : List UInt8) (now : Nat)
    (stack : RgdKey → List UInt8) (state : RgdState) {trace : List HookEvent}
    (before : ResetsPublished trace) :
    ResetsPublished (trace ++ (handleFrame overlay msgid raw now stack state).2) := by
  refine @handleFrame_cases (fun result => ResetsPublished (trace ++ result.2)) overlay msgid raw
    now stack state (handleUpdate_resets overlay stack now (rgdParseUpdate_sized raw) state before)
    ?_ ?_ (by simpa using before)
  · refine before.append fun event member => ?_
    rcases handleManeuver_cases overlay stack (rgdParseManeuver raw) state with
      skipped | ⟨idx, extraMan, -, -, written⟩
    · simp [skipped] at member
    · rw [written] at member
      rcases List.mem_append.mp member with assigned | published
      · rw [slotAssigned_of_mem_rgdSlotForIapIndex assigned]
        rfl
      · exact writeBusSnapshotFromCache_quiet event published
  · refine before.append fun event member => ?_
    rcases handleLane_cases overlay stack (rgdParseLaneGuidance raw) state with
      skipped | stored | ⟨extraMan, written⟩
    · simp [skipped] at member
    · simp [stored] at member
    · rw [written] at member
      exact writeBusSnapshotFromCache_quiet event member

theorem rgdHookStep_resets (overlay : Bool) (label : HookLabel) (state : RgdState)
    {trace : List HookEvent} (before : ResetsPublished trace) :
    ResetsPublished (trace ++ (rgdHookStep overlay label state).2) := by
  cases label with
  | message msgid raw now stack =>
      have ready : ResetsPublished (trace ++ (rgdLazyInit overlay state).2) := by
        unfold rgdLazyInit
        split
        · simpa using before
        · exact rgdClearState_resets overlay .init _ before
      simpa [rgdHookStep, rgdMessageHandler, TracedOp.andThen] using
        handleFrame_resets overlay msgid raw now stack (rgdLazyInit overlay state).1 ready
  | tick now =>
      refine before.append ?_
      simp only [rgdHookStep, rgdPeriodicTick]
      split <;> simp [opensReset]
  | clear reason => exact rgdClearState_resets overlay reason state before

end RgdState

theorem rgdHook_resets {overlay : Bool} {state : RgdState} {history : List HookEvent}
    (run : (rgdHook overlay).Run state history) : ResetsPublished history := by
  refine run.invariant (fun _ history => ResetsPublished history) ⟨rfl, always_nil _⟩ ?_
  intro before after trace events label published _ stepTo
  obtain ⟨-, rfl⟩ : (rgdHookStep overlay label before).1 = after ∧
      (rgdHookStep overlay label before).2 = events := by
    simpa [rgdHook, Prod.ext_iff] using stepTo
  exact RgdState.rgdHookStep_resets overlay label before published

open RgdState

/-- Versions shown by a snapshot are those noted by the events before it. -/
theorem publishedVer_of_snapshot {overlay : Bool} {state shown : RgdState}
    {history : List HookEvent} {records : List RgdRecord} {position : Nat}
    (run : (rgdHook overlay).Run state history)
    (found : history[position]? = some (.snapshot shown records)) (slot : Slot) :
    shown.publishedVer slot =
      (assignmentsToOccupant slot (history.take position) -
        assignments ((history.take position).take (lastWhere isReset (history.take position)))) %
          2 ^ 32 % 65535 + 1 := by
  have ledger := rgdHook_versions (snapshot_run_at run found).1.run
  rw [versionLedger_snoc] at ledger
  have verEq := congrArg (fun versions => VersionLedger.ver versions slot) ledger
  have noted := (versionLedger_eq (history.take position)).2 slot
  simp only [RgdState.versions, VersionLedger.note] at verEq
  rw [RgdState.publishedVer, verEq, noted]

/-- Between two snapshots without a published end and without a suppressed
reset there is no reset, if the second one lists a slot. -/
theorem no_reset_between {overlay : Bool} {state lastState : RgdState} {history : List HookEvent}
    {lastRecords : List RgdRecord} (run : (rgdHook overlay).Run state history) {first last : Nat}
    (lastAt : history[last]? = some (.snapshot lastState lastRecords))
    (noEnd : ∀ position, first < position → position < last →
      (history[position]?).bind HookEvent.routeState ≠ some (.num 0))
    (noFlush : ∀ position, first < position → position < last →
      history[position]? ≠ some (.mapReset true))
    {slot : Slot} (listed : slot ∈ lastState.listedSlots) {position : Nat}
    (after : first < position) (before : position < last) (suppressed : Bool) :
    history[position]? ≠ some (.mapReset suppressed) := by
  intro reset
  cases suppressed with
  | true => exact noFlush position after before reset
  | false =>
      obtain ⟨lastLt, lastEq⟩ := List.getElem?_eq_some_iff.mp lastAt
      have isOpen : resetOpen (history.take last) = true := by
        refine pending_take reset rfl before fun later event afterReset beforeLast found => ?_
        have silent := noEnd later (after.trans afterReset) beforeLast
        rw [found, Option.bind_some] at silent
        simp [showsEnd, silent]
      have split : history = history.take last ++
          .snapshot lastState lastRecords :: history.drop (last + 1) := by
        rw [← lastEq, List.getElem_cons_drop, List.take_append_drop]
      have nothing :=
        (rgdHook_resets run).listsNothing _ _ _ split isOpen lastState lastRecords rfl
      rw [nothing] at listed
      cases listed

/-- Without a reset in between, the versions of two occupants differ unless the
number of assignments between them is a multiple of 65535. -/
theorem shownVer_ne_iff {earlier later middle : List HookEvent} {slot : Slot}
    (splitEq : later = earlier ++ middle) (noReset : ∀ event ∈ middle, isReset event = false)
    (different : occupant slot earlier ≠ occupant slot later)
    (unwrapped : assignmentsSinceReset later < 2 ^ 32) :
    (((assignmentsToOccupant slot earlier -
          assignments (earlier.take (lastWhere isReset earlier))) % 2 ^ 32 % 65535 + 1 : Nat) : Int) ≠
        (((assignmentsToOccupant slot later -
          assignments (later.take (lastWhere isReset later))) % 2 ^ 32 % 65535 + 1 : Nat) : Int) ↔
      ¬ 65535 ∣ assignmentsToOccupant slot later - assignmentsToOccupant slot earlier := by
  subst splitEq
  have sameReset := lastWhere_append_of_none earlier noReset
  have resetLe := lastWhere_le_length isReset earlier
  have filled : ∃ event ∈ middle, fillsSlot slot event = true := by
    by_contra none
    refine different (lastWhere_append_of_none earlier fun event member => ?_).symm
    by_contra passes
    exact none ⟨event, member, by simpa using passes⟩
  have beyond : earlier.length < occupant slot (earlier ++ middle) :=
    lastWhere_append_of_some earlier filled
  have firstLe := lastWhere_le_length (fillsSlot slot) earlier
  have base : (earlier ++ middle).take (lastWhere isReset (earlier ++ middle)) =
      earlier.take (lastWhere isReset earlier) := by
    rw [sameReset, List.take_append_of_le_length resetLe]
  have firstTake : earlier.take (occupant slot earlier) =
      (earlier ++ middle).take (occupant slot earlier) :=
    (List.take_append_of_le_length firstLe).symm
  have baseLe : assignments (earlier.take (lastWhere isReset earlier)) ≤
      assignmentsToOccupant slot earlier :=
    assignments_take_mono (lastReset_le_occupant slot earlier)
  have firstLeLast : assignmentsToOccupant slot earlier ≤
      assignmentsToOccupant slot (earlier ++ middle) := by
    unfold assignmentsToOccupant
    rw [firstTake]
    exact assignments_take_mono (firstLe.trans beyond.le)
  have lastLe : assignmentsToOccupant slot (earlier ++ middle) ≤ assignments (earlier ++ middle) :=
    (List.take_sublist _ _).countP_le
  unfold assignmentsSinceReset at unwrapped
  rw [base] at unwrapped ⊢
  rw [Nat.mod_eq_of_lt (show _ < 2 ^ 32 by omega), Nat.mod_eq_of_lt (show _ < 2 ^ 32 by omega)]
  omega

/-- The records of a snapshot event. -/
def HookEvent.snapshotRecords? : HookEvent → Option (List RgdRecord)
  | .snapshot _ records => some records
  | _ => none

theorem exists_snapshot_of_records {history : List HookEvent} {position : Nat}
    {test : List RgdRecord → Bool}
    (passes : ((history[position]?).bind HookEvent.snapshotRecords?).any test = true) :
    ∃ shown records, history[position]? = some (.snapshot shown records) ∧ test records = true := by
  rw [Option.any_eq_true] at passes
  obtain ⟨records, found, tested⟩ := passes
  obtain ⟨event, eventAt, eventRecords⟩ := Option.bind_eq_some_iff.mp found
  cases event with
  | snapshot shown others =>
      cases eventRecords
      exact ⟨shown, records, eventAt, tested⟩
  | _ => cases eventRecords

/-- A 0x5201 with a route state and a list of one maneuver. -/
def listFrame (routeState high low : UInt8) : List UInt8 :=
  [0x40, 0x40, 0, 17, 0x52, 0x01, 0, 5, 0, 1, routeState, 0, 6, 0, 0x0D, high, low]

/-- A 0x5202 with an index and a type. -/
def maneuverFrame (high low type : UInt8) : List UInt8 :=
  [0x40, 0x40, 0, 17, 0x52, 0x02, 0, 6, 0, 1, high, low, 0, 5, 0, 3, type]

/-- The list of a frame that shows slot 0 only. -/
def listsFirstSlot (records : List RgdRecord) : Bool :=
  decide (valueOf records (.route .maneuverList) = some (.str (commaBytes [0])))

theorem listsSlot_of_listsFirstSlot {records : List RgdRecord}
    (lists : listsFirstSlot records = true) : ListsSlot records 0 :=
  ⟨[0], by simpa [listsFirstSlot] using lists, List.mem_singleton.mpr rfl⟩

/-- Between two positions no end is published and no reset is suppressed. -/
def quietBetween (history : List HookEvent) (first last : Nat) : Bool :=
  (List.range last).all fun position =>
    decide (position ≤ first) ||
      (decide ((history[position]?).bind HookEvent.routeState ≠ some (.num 0)) &&
        !(history[position]?).any isReset)

theorem quietBetween_spec {history : List HookEvent} {first last : Nat}
    (quiet : quietBetween history first last = true) {position : Nat} (after : first < position)
    (before : position < last) :
    (history[position]?).bind HookEvent.routeState ≠ some (.num 0) ∧
      history[position]? ≠ some (.mapReset true) := by
  have checked := List.all_eq_true.mp quiet position (List.mem_range.mpr before)
  rw [Bool.or_eq_true, decide_eq_true_eq, Bool.and_eq_true, decide_eq_true_eq,
    Bool.not_eq_true'] at checked
  rcases checked with early | ⟨notEnd, notReset⟩
  · omega
  · refine ⟨notEnd, fun reset => ?_⟩
    rw [reset] at notReset
    cases notReset

end CarplayRgi
