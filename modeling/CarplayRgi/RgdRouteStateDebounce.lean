import CarplayRgi.RgdHookCases

/-!
# The published route state

A zero route state is held back while a route may still be alive.  The cached
route state, when there is one, is always the one last taken over for
publication, and a zero that follows a reroute waits without a deadline.  So
no end is published after a reroute before the reroute has been resolved.
-/

namespace CarplayRgi

/-- The route state that an event hands to the bus. -/
def HookEvent.routeState (event : HookEvent) : Option BusValue :=
  event.published.bind fun records => valueOf records (.route .routeState)

/-- Rerouting is over after another positive state, a hard clear or a reset. -/
def HookEvent.endsRerouting : HookEvent → Bool
  | .stateCleared => true
  | .routeUpdate upd =>
      upd.routeState.any fun routeState =>
        if routeState = 0 then decide (upd.sourceSupportsRouteGuidance = some 0)
        else decide (routeState ≠ rgdStateRerouting)
  | _ => false

def HookEvent.showsRerouting (event : HookEvent) : Bool :=
  decide (event.routeState = some (.num rgdStateRerouting))

/-- Whether the last published rerouting state has not been resolved yet. -/
def rerouteOpen : List HookEvent → Bool :=
  pending HookEvent.showsRerouting HookEvent.endsRerouting

theorem rerouteOpen_snoc (trace : List HookEvent) (event : HookEvent) :
    rerouteOpen (trace ++ [event]) =
      if event.routeState = some (.num rgdStateRerouting) then true
      else rerouteOpen trace && !event.endsRerouting := by
  rw [rerouteOpen, pending_snoc]
  split_ifs with shows <;> simp [HookEvent.showsRerouting, shows]

namespace RgdState

/-- The cached route state is the one last taken over, and nothing is cached
while a zero is pending. -/
structure ZeroConsistent (zero : RouteZero) (cached : Option Nat) : Prop where
  emitted : ∀ routeState, cached = some routeState → zero.emittedRouteState = routeState
  pending : zero.startedMs ≠ 0 → cached = none ∧ zero.emittedRouteState ≠ 0

/-- An open reroute has been taken over, and its zero has no deadline. -/
def RerouteHeld (zero : RouteZero) (waiting : Bool) : Prop :=
  waiting = true → zero.emittedRouteState = rgdStateRerouting ∧
    (zero.startedMs ≠ 0 → zero.fromReroute = true)

theorem ZeroConsistent.of_idle {zero : RouteZero} {cached : Option Nat}
    (idle : zero.startedMs = 0)
    (emitted : ∀ routeState, cached = some routeState → zero.emittedRouteState = routeState) :
    ZeroConsistent zero cached :=
  ⟨emitted, fun started => absurd idle started⟩

theorem ZeroConsistent.cancel {state : RgdState} {cached : Option Nat}
    (consistent : ZeroConsistent state.zero cached) :
    ZeroConsistent (rgdCancelPendingZero state).zero cached :=
  .of_idle (by simp) (by simpa using consistent.emitted)

theorem RerouteHeld.cancel {state : RgdState} {waiting : Bool}
    (held : RerouteHeld state.zero waiting) :
    RerouteHeld (rgdCancelPendingZero state).zero waiting := by
  intro isOpen
  simpa using (held isOpen).1

/-- A zero that is held back empties the cache and keeps the emitted state. -/
theorem startPendingZero_consistent (now : Nat) (fromReroute : Bool) {state : RgdState}
    (emptied : state.updateCache.routeState = none)
    (active : state.zero.emittedRouteState ≠ 0) :
    ZeroConsistent (startPendingZero now fromReroute state).zero
      (startPendingZero now fromReroute state).updateCache.routeState := by
  refine ⟨?_, ?_⟩
  · simp [emptied]
  · simp [emptied, active]

/-- What the debounce decision and the merge that follows it leave behind. -/
theorem DebounceCase.consistent {upd : RgdUpdate} {now : Nat} {state after : RgdState}
    {events : List HookEvent} {held : Bool}
    (outcome : DebounceCase upd now state after events held)
    (before : ZeroConsistent state.zero state.updateCache.routeState) :
    ZeroConsistent after.zero
      (if held then after.updateCache.routeState
        else upd.routeState <|> after.updateCache.routeState) := by
  cases outcome with
  | hardClear zero hard =>
      refine .of_idle (by simp [hardClearZero]) ?_
      simp [hardClearZero, zero]
  | passZero zero soft idle =>
      have notPending : state.zero.startedMs = 0 := by
        by_contra started
        exact (before.pending started).2 idle
      refine .of_idle notPending ?_
      simp [zero, idle]
  | flushZero zero soft active previous =>
      exact startPendingZero_consistent now _ rfl active
  | holdZero zero soft active previous =>
      exact startPendingZero_consistent now _ rfl active
  | positive routeState positiveEq nonzero =>
      refine .of_idle (by simp [notePositive]) ?_
      simp [notePositive, positiveEq]
  | evidence absent evident =>
      simpa [absent] using before.cancel
  | held absent silent soft started => simpa using before
  | passed absent silent quiet => simpa [absent] using before

theorem startPendingZero_held {now : Nat} {prevState : Nat} {state : RgdState} {waiting : Bool}
    (held : RerouteHeld state.zero waiting) :
    RerouteHeld (startPendingZero now (zeroFromReroute prevState state) state).zero waiting := by
  intro isOpen
  obtain ⟨emitted, waits⟩ := held isOpen
  have fromReroute : zeroFromReroute prevState state = true := by
    simp [zeroFromReroute, emitted]
  refine ⟨by simpa using emitted, fun _ => ?_⟩
  rw [fromReroute]
  exact startPendingZero_fromReroute now state waits

/-- An update that does not end the reroute keeps it held. -/
theorem DebounceCase.rerouteHeld {upd : RgdUpdate} {now : Nat} {state after : RgdState}
    {events : List HookEvent} {held waiting : Bool}
    (outcome : DebounceCase upd now state after events held)
    (before : RerouteHeld state.zero waiting) :
    RerouteHeld after.zero (waiting && !(HookEvent.routeUpdate upd).endsRerouting) := by
  intro isOpen
  simp only [Bool.and_eq_true, Bool.not_eq_true'] at isOpen
  obtain ⟨stillOpen, unresolved⟩ := isOpen
  cases outcome with
  | hardClear zero hard => simp [HookEvent.endsRerouting, zero, hard] at unresolved
  | passZero zero soft idle =>
      have emitted := (before stillOpen).1
      rw [idle] at emitted
      cases emitted
  | flushZero zero soft active previous =>
      have noted : RerouteHeld (rgdManeuverMapReset (rgdUpdateCacheReset (noteRaw 0 state))).zero
          waiting := before
      exact startPendingZero_held noted stillOpen
  | holdZero zero soft active previous =>
      have noted : RerouteHeld (rgdUpdateCacheReset (noteRaw 0 state)).zero waiting := before
      exact startPendingZero_held noted stillOpen
  | positive routeState positiveEq nonzero =>
      have isReroute : routeState = rgdStateRerouting := by
        simpa [HookEvent.endsRerouting, positiveEq, nonzero] using unresolved
      simp [notePositive, isReroute]
  | evidence absent evident => exact before.cancel stillOpen
  | held absent silent soft started => exact before stillOpen
  | passed absent silent quiet => exact before stillOpen

/-- The event shows the cached route state, if it shows one. -/
def ShowsCached (cached : Option Nat) (event : HookEvent) : Prop :=
  event.routeState = none ∨ event.routeState = cached.map fun routeState => .num routeState

theorem DebounceCase.events_eq {upd : RgdUpdate} {now : Nat} {state after : RgdState}
    {events : List HookEvent} {held : Bool} (outcome : DebounceCase upd now state after events held)
    {event : HookEvent} (member : event ∈ events) : ∃ suppressed, event = .mapReset suppressed := by
  cases outcome <;> simp_all

theorem writeBusSnapshotFromCache_shows {overlay : Bool} {stack : RgdKey → List UInt8}
    {extraMan : Option RgdManeuver} {currentUpd : Option RgdUpdate} {state : RgdState}
    {event : HookEvent}
    (member : event ∈ (writeBusSnapshotFromCache overlay stack extraMan currentUpd state).2) :
    ShowsCached state.updateCache.routeState event := by
  rcases mem_writeBusSnapshotFromCache member with rfl | rfl
  · exact .inl rfl
  · right
    obtain ⟨lanes, prunedEq⟩ := rgdPruneStaleLaneCache_eq state
    simp only [HookEvent.routeState, HookEvent.published, Option.bind_some,
      valueOf_snapshotRecords_routeState, prunedEq]

theorem acceptUpdate_routeState (overlay : Bool) (stack : RgdKey → List UInt8) (upd : RgdUpdate)
    (state : RgdState) :
    (acceptUpdate overlay stack upd state).1.zero = state.zero ∧
    (acceptUpdate overlay stack upd state).1.updateCache.routeState =
      (upd.routeState <|> state.updateCache.routeState) ∧
    ∀ event ∈ (acceptUpdate overlay stack upd state).2,
      ShowsCached (upd.routeState <|> state.updateCache.routeState) event := by
  obtain ⟨amap, notedEq⟩ := noteUpdate_frame overlay upd state
  rcases acceptUpdate_cases overlay stack upd state with ⟨empty, skipped⟩ | ⟨-, written⟩
  · rw [skipped, notedEq]
    refine ⟨rfl, by simp [empty], fun event member => ?_⟩
    rw [List.mem_singleton.mp member]
    exact .inl rfl
  · obtain ⟨laneSlot, table, -, mergedEq⟩ := mergedUpdate_frame upd (noteUpdate overlay upd state)
    have keeps := writeBusSnapshotFromCache_keeps overlay stack none
      (some (enrichLaneSlot upd (noteUpdate overlay upd state)).1)
      (mergedUpdate upd (noteUpdate overlay upd state))
    have mergedState : (mergedUpdate upd (noteUpdate overlay upd state)).updateCache.routeState =
        (upd.routeState <|> state.updateCache.routeState) := by
      rw [mergedEq, notedEq]
      rfl
    refine ⟨?_, ?_, fun event member => ?_⟩
    · rw [written, keeps.zero, mergedEq, notedEq]
    · rw [written, keeps.updateCache, mergedState]
    · rw [written] at member
      rcases List.mem_cons.mp member with rfl | shown
      · exact .inl rfl
      · rw [← mergedState]
        exact writeBusSnapshotFromCache_shows shown

/-- An accepted route state whose snapshot fits is published. -/
theorem acceptUpdate_publishes {overlay : Bool} {stack : RgdKey → List UInt8} {upd : RgdUpdate}
    {state : RgdState} {routeState : Nat} (present : upd.routeState = some routeState)
    (fits : (frameText (snapshotRecords overlay stack
        (some (enrichLaneSlot upd (noteUpdate overlay upd state)).1)
        (rgdPruneStaleLaneCache (mergedUpdate upd (noteUpdate overlay upd state))).2).1).length ≤
      busTextBuilderLargeCap) :
    ∃ records, (acceptUpdate overlay stack upd state).2 =
        [acceptedEvent overlay upd state,
          .snapshot (acceptUpdate overlay stack upd state).1 records] ∧
      valueOf records (.route .routeState) = some (.num routeState) := by
  obtain ⟨laneSlot, table, -, mergedEq⟩ := mergedUpdate_frame upd (noteUpdate overlay upd state)
  have merged : (mergedUpdate upd (noteUpdate overlay upd state)).updateCache ≠ {} := by
    rw [mergedEq]
    intro empty
    have absent := congrArg RgdUpdate.routeState empty
    simp [rgdUpdateCacheMerge, present] at absent
  rcases acceptUpdate_cases overlay stack upd state with ⟨empty, -⟩ | ⟨-, written⟩
  · rw [empty] at present
    cases present
  · rcases writeBusSnapshotFromCache_cases overlay stack none
        (some (enrichLaneSlot upd (noteUpdate overlay upd state)).1)
        (mergedUpdate upd (noteUpdate overlay upd state)) with ⟨empty, -⟩ | sent
    · exact absurd empty merged
    · rw [written, sent, sendSnapshot_of_fits fits]
      refine ⟨_, rfl, ?_⟩
      obtain ⟨lanes, prunedEq⟩ :=
        rgdPruneStaleLaneCache_eq (mergedUpdate upd (noteUpdate overlay upd state))
      rw [valueOf_snapshotRecords_routeState, prunedEq, mergedEq]
      simp [rgdUpdateCacheMerge, present]

/-- What maneuver and lane records do to the debounce. -/
structure RecordStep (state after : RgdState) (events : List HookEvent) : Prop where
  zero : after.zero = (rgdCancelPendingZero state).zero
  routeState : after.updateCache.routeState = state.updateCache.routeState
  shows : ∀ event ∈ events, ShowsCached state.updateCache.routeState event

theorem handleManeuver_routeState (overlay : Bool) (stack : RgdKey → List UInt8) (man : RgdManeuver)
    (state : RgdState) :
    RecordStep state (handleManeuver overlay stack man state).1
      (handleManeuver overlay stack man state).2 := by
  rcases handleManeuver_cases overlay stack man state with
    skipped | ⟨idx, extraMan, -, -, written⟩
  · rw [skipped]
    exact ⟨rfl, by simp, by simp⟩
  · obtain ⟨maneuvers, storedEq⟩ := storeManeuver_frame idx man (rgdCancelPendingZero state)
    have keeps := writeBusSnapshotFromCache_keeps overlay stack extraMan none
      (storeManeuver idx man (rgdCancelPendingZero state))
    have cacheEq : (storeManeuver idx man (rgdCancelPendingZero state)).updateCache =
        state.updateCache := by simp [storedEq]
    rw [written]
    refine ⟨keeps.zero.trans (by rw [storedEq]), by rw [keeps.updateCache, cacheEq], ?_⟩
    intro event member
    rcases List.mem_append.mp member with assigned | shown
    · rw [slotAssigned_of_mem_rgdSlotForIapIndex assigned]
      exact .inl rfl
    · rw [← cacheEq]
      exact writeBusSnapshotFromCache_shows shown

theorem handleLane_routeState (overlay : Bool) (stack : RgdKey → List UInt8)
    (lane : RgdLaneGuidance) (state : RgdState) :
    RecordStep state (handleLane overlay stack lane state).1
      (handleLane overlay stack lane state).2 := by
  obtain ⟨lanes, laneSlot, storedEq⟩ := storeLane_frame lane (rgdCancelPendingZero state)
  have cacheEq : (storeLane lane (rgdCancelPendingZero state)).updateCache.routeState =
      state.updateCache.routeState := by simp [storedEq]
  have zeroEq : (storeLane lane (rgdCancelPendingZero state)).zero =
      (rgdCancelPendingZero state).zero := by rw [storedEq]
  rcases handleLane_cases overlay stack lane state with skipped | stored | ⟨extraMan, written⟩
  · rw [skipped]
    exact ⟨rfl, by simp, by simp⟩
  · rw [stored]
    exact ⟨zeroEq, cacheEq, by simp⟩
  · have keeps := writeBusSnapshotFromCache_keeps overlay stack extraMan
      (activeLane lane (rgdCancelPendingZero state)).1
      (storeLane lane (rgdCancelPendingZero state))
    rw [written]
    refine ⟨keeps.zero.trans zeroEq, by rw [keeps.updateCache, cacheEq], ?_⟩
    intro event member
    rw [← cacheEq]
    exact writeBusSnapshotFromCache_shows member

/-- An end is not published while a reroute is open. -/
def NoOpenEnd (past : List HookEvent) (event : HookEvent) : Prop :=
  event.routeState = some (.num 0) → rerouteOpen past = false

/-- The run invariant of the debounce. -/
structure DebounceInvariant (state : RgdState) (trace : List HookEvent) : Prop where
  consistent : ZeroConsistent state.zero state.updateCache.routeState
  held : RerouteHeld state.zero (rerouteOpen trace)
  noOpenEnd : Always NoOpenEnd trace

/-- Events that show the cached route state only. -/
theorem reroute_append {zero : RouteZero} {cached : Option Nat} {trace events : List HookEvent}
    (consistent : ZeroConsistent zero cached) (held : RerouteHeld zero (rerouteOpen trace))
    (noOpenEnd : Always NoOpenEnd trace) (shows : ∀ event ∈ events, ShowsCached cached event) :
    RerouteHeld zero (rerouteOpen (trace ++ events)) ∧ Always NoOpenEnd (trace ++ events) := by
  induction events generalizing trace with
  | nil => simpa using ⟨held, noOpenEnd⟩
  | cons event events ih =>
      have shown := shows event List.mem_cons_self
      have heldNext : RerouteHeld zero (rerouteOpen (trace ++ [event])) := by
        rw [rerouteOpen_snoc]
        split_ifs with reroutes
        · intro _
          rcases shown with silent | cachedShown
          · rw [silent] at reroutes
            cases reroutes
          · rw [cachedShown, Option.map_eq_some_iff] at reroutes
            obtain ⟨routeState, cachedEq, numberEq⟩ := reroutes
            simp only [BusValue.num.injEq, Nat.cast_inj] at numberEq
            subst numberEq
            refine ⟨consistent.emitted _ cachedEq, fun started => ?_⟩
            rw [(consistent.pending started).1] at cachedEq
            cases cachedEq
        · intro isOpen
          rw [Bool.and_eq_true] at isOpen
          exact held isOpen.1
      have nextChecked : Always NoOpenEnd (trace ++ [event]) := by
        refine noOpenEnd.snoc fun ended => ?_
        by_contra isOpen
        have emitted := (held (by simpa using isOpen)).1
        rcases shown with silent | cachedShown
        · rw [silent] at ended
          cases ended
        · rw [cachedShown, Option.map_eq_some_iff] at ended
          obtain ⟨routeState, cachedEq, numberEq⟩ := ended
          simp only [BusValue.num.injEq, Nat.cast_eq_zero] at numberEq
          subst numberEq
          rw [consistent.emitted _ cachedEq] at emitted
          cases emitted
      have rest := ih heldNext nextChecked fun later member =>
        shows later (List.mem_cons_of_mem event member)
      simpa using rest

theorem rgdClearState_debounce (overlay : Bool) (reason : ClearReason) {state : RgdState}
    {trace : List HookEvent} (before : DebounceInvariant state trace) :
    DebounceInvariant (rgdClearState overlay reason state).1
      (trace ++ (rgdClearState overlay reason state).2) := by
  have closed : rerouteOpen (trace ++ [.mapReset false] ++ [.stateCleared]) = false := by
    rw [rerouteOpen_snoc]
    simp [HookEvent.routeState, HookEvent.published, HookEvent.endsRerouting]
  have split : trace ++ (rgdClearState overlay reason state).2 =
      trace ++ [.mapReset false] ++ [.stateCleared] ++ [.endFrame (clearRecords reason)] := by
    simp [rgdClearState]
  have zeroEq : (rgdClearState overlay reason state).1.zero = ⟨0, 0, 0, false, 0⟩ := by
    cases overlay <;> rfl
  have cacheEq : (rgdClearState overlay reason state).1.updateCache = {} := by
    cases overlay <;> rfl
  rw [split]
  refine ⟨?_, ?_, ?_⟩
  · rw [zeroEq, cacheEq]
    exact .of_idle rfl (by simp)
  · rw [rerouteOpen_snoc, closed]
    intro isOpen
    simp [HookEvent.routeState, HookEvent.published, clearRecords, endRecords,
      rgdStateRerouting] at isOpen
  · refine ((before.noOpenEnd.snoc ?_).snoc ?_).snoc ?_
    · simp [NoOpenEnd, HookEvent.routeState, HookEvent.published]
    · simp [NoOpenEnd, HookEvent.routeState, HookEvent.published]
    · intro _
      exact closed

theorem rgdLazyInit_debounce (overlay : Bool) {state : RgdState} {trace : List HookEvent}
    (before : DebounceInvariant state trace) :
    DebounceInvariant (rgdLazyInit overlay state).1 (trace ++ (rgdLazyInit overlay state).2) := by
  unfold rgdLazyInit
  split
  · simpa using before
  · have marked : DebounceInvariant { state with initialized := true } trace :=
      ⟨before.consistent, before.held, before.noOpenEnd⟩
    exact rgdClearState_debounce overlay .init marked

/-- The tick publishes an end only when no reroute is open. -/
theorem rgdPeriodicTick_debounce (now : Nat) {state : RgdState} {trace : List HookEvent}
    (before : DebounceInvariant state trace) :
    DebounceInvariant (rgdPeriodicTick now state).1 (trace ++ (rgdPeriodicTick now state).2) := by
  unfold rgdPeriodicTick
  split
  · rename_i due
    simp only [zeroIsDue, Bool.and_eq_true, Bool.not_eq_true', Bool.or_eq_false_iff,
      decide_eq_false_iff_not, decide_eq_true_eq] at due
    obtain ⟨⟨⟨started, active⟩, notReroute, -⟩, -⟩ := due
    have closed : rerouteOpen trace = false := by
      by_contra isOpen
      rw [(before.held (by simpa using isOpen)).2 started] at notReroute
      cases notReroute
    refine ⟨.of_idle rfl ?_, ?_, before.noOpenEnd.snoc fun _ => closed⟩
    · simp [claimZero, (before.consistent.pending started).1]
    · rw [rerouteOpen_snoc, closed]
      intro isOpen
      simp [HookEvent.routeState, HookEvent.published, endRecords, rgdStateRerouting] at isOpen
  · simpa using before

theorem RecordStep.debounce {state after : RgdState} {trace events : List HookEvent}
    (step : RecordStep state after events) (before : DebounceInvariant state trace) :
    DebounceInvariant after (trace ++ events) := by
  have consistent := before.consistent.cancel
  obtain ⟨held, noOpenEnd⟩ :=
    reroute_append consistent before.held.cancel before.noOpenEnd step.shows
  refine ⟨?_, ?_, noOpenEnd⟩
  · rw [step.zero, step.routeState]
    exact consistent
  · rw [step.zero]
    exact held

theorem handleUpdate_debounce (overlay : Bool) (stack : RgdKey → List UInt8) (now : Nat)
    (upd : RgdUpdate) {state : RgdState} {trace : List HookEvent}
    (before : DebounceInvariant state trace) :
    DebounceInvariant (handleUpdate overlay stack now upd state).1
      (trace ++ (handleUpdate overlay stack now upd state).2) := by
  obtain ⟨debounced, events, held, -, outcome, result⟩ :=
    handleUpdate_cases overlay stack now upd state
  have consistent := outcome.consistent before.consistent
  have arrival : rerouteOpen (trace ++ [.routeUpdate upd]) =
      (rerouteOpen trace && !(HookEvent.routeUpdate upd).endsRerouting) := by
    rw [rerouteOpen_snoc]
    simp [HookEvent.routeState, HookEvent.published]
  have waiting : RerouteHeld debounced.zero (rerouteOpen (trace ++ [.routeUpdate upd])) := by
    rw [arrival]
    exact outcome.rerouteHeld before.held
  have arrived : Always NoOpenEnd (trace ++ [.routeUpdate upd]) :=
    before.noOpenEnd.snoc (by simp [NoOpenEnd, HookEvent.routeState, HookEvent.published])
  have resets : ∀ cached, ∀ event ∈ events, ShowsCached cached event := by
    intro cached event member
    obtain ⟨suppressed, rfl⟩ := outcome.events_eq member
    exact .inl rfl
  rcases result with ⟨rfl, result⟩ | ⟨rfl, result⟩
  · obtain ⟨stillHeld, noOpenEnd⟩ := reroute_append consistent waiting arrived (resets _)
    rw [result]
    simp only [List.append_assoc, List.singleton_append] at stillHeld noOpenEnd
    exact ⟨consistent, stillHeld, noOpenEnd⟩
  · obtain ⟨zeroEq, cachedEq, shows⟩ := acceptUpdate_routeState overlay stack upd debounced
    have allShow : ∀ event ∈ events ++ (acceptUpdate overlay stack upd debounced).2,
        ShowsCached (upd.routeState <|> debounced.updateCache.routeState) event := by
      intro event member
      rcases List.mem_append.mp member with reset | published
      · exact resets _ event reset
      · exact shows event published
    obtain ⟨stillHeld, noOpenEnd⟩ := reroute_append consistent waiting arrived allShow
    rw [result]
    simp only [List.append_assoc, List.singleton_append] at stillHeld noOpenEnd
    refine ⟨?_, ?_, noOpenEnd⟩
    · simpa [zeroEq, cachedEq] using consistent
    · simpa [zeroEq] using stillHeld

theorem rgdMessageHandler_debounce (overlay : Bool) (msgid : Nat) (raw : List UInt8) (now : Nat)
    (stack : RgdKey → List UInt8) {state : RgdState} {trace : List HookEvent}
    (before : DebounceInvariant state trace) :
    DebounceInvariant (rgdMessageHandler overlay msgid raw now stack state).1
      (trace ++ (rgdMessageHandler overlay msgid raw now stack state).2) := by
  have ready := rgdLazyInit_debounce overlay before
  have handled : ∀ {state : RgdState} {trace : List HookEvent}, DebounceInvariant state trace →
      DebounceInvariant (handleFrame overlay msgid raw now stack state).1
        (trace ++ (handleFrame overlay msgid raw now stack state).2) := by
    intro state trace before
    unfold handleFrame
    split_ifs
    · exact handleUpdate_debounce overlay stack now _ before
    · exact (handleManeuver_routeState overlay stack _ state).debounce before
    · exact (handleLane_routeState overlay stack _ state).debounce before
    · simpa [TracedOp.silent] using before
  simpa [rgdMessageHandler, TracedOp.andThen] using handled ready

theorem initial_debounce : DebounceInvariant .initial [] :=
  ⟨.of_idle rfl (by simp [RgdState.initial]), by simp [RerouteHeld, rerouteOpen], always_nil _⟩

theorem rgdHook_debounce {overlay : Bool} {state : RgdState} {trace : List HookEvent}
    (run : (rgdHook overlay).Run state trace) : DebounceInvariant state trace := by
  refine run.invariant DebounceInvariant initial_debounce ?_
  intro state next trace events label before _ stepTo
  obtain ⟨rfl, rfl⟩ : (rgdHookStep overlay label state).1 = next ∧
      (rgdHookStep overlay label state).2 = events := by
    simpa [rgdHook, Prod.ext_iff] using stepTo
  cases label with
  | message msgid raw now stack =>
      exact rgdMessageHandler_debounce overlay msgid raw now stack before
  | tick now => exact rgdPeriodicTick_debounce now before
  | clear reason => exact rgdClearState_debounce overlay reason before

end RgdState

/-- Between a published rerouting state and a published end, the reroute has
been ended by another positive route state, a hard clear or a reset. -/
theorem rerouting_resolved_before_end {overlay : Bool} {state : RgdState}
    {history : List HookEvent} (run : (rgdHook overlay).Run state history)
    {first last : Nat} (order : first < last)
    (rerouting : (history[first]?).bind HookEvent.routeState = some (.num rgdStateRerouting))
    (ended : (history[last]?).bind HookEvent.routeState = some (.num 0)) :
    ∃ position, first < position ∧ position < last ∧
      ∃ event, history[position]? = some event ∧ event.endsRerouting = true := by
  obtain ⟨final, finalAt, finalShows⟩ := Option.bind_eq_some_iff.mp ended
  obtain ⟨opening, openingAt, openingShows⟩ := Option.bind_eq_some_iff.mp rerouting
  obtain ⟨lastLt, finalEq⟩ := List.getElem?_eq_some_iff.mp finalAt
  have split : history = history.take last ++ final :: history.drop (last + 1) := by
    rw [← finalEq, List.getElem_cons_drop, List.take_append_drop]
  have resolved := (RgdState.rgdHook_debounce run).noOpenEnd _ _ _ split finalShows
  by_contra unresolved
  have stillOpen : rerouteOpen (history.take last) = true := by
    refine pending_take openingAt (by simp [HookEvent.showsRerouting, openingShows]) order ?_
    intro position event after before found
    by_contra ends
    exact unresolved ⟨position, after, before, event, found, by simpa using ends⟩
  rw [resolved] at stillOpen
  cases stillOpen

/-- A 0x5201 whose only field is a route state. -/
def routeStateFrame (routeState : UInt8) : List UInt8 :=
  [0x40, 0x40, 0, 11, 0x52, 0x01, 0, 5, 0, 1, routeState]

/-- A disconnect during a reroute publishes the end. -/
theorem rerouting_resolved_by_disconnect :
    ∃ state history, (rgdHook false).Run state history ∧
      ∃ position, 5 < position ∧ position < 8 ∧
        ∃ event, history[position]? = some event ∧ event.endsRerouting = true := by
  obtain ⟨state, history, run, checked⟩ :=
    (rgdHook false).exists_run_of_replay
      [.message 0x5201 (routeStateFrame 5) 0 (fun _ => []), .clear .disconnect]
      (fun result =>
        decide ((result.2[5]?).bind HookEvent.routeState = some (.num rgdStateRerouting)) &&
          decide ((result.2[8]?).bind HookEvent.routeState = some (.num 0)))
      (by decide +kernel)
  simp only [Bool.and_eq_true, decide_eq_true_eq] at checked
  exact ⟨state, history, run,
    rerouting_resolved_before_end run (by decide) checked.1 checked.2⟩

end CarplayRgi
