import CarplayRgi.GuidanceLink
import CarplayRgi.RgdRouteStateDebounce

/-!
# The view of the trip over a link

What the receiver knows about a trip is decided by the updates that the hook
accepts, and whether it accepts one is decided by its debounce fields.  So the
trip and the debounce fields step on their own, whatever else the two sides
remember.
-/

namespace CarplayRgi

open RgdState RouteGuidance

namespace RouteZero

def cancel (zero : RouteZero) : RouteZero :=
  if zero.startedMs = 0 then zero
  else { zero with startedMs := 0, deadlineMs := 0, fromReroute := false }

def await (now : Nat) (fromReroute : Bool) (zero : RouteZero) : RouteZero :=
  if zero.startedMs = 0 then
    { zero with
      startedMs := now
      fromReroute := fromReroute
      deadlineMs := if fromReroute then 0 else (now + routeZeroNormalGraceMs) % 2 ^ 64 }
  else zero

def note (routeState : Nat) (zero : RouteZero) : RouteZero :=
  { zero with lastRouteState := routeState }

def emit (routeState : Nat) (zero : RouteZero) : RouteZero :=
  { zero with emittedRouteState := routeState }

/-- The fields after an update, and whether the update is held back. -/
def debounce (upd : RgdUpdate) (now : Nat) (zero : RouteZero) : RouteZero × Bool :=
  match upd.routeState with
  | some routeState =>
      if routeState = 0 then
        if isHardClear upd then (((zero.note 0).cancel).emit 0, false)
        else if zero.emittedRouteState = 0 then (zero.note 0, false)
        else
          ((zero.note 0).await now (decide (zero.lastRouteState = rgdStateRerouting) ||
            decide (zero.emittedRouteState = rgdStateRerouting)), true)
      else (((zero.note routeState).cancel).emit routeState, false)
  | none =>
      if rgdUpdateHasActiveEvidence upd then (zero.cancel, false)
      else (zero, !isHardClear upd && decide (zero.startedMs ≠ 0))

def isDue (now : Nat) (zero : RouteZero) : Bool :=
  !(decide (zero.startedMs = 0) || decide (zero.emittedRouteState = 0)) &&
    !(zero.fromReroute || decide (zero.deadlineMs = 0)) && decide (zero.deadlineMs ≤ now)

/-- No zero is pending, and the route state passed on last is zero. -/
def claimed (zero : RouteZero) : RouteZero :=
  { zero with startedMs := 0, deadlineMs := 0, fromReroute := false, emittedRouteState := 0 }

/-- No zero is pending in either, and they pass on the same states; what
remains of an older zero, or of a route that has ended, is not looked at. -/
structure Settled (first second : RouteZero) : Prop where
  firstIdle : first.startedMs = 0
  secondIdle : second.startedMs = 0
  emitted : first.emittedRouteState = second.emittedRouteState
  last : first.emittedRouteState ≠ 0 → first.lastRouteState = second.lastRouteState

def Alike (first second : RouteZero) : Prop :=
  first = second ∨ Settled first second

variable {first second : RouteZero}

theorem Alike.cancel (alike : Alike first second) : Alike first.cancel second.cancel := by
  rcases alike with rfl | settled
  · exact .inl rfl
  · rw [RouteZero.cancel, RouteZero.cancel, if_pos settled.firstIdle, if_pos settled.secondIdle]
    exact .inr settled

/-- After a positive state, or a zero that is passed on, the last state is the emitted one. -/
theorem alike_pass (first second : RouteZero) (routeState : Nat) :
    Alike (((first.note routeState).cancel).emit routeState)
      (((second.note routeState).cancel).emit routeState) := by
  have idle : ∀ zero : RouteZero, (((zero.note routeState).cancel).emit routeState).startedMs = 0 :=
    fun zero => by
      unfold RouteZero.cancel
      split_ifs with idle
      · exact idle
      · rfl
  have last : ∀ zero : RouteZero,
      (((zero.note routeState).cancel).emit routeState).lastRouteState = routeState :=
    fun zero => by
      unfold RouteZero.cancel
      split_ifs <;> rfl
  exact .inr ⟨idle first, idle second, rfl, fun _ => (last first).trans (last second).symm⟩

theorem Alike.debounce (alike : Alike first second) (upd : RgdUpdate) (now : Nat) :
    Alike (first.debounce upd now).1 (second.debounce upd now).1 ∧
      (first.debounce upd now).2 = (second.debounce upd now).2 := by
  unfold RouteZero.debounce
  cases upd.routeState with
  | none =>
      dsimp only
      have started : (first.startedMs = 0) = (second.startedMs = 0) := by
        rcases alike with rfl | settled
        · rfl
        · simp [settled.firstIdle, settled.secondIdle]
      simp only [ne_eq, started]
      split_ifs
      · exact ⟨alike.cancel, rfl⟩
      · exact ⟨alike, rfl⟩
  | some routeState =>
      dsimp only
      by_cases isZero : routeState = 0
      · rw [if_pos isZero, if_pos isZero]
        cases isHardClear upd with
        | true => exact ⟨alike_pass first second 0, rfl⟩
        | false =>
            rcases alike with rfl | settled
            · exact ⟨.inl rfl, rfl⟩
            · by_cases ended : first.emittedRouteState = 0
              · have noted : Settled (first.note 0) (second.note 0) :=
                  ⟨settled.firstIdle, settled.secondIdle, settled.emitted, fun _ => rfl⟩
                simp only [Bool.false_eq_true, if_false, ← settled.emitted, ended, if_true]
                exact ⟨.inr noted, trivial⟩
              · have awaited : ∀ fromReroute, (first.note 0).await now fromReroute =
                    (second.note 0).await now fromReroute := by
                  intro fromReroute
                  obtain ⟨firstIdle, secondIdle, emitted, last⟩ := settled
                  simp [RouteZero.await, RouteZero.note, firstIdle, secondIdle, emitted]
                simp only [Bool.false_eq_true, if_false, ← settled.emitted, ended,
                  settled.last ended, awaited]
                exact ⟨.inl rfl, trivial⟩
      · rw [if_neg isZero, if_neg isZero]
        exact ⟨alike_pass first second routeState, rfl⟩

theorem Alike.isDue (alike : Alike first second) (now : Nat) :
    first.isDue now = second.isDue now := by
  rcases alike with rfl | settled
  · rfl
  · simp [RouteZero.isDue, settled.firstIdle, settled.secondIdle]

theorem Alike.claimed (alike : Alike first second) : Alike first.claimed second.claimed := by
  rcases alike with rfl | settled
  · exact .inl rfl
  · exact .inr ⟨rfl, rfl, rfl, fun ended => absurd rfl ended⟩

end RouteZero

theorem rgdCancelPendingZero_zero (state : RgdState) :
    (rgdCancelPendingZero state).zero = state.zero.cancel := by
  unfold rgdCancelPendingZero RouteZero.cancel
  split_ifs <;> rfl

theorem startPendingZero_zero (now : Nat) (fromReroute : Bool) (state : RgdState) :
    (startPendingZero now fromReroute state).zero = state.zero.await now fromReroute := by
  unfold startPendingZero RouteZero.await
  split_ifs <;> rfl

/-- The decision about an update looks at the debounce fields only. -/
theorem debounceUpdate_zero (upd : RgdUpdate) (now : Nat) (state : RgdState) :
    (debounceUpdate upd now state).1.1.zero = (state.zero.debounce upd now).1 ∧
      (debounceUpdate upd now state).2 = (state.zero.debounce upd now).2 := by
  unfold debounceUpdate RouteZero.debounce
  cases upd.routeState with
  | none =>
      dsimp only
      split_ifs
      · exact ⟨rgdCancelPendingZero_zero state, rfl⟩
      · exact ⟨rfl, rfl⟩
  | some routeState =>
      by_cases isZero : routeState = 0
      · subst isZero
        cases hard : isHardClear upd with
        | true =>
            refine ⟨?_, by simp [noteRouteState]⟩
            simp only [noteRouteState, hardClearZero, if_true]
            rw [rgdCancelPendingZero_zero]
            rfl
        | false =>
            by_cases idle : state.zero.emittedRouteState = 0
            · simp [noteRouteState, idle, noteRaw, RouteZero.note]
            · simp only [noteRouteState, noteRaw_emitted, idle, if_true, if_false,
                Bool.false_eq_true, suppressZero, and_true]
              split_ifs
              · exact startPendingZero_zero now _ _
              · exact startPendingZero_zero now _ _
      · simp only [noteRouteState, isZero, if_false, notePositive, and_true]
        rw [rgdCancelPendingZero_zero]
        rfl

/-- What decides the trip of the receiver. -/
structure TripView where
  zero : RouteZero
  trip : TripFields

/-- Before the first message, and after each reset. -/
def TripView.initial : TripView := ⟨⟨0, 0, 0, false, 0⟩, RouteFields.trip {}⟩

def TripView.step (view : TripView) : HookLabel → TripView
  | .message msgid raw now _ =>
      if msgid = iap2MsgRouteGuidanceUpdate then
        let decided := view.zero.debounce (rgdParseUpdate raw) now
        ⟨decided.1,
          if decided.2 then view.trip else (rgdParseUpdate raw).tellTrip view.trip⟩
      else if msgid = iap2MsgRouteGuidanceManeuver ∨ msgid = iap2MsgRouteGuidanceLane then
        ⟨view.zero.cancel, view.trip⟩
      else view
  | .tick now => ⟨if view.zero.isDue now then view.zero.claimed else view.zero, view.trip⟩
  | .clear _ => .initial

namespace GuidanceLink

def trip (link : GuidanceLink) : TripFields := link.receiver.state.route.trip

def view (link : GuidanceLink) : TripView := ⟨link.hook.zero, link.trip⟩

/-- The hook caches no value of the trip that the receiver does not have. -/
def Synced (link : GuidanceLink) : Prop :=
  link.hook.updateCache.tellTrip link.trip = link.trip

/-- The receiver waits for frames, and a hook that has not been initialised has
told it nothing. -/
structure Ready (link : GuidanceLink) : Prop where
  receives : Receives link.receiver
  started : link.hook.initialized = true ∨ link.view = .initial

/-- The link after a step that leads the hook to a state with some events. -/
def after (link : GuidanceLink) (stepped : RgdState × List HookEvent) : GuidanceLink :=
  ⟨stepped.1, stepped.2.foldl receive link.receiver⟩

end GuidanceLink

/-- The step leads to the view, as long as the link is in step and no frame is
lost. -/
structure Leads (link : GuidanceLink) (stepped : RgdState × List HookEvent) (view : TripView) :
    Prop where
  ready : (link.after stepped).Ready
  initialized : link.hook.initialized = true → stepped.1.initialized = true
  zero : stepped.1.zero = view.zero
  told : link.Synced → .overflowed ∉ stepped.2 →
    (link.after stepped).Synced ∧ (link.after stepped).trip = view.trip

variable {link : GuidanceLink}

theorem Leads.congr {stepped : RgdState × List HookEvent} {view other : TripView}
    (leads : Leads link stepped view) (sameZero : view.zero = other.zero)
    (sameTrip : link.Synced → view.trip = other.trip) : Leads link stepped other where
  ready := leads.ready
  initialized := leads.initialized
  zero := leads.zero.trans sameZero
  told synced sent := by
    obtain ⟨stillSynced, trip⟩ := leads.told synced sent
    exact ⟨stillSynced, trip.trans (sameTrip synced)⟩

theorem Leads.view_eq {stepped : RgdState × List HookEvent} {view : TripView}
    (leads : Leads link stepped view) (synced : link.Synced) (sent : .overflowed ∉ stepped.2) :
    (link.after stepped).view = view := by
  rw [GuidanceLink.view, (leads.told synced sent).2]
  exact congrArg (TripView.mk · _) leads.zero

/-- A step that publishes nothing. -/
theorem leads_quiet (receives : Receives link.receiver) {next : RgdState}
    {events : List HookEvent} (quiet : ∀ event ∈ events, event.published = none)
    (initialized : next.initialized = true)
    (cache : link.Synced → next.updateCache.tellTrip link.trip = link.trip) :
    Leads link (next, events) ⟨next.zero, link.trip⟩ := by
  have same : link.after (next, events) = ⟨next, link.receiver⟩ := by
    rw [GuidanceLink.after, foldl_receive_unpublished quiet]
  refine ⟨?_, fun _ => initialized, rfl, fun synced _ => ?_⟩
  · rw [same]
    exact ⟨receives, .inl initialized⟩
  · rw [same]
    exact ⟨cache synced, rfl⟩

/-- A step that ends with the snapshot of a state. -/
theorem leads_snapshot (receives : Receives link.receiver) {state : RgdState}
    (initialized : state.initialized = true) {quiet : List HookEvent}
    (isQuiet : ∀ event ∈ quiet, event.published = none) {overlay : Bool}
    {stack : RgdKey → List UInt8} {extraMan : Option RgdManeuver}
    {currentUpd : Option RgdUpdate} :
    Leads link
      ((writeBusSnapshotFromCache overlay stack extraMan currentUpd state).1,
        quiet ++ (writeBusSnapshotFromCache overlay stack extraMan currentUpd state).2)
      ⟨state.zero, state.updateCache.tellTrip link.trip⟩ := by
  have keeps := writeBusSnapshotFromCache_keeps overlay stack extraMan currentUpd state
  have folded : link.after
      ((writeBusSnapshotFromCache overlay stack extraMan currentUpd state).1,
        quiet ++ (writeBusSnapshotFromCache overlay stack extraMan currentUpd state).2) =
      ⟨(writeBusSnapshotFromCache overlay stack extraMan currentUpd state).1,
        (writeBusSnapshotFromCache overlay stack extraMan currentUpd state).2.foldl receive
          link.receiver⟩ := by
    rw [GuidanceLink.after, List.foldl_append, foldl_receive_unpublished isQuiet]
  have stillInitialized := keeps.initialized.trans initialized
  refine ⟨?_, fun _ => stillInitialized, keeps.zero, fun _ sent => ?_⟩
  · rw [folded]
    exact ⟨(receive_snapshot receives).1, .inl stillInitialized⟩
  · have told := (receive_snapshot receives).2 fun lost => sent (List.mem_append_right quiet lost)
    rw [folded]
    refine ⟨?_, told⟩
    rw [GuidanceLink.Synced, GuidanceLink.trip, told, keeps.updateCache]
    exact RgdUpdate.tellTrip_tellTrip _ _

/-- The decision about an update keeps the cache or empties it. -/
theorem RgdState.DebounceCase.cache {upd : RgdUpdate} {now : Nat} {state after : RgdState}
    {events : List HookEvent} {held : Bool}
    (outcome : DebounceCase upd now state after events held) :
    after.initialized = state.initialized ∧
      (after.updateCache = state.updateCache ∨ after.updateCache = {}) := by
  cases outcome with
  | hardClear => exact ⟨by simp [hardClearZero]; rfl, .inr (by simp [hardClearZero]; rfl)⟩
  | passZero => exact ⟨rfl, .inl rfl⟩
  | flushZero => exact ⟨by simp; rfl, .inr (by simp; rfl)⟩
  | holdZero => exact ⟨by simp; rfl, .inr (by simp; rfl)⟩
  | positive => exact ⟨by simp [notePositive]; rfl, .inl (by simp [notePositive]; rfl)⟩
  | evidence => exact ⟨by simp, .inl (by simp)⟩
  | held => exact ⟨rfl, .inl rfl⟩
  | passed => exact ⟨rfl, .inl rfl⟩

theorem acceptUpdate_leads (receives : Receives link.receiver) {state : RgdState}
    (initialized : state.initialized = true)
    (cache : link.Synced → state.updateCache.tellTrip link.trip = link.trip)
    {quiet : List HookEvent} (isQuiet : ∀ event ∈ quiet, event.published = none) (overlay : Bool)
    (stack : RgdKey → List UInt8) (upd : RgdUpdate) :
    Leads link
      ((acceptUpdate overlay stack upd state).1,
        quiet ++ (acceptUpdate overlay stack upd state).2)
      ⟨state.zero, upd.tellTrip link.trip⟩ := by
  obtain ⟨amap, notedEq⟩ := noteUpdate_frame overlay upd state
  have acceptedQuiet : ∀ event ∈ quiet ++ [acceptedEvent overlay upd state],
      event.published = none := by
    intro event member
    rcases List.mem_append.mp member with earlier | last
    · exact isQuiet event earlier
    · rw [List.mem_singleton.mp last]
      rfl
  rcases acceptUpdate_cases overlay stack upd state with ⟨rfl, skipped⟩ | ⟨-, written⟩
  · rw [skipped, notedEq]
    refine leads_quiet receives acceptedQuiet ?_ ?_
    · exact initialized
    · exact cache
  · obtain ⟨laneSlot, table, -, mergedEq⟩ := mergedUpdate_frame upd (noteUpdate overlay upd state)
    rw [written, List.append_cons]
    have ready : (mergedUpdate upd (noteUpdate overlay upd state)).initialized = true := by
      rw [mergedEq, notedEq]
      exact initialized
    refine (leads_snapshot receives ready acceptedQuiet).congr ?_ fun synced => ?_
    · rw [mergedEq, notedEq]
    · rw [mergedEq, notedEq]
      dsimp only
      rw [RgdUpdate.tellTrip_merge, cache synced, RgdUpdate.tellTrip_laneSlot]

theorem handleUpdate_leads (receives : Receives link.receiver)
    (initialized : link.hook.initialized = true) (overlay : Bool) (stack : RgdKey → List UInt8)
    (now : Nat) (upd : RgdUpdate) :
    Leads link (handleUpdate overlay stack now upd link.hook)
      ⟨(link.hook.zero.debounce upd now).1,
        if (link.hook.zero.debounce upd now).2 then link.trip else upd.tellTrip link.trip⟩ := by
  obtain ⟨debounced, events, held, decidedEq, outcome, result⟩ :=
    handleUpdate_cases overlay stack now upd link.hook
  obtain ⟨zeroEq, heldEq⟩ := debounceUpdate_zero upd now { link.hook with haveUpdate := true }
  rw [decidedEq] at zeroEq heldEq
  dsimp only at zeroEq heldEq
  obtain ⟨sameInitialized, kept⟩ := outcome.cache
  have stillInitialized : debounced.initialized = true := sameInitialized.trans initialized
  have cache : link.Synced → debounced.updateCache.tellTrip link.trip = link.trip := by
    intro synced
    rcases kept with same | emptied
    · rw [same]
      exact synced
    · rw [emptied]
      rfl
  have quiet : ∀ event ∈ HookEvent.routeUpdate upd :: events, event.published = none := by
    intro event member
    rcases List.mem_cons.mp member with rfl | reset
    · rfl
    · obtain ⟨suppressed, rfl⟩ := outcome.events_eq reset
      rfl
  rw [← zeroEq, ← heldEq]
  rcases result with ⟨rfl, result⟩ | ⟨rfl, result⟩
  · rw [result]
    exact leads_quiet receives quiet stillInitialized cache
  · rw [result, ← List.cons_append]
    exact acceptUpdate_leads receives stillInitialized cache quiet overlay stack upd

theorem handleManeuver_leads (receives : Receives link.receiver)
    (initialized : link.hook.initialized = true) (overlay : Bool) (stack : RgdKey → List UInt8)
    (man : RgdManeuver) :
    Leads link (handleManeuver overlay stack man link.hook) ⟨link.hook.zero.cancel, link.trip⟩ := by
  rw [← rgdCancelPendingZero_zero]
  rcases handleManeuver_cases overlay stack man link.hook with
    skipped | ⟨idx, extraMan, -, -, written⟩
  · rw [skipped]
    refine leads_quiet receives (by simp) (by simpa using initialized) fun synced => ?_
    rw [rgdCancelPendingZero_updateCache]
    exact synced
  · obtain ⟨maneuvers, storedEq⟩ := storeManeuver_frame idx man (rgdCancelPendingZero link.hook)
    have quiet : ∀ event ∈ (rgdSlotForIapIndex idx (rgdCancelPendingZero link.hook)).2.2,
        event.published = none := by
      intro event member
      rw [slotAssigned_of_mem_rgdSlotForIapIndex member]
      rfl
    have stillInitialized :
        (storeManeuver idx man (rgdCancelPendingZero link.hook)).initialized = true := by
      rw [storedEq]
      simpa using initialized
    rw [written]
    refine (leads_snapshot receives stillInitialized quiet).congr ?_ fun synced => ?_
    · rw [storedEq]
    · rw [storedEq]
      dsimp only
      rw [rgdCancelPendingZero_updateCache]
      exact synced

theorem handleLane_leads (receives : Receives link.receiver)
    (initialized : link.hook.initialized = true) (overlay : Bool) (stack : RgdKey → List UInt8)
    (lane : RgdLaneGuidance) :
    Leads link (handleLane overlay stack lane link.hook) ⟨link.hook.zero.cancel, link.trip⟩ := by
  rw [← rgdCancelPendingZero_zero]
  obtain ⟨lanes, laneSlot, storedEq⟩ := storeLane_frame lane (rgdCancelPendingZero link.hook)
  have told : link.Synced →
      (storeLane lane (rgdCancelPendingZero link.hook)).updateCache.tellTrip link.trip =
        link.trip := by
    intro synced
    rw [storedEq]
    dsimp only
    rw [RgdUpdate.tellTrip_laneSlot, rgdCancelPendingZero_updateCache]
    exact synced
  have stillInitialized : (storeLane lane (rgdCancelPendingZero link.hook)).initialized = true := by
    rw [storedEq]
    simpa using initialized
  have zeroEq : (storeLane lane (rgdCancelPendingZero link.hook)).zero =
      (rgdCancelPendingZero link.hook).zero := by
    rw [storedEq]
  rcases handleLane_cases overlay stack lane link.hook with skipped | stored | ⟨extraMan, written⟩
  · rw [skipped]
    refine leads_quiet receives (by simp) (by simpa using initialized) fun synced => ?_
    rw [rgdCancelPendingZero_updateCache]
    exact synced
  · rw [stored, ← zeroEq]
    exact leads_quiet receives (by simp) stillInitialized told
  · rw [written]
    exact (@leads_snapshot link receives _ stillInitialized [] (by simp) _ _ _ _).congr zeroEq told

theorem rgdClearState_view (overlay : Bool) (reason : ClearReason)
    (receives : Receives link.receiver) :
    (link.after (rgdClearState overlay reason link.hook)).view = .initial := by
  have zero : (rgdClearState overlay reason link.hook).1.zero = TripView.initial.zero := by
    cases overlay <;> rfl
  have trip : (link.after (rgdClearState overlay reason link.hook)).trip =
      TripView.initial.trip :=
    congrArg (fun state => state.route.trip) (receive_clear receives reason).2
  rw [GuidanceLink.view, trip]
  exact congrArg (TripView.mk · _) zero

theorem rgdClearState_leads (overlay : Bool) (reason : ClearReason)
    (receives : Receives link.receiver) :
    Leads link (rgdClearState overlay reason link.hook) .initial := by
  have view := rgdClearState_view overlay reason receives
  refine ⟨⟨(receive_clear receives reason).1, .inr view⟩, ?_, congrArg TripView.zero view,
    fun _ _ => ⟨?_, congrArg TripView.trip view⟩⟩
  · cases overlay <;> exact id
  · cases overlay <;> rfl

theorem rgdPeriodicTick_leads (ready : link.Ready) (now : Nat) :
    Leads link (rgdPeriodicTick now link.hook) (link.view.step (.tick now)) := by
  have dueEq : zeroIsDue now link.hook = link.hook.zero.isDue now := rfl
  dsimp only [rgdPeriodicTick, TripView.step, GuidanceLink.view]
  rw [dueEq]
  by_cases due : link.hook.zero.isDue now = true
  · rw [if_pos due, if_pos due]
    have initialized : link.hook.initialized = true := by
      rcases ready.started with initialized | fresh
      · exact initialized
      · have zero : link.hook.zero = TripView.initial.zero := congrArg TripView.zero fresh
        rw [zero] at due
        cases due
    obtain ⟨stillReceives, sameTrip⟩ := receive_end ready.receives
    have kept : (link.after (claimZero link.hook, [.endFrame endRecords])).trip = link.trip :=
      sameTrip
    refine ⟨⟨stillReceives, .inl initialized⟩, id, rfl, fun synced _ => ⟨?_, kept⟩⟩
    rw [GuidanceLink.Synced, kept]
    exact synced
  · rw [if_neg due, if_neg due]
    exact ⟨ready, id, rfl, fun synced _ => ⟨synced, rfl⟩⟩

theorem handleFrame_leads (receives : Receives link.receiver)
    (initialized : link.hook.initialized = true) (overlay : Bool) (msgid : Nat) (raw : List UInt8)
    (now : Nat) (stack : RgdKey → List UInt8) :
    Leads link (handleFrame overlay msgid raw now stack link.hook)
      (link.view.step (.message msgid raw now stack)) := by
  dsimp only [handleFrame, TripView.step]
  by_cases isUpdate : msgid = iap2MsgRouteGuidanceUpdate
  · rw [if_pos isUpdate, if_pos isUpdate]
    exact handleUpdate_leads receives initialized overlay stack now (rgdParseUpdate raw)
  rw [if_neg isUpdate, if_neg isUpdate]
  by_cases isManeuver : msgid = iap2MsgRouteGuidanceManeuver
  · rw [if_pos isManeuver, if_pos (Or.inl isManeuver)]
    exact handleManeuver_leads receives initialized overlay stack (rgdParseManeuver raw)
  rw [if_neg isManeuver]
  by_cases isLane : msgid = iap2MsgRouteGuidanceLane
  · rw [if_pos isLane, if_pos (Or.inr isLane)]
    exact handleLane_leads receives initialized overlay stack (rgdParseLaneGuidance raw)
  rw [if_neg isLane, if_neg fun either => either.elim isManeuver isLane]
  exact leads_quiet receives (by simp) initialized id

/-- The first message finds the receiver as the reset leaves it. -/
theorem rgdMessageHandler_leads (ready : link.Ready) (overlay : Bool) (msgid : Nat)
    (raw : List UInt8) (now : Nat) (stack : RgdKey → List UInt8) :
    Leads link (rgdMessageHandler overlay msgid raw now stack link.hook)
      (link.view.step (.message msgid raw now stack)) := by
  by_cases initialized : link.hook.initialized = true
  · have handled : rgdMessageHandler overlay msgid raw now stack link.hook =
        handleFrame overlay msgid raw now stack link.hook := by
      simp [rgdMessageHandler, TracedOp.andThen, rgdLazyInit, initialized]
    rw [handled]
    exact handleFrame_leads ready.receives initialized overlay msgid raw now stack
  · have fresh := ready.started.resolve_left initialized
    let marked : GuidanceLink := ⟨{ link.hook with initialized := true }, link.receiver⟩
    have clears := @rgdClearState_leads marked overlay .init ready.receives
    let cleared := marked.after (rgdClearState overlay .init marked.hook)
    have clearedInitialized : cleared.hook.initialized = true := by cases overlay <;> rfl
    have handled := handleFrame_leads clears.ready.receives clearedInitialized overlay msgid raw
      now stack
    have split : rgdMessageHandler overlay msgid raw now stack link.hook =
        ((handleFrame overlay msgid raw now stack cleared.hook).1,
          (rgdClearState overlay .init marked.hook).2 ++
            (handleFrame overlay msgid raw now stack cleared.hook).2) := by
      simp only [rgdMessageHandler, TracedOp.andThen, rgdLazyInit, if_neg initialized]
      rfl
    have same : link.after (rgdMessageHandler overlay msgid raw now stack link.hook) =
        cleared.after (handleFrame overlay msgid raw now stack cleared.hook) := by
      rw [split, GuidanceLink.after, List.foldl_append]
      rfl
    have clearedView : cleared.view = link.view :=
      (@rgdClearState_view marked overlay .init ready.receives).trans fresh.symm
    rw [clearedView] at handled
    refine ⟨?_, fun already => absurd already initialized, ?_, fun _ sent => ?_⟩
    · rw [same]
      exact handled.ready
    · rw [split]
      exact handled.zero
    · rw [split] at sent
      rw [same]
      refine handled.told ?_ fun lost => sent (List.mem_append_right _ lost)
      cases overlay <;> rfl

/-- The view of a link steps on its own. -/
theorem rgdHookStep_leads (ready : link.Ready) (overlay : Bool) (label : HookLabel) :
    Leads link (rgdHookStep overlay label link.hook) (link.view.step label) := by
  cases label with
  | message msgid raw now stack => exact rgdMessageHandler_leads ready overlay msgid raw now stack
  | tick now => exact rgdPeriodicTick_leads ready now
  | clear reason => exact rgdClearState_leads overlay reason ready.receives

end CarplayRgi
