import CarplayRgi.RgdSnapshotRuns
import CarplayRgi.RgdTripRecords

/-!
# The hook and its receiver

Every frame that the hook publishes is parsed by the receiver, in order.  A
frame without a disconnect reason is read into the state whatever else the
receiver does with it, and one with a reason resets the state.
-/

namespace CarplayRgi

structure GuidanceLink where
  hook : RgdState
  receiver : RouteGuidance

/-- A published frame reaches the receiver. -/
def receive (rg : RouteGuidance) (event : HookEvent) : RouteGuidance :=
  match event.published with
  | none => rg
  | some records => (RouteGuidance.onFrame evtRgdUpdate (frameText records) rg).1

def guidanceLinkStep (overlay : Bool) (label : HookLabel) : TracedOp GuidanceLink HookEvent :=
  fun link =>
    let stepped := rgdHookStep overlay label link.hook
    (⟨stepped.1, stepped.2.foldl receive link.receiver⟩, stepped.2)

/-- The receiver has been started before the first frame. -/
def guidanceLink (overlay : Bool) : TracedSystem GuidanceLink HookLabel HookEvent where
  init := ⟨.initial, (RouteGuidance.start .fresh).1⟩
  step link label := some (guidanceLinkStep overlay label link)

namespace RouteGuidance

/-- A receiver that waits for frames. -/
structure Receives (rg : RouteGuidance) : Prop where
  running : rg.running = true
  noReason : rg.state.route.disconnectReason = none

variable {rg : RouteGuidance} {payload : List UInt8}

theorem absorb_noReason (noReason : rg.state.route.disconnectReason = none)
    (noKey : (parseText payload).has (RgdKey.route .disconnectReason).text = false) :
    (absorb payload rg).state.route.disconnectReason = none := by
  have frames : Owns ∅ RouteFields.disconnectReason := by
    constructor <;> first | exact .inr fun _ _ => rfl | exact .inr fun _ _ _ _ _ => rfl
  have unchanged : rg.state.clearDirty.onRoute (parseDisconnectReason (parseText payload)) =
      rg.state.clearDirty := by
    simp [State.onRoute, State.clearDirty, parseDisconnectReason, noKey, noReason]
  have parsed := (frames.guards_parseRest (parseText payload)
    (rg.hasRouteUpdate || isRouteUpdateDelta (parseText payload)) rg.state.clearDirty
    (Finset.disjoint_empty_left _)).2
  simp only [absorb, parse_eq_parseRest, unchanged]
  exact parsed.trans noReason

/-- A frame without a disconnect reason is read. -/
theorem onFrame_read (receives : Receives rg)
    (noKey : (parseText payload).has (RgdKey.route .disconnectReason).text = false) :
    Receives (onFrame evtRgdUpdate payload rg).1 ∧
      (onFrame evtRgdUpdate payload rg).1.state.route.trip =
        rg.state.route.trip.read (parseText payload) := by
  have noReason := absorb_noReason receives.noReason noKey
  have running : (absorb payload rg).running = true := receives.running
  have read : (absorb payload rg).state.route.trip =
      rg.state.route.trip.read (parseText payload) := parse_trip _ _ _
  rw [onFrame_of_running receives.running]
  have outcome := dispatch_case (absorb payload rg)
  generalize dispatch (absorb payload rg) = result at outcome
  obtain ⟨after, calls⟩ := result
  cases outcome with
  | disconnected reason => exact absurd noReason reason
  | unchanged | activated | deactivated | updated | silent =>
      exact ⟨⟨running, noReason⟩, read⟩

/-- A disconnect reason resets the state. -/
theorem onFrame_reset (receives : Receives rg)
    (reason : (parseText payload).has (RgdKey.route .disconnectReason).text = true) :
    Receives (onFrame evtRgdUpdate payload rg).1 ∧
      (onFrame evtRgdUpdate payload rg).1.state = .initial := by
  obtain ⟨parsedReason, isDirty⟩ :=
    parse_disconnectReason rg.hasRouteUpdate reason receives.noReason
  have isReason : (absorb payload rg).state.route.disconnectReason ≠ none := parsedReason
  have dirty : (absorb payload rg).state.dirtyMask ≠ ∅ := Finset.ne_empty_of_mem isDirty
  have dispatched : dispatch (absorb payload rg) = disconnect (absorb payload rg) := by
    rw [dispatch, if_neg dirty, if_pos isReason]
  rw [onFrame_of_running receives.running, dispatched]
  exact ⟨⟨receives.running, rfl⟩, rfl⟩

end RouteGuidance

open RgdState RouteGuidance

@[simp]
theorem receive_unpublished {event : HookEvent} (quiet : event.published = none)
    (rg : RouteGuidance) : receive rg event = rg := by
  simp [receive, quiet]

theorem foldl_receive_unpublished {events : List HookEvent}
    (quiet : ∀ event ∈ events, event.published = none) (rg : RouteGuidance) :
    events.foldl receive rg = rg := by
  induction events with
  | nil => rfl
  | cons event events ih =>
      rw [List.foldl_cons, receive_unpublished (quiet event List.mem_cons_self)]
      exact ih fun other member => quiet other (List.mem_cons_of_mem _ member)

variable {rg : RouteGuidance}

/-- The end frame of a tick has none of the trip fields. -/
theorem receive_end (receives : Receives rg) :
    Receives (receive rg (.endFrame endRecords)) ∧
      (receive rg (.endFrame endRecords)).state.route.trip = rg.state.route.trip := by
  have absent : ∀ key ∈ tripKeys, valueOf (endRecords.take dataMax) key = none := by decide
  have noKey : (parseText (frameText endRecords)).has (RgdKey.route .disconnectReason).text =
      false := by
    rw [has_frameText, absent _ (by decide)]
    rfl
  obtain ⟨stillReceives, read⟩ := onFrame_read receives noKey
  refine ⟨stillReceives, read.trans ?_⟩
  simp only [TripFields.read, numField_frameText, num64Field_frameText, strField_frameText]
  rw [absent _ (by decide), absent _ (by decide), absent _ (by decide), absent _ (by decide),
    absent _ (by decide), absent _ (by decide)]
  rfl

/-- The frame of a clear resets the receiver. -/
theorem receive_clear (receives : Receives rg) (reason : ClearReason) :
    Receives (receive rg (.endFrame (clearRecords reason))) ∧
      (receive rg (.endFrame (clearRecords reason))).state = .initial := by
  refine onFrame_reset receives ?_
  rw [has_frameText]
  cases reason <;> decide

/-- A snapshot tells the cached trip, unless it is lost. -/
theorem receive_snapshot (receives : Receives rg) {overlay : Bool} {stack : RgdKey → List UInt8}
    {extraMan : Option RgdManeuver} {currentUpd : Option RgdUpdate} {state : RgdState} :
    Receives ((writeBusSnapshotFromCache overlay stack extraMan currentUpd state).2.foldl receive
        rg) ∧
      (.overflowed ∉ (writeBusSnapshotFromCache overlay stack extraMan currentUpd state).2 →
        ((writeBusSnapshotFromCache overlay stack extraMan currentUpd state).2.foldl receive
          rg).state.route.trip = state.updateCache.tellTrip rg.state.route.trip) := by
  rcases writeBusSnapshotFromCache_cases overlay stack extraMan currentUpd state with
    ⟨empty, skipped⟩ | written
  · rw [skipped, empty]
    exact ⟨receives, fun _ => rfl⟩
  · obtain ⟨lanes, prunedEq⟩ := rgdPruneStaleLaneCache_eq state
    rw [written]
    generalize recordsEq : snapshotRecords overlay stack currentUpd
      (rgdPruneStaleLaneCache state).2 = result
    obtain ⟨records, shown⟩ := result
    have built : BuiltFrom overlay shown records := ⟨stack, currentUpd, _, recordsEq⟩
    have sameCache : shown.updateCache = state.updateCache := by
      have step := (snapshotRecords_step overlay stack currentUpd
        (rgdPruneStaleLaneCache state).2).updateCache
      rw [recordsEq, prunedEq] at step
      exact step
    dsimp only
    rcases sendSnapshot_cases shown records with lost | snapshot
    · rw [lost]
      exact ⟨receives, fun sent => absurd (by simp) sent⟩
    · obtain ⟨stillReceives, read⟩ := onFrame_read receives built.no_reason
      rw [snapshot]
      refine ⟨stillReceives, fun _ => read.trans ?_⟩
      rw [built.read_trip, sameCache]

end CarplayRgi
