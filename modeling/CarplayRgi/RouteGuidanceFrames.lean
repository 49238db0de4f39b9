import CarplayRgi.RouteGuidanceParse
import CarplayRgi.TracedSystems

/-!
# Frames and lifecycle of the receiver

`RouteGuidance` absorbs frames into its state, decides from the state whether
guidance is active, and calls the BAP bridge.  The trace of a run is the list
of these calls.
-/

namespace CarplayRgi

def evtRgdUpdate : Nat := 0x0020

/-- The calls into the bridge. -/
inductive BridgeCall where
  | onStart
  | onStop
  | onShutdown
  | update (state : RouteGuidance.State)

structure RouteGuidance where
  running : Bool
  rgActive : Bool
  hasRouteUpdate : Bool
  state : RouteGuidance.State

namespace RouteGuidance

def fresh : RouteGuidance := ⟨false, false, false, .initial⟩

def start : TracedOp RouteGuidance BridgeCall := fun rg =>
  if rg.running then (rg, [])
  else ({ rg with running := true, rgActive := false, hasRouteUpdate := false }, [])

def stop : TracedOp RouteGuidance BridgeCall := fun rg =>
  if rg.running then
    ({ rg with running := false, rgActive := false, hasRouteUpdate := false },
      [.onStop, .onShutdown])
  else (rg, [])

/-- The flags after which the activation is decided anew. -/
def actMask : Finset DirtyFlag :=
  {.routeState, .maneuverState, .maneuverCount, .maneuverList, .maneuverIcon, .visibleInApp,
    .sourceSupportsRg}

def hasActivationDelta (state : State) : Bool :=
  decide (∃ flag ∈ actMask, flag ∈ state.dirtyMask)

/-- What the route and its maneuvers say, when the visibility is unknown. -/
def routeWantsActive (state : State) : Bool :=
  let route := state.route
  let explicitClear := decide (.maneuverCount ∈ state.dirtyMask ∧ route.maneuverCount = 0)
  if explicitClear && decide (route.routeState < 1) then false
  else
    decide (1 ≤ route.routeState) || decide (0 < route.maneuverCount) ||
      route.maneuverOrder.any fun list => decide (list ≠ [])

def wantActive (state : State) : Bool :=
  let route := state.route
  if route.routeState = 0 then false
  else if route.sourceSupportsRg = 0 then false
  else if 0 ≤ route.visibleInApp then decide (route.visibleInApp ≠ 0)
  else routeWantsActive state

/-- Start or stop guidance when the decision has changed. -/
def gate : TracedOp RouteGuidance BridgeCall := fun rg =>
  if hasActivationDelta rg.state then
    if wantActive rg.state && !rg.rgActive then ({ rg with rgActive := true }, [.onStart])
    else if !wantActive rg.state && rg.rgActive then
      ({ rg with rgActive := false }, [.onStop, .onShutdown])
    else (rg, [])
  else (rg, [])

def send : TracedOp RouteGuidance BridgeCall := fun rg =>
  ({ rg with state := rg.state.clearDirty }, if rg.rgActive then [.update rg.state] else [])

def disconnect : TracedOp RouteGuidance BridgeCall := fun rg =>
  ({ rg with rgActive := false, hasRouteUpdate := false, state := .initial },
    [.onStop, .onShutdown])

/-- The frame in the state, before anything is decided. -/
def absorb (payload : List UInt8) (rg : RouteGuidance) : RouteGuidance :=
  let parsed := parse (parseText payload) rg.hasRouteUpdate rg.state
  { rg with state := parsed.1, hasRouteUpdate := parsed.2 }

def dispatch : TracedOp RouteGuidance BridgeCall := fun rg =>
  if rg.state.dirtyMask = ∅ then (rg, [])
  else if rg.state.route.disconnectReason ≠ none then disconnect rg
  else gate.andThen send rg

/-- `onFrame`. -/
def onFrame (type : Nat) (payload : List UInt8) : TracedOp RouteGuidance BridgeCall := fun rg =>
  if rg.running && decide (type = evtRgdUpdate) then dispatch (absorb payload rg) else (rg, [])

/-- A frame changes a field only under the field's own flag. -/
theorem Owns.absorb_eq {Field : Type} {flag : DirtyFlag} {field : RouteFields → Field}
    (owns : Owns {flag} field)
    (disconnect : flag = .disconnect ∨ ∀ v r, field { r with disconnectReason := v } = field r)
    {payload : List UInt8} {rg : RouteGuidance}
    (clean : flag ∉ (absorb payload rg).state.dirtyMask) :
    field (absorb payload rg).state.route = field rg.state.route :=
  owns.parse_eq (disconnect.imp_left fun same => by simp [same])
    (Finset.disjoint_singleton_left.mpr clean)

/-- What a frame does once it is absorbed. -/
inductive FrameCase (absorbed : RouteGuidance) : RouteGuidance → List BridgeCall → Prop
  | unchanged : absorbed.state.dirtyMask = ∅ → FrameCase absorbed absorbed []
  | disconnected : absorbed.state.route.disconnectReason ≠ none →
      FrameCase absorbed
        { absorbed with rgActive := false, hasRouteUpdate := false, state := .initial }
        [.onStop, .onShutdown]
  | activated : absorbed.state.route.disconnectReason = none →
      hasActivationDelta absorbed.state = true → wantActive absorbed.state = true →
      absorbed.rgActive = false →
      FrameCase absorbed { absorbed with rgActive := true, state := absorbed.state.clearDirty }
        [.onStart, .update absorbed.state]
  | deactivated : absorbed.state.route.disconnectReason = none →
      hasActivationDelta absorbed.state = true → wantActive absorbed.state = false →
      absorbed.rgActive = true →
      FrameCase absorbed { absorbed with rgActive := false, state := absorbed.state.clearDirty }
        [.onStop, .onShutdown]
  | updated : absorbed.state.route.disconnectReason = none →
      (hasActivationDelta absorbed.state = true → wantActive absorbed.state = true) →
      absorbed.rgActive = true →
      FrameCase absorbed { absorbed with state := absorbed.state.clearDirty }
        [.update absorbed.state]
  | silent : absorbed.state.route.disconnectReason = none →
      (hasActivationDelta absorbed.state = true → wantActive absorbed.state = false) →
      absorbed.rgActive = false →
      FrameCase absorbed { absorbed with state := absorbed.state.clearDirty } []

theorem dispatch_case (rg : RouteGuidance) : FrameCase rg (dispatch rg).1 (dispatch rg).2 := by
  by_cases clean : rg.state.dirtyMask = ∅
  · rw [dispatch, if_pos clean]
    exact .unchanged clean
  by_cases reason : rg.state.route.disconnectReason = none
  · rw [dispatch, if_neg clean, if_neg (not_not.mpr reason)]
    have gated : gate rg =
        if hasActivationDelta rg.state then
          if wantActive rg.state && !rg.rgActive then ({ rg with rgActive := true }, [.onStart])
          else if !wantActive rg.state && rg.rgActive then
            ({ rg with rgActive := false }, [.onStop, .onShutdown])
          else (rg, [])
        else (rg, []) := rfl
    cases delta : hasActivationDelta rg.state with
    | false =>
        rw [delta, if_neg Bool.false_ne_true] at gated
        rw [TracedOp.andThen, gated]
        cases active : rg.rgActive
        · simpa [send, active] using FrameCase.silent reason (by simp [delta]) active
        · simpa [send, active] using FrameCase.updated reason (by simp [delta]) active
    | true =>
        rw [delta, if_pos rfl] at gated
        rw [TracedOp.andThen, gated]
        cases wants : wantActive rg.state <;> cases active : rg.rgActive
        · simpa [send, active] using FrameCase.silent reason (fun _ => wants) active
        · simpa [send] using FrameCase.deactivated reason delta wants active
        · simpa [send] using FrameCase.activated reason delta wants active
        · simpa [send, active] using FrameCase.updated reason (fun _ => wants) active
  · rw [dispatch, if_neg clean, if_pos reason]
    exact .disconnected reason

theorem onFrame_of_running {rg : RouteGuidance} (running : rg.running = true)
    (payload : List UInt8) :
    onFrame evtRgdUpdate payload rg = dispatch (absorb payload rg) := by
  simp [onFrame, running]

end RouteGuidance

inductive GuidanceLabel where
  | start
  | stop
  | frame (type : Nat) (payload : List UInt8)

def routeGuidanceStep : GuidanceLabel → TracedOp RouteGuidance BridgeCall
  | .start => RouteGuidance.start
  | .stop => RouteGuidance.stop
  | .frame type payload => RouteGuidance.onFrame type payload

def routeGuidance : TracedSystem RouteGuidance GuidanceLabel BridgeCall where
  init := .fresh
  step rg label := some (routeGuidanceStep label rg)

end CarplayRgi
