import CarplayRgi.GuidanceLink
import CarplayRgi.RouteGuidanceGating

/-!
# The gate fields of the receiver

Whether guidance is active is decided by the route state, the count and the
list of maneuvers, the visibility and the source.  These five fields are read
from their own five keys, and once the route state is known, three of them say
whether guidance is active.
-/

namespace CarplayRgi

namespace RouteGuidance

open Noted

structure GateFields where
  routeState : Int
  maneuverCount : Int
  maneuverOrder : Option (List Int)
  visibleInApp : Int
  sourceSupportsRg : Int
  deriving DecidableEq

def RouteFields.gate (route : RouteFields) : GateFields where
  routeState := route.routeState
  maneuverCount := route.maneuverCount
  maneuverOrder := route.maneuverOrder
  visibleInApp := route.visibleInApp
  sourceSupportsRg := route.sourceSupportsRg

namespace GateFields

def noRoute (gate : GateFields) : GateFields :=
  { gate with routeState := 0, maneuverCount := 0, maneuverOrder := none }

def readSource (value : Option Int) (gate : GateFields) : GateFields :=
  match value with
  | none => gate
  | some v =>
      if v = gate.sourceSupportsRg then gate
      else if v = 0 ∧ gate.routeState ≠ 0 then noRoute { gate with sourceSupportsRg := v }
      else { gate with sourceSupportsRg := v }

def readRouteState (value : Option Int) (gate : GateFields) : GateFields :=
  match value with
  | none => gate
  | some v =>
      if v = 0 then gate.noRoute
      else if 0 < v then { gate with routeState := v }
      else gate

def readCount (value : Option Int) (gate : GateFields) : GateFields :=
  match value with
  | none => gate
  | some v =>
      if v = gate.maneuverCount then gate
      else if v = 0 then { gate with maneuverCount := v, maneuverOrder := none }
      else { gate with maneuverCount := v }

/-- The gate fields after a frame. -/
def read (data : BusData) (gate : GateFields) : GateFields :=
  let counted := gate
    |> readSource (data.numField (.route .sourceSupportsRg) (-1))
    |> readRouteState (data.numField (.route .routeState) (-1))
    |> readCount (data.numField (.route .maneuverCount) 0)
  { counted with
    maneuverOrder := (maneuverListField data).getD counted.maneuverOrder
    visibleInApp := (visibleInAppField data).getD counted.visibleInApp }

/-- Nothing else of a frame bears on the visibility. -/
theorem read_visibleInApp (data : BusData) (gate : GateFields) :
    (gate.read data).visibleInApp = (visibleInAppField data).getD gate.visibleInApp := by
  have source : ∀ (value : Option Int) (gate : GateFields),
      (gate.readSource value).visibleInApp = gate.visibleInApp := by
    intro value gate
    unfold readSource noRoute
    split <;> (try split_ifs) <;> rfl
  have routeState : ∀ (value : Option Int) (gate : GateFields),
      (gate.readRouteState value).visibleInApp = gate.visibleInApp := by
    intro value gate
    unfold readRouteState noRoute
    split <;> (try split_ifs) <;> rfl
  have count : ∀ (value : Option Int) (gate : GateFields),
      (gate.readCount value).visibleInApp = gate.visibleInApp := by
    intro value gate
    unfold readCount
    split <;> (try split_ifs) <;> rfl
  unfold read
  dsimp only
  rw [count, routeState, source]

end GateFields

theorem noRoute_gate (noted : Noted RouteFields) :
    (RouteGuidance.noRoute noted).record.gate = noted.record.gate.noRoute := by
  simp [RouteGuidance.noRoute, store_record, mark, RouteFields.gate, GateFields.noRoute]

theorem parseDisconnectReason_gate (data : BusData) :
    Keeps RouteFields.gate (parseDisconnectReason data) := by
  intro noted
  unfold parseDisconnectReason
  split_ifs
  · refine keeps_store ?_ noted
    exact fun _ _ => rfl
  · rfl
  · rfl

theorem parseSourceSupportsRg_gate (data : BusData) (state : State) :
    (parseSourceSupportsRg data state).route.gate =
      state.route.gate.readSource (data.numField (.route .sourceSupportsRg) (-1)) := by
  unfold parseSourceSupportsRg GateFields.readSource
  cases data.numField (.route .sourceSupportsRg) (-1) with
  | none => rfl
  | some v =>
      dsimp only
      by_cases same : v = state.route.sourceSupportsRg
      · rw [if_pos same]
        exact (if_pos same).symm
      · rw [if_neg same]
        refine Eq.trans ?_ (if_neg same).symm
        by_cases clears : v = 0 ∧ state.route.routeState ≠ 0
        · refine (congrArg (fun state : State => state.route.gate) (if_pos clears)).trans ?_
          exact (noRoute_gate _).trans (if_pos clears).symm
        · refine (congrArg (fun state : State => state.route.gate) (if_neg clears)).trans ?_
          exact (if_neg clears).symm

theorem parseRouteState_gate (data : BusData) (noted : Noted RouteFields) :
    (parseRouteState data noted).record.gate =
      noted.record.gate.readRouteState (data.numField (.route .routeState) (-1)) := by
  unfold parseRouteState GateFields.readRouteState
  cases data.numField (.route .routeState) (-1) with
  | none => rfl
  | some v =>
      dsimp only
      split_ifs
      · exact noRoute_gate noted
      · rw [store_record fun _ => rfl]
        rfl
      · rw [store_record fun _ => rfl]
        rfl

theorem parseManeuverState_gate (data : BusData) :
    Keeps RouteFields.gate (parseManeuverState data) := by
  unfold parseManeuverState
  refine keeps_store ?_
  exact fun _ _ => rfl

theorem parseManeuverCount_gate (data : BusData) (noted : Noted RouteFields) :
    (parseManeuverCount data noted).record.gate =
      noted.record.gate.readCount (data.numField (.route .maneuverCount) 0) := by
  unfold parseManeuverCount GateFields.readCount
  cases data.numField (.route .maneuverCount) 0 with
  | none => rfl
  | some v =>
      dsimp only
      by_cases same : v = noted.record.maneuverCount
      · rw [if_pos same]
        exact (if_pos same).symm
      · rw [if_neg same]
        refine Eq.trans ?_ (if_neg same).symm
        split_ifs
        · rfl
        · rfl

theorem parseRouteRecords_gate (data : BusData) (noted : Noted RouteFields) :
    (parseRouteRecords data noted).record.gate =
      { noted.record.gate with
        maneuverOrder := (maneuverListField data).getD noted.record.maneuverOrder
        visibleInApp := (visibleInAppField data).getD noted.record.visibleInApp } := by
  simp [parseRouteRecords, store_record, RouteFields.gate]

theorem parse_gate (data : BusData) (hasRouteUpdate : Bool) (state : State) :
    (parse data hasRouteUpdate state).1.route.gate = state.route.gate.read data := by
  have counted : (((((state.clearDirty.onRoute (parseDisconnectReason data)
      |> parseSourceSupportsRg data).onRoute (parseRouteState data)).onRoute
      (parseManeuverState data)).onRoute (parseManeuverCount data)).route).gate =
        (((state.route.gate.readSource (data.numField (.route .sourceSupportsRg) (-1))).readRouteState
          (data.numField (.route .routeState) (-1))).readCount
            (data.numField (.route .maneuverCount) 0)) := by
    rw [State.onRoute_route, parseManeuverCount_gate, State.onRoute_route,
      parseManeuverState_gate, State.onRoute_route, parseRouteState_gate,
      parseSourceSupportsRg_gate, State.onRoute_route, parseDisconnectReason_gate]
    rfl
  rw [parse_eq_parseRest, parseRest, parseManeuvers_route, parseLanes_route, State.onRoute_route,
    parseRouteRecords_gate]
  unfold GateFields.read
  dsimp only
  rw [← counted]
  rfl

variable {rg : RouteGuidance} {payload : List UInt8}

/-- A frame without a disconnect reason is read into the gate fields. -/
theorem onFrame_gate (receives : Receives rg)
    (noKey : (parseText payload).has (RgdKey.route .disconnectReason).text = false) :
    (onFrame evtRgdUpdate payload rg).1.state.route.gate =
      rg.state.route.gate.read (parseText payload) := by
  have noReason := absorb_noReason receives.noReason noKey
  have read : (absorb payload rg).state.route.gate =
      rg.state.route.gate.read (parseText payload) := parse_gate _ _ _
  rw [onFrame_of_running receives.running]
  have outcome := dispatch_case (absorb payload rg)
  generalize dispatch (absorb payload rg) = result at outcome
  obtain ⟨after, calls⟩ := result
  cases outcome with
  | disconnected reason => exact absurd noReason reason
  | unchanged | activated | deactivated | updated | silent => exact read

theorem onFrame_visibleInApp (receives : Receives rg)
    (noKey : (parseText payload).has (RgdKey.route .disconnectReason).text = false) :
    (onFrame evtRgdUpdate payload rg).1.state.route.visibleInApp =
      (visibleInAppField (parseText payload)).getD rg.state.route.visibleInApp :=
  (congrArg GateFields.visibleInApp (onFrame_gate receives noKey)).trans
    (GateFields.read_visibleInApp _ _)

/-- Once the route state is known, guidance is active as the gate fields say. -/
def Decided (rg : RouteGuidance) : Prop :=
  0 ≤ rg.state.route.routeState →
    (rg.rgActive = true ↔ Admissible rg.state.route)

theorem wantActive_of_known {state : State} (known : 0 ≤ state.route.routeState) :
    wantActive state = true ↔ Admissible state.route := by
  constructor
  · exact admissible_of_wantActive
  · intro admissible
    have positive : 1 ≤ state.route.routeState := by
      have := admissible.routeState
      omega
    unfold wantActive
    dsimp only
    rw [if_neg admissible.routeState, if_neg admissible.sourceSupportsRg]
    split_ifs
    · simpa using admissible.visibleInApp
    · unfold routeWantsActive
      dsimp only
      rw [if_neg (by simp [positive])]
      simp [positive]

theorem absorb_of_noDelta (noDelta : ¬ hasActivationDelta (absorb payload rg).state = true) :
    (absorb payload rg).state.route.routeState = rg.state.route.routeState ∧
      (Admissible (absorb payload rg).state.route ↔ Admissible rg.state.route) := by
  have clean : ∀ flag ∈ actMask, flag ∉ (absorb payload rg).state.dirtyMask := by
    simpa [hasActivationDelta] using noDelta
  have routeState := owns_routeState.absorb_eq (.inr fun _ _ => rfl)
    (clean .routeState (by decide))
  have visible := owns_visibleInApp.absorb_eq (.inr fun _ _ => rfl)
    (clean .visibleInApp (by decide))
  have supports := owns_sourceSupportsRg.absorb_eq (.inr fun _ _ => rfl)
    (clean .sourceSupportsRg (by decide))
  refine ⟨routeState, fun admissible => ?_, admissible_absorb noDelta⟩
  exact ⟨routeState ▸ admissible.routeState, visible ▸ admissible.visibleInApp,
    supports ▸ admissible.sourceSupportsRg⟩

theorem decided_onFrame (receives : Receives rg) (decided : Decided rg) (payload : List UInt8) :
    Decided (onFrame evtRgdUpdate payload rg).1 := by
  have sameActive : (absorb payload rg).rgActive = rg.rgActive := rfl
  -- without a delta, neither the decision nor what it depends on has changed
  have kept : ¬ hasActivationDelta (absorb payload rg).state = true →
      Decided (absorb payload rg) := by
    intro noDelta known
    obtain ⟨routeState, same⟩ := absorb_of_noDelta noDelta
    rw [sameActive, same]
    exact decided (routeState ▸ known)
  rw [onFrame_of_running receives.running]
  have outcome := dispatch_case (absorb payload rg)
  generalize dispatch (absorb payload rg) = result at outcome
  generalize absorb payload rg = absorbed at kept outcome
  obtain ⟨after, calls⟩ := result
  cases outcome with
  | unchanged clean =>
      have noFlag : after.state.dirtyMask = ∅ := clean
      exact kept (by simp [hasActivationDelta, noFlag])
  | disconnected =>
      intro known
      have impossible : (0 : Int) ≤ -1 := known
      exact absurd impossible (by decide)
  | activated _ _ wants =>
      have admissible := admissible_of_wantActive wants
      exact fun _ => ⟨fun _ => admissible, fun _ => rfl⟩
  | deactivated _ _ wants =>
      intro known
      have isKnown : 0 ≤ absorbed.state.route.routeState := known
      have notAdmissible : ¬ Admissible absorbed.state.route := fun admissible =>
        Bool.false_ne_true (wants.symm.trans ((wantActive_of_known isKnown).mpr admissible))
      exact ⟨fun active => absurd active Bool.false_ne_true,
        fun admissible => absurd admissible notAdmissible⟩
  | updated _ wants active =>
      by_cases delta : hasActivationDelta absorbed.state = true
      · have admissible := admissible_of_wantActive (wants delta)
        exact fun _ => ⟨fun _ => admissible, fun _ => active⟩
      · exact kept delta
  | silent _ wants inactive =>
      by_cases delta : hasActivationDelta absorbed.state = true
      · intro known
        have isKnown : 0 ≤ absorbed.state.route.routeState := known
        have notAdmissible : ¬ Admissible absorbed.state.route := fun admissible =>
          Bool.false_ne_true
            ((wants delta).symm.trans ((wantActive_of_known isKnown).mpr admissible))
        exact ⟨fun active => absurd (inactive.symm.trans active) Bool.false_ne_true,
          fun admissible => absurd admissible notAdmissible⟩
      · exact kept delta

end RouteGuidance

end CarplayRgi
