import CarplayRgi.RouteGuidanceGate

/-!
# Two receivers side by side

Two receivers that agree on the route and the source may still differ in the
maneuvers and in the visibility.  A frame that both read makes them agree if
and only if it says what they differ in, or resets the maneuvers.
-/

namespace CarplayRgi

namespace RouteGuidance

namespace GateFields

/-- An order that is missing is like an empty one. -/
def order (gate : GateFields) : List Int := gate.maneuverOrder.getD []

structure SameRoute (own other : GateFields) : Prop where
  routeState : own.routeState = other.routeState
  sourceSupportsRg : own.sourceSupportsRg = other.sourceSupportsRg

structure Same (own other : GateFields) : Prop extends SameRoute own other where
  maneuverCount : own.maneuverCount = other.maneuverCount
  order : own.order = other.order
  visibleInApp : own.visibleInApp = other.visibleInApp

theorem SameRoute.refl (gate : GateFields) : gate.SameRoute gate := ⟨rfl, rfl⟩

theorem Same.refl (gate : GateFields) : gate.Same gate := ⟨.refl gate, rfl, rfl, rfl⟩

instance (own other : GateFields) : Decidable (own.Same other) :=
  decidable_of_iff
    ((own.routeState = other.routeState ∧ own.sourceSupportsRg = other.sourceSupportsRg) ∧
      own.maneuverCount = other.maneuverCount ∧ own.order = other.order ∧
        own.visibleInApp = other.visibleInApp)
    ⟨fun same => ⟨⟨same.1.1, same.1.2⟩, same.2.1, same.2.2.1, same.2.2.2⟩,
      fun same => ⟨⟨same.routeState, same.sourceSupportsRg⟩, same.maneuverCount, same.order,
        same.visibleInApp⟩⟩

/-- The gate fields after the source and the route state have been read. -/
def readRoute (data : BusData) (gate : GateFields) : GateFields :=
  (gate.readSource (data.numField (.route .sourceSupportsRg) (-1))).readRouteState
    (data.numField (.route .routeState) (-1))

/-- The frame resets the maneuvers: it says that there is no route, or that the
source of the route does not support guidance any more. -/
def Resets (data : BusData) (gate : GateFields) : Prop :=
  data.numField (.route .routeState) (-1) = some 0 ∨
    (data.numField (.route .sourceSupportsRg) (-1) = some 0 ∧ gate.sourceSupportsRg ≠ 0 ∧
      gate.routeState ≠ 0)

theorem readRoute_of_resets {data : BusData} {gate : GateFields} (resets : gate.Resets data) :
    (gate.readRoute data).maneuverCount = 0 ∧ (gate.readRoute data).maneuverOrder = none := by
  have keeps : ∀ value (gate : GateFields), gate.maneuverCount = 0 ∧ gate.maneuverOrder = none →
      (gate.readRouteState value).maneuverCount = 0 ∧
        (gate.readRouteState value).maneuverOrder = none := by
    intro value gate empty
    unfold readRouteState noRoute
    split <;> (try split_ifs) <;> first | exact empty | exact ⟨rfl, rfl⟩
  rcases resets with noRoute | ⟨source, supported, hasRoute⟩
  · unfold readRoute
    rw [noRoute]
    exact ⟨rfl, rfl⟩
  · refine keeps _ _ ?_
    rw [source, readSource]
    rw [if_neg (Ne.symm supported), if_pos ⟨rfl, hasRoute⟩]
    exact ⟨rfl, rfl⟩

theorem readRoute_of_not_resets {data : BusData} {gate : GateFields}
    (keeps : ¬ gate.Resets data) :
    (gate.readRoute data).maneuverCount = gate.maneuverCount ∧
      (gate.readRoute data).maneuverOrder = gate.maneuverOrder := by
  obtain ⟨hasRoute, stays⟩ := not_or.mp keeps
  have source : ∀ value, data.numField (.route .sourceSupportsRg) (-1) = value →
      (gate.readSource value).maneuverCount = gate.maneuverCount ∧
        (gate.readSource value).maneuverOrder = gate.maneuverOrder := by
    intro value valueEq
    unfold readSource
    split
    · exact ⟨rfl, rfl⟩
    · split_ifs with same cleared
      · exact ⟨rfl, rfl⟩
      · exact absurd ⟨by rw [valueEq, cleared.1], cleared.1 ▸ Ne.symm same, cleared.2⟩ stays
      · exact ⟨rfl, rfl⟩
  obtain ⟨count, order⟩ := source _ rfl
  rw [← count, ← order, readRoute]
  unfold readRouteState
  split
  · exact ⟨rfl, rfl⟩
  · rename_i value valueEq
    split_ifs with zero
    · exact absurd (by rw [valueEq, zero]) hasRoute
    · exact ⟨rfl, rfl⟩
    · exact ⟨rfl, rfl⟩

theorem SameRoute.resets_iff {own other : GateFields} (same : own.SameRoute other)
    (data : BusData) : own.Resets data ↔ other.Resets data := by
  unfold Resets
  rw [same.routeState, same.sourceSupportsRg]

/-- Frames that say the same about the route are read alike. -/
theorem SameRoute.readRoute {own other : GateFields} (same : own.SameRoute other)
    {first second : BusData}
    (routeState : first.numField (.route .routeState) (-1) =
      second.numField (.route .routeState) (-1))
    (source : first.numField (.route .sourceSupportsRg) (-1) =
      second.numField (.route .sourceSupportsRg) (-1)) :
    (own.readRoute first).SameRoute (other.readRoute second) := by
  have readSource : ∀ value, (own.readSource value).SameRoute (other.readSource value) := by
    intro value
    unfold GateFields.readSource noRoute
    rw [same.routeState, same.sourceSupportsRg]
    split
    · exact same
    · split_ifs
      · exact same
      · exact ⟨rfl, rfl⟩
      · exact ⟨rfl, rfl⟩
  have readRouteState : ∀ value (own other : GateFields), own.SameRoute other →
      (own.readRouteState value).SameRoute (other.readRouteState value) := by
    intro value own other same
    unfold GateFields.readRouteState noRoute
    split
    · exact same
    · split_ifs
      · exact ⟨rfl, same.sourceSupportsRg⟩
      · exact ⟨rfl, same.sourceSupportsRg⟩
      · exact same
  unfold GateFields.readRoute
  rw [routeState, source]
  exact readRouteState _ _ _ (readSource _)

/-- A route state that is known stays known. -/
theorem readRoute_known {data : BusData} {gate : GateFields}
    (known : 0 ≤ gate.routeState ∨ ∃ v, data.numField (.route .routeState) (-1) = some v ∧ 0 ≤ v) :
    0 ≤ (gate.readRoute data).routeState := by
  have source : ∀ value, 0 ≤ gate.routeState → 0 ≤ (gate.readSource value).routeState := by
    intro value nonneg
    unfold readSource noRoute
    split
    · exact nonneg
    · split_ifs
      · exact nonneg
      · exact le_refl (0 : Int)
      · exact nonneg
  unfold readRoute readRouteState
  cases read : data.numField (.route .routeState) (-1) with
  | none =>
      refine source _ (known.resolve_right ?_)
      rintro ⟨v, isSome, -⟩
      rw [read] at isSome
      cases isSome
  | some v =>
      dsimp only
      split_ifs with zero positive
      · exact le_refl (0 : Int)
      · exact positive.le
      · refine source _ (known.resolve_right ?_)
        rintro ⟨w, isSome, nonneg⟩
        rw [read] at isSome
        obtain rfl := Option.some.inj isSome
        omega

/-- A frame that only repeats the route keeps it. -/
theorem readRoute_repeats {data : BusData} {gate : GateFields}
    (routeState : ∀ v, data.numField (.route .routeState) (-1) = some v → v = gate.routeState)
    (source : ∀ v, data.numField (.route .sourceSupportsRg) (-1) = some v →
      v = gate.sourceSupportsRg) : (gate.readRoute data).SameRoute gate := by
  have sourceKept : gate.readSource (data.numField (.route .sourceSupportsRg) (-1)) = gate := by
    unfold readSource
    split
    · rfl
    · rename_i v isSome
      rw [if_pos (source v isSome)]
  unfold readRoute
  rw [sourceKept]
  unfold readRouteState noRoute
  split
  · exact .refl gate
  · rename_i v isSome
    have repeated := routeState v isSome
    split_ifs with zero
    · exact ⟨zero.symm.trans repeated, rfl⟩
    · exact ⟨repeated, rfl⟩
    · exact .refl gate

theorem readCount_rest (value : Option Int) (gate : GateFields) :
    (gate.readCount value).SameRoute gate ∧
      (gate.readCount value).visibleInApp = gate.visibleInApp := by
  unfold readCount
  split
  · exact ⟨.refl gate, rfl⟩
  · split_ifs
    · exact ⟨.refl gate, rfl⟩
    · exact ⟨⟨rfl, rfl⟩, rfl⟩
    · exact ⟨⟨rfl, rfl⟩, rfl⟩

theorem readCount_count (value : Option Int) (gate : GateFields) :
    (gate.readCount value).maneuverCount = value.getD gate.maneuverCount := by
  unfold readCount
  split
  · rfl
  · split_ifs with same
    · exact same.symm
    · rfl
    · rfl

/-- What is left of an order once the count has been read. -/
def orderAfter (count : Option Int) (gate : GateFields) : List Int :=
  if count = some 0 ∧ gate.maneuverCount ≠ 0 then [] else gate.order

theorem readCount_order (value : Option Int) (gate : GateFields) :
    (gate.readCount value).order = gate.orderAfter value := by
  unfold readCount orderAfter
  cases value with
  | none => rw [if_neg (by simp)]
  | some v =>
      dsimp only
      by_cases same : v = gate.maneuverCount
      · rw [if_pos same, if_neg]
        rintro ⟨isZero, differs⟩
        exact differs (same.symm.trans (Option.some.inj isZero))
      · rw [if_neg same]
        by_cases isZero : v = 0
        · rw [if_pos isZero, if_pos ⟨congrArg some isZero, isZero ▸ Ne.symm same⟩]
          rfl
        · rw [if_neg isZero, if_neg fun cleared => isZero (Option.some.inj cleared.1)]
          rfl

theorem read_eq (data : BusData) (gate : GateFields) :
    gate.read data =
      { (gate.readRoute data).readCount (data.numField (.route .maneuverCount) 0) with
        maneuverOrder := (maneuverListField data).getD
          ((gate.readRoute data).readCount (data.numField (.route .maneuverCount) 0)).maneuverOrder
        visibleInApp := (visibleInAppField data).getD gate.visibleInApp } := by
  rw [← read_visibleInApp]
  rfl

theorem read_sameRoute (data : BusData) (gate : GateFields) :
    (gate.read data).SameRoute (gate.readRoute data) := by
  rw [read_eq]
  have rest := (readCount_rest (data.numField (.route .maneuverCount) 0) (gate.readRoute data)).1
  exact ⟨rest.routeState, rest.sourceSupportsRg⟩

theorem SameRoute.read {own other : GateFields} (same : own.SameRoute other)
    {first second : BusData}
    (routeState : first.numField (.route .routeState) (-1) =
      second.numField (.route .routeState) (-1))
    (source : first.numField (.route .sourceSupportsRg) (-1) =
      second.numField (.route .sourceSupportsRg) (-1)) :
    (own.read first).SameRoute (other.read second) := by
  have routed := same.readRoute routeState source
  have ownRead := read_sameRoute first own
  have otherRead := read_sameRoute second other
  exact ⟨ownRead.routeState.trans (routed.routeState.trans otherRead.routeState.symm),
    ownRead.sourceSupportsRg.trans (routed.sourceSupportsRg.trans otherRead.sourceSupportsRg.symm)⟩

theorem read_known {data : BusData} {gate : GateFields}
    (known : 0 ≤ gate.routeState ∨ ∃ v, data.numField (.route .routeState) (-1) = some v ∧ 0 ≤ v) :
    0 ≤ (gate.read data).routeState := by
  rw [(read_sameRoute data gate).routeState]
  exact readRoute_known known

/-- A frame makes up for the differences of two receivers: it says what they
differ in, or resets the maneuvers. -/
structure Restores (data : BusData) (own other : GateFields) : Prop where
  maneuverCount : own.Resets data ∨ data.has (RgdKey.route .maneuverCount).text = true ∨
    own.maneuverCount = other.maneuverCount
  order : own.Resets data ∨ data.has (RgdKey.route .maneuverList).text = true ∨
    own.orderAfter (data.numField (.route .maneuverCount) 0) =
      other.orderAfter (data.numField (.route .maneuverCount) 0)
  visibleInApp : data.has (RgdKey.route .visibleInApp).text = true ∨
    own.visibleInApp = other.visibleInApp

theorem Restores.of_same {own other : GateFields} (same : own.Same other) (data : BusData) :
    Restores data own other := by
  refine ⟨.inr (.inr same.maneuverCount), .inr (.inr ?_), .inr same.visibleInApp⟩
  unfold orderAfter
  rw [same.maneuverCount, same.order]

theorem numField_isSome (data : BusData) (key : RgdKey) (default : Int) :
    (data.numField key default).isSome = data.has key.text := by
  unfold BusData.numField
  cases data.has key.text <;> rfl

theorem visibleInAppField_isSome (data : BusData) :
    (visibleInAppField data).isSome = data.has (RgdKey.route .visibleInApp).text := by
  rw [visibleInAppField, Option.isSome_map, numField_isSome]

theorem maneuverListField_isSome (data : BusData) :
    (maneuverListField data).isSome = data.has (RgdKey.route .maneuverList).text := by
  unfold maneuverListField
  cases data.has (RgdKey.route .maneuverList).text <;> rfl

/-- Values that are read in place of what they find. -/
theorem getD_eq_getD_iff {Value : Type} {read : Option Value} {own other : Value} :
    read.getD own = read.getD other ↔ read.isSome = true ∨ own = other := by
  cases read <;> simp

theorem read_maneuverCount (data : BusData) (gate : GateFields) :
    (gate.read data).maneuverCount =
      (data.numField (.route .maneuverCount) 0).getD (gate.readRoute data).maneuverCount := by
  rw [read_eq]
  exact readCount_count _ _

theorem read_order (data : BusData) (gate : GateFields) :
    (gate.read data).order =
      ((maneuverListField data).map fun list => list.getD []).getD
        ((gate.readRoute data).orderAfter (data.numField (.route .maneuverCount) 0)) := by
  rw [read_eq, ← readCount_order, order, order]
  cases maneuverListField data <;> rfl

/-- Two receivers that agree on the route agree on all gate fields after a
frame if and only if it makes up for their differences. -/
theorem read_same_iff {own other : GateFields} (same : own.SameRoute other) (data : BusData) :
    (own.read data).Same (other.read data) ↔ Restores data own other := by
  have resetsIff := same.resets_iff data
  have count : (own.read data).maneuverCount = (other.read data).maneuverCount ↔
      own.Resets data ∨ data.has (RgdKey.route .maneuverCount).text = true ∨
        own.maneuverCount = other.maneuverCount := by
    rw [read_maneuverCount, read_maneuverCount, getD_eq_getD_iff, numField_isSome]
    by_cases resets : own.Resets data
    · simp [resets, (readRoute_of_resets resets).1,
        (readRoute_of_resets (resetsIff.mp resets)).1]
    · simp [resets, (readRoute_of_not_resets resets).1,
        (readRoute_of_not_resets fun other => resets (resetsIff.mpr other)).1]
  have order : (own.read data).order = (other.read data).order ↔
      own.Resets data ∨ data.has (RgdKey.route .maneuverList).text = true ∨
        own.orderAfter (data.numField (.route .maneuverCount) 0) =
          other.orderAfter (data.numField (.route .maneuverCount) 0) := by
    rw [read_order, read_order, getD_eq_getD_iff, Option.isSome_map, maneuverListField_isSome]
    unfold orderAfter GateFields.order
    by_cases resets : own.Resets data
    · obtain ⟨ownCount, ownOrder⟩ := readRoute_of_resets resets
      obtain ⟨otherCount, otherOrder⟩ := readRoute_of_resets (resetsIff.mp resets)
      simp [resets, ownCount, ownOrder, otherCount, otherOrder]
    · obtain ⟨ownCount, ownOrder⟩ := readRoute_of_not_resets resets
      obtain ⟨otherCount, otherOrder⟩ :=
        readRoute_of_not_resets fun other => resets (resetsIff.mpr other)
      rw [ownCount, ownOrder, otherCount, otherOrder]
      simp [resets]
  have visible : (own.read data).visibleInApp = (other.read data).visibleInApp ↔
      data.has (RgdKey.route .visibleInApp).text = true ∨
        own.visibleInApp = other.visibleInApp := by
    rw [read_visibleInApp, read_visibleInApp, getD_eq_getD_iff, visibleInAppField_isSome]
  constructor
  · exact fun alike => ⟨count.mp alike.maneuverCount, order.mp alike.order,
      visible.mp alike.visibleInApp⟩
  · exact fun restores => ⟨same.read rfl rfl, count.mpr restores.maneuverCount,
      order.mpr restores.order, visible.mpr restores.visibleInApp⟩

end GateFields

/-- The receivers agree on whether guidance is active and on the gate fields. -/
structure Alike (own other : RouteGuidance) : Prop where
  rgActive : own.rgActive = other.rgActive
  gate : own.state.route.gate.Same other.state.route.gate

/-- A receiver that waits for frames, and whose guidance is active as its gate
fields say. -/
structure Ready (rg : RouteGuidance) : Prop where
  receives : Receives rg
  decided : Decided rg

theorem Ready.onFrame {rg : RouteGuidance} (ready : Ready rg) (payload : List UInt8) :
    Ready (onFrame evtRgdUpdate payload rg).1 := by
  refine ⟨?_, decided_onFrame ready.receives ready.decided payload⟩
  cases reason : (parseText payload).has (RgdKey.route .disconnectReason).text with
  | false => exact (onFrame_read ready.receives reason).1
  | true => exact (onFrame_reset ready.receives reason).1

/-- After a disconnect nothing is left of what the receiver held. -/
theorem onFrame_disconnected {rg : RouteGuidance} (receives : Receives rg) {payload : List UInt8}
    (reason : (parseText payload).has (RgdKey.route .disconnectReason).text = true) :
    (onFrame evtRgdUpdate payload rg).1 = ⟨true, false, false, .initial⟩ := by
  obtain ⟨parsedReason, isDirty⟩ :=
    parse_disconnectReason rg.hasRouteUpdate reason receives.noReason
  have isReason : (absorb payload rg).state.route.disconnectReason ≠ none := parsedReason
  have dirty : (absorb payload rg).state.dirtyMask ≠ ∅ := Finset.ne_empty_of_mem isDirty
  have running : (absorb payload rg).running = true := receives.running
  rw [onFrame_of_running receives.running, dispatch, if_neg dirty, if_pos isReason, disconnect,
    running]

/-- The receivers agree on the route and the source, and the route state is
known. -/
structure SameRoute (own other : RouteGuidance) : Prop where
  known : 0 ≤ other.state.route.routeState
  same : own.state.route.gate.SameRoute other.state.route.gate

/-- Receivers that agree on the gate fields of a known route agree on whether
guidance is active. -/
theorem SameRoute.alike {own other : RouteGuidance} (sameRoute : SameRoute own other)
    (ownReady : Ready own) (otherReady : Ready other)
    (gate : own.state.route.gate.Same other.state.route.gate) : Alike own other := by
  have routeState : own.state.route.routeState = other.state.route.routeState := gate.routeState
  have visible : own.state.route.visibleInApp = other.state.route.visibleInApp := gate.visibleInApp
  have source : own.state.route.sourceSupportsRg = other.state.route.sourceSupportsRg :=
    gate.sourceSupportsRg
  have admissible : Admissible own.state.route ↔ Admissible other.state.route := by
    constructor
    · exact fun admits => ⟨routeState ▸ admits.routeState, visible ▸ admits.visibleInApp,
        source ▸ admits.sourceSupportsRg⟩
    · exact fun admits => ⟨routeState ▸ admits.routeState, visible ▸ admits.visibleInApp,
        source ▸ admits.sourceSupportsRg⟩
  refine ⟨?_, gate⟩
  rw [Bool.eq_iff_iff, otherReady.decided sameRoute.known, ← admissible]
  exact ownReady.decided (routeState ▸ sameRoute.known)

variable {own other : RouteGuidance}

/-- Frames that say the same about the route keep the receivers in agreement on
it. -/
theorem sameRoute_onFrame (ownReceives : Receives own) (otherReceives : Receives other)
    (same : own.state.route.gate.SameRoute other.state.route.gate)
    {first second : List UInt8}
    (firstStays : (parseText first).has (RgdKey.route .disconnectReason).text = false)
    (secondStays : (parseText second).has (RgdKey.route .disconnectReason).text = false)
    (routeState : (parseText first).numField (.route .routeState) (-1) =
      (parseText second).numField (.route .routeState) (-1))
    (source : (parseText first).numField (.route .sourceSupportsRg) (-1) =
      (parseText second).numField (.route .sourceSupportsRg) (-1))
    (known : 0 ≤ other.state.route.routeState ∨
      ∃ v, (parseText second).numField (.route .routeState) (-1) = some v ∧ 0 ≤ v) :
    SameRoute (onFrame evtRgdUpdate first own).1 (onFrame evtRgdUpdate second other).1 := by
  have ownGate := onFrame_gate ownReceives firstStays
  have otherGate := onFrame_gate otherReceives secondStays
  refine ⟨?_, ?_⟩
  · have isKnown : 0 ≤ (other.state.route.gate.read (parseText second)).routeState :=
      GateFields.read_known known
    rw [← otherGate] at isKnown
    exact isKnown
  · rw [ownGate, otherGate]
    exact same.read routeState source

/-- The receivers are the same, or agree on a known route. -/
def Related (own other : RouteGuidance) : Prop := own = other ∨ SameRoute own other

theorem Related.sameGate (related : Related own other) :
    own.state.route.gate.SameRoute other.state.route.gate := by
  rcases related with rfl | sameRoute
  · exact .refl _
  · exact sameRoute.same

theorem Alike.refl (rg : RouteGuidance) : Alike rg rg := ⟨rfl, .refl _⟩

/-- The frame leaves the receivers in agreement: it disconnects, or makes up for
their differences. -/
def MakesUp (payload : List UInt8) (own other : RouteGuidance) : Prop :=
  (parseText payload).has (RgdKey.route .disconnectReason).text = true ∨
    GateFields.Restores (parseText payload) own.state.route.gate other.state.route.gate

/-- A frame that both receivers read keeps them related.  They agree after it if
and only if it makes up for their differences. -/
theorem Related.onFrame (related : Related own other) (ownReady : Ready own)
    (otherReady : Ready other) (payload : List UInt8) :
    Related (onFrame evtRgdUpdate payload own).1 (onFrame evtRgdUpdate payload other).1 ∧
      (Alike (onFrame evtRgdUpdate payload own).1 (onFrame evtRgdUpdate payload other).1 ↔
        MakesUp payload own other) := by
  rcases related with rfl | sameRoute
  · exact ⟨.inl rfl, iff_of_true (.refl _) (.inr (.of_same (.refl _) _))⟩
  cases reason : (parseText payload).has (RgdKey.route .disconnectReason).text with
  | true =>
      rw [onFrame_disconnected ownReady.receives reason,
        onFrame_disconnected otherReady.receives reason]
      exact ⟨.inl rfl, iff_of_true (.refl _) (.inl reason)⟩
  | false =>
      have after := sameRoute_onFrame ownReady.receives otherReady.receives sameRoute.same reason
        reason rfl rfl (.inl sameRoute.known)
      have ownGate := onFrame_gate ownReady.receives reason
      have otherGate := onFrame_gate otherReady.receives reason
      have restores := GateFields.read_same_iff sameRoute.same (parseText payload)
      rw [← ownGate, ← otherGate] at restores
      refine ⟨.inr after, fun alike => .inr (restores.mp alike.gate), fun makesUp => ?_⟩
      refine after.alike (ownReady.onFrame payload) (otherReady.onFrame payload)
        (restores.mpr (makesUp.resolve_left fun isReason => ?_))
      exact Bool.false_ne_true (reason.symm.trans isReason)

end RouteGuidance

end CarplayRgi
