import CarplayRgi.RgdAmapIdentity

/-!
# Native Amap alignment

The selected head is the first of the current list, and a fresh distance is
one that was received in or after the last update with a list.  A zero that is
held back empties the list and the cached distance but leaves both flags, so
the alignment is coherent as long as such a zero finds nothing to lose.
-/

namespace CarplayRgi

open RgdState

/-- The event selects a head: an accepted update with a list, or a clear. -/
def selectsHead : HookEvent → Bool
  | .accepted upd _ => upd.maneuverList.isSome || isHardClear upd
  | .stateCleared => true
  | _ => false

/-- The distance was received by an accepted update, in or after the one that
selected the current head. -/
def DistanceReceived (history : List HookEvent) (distance : Nat) : Prop :=
  ∃ past upd bumps later, history = past ++ .accepted upd bumps :: later ∧
    upd.distToManeuver = some distance ∧ ∀ event ∈ later, selectsHead event = false

theorem DistanceReceived.append {history events : List HookEvent} {distance : Nat}
    (received : DistanceReceived history distance)
    (keeps : ∀ event ∈ events, selectsHead event = false) :
    DistanceReceived (history ++ events) distance := by
  obtain ⟨past, upd, bumps, later, rfl, carried, kept⟩ := received
  refine ⟨past, upd, bumps, later ++ events, by simp, carried, fun event member => ?_⟩
  rcases List.mem_append.mp member with before | after
  · exact kept event before
  · exact keeps event after

theorem distanceReceived_now (history : List HookEvent) {upd : RgdUpdate} (bumps : Bool)
    {events : List HookEvent} {distance : Nat} (carried : upd.distToManeuver = some distance)
    (keeps : ∀ event ∈ events, selectsHead event = false) :
    DistanceReceived (history ++ .accepted upd bumps :: events) distance :=
  ⟨history, upd, bumps, events, rfl, carried, keeps⟩

/-- A snapshot receives no distance. -/
theorem DistanceReceived.before_snapshot {history : List HookEvent} {shown : RgdState}
    {records : List RgdRecord} {distance : Nat}
    (received : DistanceReceived (history ++ [.snapshot shown records]) distance) :
    DistanceReceived history distance := by
  obtain ⟨past, upd, bumps, later, split, carried, kept⟩ := received
  rcases List.eq_nil_or_concat later with rfl | ⟨initial, last, rfl⟩
  · obtain ⟨-, equal⟩ := List.append_inj' split rfl
    cases equal
  · rw [List.concat_eq_append, ← List.cons_append, ← List.append_assoc] at split
    obtain ⟨historyEq, -⟩ := List.append_inj' split rfl
    exact ⟨past, upd, bumps, initial, historyEq, carried,
      fun event member => kept event (by simp [member])⟩

/-- A selected head is the first of the list, and a fresh distance is cached. -/
structure AmapAligned (state : RgdState) (history : List HookEvent) : Prop where
  listed : state.amap.headIapIndex ≠ emptyIndex →
    ∃ rest, state.currentList = some (state.amap.headIapIndex :: rest)
  fresh : state.amap.distanceFresh = true →
    ∃ distance, state.updateCache.distToManeuver = some distance ∧
      DistanceReceived history distance

/-- A step that changes none of the parts that the invariant speaks about. -/
theorem AmapAligned.keep {before after : RgdState} {trace events : List HookEvent}
    (aligned : AmapAligned before trace) (keeps : ∀ event ∈ events, selectsHead event = false)
    (head : after.amap.headIapIndex = before.amap.headIapIndex)
    (fresh : after.amap.distanceFresh = before.amap.distanceFresh)
    (list : after.currentList = before.currentList)
    (distance : after.updateCache.distToManeuver = before.updateCache.distToManeuver) :
    AmapAligned after (trace ++ events) := by
  refine ⟨fun hasHead => ?_, fun isFresh => ?_⟩
  · rw [head] at hasHead ⊢
    rw [list]
    exact aligned.listed hasHead
  · rw [fresh] at isFresh
    obtain ⟨value, cached, received⟩ := aligned.fresh isFresh
    exact ⟨value, distance.trans cached, received.append keeps⟩

/-- Without a head and without a fresh distance there is nothing to align. -/
theorem amapAligned_of_nothing {state : RgdState} (history : List HookEvent)
    (noHead : state.amap.headIapIndex = emptyIndex) (stale : state.amap.distanceFresh = false) :
    AmapAligned state history :=
  ⟨fun hasHead => absurd noHead hasHead, fun isFresh => by rw [stale] at isFresh; cases isFresh⟩

namespace RgdState

theorem writeBusSnapshotFromCache_keepsHead {overlay : Bool} {stack : RgdKey → List UInt8}
    {extraMan : Option RgdManeuver} {currentUpd : Option RgdUpdate} {state : RgdState} :
    ∀ event ∈ (writeBusSnapshotFromCache overlay stack extraMan currentUpd state).2,
      selectsHead event = false := by
  intro event member
  rcases mem_writeBusSnapshotFromCache member with rfl | rfl <;> rfl

theorem writeBusSnapshotFromCache_aligned (overlay : Bool) (stack : RgdKey → List UInt8)
    (extraMan : Option RgdManeuver) {currentUpd : Option RgdUpdate} {state : RgdState}
    {trace : List HookEvent} (aligned : AmapAligned state trace)
    (noList : currentUpd.bind RgdUpdate.maneuverList = none) :
    AmapAligned (writeBusSnapshotFromCache overlay stack extraMan currentUpd state).1
      (trace ++ (writeBusSnapshotFromCache overlay stack extraMan currentUpd state).2) := by
  obtain ⟨flag, amapEq⟩ := writeBusSnapshotFromCache_amap overlay stack extraMan currentUpd state
  refine aligned.keep writeBusSnapshotFromCache_keepsHead (by rw [amapEq]) (by rw [amapEq]) ?_ ?_
  · rw [writeBusSnapshotFromCache_currentList overlay stack extraMan (.inl noList)]
    simp [listAfter, noList]
  · rw [(writeBusSnapshotFromCache_keeps overlay stack extraMan currentUpd state).updateCache]

/-- What an accepted update does to the parts of the invariant. -/
structure AcceptedParts (upd : RgdUpdate) (before noted after : RgdState) : Prop where
  head : after.amap.headIapIndex = noted.amap.headIapIndex
  fresh : after.amap.distanceFresh = noted.amap.distanceFresh
  list : after.currentList =
    (upd.maneuverList.map (List.take maxManeuverList)).or before.currentList
  distance : after.updateCache.distToManeuver =
    upd.distToManeuver.or before.updateCache.distToManeuver

theorem acceptUpdate_parts (stack : RgdKey → List UInt8) (upd : RgdUpdate) (state : RgdState) :
    AcceptedParts upd state (noteUpdate true upd state) (acceptUpdate true stack upd state).1 := by
  have list := acceptUpdate_currentList true stack upd state
  obtain ⟨amap, notedEq⟩ := noteUpdate_frame true upd state
  rcases acceptUpdate_cases true stack upd state with ⟨empty, skipped⟩ | ⟨-, written⟩
  · rw [skipped, notedEq, empty]
    exact ⟨rfl, rfl, rfl, rfl⟩
  · obtain ⟨laneSlot, table, -, mergedEq⟩ := mergedUpdate_frame upd (noteUpdate true upd state)
    obtain ⟨flag, amapEq⟩ := writeBusSnapshotFromCache_amap true stack none
      (some (enrichLaneSlot upd (noteUpdate true upd state)).1)
      (mergedUpdate upd (noteUpdate true upd state))
    have keeps := writeBusSnapshotFromCache_keeps true stack none
      (some (enrichLaneSlot upd (noteUpdate true upd state)).1)
      (mergedUpdate upd (noteUpdate true upd state))
    refine ⟨?_, ?_, list, ?_⟩
    · rw [written]
      dsimp only
      rw [amapEq, mergedEq]
    · rw [written]
      dsimp only
      rw [amapEq, mergedEq]
    · rw [written]
      dsimp only
      rw [keeps.updateCache, mergedEq, notedEq]
      cases upd.distToManeuver <;> rfl

/-- A hard clear leaves nothing to align. -/
theorem noteUpdate_hard {upd : RgdUpdate} (hard : isHardClear upd = true) (state : RgdState) :
    (noteUpdate true upd state).amap.headIapIndex = emptyIndex ∧
      (noteUpdate true upd state).amap.distanceFresh = false := by
  simp [noteUpdate, amapMetaNoteRouteUpdate, hard, amapMetaResetHead]

theorem noteUpdate_soft_head {upd : RgdUpdate} (soft : isHardClear upd = false)
    (state : RgdState) :
    (noteUpdate true upd state).amap.headIapIndex =
      (upd.maneuverList.map amapNewHead).getD state.amap.headIapIndex := by
  simp only [noteUpdate, if_true, amapMetaNoteRouteUpdate, soft, Bool.false_eq_true, if_false,
    amapMetaRefreshAlignment, amapMetaNoteList]
  cases upd.maneuverList with
  | none =>
      dsimp only
      split <;> rfl
  | some list =>
      simp only [amapMetaSelectHead, Option.map_some, Option.getD_some]
      split
      · rename_i same
        exact same.symm
      · rfl

theorem noteUpdate_soft_fresh {upd : RgdUpdate} (soft : isHardClear upd = false)
    (state : RgdState) :
    (noteUpdate true upd state).amap.distanceFresh =
      (upd.distToManeuver.isSome || (upd.maneuverList.isNone && state.amap.distanceFresh)) := by
  simp only [noteUpdate, if_true, amapMetaNoteRouteUpdate, soft, Bool.false_eq_true, if_false,
    amapMetaRefreshAlignment, amapMetaNoteList]
  cases upd.maneuverList <;> cases upd.distToManeuver <;> simp

theorem acceptUpdate_keepsHead {stack : RgdKey → List UInt8} {upd : RgdUpdate} {state : RgdState} :
    ∃ bumps events, (acceptUpdate true stack upd state).2 = .accepted upd bumps :: events ∧
      ∀ event ∈ events, selectsHead event = false := by
  rcases acceptUpdate_cases true stack upd state with ⟨-, skipped⟩ | ⟨-, written⟩
  · exact ⟨_, [], by rw [skipped]; rfl, by simp⟩
  · exact ⟨_, _, by rw [written]; rfl, writeBusSnapshotFromCache_keepsHead⟩

/-- An update selects the first of the list that it brings. -/
theorem exists_rest_of_amapNewHead {list : List Nat} (hasHead : amapNewHead list ≠ emptyIndex) :
    ∃ rest, list.take maxManeuverList = amapNewHead list :: rest := by
  cases list with
  | nil => exact absurd rfl hasHead
  | cons first rest => exact ⟨rest.take (maxManeuverList - 1), rfl⟩

theorem acceptUpdate_aligned (stack : RgdKey → List UInt8) (upd : RgdUpdate) {state : RgdState}
    {trace : List HookEvent} (aligned : isHardClear upd = true ∨ AmapAligned state trace) :
    AmapAligned (acceptUpdate true stack upd state).1
      (trace ++ (acceptUpdate true stack upd state).2) := by
  have parts := acceptUpdate_parts stack upd state
  cases hard : isHardClear upd with
  | true =>
      obtain ⟨noHead, stale⟩ := noteUpdate_hard hard state
      exact amapAligned_of_nothing _ (parts.head.trans noHead) (parts.fresh.trans stale)
  | false =>
      have aligned : AmapAligned state trace := aligned.resolve_left (by simp [hard])
      obtain ⟨bumps, events, eventsEq, keeps⟩ := @acceptUpdate_keepsHead stack upd state
      rw [eventsEq]
      refine ⟨fun hasHead => ?_, fun isFresh => ?_⟩
      · rw [parts.head, noteUpdate_soft_head hard] at hasHead ⊢
        rw [parts.list]
        cases listEq : upd.maneuverList with
        | none =>
            rw [listEq] at hasHead
            exact aligned.listed hasHead
        | some list =>
            rw [listEq] at hasHead
            obtain ⟨rest, taken⟩ := exists_rest_of_amapNewHead hasHead
            exact ⟨rest, congrArg some taken⟩
      · rw [parts.fresh, noteUpdate_soft_fresh hard] at isFresh
        rw [parts.distance]
        cases carried : upd.distToManeuver with
        | some distance => exact ⟨distance, rfl, distanceReceived_now trace bumps carried keeps⟩
        | none =>
            simp only [carried, Option.isSome_none, Bool.false_or, Bool.and_eq_true,
              Option.isNone_iff_eq_none] at isFresh
            obtain ⟨noList, wasFresh⟩ := isFresh
            obtain ⟨distance, cached, received⟩ := aligned.fresh wasFresh
            refine ⟨distance, cached, received.append fun event member => ?_⟩
            rcases List.mem_cons.mp member with rfl | later
            · simp [selectsHead, noList, hard]
            · exact keeps event later

/-- A zero that is held back finds no fresh distance, and no head when it
flushes the list. -/
def losesNothing (upd : RgdUpdate) (state : RgdState) : Bool :=
  !suppressesZero upd state ||
    (!state.amap.distanceFresh &&
      (decide (state.zero.lastRouteState = 0) || decide (state.amap.headIapIndex = emptyIndex)))

/-- The debounce decision keeps the invariant, or hands on a hard clear. -/
theorem DebounceCase.aligned {upd : RgdUpdate} {now : Nat} {state after : RgdState}
    {events : List HookEvent} {held : Bool}
    (outcome : DebounceCase upd now state after events held) {trace : List HookEvent}
    (aligned : AmapAligned state trace) (loses : losesNothing upd state = true) :
    (held = false ∧ isHardClear upd = true) ∨ AmapAligned after (trace ++ events) := by
  have amapEq := outcome.amap
  have quiet : events = [] → after.currentList = state.currentList →
      after.updateCache = state.updateCache → AmapAligned after (trace ++ events) := by
    rintro rfl list cache
    exact aligned.keep (by simp) (by rw [amapEq]) (by rw [amapEq]) list (by rw [cache])
  cases outcome with
  | hardClear zero hard => exact .inl ⟨rfl, by simp [isHardClear, hard]⟩
  | flushZero zero soft active previous =>
      have nothing : state.amap.distanceFresh = false ∧ state.amap.headIapIndex = emptyIndex := by
        simpa [losesNothing, suppressesZero, isHardClear, zero, soft, active, previous.ne']
          using loses
      refine .inr (amapAligned_of_nothing _ ?_ ?_)
      · rw [amapEq, nothing.2]
      · rw [amapEq, nothing.1]
  | holdZero zero soft active previous =>
      have stale : state.amap.distanceFresh = false := by
        simpa [losesNothing, suppressesZero, isHardClear, zero, soft, active, previous] using loses
      refine .inr ⟨fun hasHead => ?_, fun isFresh => ?_⟩
      · rw [amapEq] at hasHead ⊢
        rw [startPendingZero_currentList]
        exact aligned.listed hasHead
      · rw [amapEq, stale] at isFresh
        cases isFresh
  | passZero zero soft idle => exact .inr (quiet rfl rfl rfl)
  | positive routeState positiveEq nonzero =>
      exact .inr (quiet rfl (by simp [notePositive]; rfl) (by simp [notePositive]; rfl))
  | evidence absent evident => exact .inr (quiet rfl (by simp) (by simp))
  | held absent silent soft started => exact .inr (quiet rfl rfl rfl)
  | passed absent silent idle => exact .inr (quiet rfl rfl rfl)

theorem handleUpdate_aligned (stack : RgdKey → List UInt8) (now : Nat) {upd : RgdUpdate}
    {state : RgdState} {trace : List HookEvent} (aligned : AmapAligned state trace)
    (loses : losesNothing upd state = true) :
    AmapAligned (handleUpdate true stack now upd state).1
      (trace ++ (handleUpdate true stack now upd state).2) := by
  obtain ⟨debounced, events, held, -, outcome, result⟩ :=
    handleUpdate_cases true stack now upd state
  have arrived : AmapAligned { state with haveUpdate := true } (trace ++ [.routeUpdate upd]) :=
    aligned.keep (by simp [selectsHead]) rfl rfl rfl rfl
  have decided := outcome.aligned arrived loses
  rcases result with ⟨rfl, result⟩ | ⟨rfl, result⟩
  · rw [result]
    simpa using decided
  · have accepted := @acceptUpdate_aligned stack upd debounced
      (trace ++ [.routeUpdate upd] ++ events) (decided.imp And.right id)
    rw [result]
    simpa using accepted

theorem rgdCancelPendingZero_aligned {state : RgdState} {trace : List HookEvent}
    (aligned : AmapAligned state trace) : AmapAligned (rgdCancelPendingZero state) trace := by
  simpa using aligned.keep (by simp : ∀ event ∈ [], selectsHead event = false)
    (by rw [rgdCancelPendingZero_amap]) (by rw [rgdCancelPendingZero_amap])
    (rgdCancelPendingZero_currentList state) (by rw [rgdCancelPendingZero_updateCache])

theorem handleManeuver_aligned (stack : RgdKey → List UInt8) (man : RgdManeuver) {state : RgdState}
    {trace : List HookEvent} (aligned : AmapAligned state trace) :
    AmapAligned (handleManeuver true stack man state).1
      (trace ++ (handleManeuver true stack man state).2) := by
  have cancelled := rgdCancelPendingZero_aligned aligned
  rcases handleManeuver_cases true stack man state with skipped | ⟨idx, extraMan, -, -, written⟩
  · rw [skipped]
    simpa using cancelled
  · obtain ⟨maneuvers, storedEq⟩ := storeManeuver_frame idx man (rgdCancelPendingZero state)
    have assigned : ∀ event ∈ (rgdSlotForIapIndex idx (rgdCancelPendingZero state)).2.2,
        selectsHead event = false := by
      intro event member
      rw [slotAssigned_of_mem_rgdSlotForIapIndex member]
      rfl
    have stored : AmapAligned (storeManeuver idx man (rgdCancelPendingZero state))
        (trace ++ (rgdSlotForIapIndex idx (rgdCancelPendingZero state)).2.2) := by
      rw [storedEq]
      exact cancelled.keep assigned rfl rfl rfl rfl
    rw [written]
    simpa using writeBusSnapshotFromCache_aligned true stack extraMan stored
      (rfl : (none : Option RgdUpdate).bind RgdUpdate.maneuverList = none)

theorem handleLane_aligned (stack : RgdKey → List UInt8) (lane : RgdLaneGuidance) {state : RgdState}
    {trace : List HookEvent} (aligned : AmapAligned state trace) :
    AmapAligned (handleLane true stack lane state).1
      (trace ++ (handleLane true stack lane state).2) := by
  have cancelled := rgdCancelPendingZero_aligned aligned
  obtain ⟨lanes, laneSlot, storedEq⟩ := storeLane_frame lane (rgdCancelPendingZero state)
  have stored : AmapAligned (storeLane lane (rgdCancelPendingZero state)) trace := by
    have kept := @AmapAligned.keep (rgdCancelPendingZero state)
      (storeLane lane (rgdCancelPendingZero state)) trace [] cancelled (by simp)
      (by rw [storedEq]) (by rw [storedEq]) (by rw [storedEq]) (by rw [storedEq])
    simpa using kept
  rcases handleLane_cases true stack lane state with skipped | cached | ⟨extraMan, written⟩
  · rw [skipped]
    simpa using cancelled
  · rw [cached]
    simpa using stored
  · rw [written]
    exact writeBusSnapshotFromCache_aligned true stack extraMan stored
      (activeLane_maneuverList lane _)

theorem rgdLazyInit_aligned {state : RgdState} {trace : List HookEvent}
    (aligned : AmapAligned state trace) :
    AmapAligned (rgdLazyInit true state).1 (trace ++ (rgdLazyInit true state).2) := by
  unfold rgdLazyInit
  split
  · simpa using aligned
  · exact amapAligned_of_nothing _ rfl rfl

theorem rgdHookStep_aligned {label : HookLabel} {state : RgdState} {trace : List HookEvent}
    (aligned : AmapAligned state trace) (loses : updatesMeet losesNothing state label = true) :
    AmapAligned (rgdHookStep true label state).1 (trace ++ (rgdHookStep true label state).2) := by
  cases label with
  | message msgid raw now stack =>
      have ready := rgdLazyInit_aligned aligned
      have handled : AmapAligned
          (handleFrame true msgid raw now stack (rgdLazyInit true state).1).1
          (trace ++ (rgdLazyInit true state).2 ++
            (handleFrame true msgid raw now stack (rgdLazyInit true state).1).2) := by
        unfold handleFrame
        split_ifs with update
        · exact handleUpdate_aligned stack now ready (by simpa [updatesMeet, update] using loses)
        · exact handleManeuver_aligned stack _ ready
        · exact handleLane_aligned stack _ ready
        · simpa [TracedOp.silent] using ready
      simpa [rgdHookStep, rgdMessageHandler, TracedOp.andThen] using handled
  | tick now =>
      simp only [rgdHookStep, rgdPeriodicTick]
      split
      · exact aligned.keep (by simp [selectsHead]) rfl rfl rfl rfl
      · simpa using aligned
  | clear reason => exact amapAligned_of_nothing _ rfl rfl

end RgdState

theorem rgdHook_aligned {state : RgdState} {history : List HookEvent}
    (run : (rgdHook true).RunWithin
      (fun state _ label => updatesMeet losesNothing state label = true) state history) :
    AmapAligned state history := by
  refine run.invariant AmapAligned (amapAligned_of_nothing _ rfl rfl) ?_
  intro before after trace events label aligned loses stepTo
  obtain ⟨rfl, rfl⟩ : (rgdHookStep true label before).1 = after ∧
      (rgdHookStep true label before).2 = events := by
    simpa [rgdHook, Prod.ext_iff] using stepTo
  exact RgdState.rgdHookStep_aligned aligned loses

namespace RgdState

/-- The alignment of a frame is that of the state it leaves behind. -/
theorem BuiltFrom.headAligned {state : RgdState} {records : List RgdRecord}
    (built : BuiltFrom true state records) :
    valueOf records (.route .amapHeadAligned) =
      some (.num (if state.amapHeadIsAligned then 1 else 0)) := by
  have shown : valueOf records (.route .amapHeadAligned) =
      some (.num (if state.amap.headAligned then 1 else 0)) := built.amap (by simp [amapKeys])
  obtain ⟨stack, currentUpd, before, writtenEq⟩ := built
  have step := snapshotRecords_step true stack currentUpd before
  rw [writtenEq] at step
  have amapEq : state.amap = { before.amap with headAligned := before.amapHeadIsAligned } :=
    step.amap
  have maneuversEq : state.maneuvers = before.maneuvers := step.maneuvers
  have same : state.amapHeadIsAligned = before.amapHeadIsAligned := by
    simp only [amapHeadIsAligned, rgdFindSlotForIapIndexNoTouch, amapEq, maneuversEq]
  rw [shown, same, amapEq]

theorem BuiltFrom.distanceFresh {state : RgdState} {records : List RgdRecord}
    (built : BuiltFrom true state records) :
    valueOf records (.route .amapDistanceFresh) =
      some (.num (if state.amap.distanceFresh then 1 else 0)) :=
  built.amap (by simp [amapKeys])

/-- The distance of a frame is the cached one. -/
theorem BuiltFrom.distManeuverM {overlay : Bool} {state : RgdState} {records : List RgdRecord}
    (built : BuiltFrom overlay state records) :
    valueOf records (.route .distManeuverM) =
      state.updateCache.distToManeuver.map fun distance => .num distance := by
  obtain ⟨stack, currentUpd, before, writtenEq⟩ := built
  have routeValue := valueOf_snapshotRecords_route overlay stack currentUpd before .distManeuverM
  have cacheEq := (snapshotRecords_step overlay stack currentUpd before).updateCache
  rw [writtenEq] at routeValue cacheEq
  rw [routeValue, valueOf_overlayKeys_of_ne (by simp [amapKeys]), valueOf_listKeys_of_ne (by simp),
    cacheEq]
  simp [writeRouteKeys, routeHeadKeys, routeTailKeys]

theorem amapHeadIsAligned_spec {state : RgdState} (aligned : state.amapHeadIsAligned = true) :
    state.amap.headIapIndex ≠ emptyIndex ∧
      ∃ slot, state.rgdFindSlotForIapIndexNoTouch state.amap.headIapIndex = some slot ∧
        (state.maneuvers.slotCache slot).maneuverType.isSome = true := by
  unfold amapHeadIsAligned at aligned
  split at aligned
  · cases aligned
  · rename_i hasHead
    simp only [Bool.or_eq_true, decide_eq_true_eq, not_or] at hasHead
    split at aligned
    · cases aligned
    · rename_i slot slotFound
      exact ⟨hasHead.1, slot, slotFound, aligned⟩

/-- The first listed maneuver, when it is cached with a type, is listed first. -/
theorem listedSlots_cons {state : RgdState} {head : Nat} {rest : List Nat} {slot : Slot}
    (list : state.currentList = some (head :: rest))
    (found : state.rgdFindSlotForIapIndexNoTouch head = some slot)
    (typed : (state.maneuvers.slotCache slot).maneuverType.isSome = true) :
    ∃ slots, state.listedSlots = slot :: slots := by
  unfold listedSlots listedIndexes
  rw [list, Option.getD_some, List.filterMap_cons, found, Option.filter_some, if_pos typed]
  exact ⟨_, rfl⟩

end RgdState

/-- A 0x5201 with a route state, a distance to the maneuver and a list of one
maneuver. -/
def distanceFrame (routeState high low distance : UInt8) : List UInt8 :=
  [0x40, 0x40, 0, 25, 0x52, 0x01, 0, 5, 0, 1, routeState, 0, 8, 0, 0x0A, 0, 0, 0, distance,
    0, 6, 0, 0x0D, high, low]

/-- The flags that a snapshot shows, and whether it carries a distance. -/
def showsFlags (aligned fresh : Int) (hasDistance : Bool) (records : List RgdRecord) : Bool :=
  decide (valueOf records (.route .amapHeadAligned) = some (.num aligned)) &&
    decide (valueOf records (.route .amapDistanceFresh) = some (.num fresh)) &&
    decide ((valueOf records (.route .distManeuverM)).isSome = hasDistance)

end CarplayRgi
