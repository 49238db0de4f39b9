import CarplayRgi.RgdSlotVersions

/-!
# Native Amap identity

The overlay publishes a generation and a head index.  The generation moves
with every change of the head and with every clear, but not with a zero that
is held back and flushes the maps.  As long as such a zero finds no selected
head, two frames with the same generation and head have no map reset between
them.
-/

namespace CarplayRgi

open RgdState

/-- The event bumps the generation. -/
def bumpsGeneration : HookEvent → Bool
  | .accepted _ bumps => bumps
  | .stateCleared => true
  | _ => false

/-- The generation after a number of bumps. -/
def generationAfter (bumps : Nat) : Nat := bumps % (2 ^ 32 - 1) + 1

theorem amapMetaNextNonzero_generationAfter (bumps : Nat) :
    amapMetaNextNonzero (generationAfter bumps) = generationAfter (bumps + 1) := by
  unfold amapMetaNextNonzero generationAfter
  dsimp only
  split <;> omega

/-- The number of bumps and the selected head. -/
structure AmapLedger where
  bumps : Nat
  head : Nat

def AmapLedger.note (ledger : AmapLedger) : HookEvent → AmapLedger
  | .accepted upd true =>
      ⟨ledger.bumps + 1,
        if isHardClear upd then emptyIndex
        else (upd.maneuverList.map amapNewHead).getD ledger.head⟩
  | .stateCleared => ⟨ledger.bumps + 1, emptyIndex⟩
  | _ => ledger

def amapLedger (events : List HookEvent) (ledger : AmapLedger) : AmapLedger :=
  events.foldl AmapLedger.note ledger

def AmapLedger.initial : AmapLedger := ⟨0, emptyIndex⟩

@[simp]
theorem amapLedger_append (first second : List HookEvent) (ledger : AmapLedger) :
    amapLedger (first ++ second) ledger = amapLedger second (amapLedger first ledger) := by
  simp [amapLedger]

theorem AmapLedger.note_of_not_bumps {event : HookEvent} (keeps : bumpsGeneration event = false)
    (ledger : AmapLedger) : ledger.note event = ledger := by
  cases event with
  | accepted upd bumps =>
      cases bumps with
      | false => rfl
      | true => cases keeps
  | stateCleared => cases keeps
  | _ => rfl

theorem amapLedger_of_not_bumps {events : List HookEvent}
    (keeps : ∀ event ∈ events, bumpsGeneration event = false) (ledger : AmapLedger) :
    amapLedger events ledger = ledger := by
  induction events with
  | nil => rfl
  | cons event events ih =>
      change amapLedger events (ledger.note event) = ledger
      rw [AmapLedger.note_of_not_bumps (keeps event List.mem_cons_self)]
      exact ih fun later member => keeps later (List.mem_cons_of_mem event member)

/-- The ledger counts the bumps. -/
theorem amapLedger_bumps (events : List HookEvent) (ledger : AmapLedger) :
    (amapLedger events ledger).bumps = ledger.bumps + events.countP bumpsGeneration := by
  induction events generalizing ledger with
  | nil => rfl
  | cons event events ih =>
      change (amapLedger events (ledger.note event)).bumps = _
      rw [ih, List.countP_cons]
      have one : (ledger.note event).bumps =
          ledger.bumps + if bumpsGeneration event then 1 else 0 := by
        cases event with
        | accepted upd bumps => cases bumps <;> rfl
        | _ => rfl
      rw [one]
      omega

namespace RgdState

/-- The published identity is that of the ledger. -/
structure TracksAmap (state : RgdState) (ledger : AmapLedger) : Prop where
  generation : state.amap.routeGeneration = generationAfter ledger.bumps
  head : state.amap.headIapIndex = ledger.head

theorem TracksAmap.congr {before after : RgdState} {ledger : AmapLedger}
    (tracks : TracksAmap before ledger)
    (generation : after.amap.routeGeneration = before.amap.routeGeneration)
    (head : after.amap.headIapIndex = before.amap.headIapIndex) : TracksAmap after ledger :=
  ⟨generation.trans tracks.generation, head.trans tracks.head⟩

theorem writeBusSnapshotFromCache_amap (overlay : Bool) (stack : RgdKey → List UInt8)
    (extraMan : Option RgdManeuver) (currentUpd : Option RgdUpdate) (state : RgdState) :
    ∃ aligned, (writeBusSnapshotFromCache overlay stack extraMan currentUpd state).1.amap =
      { state.amap with headAligned := aligned } := by
  rcases writeBusSnapshotFromCache_cases overlay stack extraMan currentUpd state with
    ⟨-, skipped⟩ | written
  · obtain ⟨lanes, prunedEq⟩ := rgdPruneStaleLaneCache_eq state
    rw [skipped, prunedEq]
    exact ⟨state.amap.headAligned, rfl⟩
  · rw [written]
    have step := rgdPruneStaleLaneCache_step overlay currentUpd
      (snapshotRecords_step overlay stack currentUpd (rgdPruneStaleLaneCache state).2)
    dsimp only
    rw [step.amap]
    split
    · exact ⟨_, rfl⟩
    · exact ⟨state.amap.headAligned, rfl⟩

/-- An accepted update moves generation and head as its event says. -/
theorem noteUpdate_tracks (upd : RgdUpdate) {state : RgdState} {ledger : AmapLedger}
    (tracks : TracksAmap state ledger) :
    TracksAmap (noteUpdate true upd state) (ledger.note (acceptedEvent true upd state)) := by
  have bumped := amapMetaNextNonzero_generationAfter ledger.bumps
  rw [← tracks.generation] at bumped
  simp only [noteUpdate, if_true, amapMetaNoteRouteUpdate, acceptedEvent, Bool.true_and]
  cases hard : isHardClear upd with
  | true =>
      simp only [amapMetaBumps, Bool.true_or, if_true]
      refine ⟨bumped, ?_⟩
      simp [AmapLedger.note, hard, amapMetaResetHead]
  | false =>
      cases listEq : upd.maneuverList with
      | none =>
          have kept : amapMetaBumps upd false state.amap = false := by
            simp [amapMetaBumps, listEq]
          rw [kept]
          refine tracks.congr ?_ ?_ <;>
            (simp only [amapMetaRefreshAlignment, amapMetaNoteList, listEq, Bool.false_eq_true,
              if_false]; split <;> rfl)
      | some list =>
          by_cases same : amapNewHead list = state.amap.headIapIndex
          · have kept : amapMetaBumps upd false state.amap = false := by
              simp [amapMetaBumps, listEq, same]
            rw [kept]
            refine tracks.congr ?_ ?_ <;>
              simp [amapMetaRefreshAlignment, amapMetaNoteList, listEq, amapMetaSelectHead, same]
          · have moved : amapMetaBumps upd false state.amap = true := by
              simp [amapMetaBumps, listEq, same]
            rw [moved]
            refine ⟨?_, ?_⟩
            · simpa [amapMetaRefreshAlignment, amapMetaNoteList, listEq, amapMetaSelectHead, same,
                amapMetaBumpGeneration, AmapLedger.note] using bumped
            · simp [amapMetaRefreshAlignment, amapMetaNoteList, listEq, amapMetaSelectHead, same,
                AmapLedger.note, hard]

/-- A zero that is held back. -/
def suppressesZero (upd : RgdUpdate) (state : RgdState) : Bool :=
  decide (upd.routeState = some 0) && !isHardClear upd &&
    decide (state.zero.emittedRouteState ≠ 0)

/-- A zero that is held back and flushes the maps. -/
def flushesMaps (upd : RgdUpdate) (state : RgdState) : Bool :=
  suppressesZero upd state && decide (0 < state.zero.lastRouteState)

/-- Maps are only flushed while no head is selected. -/
def flushesHeadless (upd : RgdUpdate) (state : RgdState) : Bool :=
  !flushesMaps upd state || decide (state.amap.headIapIndex = emptyIndex)

end RgdState

open RgdState

/-- Every update that reaches the overlay's handler meets a condition on the
update and the initialised state that it finds. -/
def updatesMeet (condition : RgdUpdate → RgdState → Bool) (state : RgdState) : HookLabel → Bool
  | .message msgid raw _ _ =>
      !decide (msgid = iap2MsgRouteGuidanceUpdate) ||
        condition (rgdParseUpdate raw) (rgdLazyInit true state).1
  | _ => true

/-- A snapshot finds every published reset followed by a bump, and a reset
that is held back finds no head. -/
def ResetSeparated (past : List HookEvent) : HookEvent → Prop
  | .snapshot _ _ => pending opensReset bumpsGeneration past = false
  | .mapReset true => (amapLedger past .initial).head = emptyIndex
  | _ => True

/-- The invariant between the messages. -/
structure AmapSound (state : RgdState) (history : List HookEvent) : Prop where
  tracks : TracksAmap state (amapLedger history .initial)
  bumped : pending opensReset bumpsGeneration history = false
  separated : Always ResetSeparated history

theorem opensReset_of_not_isReset {event : HookEvent} (other : isReset event = false) :
    opensReset event = false := by
  cases event with
  | mapReset suppressed => cases other
  | _ => rfl

theorem AmapSound.extend {before after : RgdState} {trace events : List HookEvent}
    (sound : AmapSound before trace) (noReset : ∀ event ∈ events, isReset event = false)
    (tracks : TracksAmap after (amapLedger (trace ++ events) .initial)) :
    AmapSound after (trace ++ events) := by
  obtain ⟨-, bumped, separated⟩ := sound
  suffices grown : pending opensReset bumpsGeneration (trace ++ events) = false ∧
      Always ResetSeparated (trace ++ events) from ⟨tracks, grown.1, grown.2⟩
  clear tracks
  induction events generalizing trace with
  | nil => simpa using ⟨bumped, separated⟩
  | cons event events ih =>
      have other := noReset event List.mem_cons_self
      rw [← List.singleton_append, ← List.append_assoc]
      refine ih (fun later member => noReset later (List.mem_cons_of_mem event member)) ?_ ?_
      · rw [pending_snoc, opensReset_of_not_isReset other, bumped]
        rfl
      · refine separated.snoc ?_
        cases event with
        | snapshot shown records => exact bumped
        | mapReset suppressed => cases other
        | _ => trivial

/-- Events that neither reset nor bump, in a step that keeps the identity. -/
theorem AmapSound.keep {before after : RgdState} {trace events : List HookEvent}
    (sound : AmapSound before trace) (noReset : ∀ event ∈ events, isReset event = false)
    (noBump : ∀ event ∈ events, bumpsGeneration event = false)
    (generation : after.amap.routeGeneration = before.amap.routeGeneration)
    (head : after.amap.headIapIndex = before.amap.headIapIndex) :
    AmapSound after (trace ++ events) := by
  refine sound.extend noReset ?_
  rw [amapLedger_append, amapLedger_of_not_bumps noBump]
  exact sound.tracks.congr generation head

/-- A published reset and the bump that follows it. -/
theorem AmapSound.reset_bump {before after : RgdState} {trace : List HookEvent}
    {bump : HookEvent} (sound : AmapSound before trace) (noReset : isReset bump = false)
    (bumps : bumpsGeneration bump = true)
    (tracks : TracksAmap after (amapLedger (trace ++ [.mapReset false, bump]) .initial)) :
    AmapSound after (trace ++ [.mapReset false, bump]) := by
  have split : trace ++ [.mapReset false, bump] = trace ++ [.mapReset false] ++ [bump] := by simp
  rw [split] at tracks ⊢
  have flagged : Always ResetSeparated (trace ++ [.mapReset false]) := sound.separated.snoc trivial
  refine ⟨tracks, ?_, flagged.snoc ?_⟩
  · rw [pending_snoc, opensReset_of_not_isReset noReset, bumps]
    simp
  · cases bump with
    | accepted upd moved => trivial
    | stateCleared => trivial
    | _ => cases bumps

namespace RgdState

theorem writeBusSnapshotFromCache_noReset {overlay : Bool} {stack : RgdKey → List UInt8}
    {extraMan : Option RgdManeuver} {currentUpd : Option RgdUpdate} {state : RgdState} :
    ∀ event ∈ (writeBusSnapshotFromCache overlay stack extraMan currentUpd state).2,
      isReset event = false ∧ bumpsGeneration event = false := by
  intro event member
  rcases mem_writeBusSnapshotFromCache member with rfl | rfl <;> exact ⟨rfl, rfl⟩

theorem writeBusSnapshotFromCache_sound (overlay : Bool) (stack : RgdKey → List UInt8)
    (extraMan : Option RgdManeuver) (currentUpd : Option RgdUpdate) {state : RgdState}
    {trace : List HookEvent} (sound : AmapSound state trace) :
    AmapSound (writeBusSnapshotFromCache overlay stack extraMan currentUpd state).1
      (trace ++ (writeBusSnapshotFromCache overlay stack extraMan currentUpd state).2) := by
  obtain ⟨aligned, amapEq⟩ :=
    writeBusSnapshotFromCache_amap overlay stack extraMan currentUpd state
  exact sound.keep (fun event member => (writeBusSnapshotFromCache_noReset event member).1)
    (fun event member => (writeBusSnapshotFromCache_noReset event member).2) (by rw [amapEq])
    (by rw [amapEq])

/-- Writing the snapshot of an update that the overlay has noted. -/
theorem acceptUpdate_sound_of_noted (stack : RgdKey → List UInt8) (upd : RgdUpdate)
    {state : RgdState} {trace : List HookEvent}
    (noted : AmapSound (noteUpdate true upd state) (trace ++ [acceptedEvent true upd state])) :
    AmapSound (acceptUpdate true stack upd state).1
      (trace ++ (acceptUpdate true stack upd state).2) := by
  rcases acceptUpdate_cases true stack upd state with ⟨-, skipped⟩ | ⟨-, written⟩
  · rw [skipped]
    exact noted
  · obtain ⟨laneSlot, table, -, mergedEq⟩ := mergedUpdate_frame upd (noteUpdate true upd state)
    have merged : AmapSound (mergedUpdate upd (noteUpdate true upd state))
        (trace ++ [acceptedEvent true upd state]) := by
      simpa using noted.keep (by simp : ∀ event ∈ [], isReset event = false) (by simp)
        (by rw [mergedEq]) (by rw [mergedEq])
    rw [written]
    simpa using writeBusSnapshotFromCache_sound true stack none
      (some (enrichLaneSlot upd (noteUpdate true upd state)).1) merged

theorem noteUpdate_sound (upd : RgdUpdate) {state : RgdState} {trace : List HookEvent}
    (sound : AmapSound state trace) :
    AmapSound (noteUpdate true upd state) (trace ++ [acceptedEvent true upd state]) := by
  refine sound.extend (by simp [acceptedEvent, isReset]) ?_
  rw [amapLedger_append]
  exact noteUpdate_tracks upd sound.tracks

/-- The debounce decision does not touch the identity. -/
theorem DebounceCase.amap {upd : RgdUpdate} {now : Nat} {state after : RgdState}
    {events : List HookEvent} {held : Bool}
    (outcome : DebounceCase upd now state after events held) : after.amap = state.amap := by
  cases outcome with
  | hardClear zero hard => simp [hardClearZero]; rfl
  | passZero zero soft idle => rfl
  | flushZero zero soft active previous => simp; rfl
  | holdZero zero soft active previous => simp; rfl
  | positive routeState positiveEq nonzero => simp [notePositive]; rfl
  | evidence absent evident => simp
  | held absent silent soft started => rfl
  | passed absent silent quiet => rfl

/-- The map resets of a debounce decision. -/
theorem DebounceCase.resets {upd : RgdUpdate} {now : Nat} {state after : RgdState}
    {events : List HookEvent} {held : Bool}
    (outcome : DebounceCase upd now state after events held) :
    events = [] ∨ (events = [.mapReset true] ∧ held = true ∧ flushesMaps upd state = true) ∨
      (events = [.mapReset false] ∧ held = false ∧ isHardClear upd = true) := by
  cases outcome with
  | hardClear zero hard => exact .inr (.inr ⟨rfl, rfl, by simp [isHardClear, hard]⟩)
  | flushZero zero soft active previous =>
      exact .inr (.inl ⟨rfl, rfl, by
        simp [flushesMaps, suppressesZero, isHardClear, zero, soft, active, previous]⟩)
  | passZero zero soft idle => exact .inl rfl
  | holdZero zero soft active previous => exact .inl rfl
  | positive routeState positiveEq nonzero => exact .inl rfl
  | evidence absent evident => exact .inl rfl
  | held absent silent soft started => exact .inl rfl
  | passed absent silent quiet => exact .inl rfl

theorem handleUpdate_sound (stack : RgdKey → List UInt8) (now : Nat) {upd : RgdUpdate}
    {state : RgdState} {trace : List HookEvent} (sound : AmapSound state trace)
    (headless : flushesHeadless upd state = true) :
    AmapSound (handleUpdate true stack now upd state).1
      (trace ++ (handleUpdate true stack now upd state).2) := by
  obtain ⟨debounced, events, held, -, outcome, result⟩ :=
    handleUpdate_cases true stack now upd state
  have amapEq : debounced.amap = state.amap := outcome.amap
  have arrived : AmapSound debounced (trace ++ [.routeUpdate upd]) :=
    sound.keep (by simp [isReset]) (by simp [bumpsGeneration]) (by rw [amapEq]) (by rw [amapEq])
  rcases outcome.resets with rfl | ⟨rfl, rfl, flushed⟩ | ⟨rfl, rfl, hard⟩
  · rcases result with ⟨-, result⟩ | ⟨-, result⟩
    · rw [result]
      exact arrived
    · rw [result]
      simpa using acceptUpdate_sound_of_noted stack upd (noteUpdate_sound upd arrived)
  · rcases result with ⟨-, result⟩ | ⟨notHeld, -⟩
    · rw [result]
      have noHead : state.amap.headIapIndex = emptyIndex := by
        have flushed' : flushesMaps upd state = true := flushed
        simpa [flushesHeadless, flushed'] using headless
      have split : trace ++ [.routeUpdate upd, .mapReset true] =
          trace ++ [.routeUpdate upd] ++ [.mapReset true] := by simp
      obtain ⟨tracks, bumped, separated⟩ := arrived
      rw [split]
      refine ⟨?_, ?_, separated.snoc ?_⟩
      · rw [amapLedger_append]
        exact tracks
      · rw [pending_snoc, bumped]
        rfl
      · change (amapLedger _ _).head = emptyIndex
        rw [← tracks.head, amapEq, noHead]
    · cases notHeld
  · rcases result with ⟨isHeld, -⟩ | ⟨-, result⟩
    · cases isHeld
    · have bumps : bumpsGeneration (acceptedEvent true upd debounced) = true := by
        simp [acceptedEvent, bumpsGeneration, amapMetaBumps, hard]
      have noted : AmapSound (noteUpdate true upd debounced)
          (trace ++ [.routeUpdate upd] ++ [.mapReset false, acceptedEvent true upd debounced]) := by
        refine arrived.reset_bump rfl bumps ?_
        rw [amapLedger_append]
        exact noteUpdate_tracks upd arrived.tracks
      rw [result]
      have written := @acceptUpdate_sound_of_noted stack upd debounced
        (trace ++ [.routeUpdate upd, .mapReset false]) (by simpa using noted)
      simpa using written

theorem rgdCancelPendingZero_sound {state : RgdState} {trace : List HookEvent}
    (sound : AmapSound state trace) : AmapSound (rgdCancelPendingZero state) trace := by
  simpa using sound.keep (by simp : ∀ event ∈ [], isReset event = false) (by simp)
    (by rw [rgdCancelPendingZero_amap]) (by rw [rgdCancelPendingZero_amap])

theorem handleManeuver_sound (stack : RgdKey → List UInt8) (man : RgdManeuver) {state : RgdState}
    {trace : List HookEvent} (sound : AmapSound state trace) :
    AmapSound (handleManeuver true stack man state).1
      (trace ++ (handleManeuver true stack man state).2) := by
  have cancelled := rgdCancelPendingZero_sound sound
  rcases handleManeuver_cases true stack man state with skipped | ⟨idx, extraMan, -, -, written⟩
  · rw [skipped]
    simpa using cancelled
  · obtain ⟨maneuvers, storedEq⟩ := storeManeuver_frame idx man (rgdCancelPendingZero state)
    have assigned : ∀ event ∈ (rgdSlotForIapIndex idx (rgdCancelPendingZero state)).2.2,
        isReset event = false ∧ bumpsGeneration event = false := by
      intro event member
      rw [slotAssigned_of_mem_rgdSlotForIapIndex member]
      exact ⟨rfl, rfl⟩
    have stored := cancelled.keep (fun event member => (assigned event member).1)
      (fun event member => (assigned event member).2)
      (congrArg (fun state => state.amap.routeGeneration) storedEq)
      (congrArg (fun state => state.amap.headIapIndex) storedEq)
    rw [written]
    simpa using writeBusSnapshotFromCache_sound true stack extraMan none stored

theorem handleLane_sound (stack : RgdKey → List UInt8) (lane : RgdLaneGuidance) {state : RgdState}
    {trace : List HookEvent} (sound : AmapSound state trace) :
    AmapSound (handleLane true stack lane state).1
      (trace ++ (handleLane true stack lane state).2) := by
  have cancelled := rgdCancelPendingZero_sound sound
  obtain ⟨lanes, laneSlot, storedEq⟩ := storeLane_frame lane (rgdCancelPendingZero state)
  have stored : AmapSound (storeLane lane (rgdCancelPendingZero state)) trace := by
    simpa using cancelled.keep (by simp : ∀ event ∈ [], isReset event = false) (by simp)
      (congrArg (fun state => state.amap.routeGeneration) storedEq)
      (congrArg (fun state => state.amap.headIapIndex) storedEq)
  rcases handleLane_cases true stack lane state with skipped | cached | ⟨extraMan, written⟩
  · rw [skipped]
    simpa using cancelled
  · rw [cached]
    simpa using stored
  · rw [written]
    exact writeBusSnapshotFromCache_sound true stack extraMan _ stored

theorem rgdClearState_sound (reason : ClearReason) {state : RgdState} {trace : List HookEvent}
    (sound : AmapSound state trace) :
    AmapSound (rgdClearState true reason state).1
      (trace ++ (rgdClearState true reason state).2) := by
  have bumped := amapMetaNextNonzero_generationAfter (amapLedger trace .initial).bumps
  rw [← sound.tracks.generation] at bumped
  have cleared : AmapSound (rgdClearState true reason state).1
      (trace ++ [.mapReset false, .stateCleared]) := by
    refine sound.reset_bump rfl rfl ?_
    rw [amapLedger_append]
    exact ⟨bumped, rfl⟩
  have ended : AmapSound (rgdClearState true reason state).1
      (trace ++ [.mapReset false, .stateCleared] ++ [.endFrame (clearRecords reason)]) :=
    cleared.keep (by simp [isReset]) (by simp [bumpsGeneration]) rfl rfl
  simpa [rgdClearState] using ended

theorem rgdLazyInit_sound {state : RgdState} {trace : List HookEvent}
    (sound : AmapSound state trace) :
    AmapSound (rgdLazyInit true state).1 (trace ++ (rgdLazyInit true state).2) := by
  unfold rgdLazyInit
  split
  · simpa using sound
  · exact rgdClearState_sound .init ⟨sound.tracks.congr rfl rfl, sound.bumped, sound.separated⟩

theorem handleFrame_sound (msgid : Nat) (raw : List UInt8) (now : Nat)
    (stack : RgdKey → List UInt8) {state : RgdState} {trace : List HookEvent}
    (sound : AmapSound state trace)
    (headless : msgid = iap2MsgRouteGuidanceUpdate →
      flushesHeadless (rgdParseUpdate raw) state = true) :
    AmapSound (handleFrame true msgid raw now stack state).1
      (trace ++ (handleFrame true msgid raw now stack state).2) := by
  unfold handleFrame
  split_ifs with update
  · exact handleUpdate_sound stack now sound (headless update)
  · exact handleManeuver_sound stack _ sound
  · exact handleLane_sound stack _ sound
  · simpa [TracedOp.silent] using sound

theorem rgdHookStep_sound {label : HookLabel} {state : RgdState} {trace : List HookEvent}
    (sound : AmapSound state trace) (headless : updatesMeet flushesHeadless state label = true) :
    AmapSound (rgdHookStep true label state).1 (trace ++ (rgdHookStep true label state).2) := by
  cases label with
  | message msgid raw now stack =>
      have handled := handleFrame_sound msgid raw now stack (rgdLazyInit_sound sound)
        fun update => by simpa [updatesMeet, update] using headless
      simpa [rgdHookStep, rgdMessageHandler, TracedOp.andThen] using handled
  | tick now =>
      simp only [rgdHookStep, rgdPeriodicTick]
      split
      · exact sound.keep (by simp [isReset]) (by simp [bumpsGeneration]) rfl rfl
      · simpa using sound
  | clear reason => exact rgdClearState_sound reason sound

end RgdState

theorem rgdHook_amapSound {state : RgdState} {history : List HookEvent}
    (run : (rgdHook true).RunWithin
      (fun state _ label => updatesMeet flushesHeadless state label = true) state history) :
    AmapSound state history := by
  refine run.invariant AmapSound ⟨⟨rfl, rfl⟩, rfl, always_nil _⟩ ?_
  intro before after trace events label sound headless stepTo
  obtain ⟨rfl, rfl⟩ : (rgdHookStep true label before).1 = after ∧
      (rgdHookStep true label before).2 = events := by
    simpa [rgdHook, Prod.ext_iff] using stepTo
  exact RgdState.rgdHookStep_sound sound headless

namespace RgdState

/-- The overlay keys of a frame are those of the state it leaves behind. -/
theorem BuiltFrom.amap {state : RgdState} {records : List RgdRecord}
    (built : BuiltFrom true state records) {key : RouteKey} {value : BusValue}
    (shown : valueOf state.amapKeys (.route key) = some value) :
    valueOf records (.route key) = some value := by
  obtain ⟨stack, currentUpd, before, writtenEq⟩ := built
  have routeValue := valueOf_snapshotRecords_route true stack currentUpd before key
  have amapEq := (snapshotRecords_step true stack currentUpd before).amap
  rw [writtenEq, if_pos rfl] at amapEq
  rw [writtenEq] at routeValue
  have keysEq : overlayKeys true (refreshOverlay true before) = state.amapKeys := by
    simp only [overlayKeys, if_true, amapKeys, refreshOverlay_amap]
    rw [amapEq]
  rw [routeValue, keysEq, shown]
  rfl

theorem BuiltFrom.generation {state : RgdState} {records : List RgdRecord}
    (built : BuiltFrom true state records) :
    valueOf records (.route .amapRouteGeneration) = some (.num state.amap.routeGeneration) :=
  built.amap (by simp [amapKeys])

theorem BuiltFrom.head {state : RgdState} {records : List RgdRecord}
    (built : BuiltFrom true state records) :
    valueOf records (.route .amapHeadIapIndex) =
      some (.num (if state.amap.headIapIndex = emptyIndex then -1 else state.amap.headIapIndex)) :=
  built.amap (by simp [amapKeys])

/-- A frame with a nonnegative head shows the selected head. -/
theorem BuiltFrom.head_eq {state : RgdState} {records : List RgdRecord}
    (built : BuiltFrom true state records) {head : Nat}
    (shows : valueOf records (.route .amapHeadIapIndex) = some (.num head)) :
    state.amap.headIapIndex = head ∧ head ≠ emptyIndex := by
  rw [built.head] at shows
  simp only [Option.some.injEq, BusValue.num.injEq] at shows
  split_ifs at shows with none
  have equal : state.amap.headIapIndex = head := by exact_mod_cast shows
  exact ⟨equal, equal ▸ none⟩

end RgdState

/-- Events without a bump leave the identity of the next snapshot as it was,
so they neither follow a published reset nor select a head. -/
theorem no_reset_of_no_bump {past middle future : List HookEvent} {suppressed : Bool}
    {shown : RgdState} {records : List RgdRecord}
    (separated : Always ResetSeparated
      (past ++ .mapReset suppressed :: middle ++ .snapshot shown records :: future))
    (noBump : ∀ event ∈ middle, bumpsGeneration event = false)
    (hasHead : (amapLedger (past ++ .mapReset suppressed :: middle) .initial).head ≠ emptyIndex) :
    False := by
  cases suppressed with
  | true =>
      have noHead : (amapLedger past .initial).head = emptyIndex :=
        separated past (.mapReset true) (middle ++ .snapshot shown records :: future) (by simp)
      apply hasHead
      rw [amapLedger_append]
      change (amapLedger middle (amapLedger past .initial)).head = emptyIndex
      rw [amapLedger_of_not_bumps noBump]
      exact noHead
  | false =>
      have closed : pending opensReset bumpsGeneration (past ++ .mapReset false :: middle) = false :=
        separated _ (.snapshot shown records) future rfl
      obtain ⟨position, later, event, found, bumps⟩ :=
        @exists_closed _ opensReset bumpsGeneration _ past.length (.mapReset false) (by simp) rfl
          closed
      rw [List.getElem?_append_right later.le] at found
      obtain ⟨offset, offsetEq⟩ : ∃ offset, position - past.length = offset + 1 :=
        ⟨position - past.length - 1, by omega⟩
      rw [offsetEq, List.getElem?_cons_succ] at found
      rw [noBump event (List.mem_of_getElem? found)] at bumps
      cases bumps

/-- Two snapshots with the same generation, the later one with a head, have no
map reset between them, in runs whose held-back zeros flush the maps only
without a head.  A change of the head is a bump, so the first head need not be
compared. -/
theorem amap_identity {state firstState lastState : RgdState} {history : List HookEvent}
    {firstRecords lastRecords : List RgdRecord}
    (run : (rgdHook true).RunWithin
      (fun state _ label => updatesMeet flushesHeadless state label = true) state history)
    {first last : Nat} (order : first < last)
    (firstAt : history[first]? = some (.snapshot firstState firstRecords))
    (lastAt : history[last]? = some (.snapshot lastState lastRecords))
    (sameGeneration : valueOf firstRecords (.route .amapRouteGeneration) =
      valueOf lastRecords (.route .amapRouteGeneration)) {head : Nat}
    (lastHead : valueOf lastRecords (.route .amapHeadIapIndex) = some (.num head))
    (unwrapped : (history.take last).countP bumpsGeneration -
      (history.take first).countP bumpsGeneration < 2 ^ 32 - 1) :
    ∀ position suppressed, first < position → position < last →
      history[position]? ≠ some (.mapReset suppressed) := by
  obtain ⟨firstRun, firstBuilt⟩ := snapshot_run_at run firstAt
  obtain ⟨lastRun, lastBuilt⟩ := snapshot_run_at run lastAt
  have firstTracks := (rgdHook_amapSound firstRun).tracks
  have lastTracks := (rgdHook_amapSound lastRun).tracks
  have keepsShown : ∀ (past : List HookEvent) (shown : RgdState) (records : List RgdRecord),
      amapLedger (past ++ [.snapshot shown records]) .initial = amapLedger past .initial :=
    fun past shown records => amapLedger_append _ _ _
  rw [keepsShown] at firstTracks lastTracks
  have splitEq : history.take last = history.take first ++ (history.take last).drop first := by
    conv_lhs => rw [← List.take_append_drop first (history.take last), List.take_take]
    rw [Nat.min_eq_left order.le]
  have noBump : ∀ event ∈ (history.take last).drop first, bumpsGeneration event = false := by
    rw [firstBuilt.generation, lastBuilt.generation, Option.some.injEq, BusValue.num.injEq,
      Nat.cast_inj, firstTracks.generation, lastTracks.generation, amapLedger_bumps,
      amapLedger_bumps, splitEq, List.countP_append] at sameGeneration
    rw [splitEq, List.countP_append] at unwrapped
    simp only [generationAfter, AmapLedger.initial] at sameGeneration
    have none : ((history.take last).drop first).countP bumpsGeneration = 0 := by omega
    simpa using List.countP_eq_zero.mp none
  intro position suppressed after before reset
  have resetSplit : history.take last =
      history.take position ++ .mapReset suppressed :: (history.take last).drop (position + 1) := by
    have resetIn : (history.take last)[position]? = some (.mapReset suppressed) := by
      rw [List.getElem?_take_of_lt before]
      exact reset
    obtain ⟨positionLt, resetEq⟩ := List.getElem?_eq_some_iff.mp resetIn
    rw [← resetEq, List.getElem_cons_drop]
    conv_lhs => rw [← List.take_append_drop position (history.take last), List.take_take]
    rw [Nat.min_eq_left before.le]
  obtain ⟨lastHeadEq, hasHead⟩ := lastBuilt.head_eq lastHead
  have separated := (rgdHook_amapSound lastRun).separated
  rw [resetSplit] at separated lastTracks
  refine no_reset_of_no_bump separated (fun event member => noBump event ?_) ?_
  · exact (List.drop_sublist_drop_left _ (by omega)).subset member
  · rw [← lastTracks.head, lastHeadEq]
    exact hasHead

/-- The identity that a snapshot shows. -/
def showsIdentity (generation head : Int) (records : List RgdRecord) : Bool :=
  decide (valueOf records (.route .amapRouteGeneration) = some (.num generation)) &&
    decide (valueOf records (.route .amapHeadIapIndex) = some (.num head))

theorem showsIdentity_spec {generation head : Int} {records : List RgdRecord}
    (shows : showsIdentity generation head records = true) :
    valueOf records (.route .amapRouteGeneration) = some (.num generation) ∧
      valueOf records (.route .amapHeadIapIndex) = some (.num head) := by
  simpa [showsIdentity] using shows

/-- A list and the record of its maneuver carry one identity. -/
theorem amap_identity_of_listed_maneuver :
    ∃ (state : RgdState) (history : List HookEvent), (rgdHook true).Run state history ∧
      (history[6]?).any isAssignment = true ∧ history[6]? ≠ some (.mapReset true) ∧
      history[6]? ≠ some (.mapReset false) := by
  obtain ⟨state, history, run, checked⟩ :=
    (rgdHook true).exists_runWithin_of_replay (updatesMeet flushesHeadless)
      [.message 0x5201 (listFrame 1 0 5) 1 (fun _ => []),
        .message 0x5202 (maneuverFrame 0 5 1) 2 (fun _ => [])]
      (fun result =>
        ((result.2[5]?).bind HookEvent.snapshotRecords?).any (showsIdentity 3 5) &&
          ((result.2[7]?).bind HookEvent.snapshotRecords?).any (showsIdentity 3 5) &&
          (result.2[6]?).any isAssignment &&
          decide ((result.2.take 7).countP bumpsGeneration -
            (result.2.take 5).countP bumpsGeneration < 2 ^ 32 - 1))
      (by decide +kernel)
  simp only [Bool.and_eq_true, decide_eq_true_eq] at checked
  obtain ⟨⟨⟨first, last⟩, assigned⟩, unwrapped⟩ := checked
  obtain ⟨firstState, firstRecords, firstAt, firstShows⟩ := exists_snapshot_of_records first
  obtain ⟨lastState, lastRecords, lastAt, lastShows⟩ := exists_snapshot_of_records last
  have noReset := amap_identity run (by decide) firstAt lastAt
    ((showsIdentity_spec firstShows).1.trans (showsIdentity_spec lastShows).1.symm)
    (showsIdentity_spec lastShows).2 unwrapped 6
  exact ⟨state, history, run.run, assigned, noReset true (by decide) (by decide),
    noReset false (by decide) (by decide)⟩

/-- A zero that is held back flushes the maps under an unchanged identity. -/
theorem suppressed_zero_keeps_identity :
    ¬ ∀ (state : RgdState) (history : List HookEvent), (rgdHook true).Run state history →
      ∀ first last : Nat, first < last →
      ∀ firstState lastState firstRecords lastRecords,
        history[first]? = some (.snapshot firstState firstRecords) →
        history[last]? = some (.snapshot lastState lastRecords) →
        ∀ (generation : Int) (head : Nat),
          valueOf firstRecords (.route .amapRouteGeneration) = some (.num generation) →
          valueOf lastRecords (.route .amapRouteGeneration) = some (.num generation) →
          valueOf firstRecords (.route .amapHeadIapIndex) = some (.num head) →
          valueOf lastRecords (.route .amapHeadIapIndex) = some (.num head) →
          ∀ (position : Nat) (suppressed : Bool), first < position → position < last →
            history[position]? ≠ some (.mapReset suppressed) := by
  intro separated
  obtain ⟨state, history, run, checked⟩ :=
    (rgdHook true).exists_run_of_replay
      [.message 0x5201 (listFrame 1 0 5) 1 (fun _ => []),
        .message 0x5202 (maneuverFrame 0 5 1) 2 (fun _ => []),
        .message 0x5201 (routeStateFrame 0) 3 (fun _ => []),
        .message 0x5202 (maneuverFrame 0 5 2) 4 (fun _ => []),
        .message 0x5201 (listFrame 1 0 5) 5 (fun _ => [])]
      (fun result =>
        ((result.2[7]?).bind HookEvent.snapshotRecords?).any (showsIdentity 3 5) &&
          ((result.2[14]?).bind HookEvent.snapshotRecords?).any (showsIdentity 3 5) &&
          (result.2[9]?).any isReset)
      (by decide +kernel)
  simp only [Bool.and_eq_true] at checked
  obtain ⟨⟨first, last⟩, reset⟩ := checked
  obtain ⟨firstState, firstRecords, firstAt, firstShows⟩ := exists_snapshot_of_records first
  obtain ⟨lastState, lastRecords, lastAt, lastShows⟩ := exists_snapshot_of_records last
  obtain ⟨firstGeneration, firstHead⟩ := showsIdentity_spec firstShows
  obtain ⟨lastGeneration, lastHead⟩ := showsIdentity_spec lastShows
  have noReset := separated state history run 7 14 (by decide) firstState lastState firstRecords
    lastRecords firstAt lastAt 3 5 firstGeneration lastGeneration firstHead lastHead 9
  rw [Option.any_eq_true] at reset
  obtain ⟨event, eventAt, isReset⟩ := reset
  cases event with
  | mapReset suppressed => exact noReset suppressed (by decide) (by decide) eventAt
  | _ => cases isReset

end CarplayRgi
