import CarplayRgi.RgdRouteStateDebounce

/-!
# The tick between claiming an end and sending it

The tick forgets the emitted route state under the lock and sends the end
frame after it has released the lock.  A route that starts in between is
overwritten by the older end.  The published and the emitted route state agree
whenever every end is sent while it is still due.
-/

namespace CarplayRgi

open RgdState

/-- The route state of the last frame that carries one. -/
def lastRouteState (trace : List HookEvent) : Option BusValue :=
  trace.foldl (fun last event => event.routeState.or last) none

theorem lastRouteState_snoc (trace : List HookEvent) (event : HookEvent) :
    lastRouteState (trace ++ [event]) = event.routeState.or (lastRouteState trace) := by
  simp [lastRouteState]

/-- The last published route state is the emitted one; before the first frame
it counts as zero. -/
def Agrees (emitted : Nat) (trace : List HookEvent) : Prop :=
  (lastRouteState trace).getD (.num 0) = .num emitted

/-- The text of the snapshot that a 0x5201 causes when it is accepted. -/
def updateText (overlay : Bool) (stack : RgdKey → List UInt8) (now : Nat) (upd : RgdUpdate)
    (state : RgdState) : List UInt8 :=
  let noted := noteUpdate overlay upd (debounceUpdate upd now { state with haveUpdate := true }).1.1
  frameText
    (snapshotRecords overlay stack (some (enrichLaneSlot upd noted).1)
      (rgdPruneStaleLaneCache (mergedUpdate upd noted)).2).1

/-- A changed route state that is not held back is not lost to a full text
builder. -/
def routeStateFits (overlay : Bool) (stack : RgdKey → List UInt8) (now : Nat) (upd : RgdUpdate)
    (state : RgdState) : Bool :=
  upd.routeState.isNone || decide (upd.routeState = some state.zero.emittedRouteState) ||
    (debounceUpdate upd now { state with haveUpdate := true }).2 ||
    decide ((updateText overlay stack now upd state).length ≤ busTextBuilderLargeCap)

/-- An end is sent while no route has become active since it was claimed, and
no changed route state is lost. -/
def endStillDue (overlay : Bool) (state : TimedState) : TimerLabel → Bool
  | .message msgid raw now stack =>
      decide (msgid ≠ iap2MsgRouteGuidanceUpdate) ||
        routeStateFits overlay stack now (rgdParseUpdate raw) (rgdLazyInit overlay state.hook).1
  | .clear _ => true
  | .tickClaim _ => true
  | .tickSend => decide (state.hook.zero.emittedRouteState = 0)

theorem Agrees.append {zero : RouteZero} {cached : Option Nat} {trace events : List HookEvent}
    (agrees : Agrees zero.emittedRouteState trace) (consistent : ZeroConsistent zero cached)
    (shows : ∀ event ∈ events, ShowsCached cached event) :
    Agrees zero.emittedRouteState (trace ++ events) := by
  induction events generalizing trace with
  | nil => simpa using agrees
  | cons event events ih =>
      have next : Agrees zero.emittedRouteState (trace ++ [event]) := by
        unfold Agrees
        rw [lastRouteState_snoc]
        rcases shows event List.mem_cons_self with silent | shown
        · rw [silent]
          exact agrees
        · cases cachedEq : cached with
          | none =>
              rw [shown, cachedEq]
              exact agrees
          | some routeState =>
              rw [shown, cachedEq, consistent.emitted routeState cachedEq]
              rfl
      simpa using ih next fun later member => shows later (List.mem_cons_of_mem event member)

/-- An event with a route state decides the agreement alone. -/
theorem agrees_snoc_of_shows {emitted : Nat} {event : HookEvent} (trace : List HookEvent)
    (shows : event.routeState = some (.num emitted)) : Agrees emitted (trace ++ [event]) := by
  unfold Agrees
  rw [lastRouteState_snoc, shows]
  rfl

namespace RgdState

theorem DebounceCase.emitted_of_absent {upd : RgdUpdate} {now : Nat} {state after : RgdState}
    {events : List HookEvent} {held : Bool} (outcome : DebounceCase upd now state after events held)
    (absent : held = true ∨ upd.routeState = none) :
    after.zero.emittedRouteState = state.zero.emittedRouteState := by
  cases outcome with
  | hardClear zero hard => simp [zero] at absent
  | passZero zero soft idle => rfl
  | flushZero zero soft active previous => exact startPendingZero_emitted now _ _
  | holdZero zero soft active previous => exact startPendingZero_emitted now _ _
  | positive routeState positiveEq nonzero => simp [positiveEq] at absent
  | evidence absentState evident => exact rgdCancelPendingZero_emitted state
  | held absentState silent soft started => rfl
  | passed absentState silent quiet => rfl

theorem handleUpdate_agrees {overlay : Bool} {stack : RgdKey → List UInt8} {now : Nat}
    {upd : RgdUpdate} {state : RgdState} {trace : List HookEvent}
    (consistent : ZeroConsistent state.zero state.updateCache.routeState)
    (fits : routeStateFits overlay stack now upd state = true)
    (agrees : Agrees state.zero.emittedRouteState trace) :
    Agrees (handleUpdate overlay stack now upd state).1.zero.emittedRouteState
      (trace ++ (handleUpdate overlay stack now upd state).2) := by
  obtain ⟨debounced, events, held, debouncedEq, outcome, result⟩ :=
    handleUpdate_cases overlay stack now upd state
  have after := outcome.consistent consistent
  have silent : ∀ cached, ∀ event ∈ .routeUpdate upd :: events, ShowsCached cached event := by
    intro cached event member
    rcases List.mem_cons.mp member with rfl | reset
    · exact .inl rfl
    · obtain ⟨suppressed, rfl⟩ := outcome.events_eq reset
      exact .inl rfl
  rcases result with ⟨rfl, result⟩ | ⟨rfl, result⟩
  · have unchanged := outcome.emitted_of_absent (.inl rfl)
    rw [result]
    exact Agrees.append (by rw [unchanged]; exact agrees) after (silent _)
  · obtain ⟨zeroEq, -, shows⟩ := acceptUpdate_routeState overlay stack upd debounced
    simp only [Bool.false_eq_true, if_false] at after
    rw [result, zeroEq]
    have allShow : ∀ event ∈ .routeUpdate upd ::
        (events ++ (acceptUpdate overlay stack upd debounced).2),
        ShowsCached (upd.routeState <|> debounced.updateCache.routeState) event := by
      intro event member
      rw [← List.cons_append] at member
      rcases List.mem_append.mp member with reset | published
      · exact silent _ event reset
      · exact shows event published
    by_cases unchanged : debounced.zero.emittedRouteState = state.zero.emittedRouteState
    · exact Agrees.append (by rw [unchanged]; exact agrees) after allShow
    · -- The route state has changed, so the update carries it and it fits.
      cases present : upd.routeState with
      | none => exact absurd (outcome.emitted_of_absent (.inr present)) unchanged
      | some routeState =>
          have emitted : debounced.zero.emittedRouteState = routeState :=
            after.emitted routeState (by rw [present]; rfl)
          have changed : routeState ≠ state.zero.emittedRouteState := by
            rw [← emitted]
            exact unchanged
          have textFits : (updateText overlay stack now upd state).length ≤
              busTextBuilderLargeCap := by
            simpa [routeStateFits, present, changed, debouncedEq] using fits
          simp only [updateText, debouncedEq] at textFits
          obtain ⟨records, sent, recordsShow⟩ := acceptUpdate_publishes present textFits
          have split : trace ++ .routeUpdate upd ::
              (events ++ [acceptedEvent overlay upd debounced,
                .snapshot (acceptUpdate overlay stack upd debounced).1 records]) =
              (trace ++ .routeUpdate upd :: (events ++ [acceptedEvent overlay upd debounced])) ++
                [.snapshot (acceptUpdate overlay stack upd debounced).1 records] := by
            simp
          rw [sent, emitted, split]
          exact agrees_snoc_of_shows _ recordsShow

theorem RecordStep.agrees {state after : RgdState} {trace events : List HookEvent}
    (step : RecordStep state after events)
    (consistent : ZeroConsistent state.zero state.updateCache.routeState)
    (agrees : Agrees state.zero.emittedRouteState trace) :
    Agrees after.zero.emittedRouteState (trace ++ events) := by
  rw [step.zero]
  exact Agrees.append (by rw [rgdCancelPendingZero_emitted]; exact agrees) consistent.cancel
    step.shows

theorem rgdClearState_agrees (overlay : Bool) (reason : ClearReason) (state : RgdState)
    (trace : List HookEvent) :
    Agrees (rgdClearState overlay reason state).1.zero.emittedRouteState
      (trace ++ (rgdClearState overlay reason state).2) := by
  have split : trace ++ (rgdClearState overlay reason state).2 =
      (trace ++ [.mapReset false, .stateCleared]) ++ [.endFrame (clearRecords reason)] := by
    simp [rgdClearState]
  have emitted : (rgdClearState overlay reason state).1.zero.emittedRouteState = 0 := by
    cases overlay <;> rfl
  rw [split, emitted]
  refine agrees_snoc_of_shows _ ?_
  simp [HookEvent.routeState, HookEvent.published, clearRecords, endRecords]

theorem rgdLazyInit_agrees (overlay : Bool) {state : RgdState} {trace : List HookEvent}
    (agrees : Agrees state.zero.emittedRouteState trace) :
    Agrees (rgdLazyInit overlay state).1.zero.emittedRouteState
      (trace ++ (rgdLazyInit overlay state).2) := by
  unfold rgdLazyInit
  split
  · simpa using agrees
  · exact rgdClearState_agrees overlay .init _ trace

end RgdState

/-- The run invariant of the two threads. -/
structure ClaimInvariant (state : TimedState) (trace : List HookEvent) : Prop where
  consistent : ZeroConsistent state.hook.zero state.hook.updateCache.routeState
  agrees : state.claimed = false → Agrees state.hook.zero.emittedRouteState trace

/-- Without a trace the invariant of the debounce is its consistency. -/
theorem ZeroConsistent.invariant {state : RgdState}
    (consistent : ZeroConsistent state.zero state.updateCache.routeState) :
    DebounceInvariant state [] :=
  ⟨consistent, by simp [RerouteHeld, rerouteOpen], always_nil _⟩

theorem rgdMessageHandler_agrees {overlay : Bool} {msgid : Nat} {raw : List UInt8} {now : Nat}
    {stack : RgdKey → List UInt8} {state : TimedState} {trace : List HookEvent}
    (consistent : ZeroConsistent state.hook.zero state.hook.updateCache.routeState)
    (due : endStillDue overlay state (.message msgid raw now stack) = true)
    (agrees : Agrees state.hook.zero.emittedRouteState trace) :
    Agrees (rgdMessageHandler overlay msgid raw now stack state.hook).1.zero.emittedRouteState
      (trace ++ (rgdMessageHandler overlay msgid raw now stack state.hook).2) := by
  have ready := rgdLazyInit_agrees overlay agrees
  have readyConsistent :=
    (rgdLazyInit_debounce overlay (ZeroConsistent.invariant consistent)).consistent
  simp only [rgdMessageHandler, TracedOp.andThen]
  rw [← List.append_assoc]
  unfold handleFrame
  split_ifs with update maneuver lane
  · refine handleUpdate_agrees readyConsistent ?_ ready
    simpa [endStillDue, update] using due
  · exact (handleManeuver_routeState overlay stack _ _).agrees readyConsistent ready
  · exact (handleLane_routeState overlay stack _ _).agrees readyConsistent ready
  · simpa [TracedOp.silent] using ready

theorem rgdHookWithTimerStep_claim {overlay : Bool} {state next : TimedState}
    {trace events : List HookEvent} {label : TimerLabel} (before : ClaimInvariant state trace)
    (due : endStillDue overlay state label = true)
    (stepTo : rgdHookWithTimerStep overlay state label = some (next, events)) :
    ClaimInvariant next (trace ++ events) := by
  have invariant := ZeroConsistent.invariant before.consistent
  cases label with
  | message msgid raw now stack =>
      simp only [rgdHookWithTimerStep, Option.some.injEq, Prod.mk.injEq] at stepTo
      obtain ⟨rfl, rfl⟩ := stepTo
      exact ⟨(rgdMessageHandler_debounce overlay msgid raw now stack invariant).consistent,
        fun unclaimed =>
          rgdMessageHandler_agrees before.consistent due (before.agrees unclaimed)⟩
  | clear reason =>
      simp only [rgdHookWithTimerStep, Option.some.injEq, Prod.mk.injEq] at stepTo
      obtain ⟨rfl, rfl⟩ := stepTo
      exact ⟨(rgdClearState_debounce overlay reason invariant).consistent,
        fun _ => rgdClearState_agrees overlay reason state.hook trace⟩
  | tickClaim now =>
      simp only [rgdHookWithTimerStep] at stepTo
      split at stepTo
      · cases stepTo
      · split at stepTo
        · rename_i isDue
          simp only [Option.some.injEq, Prod.mk.injEq] at stepTo
          obtain ⟨rfl, rfl⟩ := stepTo
          have ticked := (rgdPeriodicTick_debounce now invariant).consistent
          simp only [rgdPeriodicTick, if_pos isDue] at ticked
          exact ⟨ticked, by simp⟩
        · simp only [Option.some.injEq, Prod.mk.injEq] at stepTo
          obtain ⟨rfl, rfl⟩ := stepTo
          simpa using before
  | tickSend =>
      simp only [rgdHookWithTimerStep] at stepTo
      split at stepTo
      · simp only [Option.some.injEq, Prod.mk.injEq] at stepTo
        obtain ⟨rfl, rfl⟩ := stepTo
        have idle : state.hook.zero.emittedRouteState = 0 := by simpa [endStillDue] using due
        refine ⟨before.consistent, fun _ => ?_⟩
        dsimp only
        rw [idle]
        exact agrees_snoc_of_shows trace
          (by simp [HookEvent.routeState, HookEvent.published, endRecords])
      · cases stepTo

end CarplayRgi
