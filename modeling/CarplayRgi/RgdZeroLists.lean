import CarplayRgi.RgdRouteStateDebounce
import CarplayRgi.RgdSlotVersions

/-!
# Lists and the debounced zero

A route state of zero that comes while a route is shown is held back, and so
is everything else that the same message says.  This file compares the list
after a 0x5201 with the list in it, and says when a held-back zero may end the
route without a further zero.
-/

namespace CarplayRgi

open RgdState

def HookLabel.isZeroUpdate : HookLabel → Bool
  | .message msgid raw _ _ =>
      decide (msgid = iap2MsgRouteGuidanceUpdate) &&
        decide ((rgdParseUpdate raw).routeState = some 0)
  | _ => false

def afterLabels (overlay : Bool) (labels : List HookLabel) (state : RgdState) : RgdState :=
  labels.foldl (fun state label => (rgdHookStep overlay label state).1) state

/-- The tick may publish an end without a further zero. -/
def EndMayFollow (overlay : Bool) (state : RgdState) : Prop :=
  ∃ labels now, (∀ label ∈ labels, label.isZeroUpdate = false) ∧
    zeroIsDue now (afterLabels overlay labels state) = true

/-- A zero is waiting for its deadline. -/
def RouteZero.Expires (zero : RouteZero) : Prop :=
  zero.startedMs ≠ 0 ∧ zero.emittedRouteState ≠ 0 ∧ zero.fromReroute = false ∧
    zero.deadlineMs ≠ 0

theorem zeroIsDue_iff (now : Nat) (state : RgdState) :
    zeroIsDue now state = true ↔ state.zero.Expires ∧ state.zero.deadlineMs ≤ now := by
  simp [zeroIsDue, RouteZero.Expires]
  tauto

theorem not_expires_of_idle {zero : RouteZero} (idle : zero.startedMs = 0) : ¬zero.Expires :=
  fun expires => expires.1 idle

namespace RgdState

/-- A maneuver record cancels a pending zero. -/
theorem handleManeuver_idle (overlay : Bool) (stack : RgdKey → List UInt8) (man : RgdManeuver)
    (state : RgdState) : (handleManeuver overlay stack man state).1.zero.startedMs = 0 := by
  rcases handleManeuver_cases overlay stack man state with ignored | ⟨idx, extra, -, -, written⟩
  · rw [ignored]
    exact rgdCancelPendingZero_started state
  · obtain ⟨maneuvers, storedEq⟩ := storeManeuver_frame idx man (rgdCancelPendingZero state)
    rw [written]
    dsimp only
    rw [(writeBusSnapshotFromCache_keeps overlay stack extra none _).zero, storedEq]
    exact rgdCancelPendingZero_started state

/-- So does a lane record. -/
theorem handleLane_idle (overlay : Bool) (stack : RgdKey → List UInt8) (lane : RgdLaneGuidance)
    (state : RgdState) : (handleLane overlay stack lane state).1.zero.startedMs = 0 := by
  obtain ⟨lanes, laneSlot, storedEq⟩ := storeLane_frame lane (rgdCancelPendingZero state)
  rcases handleLane_cases overlay stack lane state with ignored | stored | ⟨extra, written⟩
  · rw [ignored]
    exact rgdCancelPendingZero_started state
  · rw [stored, storedEq]
    exact rgdCancelPendingZero_started state
  · rw [written, (writeBusSnapshotFromCache_keeps overlay stack extra _ _).zero, storedEq]
    exact rgdCancelPendingZero_started state

/-- An update without a zero starts no waiting. -/
theorem handleUpdate_not_expires (overlay : Bool) (stack : RgdKey → List UInt8) (now : Nat)
    {upd : RgdUpdate} {state : RgdState} (notZero : upd.routeState ≠ some 0)
    (calm : ¬state.zero.Expires) :
    ¬(handleUpdate overlay stack now upd state).1.zero.Expires := by
  obtain ⟨debounced, events, held, -, outcome, result⟩ :=
    handleUpdate_cases overlay stack now upd state
  have debouncedCalm : ¬debounced.zero.Expires := by
    cases outcome with
    | hardClear isZero | passZero isZero | flushZero isZero | holdZero isZero =>
        exact absurd isZero notZero
    | positive routeState =>
        exact not_expires_of_idle (rgdCancelPendingZero_started (noteRaw routeState _))
    | evidence => exact not_expires_of_idle (rgdCancelPendingZero_started _)
    | held => exact calm
    | passed => exact calm
  rcases result with ⟨-, heldEq⟩ | ⟨-, acceptedEq⟩
  · rw [heldEq]
    exact debouncedCalm
  · rw [acceptedEq, acceptUpdate_zero]
    exact debouncedCalm

theorem rgdLazyInit_not_expires (overlay : Bool) {state : RgdState}
    (calm : ¬state.zero.Expires) : ¬(rgdLazyInit overlay state).1.zero.Expires := by
  unfold rgdLazyInit
  split
  · exact calm
  · apply not_expires_of_idle
    cases overlay <;> rfl

end RgdState

theorem rgdHookStep_not_expires (overlay : Bool) {label : HookLabel} {state : RgdState}
    (notZero : label.isZeroUpdate = false) (calm : ¬state.zero.Expires) :
    ¬(rgdHookStep overlay label state).1.zero.Expires := by
  cases label with
  | message msgid raw now stack =>
      have ready := rgdLazyInit_not_expires overlay calm
      change ¬(handleFrame overlay msgid raw now stack (rgdLazyInit overlay state).1).1.zero.Expires
      unfold handleFrame
      split_ifs with isUpdate
      · refine handleUpdate_not_expires overlay stack now ?_ ready
        simpa [HookLabel.isZeroUpdate, isUpdate] using notZero
      · exact not_expires_of_idle (handleManeuver_idle overlay stack _ _)
      · exact not_expires_of_idle (handleLane_idle overlay stack _ _)
      · exact ready
  | tick now =>
      change ¬(rgdPeriodicTick now state).1.zero.Expires
      unfold rgdPeriodicTick
      split
      · exact not_expires_of_idle rfl
      · exact calm
  | clear reason =>
      apply not_expires_of_idle
      cases overlay <;> rfl

theorem endMayFollow_iff (overlay : Bool) (state : RgdState) :
    EndMayFollow overlay state ↔ state.zero.Expires := by
  constructor
  · rintro ⟨labels, now, noZero, isDue⟩
    by_contra calm
    have stillCalm : ¬(afterLabels overlay labels state).zero.Expires := by
      clear isDue
      induction labels generalizing state with
      | nil => exact calm
      | cons label labels ih =>
          refine ih _ (fun later member => noZero later (List.mem_cons_of_mem _ member)) ?_
          exact rgdHookStep_not_expires overlay (noZero label List.mem_cons_self) calm
    exact stillCalm ((zeroIsDue_iff now _).mp isDue).1
  · intro expires
    refine ⟨[], state.zero.deadlineMs, by simp, ?_⟩
    exact (zeroIsDue_iff _ _).mpr ⟨expires, Nat.le_refl _⟩

/-- A zero that will not be passed on: it does not clear, and a route is
shown. -/
def HoldsZero (upd : RgdUpdate) (state : RgdState) : Prop :=
  upd.routeState = some 0 ∧ isHardClear upd = false ∧ state.zero.emittedRouteState ≠ 0

/-- An update that says nothing while a zero is pending. -/
def HoldsReset (upd : RgdUpdate) (state : RgdState) : Prop :=
  upd.routeState = none ∧ rgdUpdateHasActiveEvidence upd = false ∧ isHardClear upd = false ∧
    state.zero.startedMs ≠ 0

/-- A zero that is held back at this time waits for a deadline. -/
def GetsDeadline (now : Nat) (state : RgdState) : Prop :=
  if state.zero.startedMs = 0 then
    now ≠ 0 ∧ zeroFromReroute state.zero.lastRouteState state = false ∧
      (now + routeZeroNormalGraceMs) % 2 ^ 64 ≠ 0
  else state.zero.fromReroute = false ∧ state.zero.deadlineMs ≠ 0

/-- What a 0x5201 must leave behind. -/
structure ZeroKeepsList (overlay : Bool) (upd : RgdUpdate) (after : RgdState) : Prop where
  list : ∀ list, upd.maneuverList = some list → isHardClear upd = false →
    after.listedIndexes = list.take maxManeuverList
  noEnd : rgdUpdateHasActiveEvidence upd = true → ¬EndMayFollow overlay after

/-- A zero that is held back carries the list that the reset leaves, and no
evidence of a route that its deadline would end; an update that is held back
with it carries the list that is there. -/
structure HeldBackHarmless (upd : RgdUpdate) (now : Nat) (state : RgdState) : Prop where
  zero : HoldsZero upd state →
    (∀ list, upd.maneuverList = some list → list.take maxManeuverList =
      if 0 < state.zero.lastRouteState then [] else state.listedIndexes) ∧
    (rgdUpdateHasActiveEvidence upd = true → ¬GetsDeadline now state)
  reset : HoldsReset upd state →
    ∀ list, upd.maneuverList = some list → list.take maxManeuverList = state.listedIndexes

theorem startPendingZero_expires_iff (now : Nat) (state : RgdState)
    (shown : state.zero.emittedRouteState ≠ 0) {emptied : RgdState}
    (zero : emptied.zero = (noteRaw 0 state).zero) :
    (startPendingZero now (zeroFromReroute state.zero.lastRouteState (noteRaw 0 state))
      emptied).zero.Expires ↔ GetsDeadline now state := by
  have reroute : zeroFromReroute state.zero.lastRouteState (noteRaw 0 state) =
      zeroFromReroute state.zero.lastRouteState state := rfl
  have started : emptied.zero.startedMs = state.zero.startedMs := by rw [zero]; rfl
  unfold startPendingZero GetsDeadline RouteZero.Expires
  rw [reroute, started]
  split
  · dsimp only
    rw [zero]
    cases zeroFromReroute state.zero.lastRouteState state <;> simp [noteRaw, shown]
  · rename_i waiting
    rw [zero]
    simp [noteRaw, shown, waiting]

/-- An update that is passed on keeps its list and leaves no waiting zero. -/
theorem acceptUpdate_keepsList (overlay : Bool) (stack : RgdKey → List UInt8) {upd : RgdUpdate}
    {state : RgdState} (calm : rgdUpdateHasActiveEvidence upd = true → ¬state.zero.Expires) :
    ZeroKeepsList overlay upd (acceptUpdate overlay stack upd state).1 where
  list := by
    intro list listEq _
    rw [listedIndexes, acceptUpdate_currentList, listEq]
    rfl
  noEnd := by
    rw [endMayFollow_iff, acceptUpdate_zero]
    exact calm

/-- A zero that is held back. -/
theorem heldZero_keepsList_iff (overlay : Bool) {upd : RgdUpdate} {now : Nat}
    {state after : RgdState} (holds : HoldsZero upd state)
    (list : after.listedIndexes =
      if 0 < state.zero.lastRouteState then [] else state.listedIndexes)
    (expires : after.zero.Expires ↔ GetsDeadline now state) :
    ZeroKeepsList overlay upd after ↔ HeldBackHarmless upd now state := by
  constructor
  · intro keeps
    refine ⟨fun _ => ⟨fun indexes listEq => ?_, fun evident => ?_⟩, fun reset => ?_⟩
    · rw [← keeps.list indexes listEq holds.2.1, list]
    · rw [← expires, ← endMayFollow_iff overlay]
      exact keeps.noEnd evident
    · rw [HoldsReset, holds.1] at reset
      cases reset.1
  · intro harmless
    obtain ⟨sameList, noDeadline⟩ := harmless.zero holds
    refine ⟨fun indexes listEq _ => ?_, fun evident => ?_⟩
    · rw [list, sameList indexes listEq]
    · rw [endMayFollow_iff, expires]
      exact noDeadline evident

theorem handleUpdate_keepsList_iff (overlay : Bool) (stack : RgdKey → List UInt8) (now : Nat)
    (upd : RgdUpdate) (state : RgdState) :
    ZeroKeepsList overlay upd (handleUpdate overlay stack now upd state).1 ↔
      HeldBackHarmless upd now state := by
  obtain ⟨debounced, events, held, -, outcome, result⟩ :=
    handleUpdate_cases overlay stack now upd state
  have soft : upd.sourceSupportsRouteGuidance ≠ some 0 → isHardClear upd = false := by
    intro notHard
    simpa [isHardClear] using notHard
  -- An update that is passed on meets both sides.
  have passes : held = false → ¬HoldsZero upd state → ¬HoldsReset upd state →
      (rgdUpdateHasActiveEvidence upd = true → ¬debounced.zero.Expires) →
      (ZeroKeepsList overlay upd (handleUpdate overlay stack now upd state).1 ↔
        HeldBackHarmless upd now state) := by
    intro notHeld noZero noReset calm
    rcases result with ⟨isHeld, -⟩ | ⟨-, accepted⟩
    · rw [notHeld] at isHeld
      cases isHeld
    · rw [accepted]
      exact ⟨fun _ => ⟨fun holds => absurd holds noZero, fun holds => absurd holds noReset⟩,
        fun _ => acceptUpdate_keepsList overlay stack calm⟩
  have stays : held = true → (handleUpdate overlay stack now upd state).1 = debounced := by
    intro isHeld
    rcases result with ⟨-, heldEq⟩ | ⟨notHeld, -⟩
    · rw [heldEq]
    · rw [isHeld] at notHeld
      cases notHeld
  cases outcome with
  | hardClear isZero hard =>
      refine passes rfl ?_ ?_ ?_
      · rintro ⟨-, soft, -⟩
        simp [isHardClear, hard] at soft
      · rintro ⟨noState, -⟩
        rw [isZero] at noState
        cases noState
      · exact fun _ => not_expires_of_idle (rgdCancelPendingZero_started _)
  | passZero isZero notHard notShown =>
      refine passes rfl ?_ ?_ ?_
      · rintro ⟨-, -, shown⟩
        exact shown notShown
      · rintro ⟨noState, -⟩
        rw [isZero] at noState
        cases noState
      · exact fun _ expires => expires.2.1 notShown
  | flushZero isZero notHard shown previous =>
      rw [stays rfl]
      refine heldZero_keepsList_iff overlay ⟨isZero, soft notHard, shown⟩ ?_ ?_
      · rw [if_pos previous, listedIndexes, startPendingZero_currentList]
        rfl
      · exact startPendingZero_expires_iff now _ shown rfl
  | holdZero isZero notHard shown previous =>
      rw [stays rfl]
      refine heldZero_keepsList_iff overlay ⟨isZero, soft notHard, shown⟩ ?_ ?_
      · rw [if_neg (by simp at previous; omega), listedIndexes, startPendingZero_currentList]
        rfl
      · exact startPendingZero_expires_iff now _ shown rfl
  | positive routeState isState notZero =>
      refine passes rfl ?_ ?_ ?_
      · rintro ⟨isZero, -, -⟩
        rw [isState, Option.some.injEq] at isZero
        exact notZero isZero
      · rintro ⟨noState, -⟩
        rw [isState] at noState
        cases noState
      · exact fun _ => not_expires_of_idle (rgdCancelPendingZero_started (noteRaw routeState _))
  | evidence noState evident =>
      refine passes rfl ?_ ?_ ?_
      · rintro ⟨isZero, -, -⟩
        rw [noState] at isZero
        cases isZero
      · rintro ⟨-, silent, -⟩
        rw [evident] at silent
        cases silent
      · exact fun _ => not_expires_of_idle (rgdCancelPendingZero_started _)
  | held noState silent notHard pending =>
      rw [stays rfl]
      constructor
      · intro keeps
        refine ⟨fun holds => ?_, fun _ indexes listEq => ?_⟩
        · rw [HoldsZero, noState] at holds
          cases holds.1
        · exact (keeps.list indexes listEq (soft notHard)).symm
      · intro harmless
        refine ⟨fun indexes listEq _ => ?_, fun evident => ?_⟩
        · exact (harmless.reset ⟨noState, silent, soft notHard, pending⟩ indexes listEq).symm
        · rw [silent] at evident
          cases evident
  | passed noState silent unheld =>
      refine passes rfl ?_ ?_ ?_
      · rintro ⟨isZero, -, -⟩
        rw [noState] at isZero
        cases isZero
      · rintro ⟨-, -, soft, pending⟩
        rcases unheld with hard | idle
        · simp [isHardClear, hard] at soft
        · exact pending idle
      · intro evident
        rw [silent] at evident
        cases evident

/-- Handling any 0x5201 in any state of the hook. -/
theorem zero_keeps_list_iff (overlay : Bool) (raw : List UInt8) (now : Nat)
    (stack : RgdKey → List UInt8) (state : RgdState) :
    ZeroKeepsList overlay (rgdParseUpdate raw)
        (rgdMessageHandler overlay iap2MsgRouteGuidanceUpdate raw now stack state).1 ↔
      HeldBackHarmless (rgdParseUpdate raw) now (rgdLazyInit overlay state).1 :=
  handleUpdate_keepsList_iff overlay stack now (rgdParseUpdate raw) (rgdLazyInit overlay state).1

/-- The hook after a zero with a new list. -/
def afterZeroWithList (overlay : Bool) (state : RgdState) : RgdState :=
  (rgdMessageHandler overlay iap2MsgRouteGuidanceUpdate (listFrame 0 0 2) 2000 (fun _ => [])
    state).1

/-- While a route is shown the new list is not adopted, and the end follows at
the deadline. -/
theorem held_zero_loses_list : ∃ state history, (rgdHook false).Run state history ∧
    (rgdParseUpdate (listFrame 0 0 2)).maneuverList = some [2] ∧
    (afterZeroWithList false state).listedIndexes = [] ∧
    EndMayFollow false (afterZeroWithList false state) ∧
    ¬ZeroKeepsList false (rgdParseUpdate (listFrame 0 0 2)) (afterZeroWithList false state) := by
  have carries : (rgdParseUpdate (listFrame 0 0 2)).maneuverList = some [2] ∧
      rgdUpdateHasActiveEvidence (rgdParseUpdate (listFrame 0 0 2)) = true := by decide +kernel
  obtain ⟨state, history, run, checked⟩ := (rgdHook false).exists_run_of_replay
    [.message iap2MsgRouteGuidanceUpdate (listFrame 1 0 1) 1000 (fun _ => [])]
    (fun (state, _) => decide ((afterZeroWithList false state).listedIndexes = [] ∧
      zeroIsDue 2800 (afterZeroWithList false state) = true))
    (by decide +kernel)
  obtain ⟨empty, isDue⟩ := of_decide_eq_true checked
  have follows : EndMayFollow false (afterZeroWithList false state) :=
    ⟨[], 2800, by simp, isDue⟩
  exact ⟨state, history, run, carries.1, empty, follows, fun keeps => keeps.noEnd carries.2 follows⟩

end CarplayRgi
