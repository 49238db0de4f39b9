import CarplayRgi.RouteView

/-!
# Routes one after another

Closing a route settles the debounce, but leaves the receiver with the trip it
has been told.  Two histories that close a route and go on with the same
inputs agree on a field of the trip exactly when they agreed on it at the
close, or an update with the field has been accepted since.
-/

namespace CarplayRgi

open RgdState RouteGuidance

inductive TripField where
  | distDestM
  | distManeuverM
  | etaSeconds
  | timeRemainingSeconds
  | currentRoad
  | destination

namespace TripField

def Agree : TripField → TripFields → TripFields → Prop
  | .distDestM, first, second => first.distDestM = second.distDestM
  | .distManeuverM, first, second => first.distManeuverM = second.distManeuverM
  | .etaSeconds, first, second => first.etaSeconds = second.etaSeconds
  | .timeRemainingSeconds, first, second =>
      first.timeRemainingSeconds = second.timeRemainingSeconds
  | .currentRoad, first, second => first.currentRoad = second.currentRoad
  | .destination, first, second => first.destination = second.destination

instance : (field : TripField) → (first second : TripFields) → Decidable (field.Agree first second)
  | .distDestM, first, second => inferInstanceAs (Decidable (first.distDestM = second.distDestM))
  | .distManeuverM, first, second =>
      inferInstanceAs (Decidable (first.distManeuverM = second.distManeuverM))
  | .etaSeconds, first, second =>
      inferInstanceAs (Decidable (first.etaSeconds = second.etaSeconds))
  | .timeRemainingSeconds, first, second =>
      inferInstanceAs (Decidable (first.timeRemainingSeconds = second.timeRemainingSeconds))
  | .currentRoad, first, second =>
      inferInstanceAs (Decidable (first.currentRoad = second.currentRoad))
  | .destination, first, second =>
      inferInstanceAs (Decidable (first.destination = second.destination))

/-- The update has a value for the field. -/
def inUpdate : TripField → RgdUpdate → Bool
  | .distDestM, upd => upd.distanceRemaining.isSome
  | .distManeuverM, upd => upd.distToManeuver.isSome
  | .etaSeconds, upd => upd.eta.isSome
  | .timeRemainingSeconds, upd => upd.timeRemaining.isSome
  | .currentRoad, upd => upd.currentRoad.isSome
  | .destination, upd => upd.destination.isSome

/-- The event is an accepted update with the field, or a reset. -/
def toldBy (field : TripField) : HookEvent → Bool
  | .accepted upd _ => field.inUpdate upd
  | .stateCleared => true
  | _ => false

def ToldIn (field : TripField) (events : List HookEvent) : Prop :=
  ∃ event ∈ events, field.toldBy event = true

theorem agree_refl (field : TripField) (trip : TripFields) : field.Agree trip trip := by
  cases field <;> rfl

theorem forall_agree_iff {first second : TripFields} :
    (∀ field : TripField, field.Agree first second) ↔ first = second := by
  refine ⟨fun agree => ?_, fun same field => same ▸ agree_refl field first⟩
  have distDest := agree .distDestM
  have distManeuver := agree .distManeuverM
  have eta := agree .etaSeconds
  have timeRemaining := agree .timeRemainingSeconds
  have road := agree .currentRoad
  have destination := agree .destination
  cases first
  cases second
  simp only [Agree] at distDest distManeuver eta timeRemaining road destination
  simp only [TripFields.mk.injEq]
  exact ⟨distDest, distManeuver, eta, timeRemaining, road, destination⟩

theorem getD_map_eq_iff {Value Field : Type} (read : Value → Field) (value : Option Value)
    (first second : Field) :
    (value.map read).getD first = (value.map read).getD second ↔
      value.isSome = true ∨ first = second := by
  cases value <;> simp

/-- An update makes the fields agree that it has. -/
theorem agree_tellTrip (field : TripField) (upd : RgdUpdate) (first second : TripFields) :
    field.Agree (upd.tellTrip first) (upd.tellTrip second) ↔
      field.inUpdate upd = true ∨ field.Agree first second := by
  cases field with
  | distDestM | distManeuverM | etaSeconds | timeRemainingSeconds =>
      exact getD_map_eq_iff _ _ _ _
  | currentRoad => exact getD_map_eq_iff (fun road => some (receivedText road)) _ _ _
  | destination => exact getD_map_eq_iff (fun place => some (receivedText place)) _ _ _

theorem toldIn_append {field : TripField} {events later : List HookEvent} :
    field.ToldIn (events ++ later) ↔ field.ToldIn events ∨ field.ToldIn later := by
  simp only [ToldIn, List.mem_append, or_and_right, exists_or]

theorem toldIn_cons {field : TripField} {event : HookEvent} {events : List HookEvent} :
    field.ToldIn (event :: events) ↔ field.toldBy event = true ∨ field.ToldIn events := by
  simp [ToldIn]

theorem not_toldIn {field : TripField} {events : List HookEvent}
    (quiet : ∀ event ∈ events, field.toldBy event = false) : ¬field.ToldIn events := by
  rintro ⟨event, member, told⟩
  rw [quiet event member] at told
  cases told

/-- Whether a label tells the field to a hook with the debounce fields. -/
def tells (field : TripField) (zero : RouteZero) : HookLabel → Bool
  | .message msgid raw now _ =>
      decide (msgid = iap2MsgRouteGuidanceUpdate) && !(zero.debounce (rgdParseUpdate raw) now).2 &&
        field.inUpdate (rgdParseUpdate raw)
  | .tick _ => false
  | .clear _ => true

theorem not_toldIn_snapshot (field : TripField) (overlay : Bool) (stack : RgdKey → List UInt8)
    (extraMan : Option RgdManeuver) (currentUpd : Option RgdUpdate) (state : RgdState) :
    ¬field.ToldIn (writeBusSnapshotFromCache overlay stack extraMan currentUpd state).2 := by
  refine not_toldIn fun event member => ?_
  rcases mem_writeBusSnapshotFromCache member with rfl | rfl <;> rfl

theorem toldIn_acceptUpdate (field : TripField) (overlay : Bool) (stack : RgdKey → List UInt8)
    (upd : RgdUpdate) (state : RgdState) :
    field.ToldIn (acceptUpdate overlay stack upd state).2 ↔ field.inUpdate upd = true := by
  rcases acceptUpdate_cases overlay stack upd state with ⟨rfl, skipped⟩ | ⟨-, written⟩
  · rw [skipped, toldIn_cons]
    exact or_iff_left (not_toldIn (by simp))
  · rw [written, toldIn_cons]
    exact or_iff_left (not_toldIn_snapshot field overlay stack _ _ _)

theorem toldIn_handleUpdate (field : TripField) (overlay : Bool) (stack : RgdKey → List UInt8)
    (now : Nat) (upd : RgdUpdate) (state : RgdState) :
    field.ToldIn (handleUpdate overlay stack now upd state).2 ↔
      (state.zero.debounce upd now).2 = false ∧ field.inUpdate upd = true := by
  obtain ⟨debounced, events, held, decidedEq, outcome, result⟩ :=
    handleUpdate_cases overlay stack now upd state
  have heldEq := (debounceUpdate_zero upd now { state with haveUpdate := true }).2
  rw [decidedEq] at heldEq
  dsimp only at heldEq
  have quiet : ¬field.ToldIn (.routeUpdate upd :: events) := not_toldIn fun event member => by
    rcases List.mem_cons.mp member with rfl | reset
    · rfl
    · obtain ⟨suppressed, rfl⟩ := outcome.events_eq reset
      rfl
  rw [← heldEq]
  rcases result with ⟨rfl, result⟩ | ⟨rfl, result⟩
  · rw [result]
    simp [quiet]
  · rw [result, ← List.cons_append, toldIn_append, toldIn_acceptUpdate]
    simp [quiet]

theorem not_toldIn_handleManeuver (field : TripField) (overlay : Bool)
    (stack : RgdKey → List UInt8) (man : RgdManeuver) (state : RgdState) :
    ¬field.ToldIn (handleManeuver overlay stack man state).2 := by
  rcases handleManeuver_cases overlay stack man state with
    skipped | ⟨idx, extraMan, -, -, written⟩
  · rw [skipped]
    exact not_toldIn (by simp)
  · rw [written, toldIn_append, not_or]
    refine ⟨not_toldIn fun event member => ?_, not_toldIn_snapshot field overlay stack _ _ _⟩
    rw [slotAssigned_of_mem_rgdSlotForIapIndex member]
    rfl

theorem not_toldIn_handleLane (field : TripField) (overlay : Bool) (stack : RgdKey → List UInt8)
    (lane : RgdLaneGuidance) (state : RgdState) :
    ¬field.ToldIn (handleLane overlay stack lane state).2 := by
  rcases handleLane_cases overlay stack lane state with skipped | stored | ⟨extraMan, written⟩
  · rw [skipped]
    exact not_toldIn (by simp)
  · rw [stored]
    exact not_toldIn (by simp)
  · rw [written]
    exact not_toldIn_snapshot field overlay stack _ _ _

theorem toldIn_rgdHookStep (field : TripField) {hook : RgdState}
    (initialized : hook.initialized = true) (overlay : Bool) (label : HookLabel) :
    field.ToldIn (rgdHookStep overlay label hook).2 ↔ field.tells hook.zero label = true := by
  cases label with
  | message msgid raw now stack =>
      have handled : rgdHookStep overlay (.message msgid raw now stack) hook =
          handleFrame overlay msgid raw now stack hook := by
        simp [rgdHookStep, rgdMessageHandler, TracedOp.andThen, rgdLazyInit, initialized]
      rw [handled]
      dsimp only [handleFrame, tells]
      by_cases isUpdate : msgid = iap2MsgRouteGuidanceUpdate
      · rw [if_pos isUpdate, toldIn_handleUpdate]
        simp [isUpdate]
      · have untold : ¬field.ToldIn
            ((if msgid = iap2MsgRouteGuidanceManeuver then
                handleManeuver overlay stack (rgdParseManeuver raw)
              else if msgid = iap2MsgRouteGuidanceLane then
                handleLane overlay stack (rgdParseLaneGuidance raw)
              else TracedOp.silent id) hook).2 := by
          split_ifs
          · exact not_toldIn_handleManeuver field overlay stack _ hook
          · exact not_toldIn_handleLane field overlay stack _ hook
          · exact not_toldIn (by simp [TracedOp.silent])
        rw [if_neg isUpdate]
        simp [untold, isUpdate]
  | tick now =>
      have untold : ¬field.ToldIn (rgdPeriodicTick now hook).2 := by
        refine not_toldIn fun event member => ?_
        unfold rgdPeriodicTick at member
        split_ifs at member
        · rw [List.mem_singleton.mp member]
          rfl
        · cases member
      simp [rgdHookStep, untold, tells]
  | clear reason =>
      refine iff_of_true ⟨.stateCleared, ?_, rfl⟩ rfl
      simp [rgdHookStep, rgdClearState]

end TripField

/-- The same input; what the unwritten buffers hold may differ. -/
inductive HookLabel.SameInput : HookLabel → HookLabel → Prop
  | message (msgid : Nat) (raw : List UInt8) (now : Nat) (stack other : RgdKey → List UInt8) :
      SameInput (.message msgid raw now stack) (.message msgid raw now other)
  | tick (now : Nat) : SameInput (.tick now) (.tick now)
  | clear (reason : ClearReason) : SameInput (.clear reason) (.clear reason)

variable {view other : TripView} {label otherLabel : HookLabel}

theorem TripView.step_alike (alike : view.zero.Alike other.zero)
    (same : label.SameInput otherLabel) :
    (view.step label).zero.Alike (other.step otherLabel).zero := by
  cases same with
  | message msgid raw now =>
      dsimp only [TripView.step]
      by_cases isUpdate : msgid = iap2MsgRouteGuidanceUpdate
      · rw [if_pos isUpdate, if_pos isUpdate]
        exact (alike.debounce (rgdParseUpdate raw) now).1
      · rw [if_neg isUpdate, if_neg isUpdate]
        split_ifs
        · exact alike.cancel
        · exact alike
  | tick now =>
      dsimp only [TripView.step]
      rw [alike.isDue now]
      split_ifs
      · exact alike.claimed
      · exact alike
  | clear reason => exact .inl rfl

theorem TripView.step_agree (alike : view.zero.Alike other.zero)
    (same : label.SameInput otherLabel) (field : TripField) :
    field.Agree (view.step label).trip (other.step otherLabel).trip ↔
      field.tells view.zero label = true ∨ field.Agree view.trip other.trip := by
  cases same with
  | message msgid raw now =>
      dsimp only [TripView.step, TripField.tells]
      by_cases isUpdate : msgid = iap2MsgRouteGuidanceUpdate
      · rw [if_pos isUpdate, if_pos isUpdate, ← (alike.debounce (rgdParseUpdate raw) now).2]
        dsimp only
        cases (view.zero.debounce (rgdParseUpdate raw) now).2 with
        | true => simp
        | false => simp [isUpdate, TripField.agree_tellTrip]
      · rw [if_neg isUpdate, if_neg isUpdate]
        split_ifs <;> simp [isUpdate]
  | tick now => simp [TripView.step, TripField.tells]
  | clear reason => simp [TripView.step, TripField.tells, TripField.agree_refl]

/-- The links hold back the same updates, and no cached value is still untold. -/
structure Paired (first second : GuidanceLink) : Prop where
  firstReady : first.Ready
  secondReady : second.Ready
  initialized : first.hook.initialized = true
  alike : first.hook.zero.Alike second.hook.zero
  firstSynced : first.Synced
  secondSynced : second.Synced

variable {overlay : Bool} {first second : GuidanceLink}

theorem Paired.step (paired : Paired first second) (same : label.SameInput otherLabel)
    (firstSent : .overflowed ∉ (rgdHookStep overlay label first.hook).2)
    (secondSent : .overflowed ∉ (rgdHookStep overlay otherLabel second.hook).2) :
    Paired (first.after (rgdHookStep overlay label first.hook))
        (second.after (rgdHookStep overlay otherLabel second.hook)) ∧
      ∀ field : TripField,
        (field.Agree (first.after (rgdHookStep overlay label first.hook)).trip
            (second.after (rgdHookStep overlay otherLabel second.hook)).trip ↔
          field.ToldIn (rgdHookStep overlay label first.hook).2 ∨
            field.Agree first.trip second.trip) := by
  have firstLeads := rgdHookStep_leads paired.firstReady overlay label
  have secondLeads := rgdHookStep_leads paired.secondReady overlay otherLabel
  obtain ⟨firstSynced, firstTrip⟩ := firstLeads.told paired.firstSynced firstSent
  obtain ⟨secondSynced, secondTrip⟩ := secondLeads.told paired.secondSynced secondSent
  have alike : (first.after (rgdHookStep overlay label first.hook)).hook.zero.Alike
      (second.after (rgdHookStep overlay otherLabel second.hook)).hook.zero := by
    have stepped : (first.view.step label).zero.Alike (second.view.step otherLabel).zero :=
      TripView.step_alike paired.alike same
    rw [← firstLeads.zero, ← secondLeads.zero] at stepped
    exact stepped
  refine ⟨⟨firstLeads.ready, secondLeads.ready, firstLeads.initialized paired.initialized, alike,
    firstSynced, secondSynced⟩, fun field => ?_⟩
  rw [firstTrip, secondTrip, TripField.toldIn_rgdHookStep field paired.initialized]
  exact @TripView.step_agree first.view second.view _ _ paired.alike same field

theorem guidanceLink_replay_cons {link last : GuidanceLink} {labels : List HookLabel}
    {events : List HookEvent}
    (replayed : (guidanceLink overlay).replay (fun _ _ => true) link (label :: labels) =
      some (last, events)) :
    ∃ later, (guidanceLink overlay).replay (fun _ _ => true)
        (link.after (rgdHookStep overlay label link.hook)) labels = some (last, later) ∧
      events = (rgdHookStep overlay label link.hook).2 ++ later := by
  simp only [TracedSystem.replay, if_true, guidanceLink, guidanceLinkStep] at replayed
  split at replayed
  · cases replayed
  · rename_i final later rest
    obtain ⟨rfl, rfl⟩ : final = last ∧ _ = events := by
      simpa only [Option.some.injEq, Prod.mk.injEq] using replayed
    exact ⟨later, rest, rfl⟩

theorem Paired.replay {firstLabels secondLabels : List HookLabel}
    (same : List.Forall₂ HookLabel.SameInput firstLabels secondLabels)
    {firstLast secondLast : GuidanceLink} {firstEvents secondEvents : List HookEvent}
    (paired : Paired first second)
    (firstReplay : (guidanceLink overlay).replay (fun _ _ => true) first firstLabels =
      some (firstLast, firstEvents))
    (secondReplay : (guidanceLink overlay).replay (fun _ _ => true) second secondLabels =
      some (secondLast, secondEvents))
    (firstSent : .overflowed ∉ firstEvents) (secondSent : .overflowed ∉ secondEvents)
    (field : TripField) :
    field.Agree firstLast.trip secondLast.trip ↔
      field.ToldIn firstEvents ∨ field.Agree first.trip second.trip := by
  induction same generalizing first second firstEvents secondEvents with
  | nil =>
      simp only [TracedSystem.replay, Option.some.injEq, Prod.mk.injEq] at firstReplay secondReplay
      obtain ⟨rfl, rfl⟩ := firstReplay
      obtain ⟨rfl, rfl⟩ := secondReplay
      simp [TripField.ToldIn]
  | cons sameLabel sameLabels ih =>
      obtain ⟨firstLater, firstRest, rfl⟩ := guidanceLink_replay_cons firstReplay
      obtain ⟨secondLater, secondRest, rfl⟩ := guidanceLink_replay_cons secondReplay
      rw [List.mem_append, not_or] at firstSent secondSent
      obtain ⟨pairedAfter, agree⟩ := paired.step sameLabel firstSent.1 secondSent.1
      rw [ih pairedAfter firstRest secondRest firstSent.2 secondSent.2, agree field,
        TripField.toldIn_append]
      tauto

theorem guidanceLink_ready {link : GuidanceLink} {trace : List HookEvent}
    (run : (guidanceLink overlay).Run link trace) :
    link.Ready ∧ (.overflowed ∉ trace → link.Synced) := by
  refine run.invariant (fun link trace => link.Ready ∧ (.overflowed ∉ trace → link.Synced))
    ⟨⟨⟨rfl, rfl⟩, .inr rfl⟩, fun _ => rfl⟩ ?_
  intro link next trace events label before _ stepTo
  obtain ⟨rfl, rfl⟩ : link.after (rgdHookStep overlay label link.hook) = next ∧
      (rgdHookStep overlay label link.hook).2 = events := by
    simpa [guidanceLink, guidanceLinkStep, GuidanceLink.after, Prod.ext_iff] using stepTo
  have leads := rgdHookStep_leads before.1 overlay label
  refine ⟨leads.ready, fun sent => ?_⟩
  rw [List.mem_append, not_or] at sent
  exact (leads.told (before.2 sent.1) sent.2).1

/-- The label ends an active route: a zero that was held back is due, or the
source of a zero has no guidance, or the whole state is cleared. -/
inductive ClosesRoute (hook : RgdState) : HookLabel → Prop
  | tick {now : Nat} : zeroIsDue now hook = true → ClosesRoute hook (.tick now)
  | hardClear {raw : List UInt8} {now : Nat} {stack : RgdKey → List UInt8} :
      hook.zero.emittedRouteState ≠ 0 → (rgdParseUpdate raw).routeState = some 0 →
      (rgdParseUpdate raw).sourceSupportsRouteGuidance = some 0 →
      ClosesRoute hook (.message iap2MsgRouteGuidanceUpdate raw now stack)
  | clear (reason : ClearReason) : hook.zero.emittedRouteState ≠ 0 →
      ClosesRoute hook (.clear reason)

/-- The link at the end of a history whose last step publishes the end of a
route. -/
inductive ClosedRoute (overlay : Bool) : GuidanceLink → Prop
  | ends {link : GuidanceLink} {trace : List HookEvent} {label : HookLabel} :
      (guidanceLink overlay).Run link trace → ClosesRoute link.hook label →
      .overflowed ∉ (rgdHookStep overlay label link.hook).2 →
      ClosedRoute overlay (link.after (rgdHookStep overlay label link.hook))

theorem ClosesRoute.emitted {hook : RgdState} (closes : ClosesRoute hook label) :
    hook.zero.emittedRouteState ≠ 0 := by
  cases closes with
  | tick due =>
      simp only [zeroIsDue, Bool.and_eq_true, Bool.not_eq_true', Bool.or_eq_false_iff,
        decide_eq_false_iff_not] at due
      exact due.1.1.2
  | hardClear active => exact active
  | clear reason active => exact active

/-- Nothing of the debounce is left of a closed route. -/
theorem ClosesRoute.settled {link : GuidanceLink} (closes : ClosesRoute link.hook label) :
    (link.view.step label).zero.startedMs = 0 ∧
      (link.view.step label).zero.emittedRouteState = 0 := by
  cases closes with
  | tick due =>
      have isDue : link.hook.zero.isDue _ = true := due
      simp [TripView.step, GuidanceLink.view, isDue, RouteZero.claimed]
  | hardClear active ended hard =>
      have passed : ∀ zero : RouteZero, (((zero.note 0).cancel).emit 0).startedMs = 0 ∧
          (((zero.note 0).cancel).emit 0).emittedRouteState = 0 := by
        intro zero
        unfold RouteZero.cancel
        split_ifs with idle
        · exact ⟨idle, rfl⟩
        · exact ⟨rfl, rfl⟩
      simpa [TripView.step, RouteZero.debounce, ended, isHardClear, hard] using passed _
  | clear reason active => exact ⟨rfl, rfl⟩

theorem ClosedRoute.ready {link : GuidanceLink} (closed : ClosedRoute overlay link) :
    link.Ready ∧ link.hook.initialized = true ∧ link.hook.zero.startedMs = 0 ∧
      link.hook.zero.emittedRouteState = 0 := by
  obtain ⟨run, closes, -⟩ := closed
  rename_i before trace label
  have ready := (guidanceLink_ready run).1
  have initialized : before.hook.initialized = true := by
    refine ready.started.resolve_right fun fresh => closes.emitted ?_
    exact congrArg (fun view => view.zero.emittedRouteState) fresh
  have leads := rgdHookStep_leads ready overlay label
  refine ⟨leads.ready, leads.initialized initialized, ?_⟩
  have zero : (before.after (rgdHookStep overlay label before.hook)).hook.zero =
      (before.view.step label).zero := leads.zero
  rw [zero]
  exact closes.settled

theorem ClosedRoute.paired (firstClosed : ClosedRoute overlay first)
    (secondClosed : ClosedRoute overlay second) (firstSynced : first.Synced)
    (secondSynced : second.Synced) : Paired first second := by
  obtain ⟨firstReady, initialized, firstIdle, firstEnded⟩ := firstClosed.ready
  obtain ⟨secondReady, -, secondIdle, secondEnded⟩ := secondClosed.ready
  refine ⟨firstReady, secondReady, initialized, .inr ⟨firstIdle, secondIdle, ?_, ?_⟩, firstSynced,
    secondSynced⟩
  · rw [firstEnded, secondEnded]
  · exact fun active => absurd firstEnded active

/-- Two histories that have closed a route and take the same inputs show the
same trip exactly when every field on which they differed has been told since. -/
theorem closed_routes_isolated (firstClosed : ClosedRoute overlay first)
    (secondClosed : ClosedRoute overlay second) (firstSynced : first.Synced)
    (secondSynced : second.Synced) {firstLabels secondLabels : List HookLabel}
    (same : List.Forall₂ HookLabel.SameInput firstLabels secondLabels)
    {firstLast secondLast : GuidanceLink} {firstEvents secondEvents : List HookEvent}
    (firstReplay : (guidanceLink overlay).replay (fun _ _ => true) first firstLabels =
      some (firstLast, firstEvents))
    (secondReplay : (guidanceLink overlay).replay (fun _ _ => true) second secondLabels =
      some (secondLast, secondEvents))
    (firstSent : .overflowed ∉ firstEvents) (secondSent : .overflowed ∉ secondEvents) :
    firstLast.trip = secondLast.trip ↔
      ∀ field : TripField, field.ToldIn firstEvents ∨ field.Agree first.trip second.trip := by
  have paired := firstClosed.paired secondClosed firstSynced secondSynced
  rw [← TripField.forall_agree_iff]
  exact forall_congr' fun field =>
    paired.replay same firstReplay secondReplay firstSent secondSent field

/-- The receiver does not affect what the hook publishes. -/
theorem guidanceLink_replay_of_hook {labels : List HookLabel} {hook : RgdState}
    {events : List HookEvent} {link : GuidanceLink}
    (replayed : (rgdHook overlay).replay (fun _ _ => true) link.hook labels = some (hook, events)) :
    (guidanceLink overlay).replay (fun _ _ => true) link labels =
      some (link.after (hook, events), events) := by
  induction labels generalizing link events with
  | nil =>
      simp only [TracedSystem.replay, Option.some.injEq, Prod.mk.injEq] at replayed ⊢
      obtain ⟨rfl, rfl⟩ := replayed
      exact ⟨rfl, rfl⟩
  | cons label labels ih =>
      simp only [TracedSystem.replay, if_true, rgdHook] at replayed
      split at replayed
      · cases replayed
      · rename_i last later rest
        simp only [Option.some.injEq, Prod.mk.injEq] at replayed
        obtain ⟨rfl, rfl⟩ := replayed
        have tail := @ih later (link.after (rgdHookStep overlay label link.hook)) rest
        simp only [guidanceLink, TracedSystem.replay, if_true, guidanceLinkStep] at tail ⊢
        simp only [GuidanceLink.after, List.foldl_append] at tail ⊢
        rw [tail]

/-- Without loss, the view of a run is computed from its labels. -/
theorem guidanceLink_replay_view {labels : List HookLabel} {link last : GuidanceLink}
    {events : List HookEvent} (ready : link.Ready) (synced : link.Synced)
    (replayed : (guidanceLink overlay).replay (fun _ _ => true) link labels = some (last, events))
    (sent : .overflowed ∉ events) : last.view = labels.foldl TripView.step link.view := by
  induction labels generalizing link events with
  | nil =>
      simp only [TracedSystem.replay, Option.some.injEq, Prod.mk.injEq] at replayed
      rw [← replayed.1]
      rfl
  | cons label labels ih =>
      obtain ⟨later, rest, rfl⟩ := guidanceLink_replay_cons replayed
      rw [List.mem_append, not_or] at sent
      have leads := rgdHookStep_leads ready overlay label
      rw [ih leads.ready (leads.told synced sent.1).1 rest sent.2, leads.view_eq synced sent.1]
      rfl

def HookEvent.isSent : HookEvent → Bool
  | .overflowed => false
  | _ => true

theorem not_overflowed_of_isSent {events : List HookEvent}
    (sent : events.all HookEvent.isSent = true) : .overflowed ∉ events := by
  intro lost
  cases List.all_eq_true.mp sent _ lost

/-- Labels whose zero is due at the tick, and later ones whose events pass the
check, all without loss. -/
def closesThen (labels : List HookLabel) (due : Nat) (later : List HookLabel)
    (check : List HookEvent → Bool) : Bool :=
  ((rgdHook false).replay (fun _ _ => true) .initial labels).any fun before =>
    zeroIsDue due before.1 && before.2.all HookEvent.isSent &&
      ((rgdHook false).replay (fun _ _ => true) (rgdPeriodicTick due before.1).1 later).any
        fun after => after.2.all HookEvent.isSent && check after.2

theorem exists_closed_then {labels : List HookLabel} {due : Nat} {later : List HookLabel}
    {check : List HookEvent → Bool} (passes : closesThen labels due later check = true) :
    ∃ closed last events, ClosedRoute false closed ∧ closed.Synced ∧
      closed.trip = ((labels ++ [HookLabel.tick due]).foldl TripView.step .initial).trip ∧
      (guidanceLink false).replay (fun _ _ => true) closed later = some (last, events) ∧
      .overflowed ∉ events ∧ check events = true ∧
      last.trip = ((labels ++ HookLabel.tick due :: later).foldl TripView.step .initial).trip := by
  rw [closesThen, Option.any_eq_true] at passes
  obtain ⟨⟨hook, trace⟩, beforeReplay, checked⟩ := passes
  simp only [Bool.and_eq_true, Option.any_eq_true] at checked
  obtain ⟨⟨isDue, traceSent⟩, ⟨last, events⟩, afterReplay, eventsSent, passed⟩ := checked
  let start := (guidanceLink false).init
  let before := start.after (hook, trace)
  let closed := before.after (rgdHookStep false (.tick due) hook)
  have startReplay : (guidanceLink false).replay (fun _ _ => true) start labels =
      some (before, trace) := guidanceLink_replay_of_hook beforeReplay
  have run : (guidanceLink false).Run before trace :=
    (TracedSystem.runWithin_of_replay_from .start startReplay).run
  have tickSent : .overflowed ∉ (rgdHookStep false (.tick due) hook).2 := by
    simp [rgdHookStep, rgdPeriodicTick, isDue]
  have closedRoute : ClosedRoute false closed := .ends run (.tick isDue) tickSent
  obtain ⟨ready, synced⟩ := guidanceLink_ready run
  have beforeSynced := synced (not_overflowed_of_isSent traceSent)
  have leads := rgdHookStep_leads ready false (.tick due)
  have closedSynced : closed.Synced := (leads.told beforeSynced tickSent).1
  have beforeView := guidanceLink_replay_view (guidanceLink_ready .start).1 rfl startReplay
    (not_overflowed_of_isSent traceSent)
  have closedView : closed.view = (labels ++ [HookLabel.tick due]).foldl TripView.step .initial := by
    have stepped : closed.view = before.view.step (.tick due) :=
      leads.view_eq beforeSynced tickSent
    rw [stepped, beforeView, List.foldl_append]
    rfl
  have laterReplay : (guidanceLink false).replay (fun _ _ => true) closed later =
      some (closed.after (last, events), events) := guidanceLink_replay_of_hook afterReplay
  have lastView := guidanceLink_replay_view leads.ready closedSynced laterReplay
    (not_overflowed_of_isSent eventsSent)
  refine ⟨closed, _, events, closedRoute, closedSynced, congrArg TripView.trip closedView,
    laterReplay, not_overflowed_of_isSent eventsSent, passed, ?_⟩
  rw [List.append_cons, List.foldl_append, ← closedView]
  exact congrArg TripView.trip lastView

/-- A 0x5201 with a route state and a destination of one letter. -/
def destinationFrame (routeState letter : UInt8) : List UInt8 :=
  [0x40, 0x40, 0, 17, 0x52, 0x01, 0, 5, 0, 1, routeState, 0, 6, 0, 4, letter, 0]

/-- A route that begins with a frame and ends with a zero. -/
def routeLabels (opening : List UInt8) : List HookLabel :=
  [.message 0x5201 opening 100 fun _ => [], .message 0x5201 (routeStateFrame 0) 100 fun _ => []]

def showsActive (events : List HookEvent) : Bool :=
  decide (events.getLast?.bind HookEvent.routeState = some (.num 1))

/-- The destination of an earlier route is shown for the next one. -/
theorem destination_survives_close :
    ∃ first second firstLast secondLast firstEvents secondEvents labels,
      ClosedRoute false first ∧ ClosedRoute false second ∧
      (guidanceLink false).replay (fun _ _ => true) first labels = some (firstLast, firstEvents) ∧
      (guidanceLink false).replay (fun _ _ => true) second labels =
        some (secondLast, secondEvents) ∧
      firstEvents.getLast?.bind HookEvent.routeState = some (.num 1) ∧
      secondEvents.getLast?.bind HookEvent.routeState = some (.num 1) ∧
      firstLast.trip.destination = some ['H'] ∧ secondLast.trip.destination = none := by
  obtain ⟨first, firstLast, firstEvents, firstClosed, -, -, firstReplay, -, firstShows, firstTrip⟩ :=
    @exists_closed_then (routeLabels (destinationFrame 1 72)) 900
      [.message 0x5201 (routeStateFrame 1) 1000 fun _ => []] showsActive (by decide +kernel)
  obtain ⟨second, secondLast, secondEvents, secondClosed, -, -, secondReplay, -, secondShows,
      secondTrip⟩ :=
    @exists_closed_then (routeLabels (routeStateFrame 1)) 900
      [.message 0x5201 (routeStateFrame 1) 1000 fun _ => []] showsActive (by decide +kernel)
  refine ⟨first, second, firstLast, secondLast, firstEvents, secondEvents, _, firstClosed,
    secondClosed, firstReplay, secondReplay, of_decide_eq_true firstShows,
    of_decide_eq_true secondShows, ?_, ?_⟩
  · rw [firstTrip]
    decide +kernel
  · rw [secondTrip]
    decide +kernel

def tellsDestination (events : List HookEvent) : Bool :=
  events.any TripField.destination.toldBy

/-- A destination that is told again no longer differs. -/
theorem closed_routes_isolated_after_new_destination :
    ∃ first second firstLast secondLast : GuidanceLink,
      first.trip.destination ≠ second.trip.destination ∧ firstLast.trip = secondLast.trip := by
  obtain ⟨first, firstLast, firstEvents, firstClosed, firstSynced, firstTrip, firstReplay, firstSent,
      firstTells, -⟩ :=
    @exists_closed_then (routeLabels (destinationFrame 1 72)) 900
      [.message 0x5201 (destinationFrame 1 90) 1000 fun _ => []] tellsDestination
      (by decide +kernel)
  obtain ⟨second, secondLast, secondEvents, secondClosed, secondSynced, secondTrip, secondReplay,
      secondSent, -, -⟩ :=
    @exists_closed_then (routeLabels (routeStateFrame 1)) 900
      [.message 0x5201 (destinationFrame 1 90) 1000 fun _ => []] tellsDestination
      (by decide +kernel)
  have told : TripField.destination.ToldIn firstEvents := List.any_eq_true.mp firstTells
  refine ⟨first, second, firstLast, secondLast, ?_, ?_⟩
  · rw [firstTrip, secondTrip]
    decide +kernel
  · refine (closed_routes_isolated firstClosed secondClosed firstSynced secondSynced
      (.cons (.message _ _ _ _ _) .nil) firstReplay secondReplay firstSent secondSent).mpr ?_
    intro field
    cases field with
    | destination => exact .inl told
    | distDestM | distManeuverM | etaSeconds | timeRemainingSeconds | currentRoad =>
        right
        rw [firstTrip, secondTrip]
        decide +kernel

end CarplayRgi
