import CarplayRgi.RouteGuidanceFrames

/-!
# Gating of route guidance

Guidance is active only for a route of a visible source that supports it: each
of the three fields has a flag that makes the next decision look at it.  The
calls into the bridge are sessions, and a disconnect leaves the initial state.
-/

namespace CarplayRgi

namespace BridgeCall

def isStart : BridgeCall → Bool
  | .onStart => true
  | _ => false

def isShutdown : BridgeCall → Bool
  | .onShutdown => true
  | _ => false

def isUpdate : BridgeCall → Bool
  | .update _ => true
  | _ => false

end BridgeCall

/-- The last call of the lifecycle is `onStart`. -/
def StartedLast (calls : List BridgeCall) : Prop :=
  ∃ before updates, calls = before ++ .onStart :: updates ∧ ∀ call ∈ updates, call.isUpdate = true

theorem StartedLast.snoc_update {calls : List BridgeCall} (started : StartedLast calls)
    (state : RouteGuidance.State) : StartedLast (calls ++ [.update state]) := by
  obtain ⟨before, updates, rfl, onlyUpdates⟩ := started
  refine ⟨before, updates ++ [.update state], by simp, fun call member => ?_⟩
  rcases List.mem_append.mp member with earlier | last
  · exact onlyUpdates call earlier
  · rw [List.mem_singleton.mp last]
    rfl

theorem startedLast_snoc_onStart (calls : List BridgeCall) : StartedLast (calls ++ [.onStart]) :=
  ⟨calls, [], rfl, by simp⟩

/-- What a call asks of the calls before it: a start finds no open session, a
shutdown follows a stop, an update belongs to a session. -/
structure InSession (past : List BridgeCall) (call : BridgeCall) : Prop where
  start : call.isStart = true → pending BridgeCall.isStart BridgeCall.isShutdown past = false
  shutdown : call.isShutdown = true → past.getLast? = some .onStop
  update : call.isUpdate = true → StartedLast past

/-- The route, its visibility and its source do not rule guidance out. -/
structure Admissible (route : RouteGuidance.RouteFields) : Prop where
  routeState : route.routeState ≠ 0
  visibleInApp : route.visibleInApp ≠ 0
  sourceSupportsRg : route.sourceSupportsRg ≠ 0

structure GatingInvariant (rg : RouteGuidance) (calls : List BridgeCall) : Prop where
  idle : rg.running = false → rg.rgActive = false
  noReason : rg.state.route.disconnectReason = none
  admissible : rg.rgActive = true → Admissible rg.state.route
  session : pending BridgeCall.isStart BridgeCall.isShutdown calls = rg.rgActive
  startedLast : rg.rgActive = true → StartedLast calls
  inSession : Always InSession calls

namespace RouteGuidance

theorem owns_routeState : Owns {.routeState} RouteFields.routeState := by
  constructor
  case routeState => exact .inl (Finset.mem_singleton_self _)
  case laneGuidance => exact .inr fun _ _ _ _ _ => rfl
  all_goals exact .inr fun _ _ => rfl

theorem owns_visibleInApp : Owns {.visibleInApp} RouteFields.visibleInApp := by
  constructor
  case visibleInApp => exact .inl (Finset.mem_singleton_self _)
  case laneGuidance => exact .inr fun _ _ _ _ _ => rfl
  all_goals exact .inr fun _ _ => rfl

theorem owns_sourceSupportsRg : Owns {.sourceSupportsRg} RouteFields.sourceSupportsRg := by
  constructor
  case sourceSupportsRg => exact .inl (Finset.mem_singleton_self _)
  case laneGuidance => exact .inr fun _ _ _ _ _ => rfl
  all_goals exact .inr fun _ _ => rfl

theorem owns_disconnectReason : Owns {.disconnect} RouteFields.disconnectReason := by
  constructor
  case laneGuidance => exact .inr fun _ _ _ _ _ => rfl
  all_goals exact .inr fun _ _ => rfl

theorem admissible_of_wantActive {state : State} (wants : wantActive state = true) :
    Admissible state.route := by
  unfold wantActive at wants
  dsimp only at wants
  split_ifs at wants with noRoute unsupported authority
  · exact ⟨noRoute, by simpa using wants, unsupported⟩
  · refine ⟨noRoute, ?_, unsupported⟩
    intro invisible
    rw [invisible] at authority
    exact authority (le_refl 0)

/-- Without an activation delta, a frame leaves the three fields alone. -/
theorem admissible_absorb {payload : List UInt8} {rg : RouteGuidance}
    (noDelta : ¬ hasActivationDelta (absorb payload rg).state = true)
    (admissible : Admissible rg.state.route) : Admissible (absorb payload rg).state.route := by
  have clean : ∀ flag ∈ actMask, flag ∉ (absorb payload rg).state.dirtyMask := by
    simpa [hasActivationDelta] using noDelta
  constructor
  · rw [owns_routeState.absorb_eq (.inr fun _ _ => rfl) (clean .routeState (by decide))]
    exact admissible.routeState
  · rw [owns_visibleInApp.absorb_eq (.inr fun _ _ => rfl) (clean .visibleInApp (by decide))]
    exact admissible.visibleInApp
  · rw [owns_sourceSupportsRg.absorb_eq (.inr fun _ _ => rfl)
      (clean .sourceSupportsRg (by decide))]
    exact admissible.sourceSupportsRg

end RouteGuidance

namespace GatingInvariant

variable {rg : RouteGuidance} {calls : List BridgeCall}

/-- The end of a session, open or not. -/
theorem closed (invariant : GatingInvariant rg calls) {after : RouteGuidance}
    (inactive : after.rgActive = false) (noReason : after.state.route.disconnectReason = none) :
    GatingInvariant after (calls ++ [.onStop, .onShutdown]) where
  idle := fun _ => inactive
  noReason := noReason
  admissible := by simp [inactive]
  session := by
    rw [inactive, List.append_cons, pending_snoc]
    simp [BridgeCall.isStart, BridgeCall.isShutdown]
  startedLast := by simp [inactive]
  inSession := by
    have stopped : Always InSession (calls ++ [.onStop]) :=
      invariant.inSession.snoc ⟨nofun, nofun, nofun⟩
    have shuts : InSession (calls ++ [.onStop]) .onShutdown := ⟨nofun, fun _ => by simp, nofun⟩
    simpa using stopped.snoc shuts

theorem started (invariant : GatingInvariant rg calls) (inactive : rg.rgActive = false)
    {after : RouteGuidance} (running : after.running = true) (active : after.rgActive = true)
    (noReason : after.state.route.disconnectReason = none)
    (admissible : Admissible after.state.route) (state : RouteGuidance.State) :
    GatingInvariant after (calls ++ [.onStart, .update state]) where
  idle := by simp [running]
  noReason := noReason
  admissible := fun _ => admissible
  session := by
    rw [active, List.append_cons, pending_snoc, pending_snoc]
    simp [BridgeCall.isStart, BridgeCall.isShutdown]
  startedLast := fun _ => by
    simpa using (startedLast_snoc_onStart calls).snoc_update state
  inSession := by
    have begun : Always InSession (calls ++ [.onStart]) :=
      invariant.inSession.snoc ⟨fun _ => invariant.session.trans inactive, nofun, nofun⟩
    have updates : InSession (calls ++ [.onStart]) (.update state) :=
      ⟨nofun, nofun, fun _ => startedLast_snoc_onStart calls⟩
    simpa using begun.snoc updates

theorem updated (invariant : GatingInvariant rg calls) (active : rg.rgActive = true)
    {after : RouteGuidance} (running : after.running = true) (stays : after.rgActive = true)
    (noReason : after.state.route.disconnectReason = none)
    (admissible : Admissible after.state.route) (state : RouteGuidance.State) :
    GatingInvariant after (calls ++ [.update state]) where
  idle := by simp [running]
  noReason := noReason
  admissible := fun _ => admissible
  session := by
    rw [pending_snoc, invariant.session, active, stays]
    simp [BridgeCall.isStart, BridgeCall.isShutdown]
  startedLast := fun _ => (invariant.startedLast active).snoc_update state
  inSession := invariant.inSession.snoc ⟨nofun, nofun, fun _ => invariant.startedLast active⟩

theorem silent (invariant : GatingInvariant rg calls) {after : RouteGuidance}
    (same : after.rgActive = rg.rgActive) (idle : after.running = false → after.rgActive = false)
    (noReason : after.state.route.disconnectReason = none)
    (admissible : after.rgActive = true → Admissible after.state.route) :
    GatingInvariant after calls where
  idle := idle
  noReason := noReason
  admissible := admissible
  session := by rw [invariant.session, same]
  startedLast := fun active => invariant.startedLast (same.symm.trans active)
  inSession := invariant.inSession

theorem onFrame (invariant : GatingInvariant rg calls) (type : Nat) (payload : List UInt8) :
    GatingInvariant (RouteGuidance.onFrame type payload rg).1
      (calls ++ (RouteGuidance.onFrame type payload rg).2) := by
  unfold RouteGuidance.onFrame
  split_ifs with taken
  · simp only [Bool.and_eq_true, decide_eq_true_eq] at taken
    have runs : (RouteGuidance.absorb payload rg).running = true := taken.1
    have sameActive : (RouteGuidance.absorb payload rg).rgActive = rg.rgActive := rfl
    have outcome := RouteGuidance.dispatch_case (RouteGuidance.absorb payload rg)
    revert outcome
    generalize RouteGuidance.dispatch (RouteGuidance.absorb payload rg) = result
    obtain ⟨after, events⟩ := result
    intro outcome
    cases outcome with
    | unchanged clean =>
        have noDelta : ¬ RouteGuidance.hasActivationDelta
            (RouteGuidance.absorb payload rg).state = true := by
          simp [RouteGuidance.hasActivationDelta, clean]
        have sameReason : (RouteGuidance.absorb payload rg).state.route.disconnectReason =
            rg.state.route.disconnectReason :=
          RouteGuidance.owns_disconnectReason.absorb_eq (.inl rfl) (by simp [clean])
        rw [List.append_nil]
        exact invariant.silent sameActive (fun stopped => absurd (runs.symm.trans stopped) nofun)
          (sameReason.trans invariant.noReason)
          fun active => RouteGuidance.admissible_absorb noDelta (invariant.admissible active)
    | disconnected => exact invariant.closed rfl rfl
    | activated noReason delta wants inactive =>
        refine invariant.started ?_ ?_ ?_ ?_ ?_ _
        · exact sameActive.symm.trans inactive
        · exact runs
        · rfl
        · exact noReason
        · have admissible := RouteGuidance.admissible_of_wantActive wants
          exact admissible
    | deactivated noReason => exact invariant.closed rfl noReason
    | updated noReason decided active =>
        have wasActive : rg.rgActive = true := sameActive.symm.trans active
        refine invariant.updated wasActive ?_ ?_ ?_ ?_ _
        · exact runs
        · exact active
        · exact noReason
        · by_cases delta : RouteGuidance.hasActivationDelta
              (RouteGuidance.absorb payload rg).state = true
          · have admissible := RouteGuidance.admissible_of_wantActive (decided delta)
            exact admissible
          · exact RouteGuidance.admissible_absorb delta (invariant.admissible wasActive)
    | silent noReason _ inactive =>
        rw [List.append_nil]
        refine invariant.silent sameActive (fun _ => inactive) noReason fun active => ?_
        rw [show (RouteGuidance.absorb payload rg).rgActive = true from active] at inactive
        cases inactive
  · simpa using invariant

theorem step (invariant : GatingInvariant rg calls) (label : GuidanceLabel) :
    GatingInvariant (routeGuidanceStep label rg).1 (calls ++ (routeGuidanceStep label rg).2) := by
  cases label with
  | start =>
      dsimp only [routeGuidanceStep, RouteGuidance.start]
      split_ifs with running
      · simpa using invariant
      · have inactive := invariant.idle (by simpa using running)
        rw [List.append_nil]
        refine invariant.silent ?_ ?_ ?_ ?_
        · exact inactive.symm
        · exact fun _ => rfl
        · exact invariant.noReason
        · exact fun active => nomatch active
  | stop =>
      dsimp only [routeGuidanceStep, RouteGuidance.stop]
      split_ifs
      · exact invariant.closed rfl invariant.noReason
      · simpa using invariant
  | frame type payload => exact invariant.onFrame type payload

end GatingInvariant

theorem routeGuidance_gating {rg : RouteGuidance} {calls : List BridgeCall}
    (run : routeGuidance.Run rg calls) : GatingInvariant rg calls := by
  refine run.invariant GatingInvariant ?_ ?_
  · exact ⟨fun _ => rfl, rfl, (fun active => nomatch active), rfl, (fun active => nomatch active),
      always_nil _⟩
  · intro rg next calls events label invariant _ stepTo
    have stepped := invariant.step label
    rw [show routeGuidanceStep label rg = (next, events) from Option.some.inj stepTo] at stepped
    exact stepped

/-- Between two starts there is a stop, and the shutdown right after it. -/
theorem exists_stop_between {calls before between after : List BridgeCall}
    (inSession : Always InSession calls)
    (twice : calls = before ++ .onStart :: between ++ .onStart :: after) :
    ∃ first second, between = first ++ .onStop :: .onShutdown :: second := by
  have idle := (inSession _ _ _ twice).start rfl
  obtain ⟨position, later, event, found, isShutdown⟩ :=
    @exists_closed _ _ BridgeCall.isShutdown (before ++ .onStart :: between) before.length .onStart
      (by simp) rfl idle
  obtain ⟨offset, rfl⟩ : ∃ offset, position = before.length + 1 + offset :=
    ⟨position - (before.length + 1), by omega⟩
  have inside : between[offset]? = some event := by
    rw [List.append_cons, List.getElem?_append_right (by simp),
      show before.length + 1 + offset - (before ++ [BridgeCall.onStart]).length = offset by
        simp] at found
    exact found
  obtain ⟨offsetLt, eventEq⟩ := List.getElem?_eq_some_iff.mp inside
  have split : between = between.take offset ++ event :: between.drop (offset + 1) := by
    rw [← eventEq, List.getElem_cons_drop, List.take_append_drop]
  have preceded := (inSession (before ++ .onStart :: between.take offset) event
    (between.drop (offset + 1) ++ .onStart :: after) (by
      rw [twice]
      nth_rewrite 1 [split]
      simp)).shutdown isShutdown
  cases event with
  | onShutdown =>
      rcases List.eq_nil_or_concat (between.take offset) with empty | ⟨first, last, taken⟩
      · rw [empty] at preceded
        simp at preceded
      · rw [taken, List.concat_eq_append] at preceded split
        rw [← List.cons_append, ← List.append_assoc, List.getLast?_concat] at preceded
        obtain rfl := Option.some.inj preceded
        exact ⟨first, between.drop (offset + 1), by simpa using split⟩
  | onStart => cases isShutdown
  | onStop => cases isShutdown
  | update => cases isShutdown

/-- A frame with a disconnect reason ends the session and resets the state. -/
theorem GatingInvariant.disconnect {rg : RouteGuidance} {calls : List BridgeCall}
    (invariant : GatingInvariant rg calls) (running : rg.running = true) {payload : List UInt8}
    (reason : (parseText payload).has (RgdKey.route .disconnectReason).text = true) :
    (RouteGuidance.onFrame evtRgdUpdate payload rg).1.rgActive = false ∧
      (RouteGuidance.onFrame evtRgdUpdate payload rg).1.state = .initial := by
  obtain ⟨hasReason, dirty⟩ :=
    RouteGuidance.parse_disconnectReason rg.hasRouteUpdate reason invariant.noReason
  have notClean : (RouteGuidance.absorb payload rg).state.dirtyMask ≠ ∅ :=
    Finset.ne_empty_of_mem dirty
  rw [RouteGuidance.onFrame_of_running running, RouteGuidance.dispatch, if_neg notClean,
    if_pos (show (RouteGuidance.absorb payload rg).state.route.disconnectReason ≠ none from
      hasReason)]
  exact ⟨rfl, rfl⟩

/-- What is promised of guidance in a state with the given calls behind it. -/
structure Gated (rg : RouteGuidance) (calls : List BridgeCall) : Prop where
  admissible : rg.rgActive = true → Admissible rg.state.route
  stopped : ∀ before between after,
    calls = before ++ .onStart :: between ++ .onStart :: after →
      ∃ first second, between = first ++ .onStop :: .onShutdown :: second
  updates : ∀ past state future, calls = past ++ .update state :: future → StartedLast past
  disconnected : ∀ payload, rg.running = true →
    (parseText payload).has (RgdKey.route .disconnectReason).text = true →
      (RouteGuidance.onFrame evtRgdUpdate payload rg).1.rgActive = false ∧
        (RouteGuidance.onFrame evtRgdUpdate payload rg).1.state = .initial

/-- Guidance is gated in every run. -/
theorem guidance_gated {rg : RouteGuidance} {calls : List BridgeCall}
    (run : routeGuidance.Run rg calls) : Gated rg calls := by
  have invariant := routeGuidance_gating run
  constructor
  · exact invariant.admissible
  · exact fun _ _ _ twice => exists_stop_between invariant.inSession twice
  · exact fun past state future split => (invariant.inSession past _ future split).update rfl
  · exact fun _ running reason => invariant.disconnect running reason

/-- A started receiver that gets a route, then a disconnect. -/
def sessionLabels : List GuidanceLabel :=
  [.start, .frame evtRgdUpdate (Utf8Text.encode "route_state:n:1\n".toList),
    .frame evtRgdUpdate (Utf8Text.encode "disconnect_reason:s:user\n".toList)]

/-- The session of the route is over after the disconnect. -/
theorem session_gated : ∃ rg calls, routeGuidance.Run rg calls ∧ calls.length = 4 ∧
    Gated rg calls := by
  obtain ⟨rg, calls, run, checked⟩ := routeGuidance.exists_run_of_replay sessionLabels
    (fun result => decide (result.2.length = 4)) (by decide +kernel)
  exact ⟨rg, calls, run, by simpa using checked, guidance_gated run⟩

end CarplayRgi
