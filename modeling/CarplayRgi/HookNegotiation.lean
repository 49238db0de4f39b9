import CarplayRgi.HookSession
import CarplayRgi.RgdHookCases
import CarplayRgi.TraceMonitors

/-!
# What the hook and the phone agree on

The component is offered in one identification.  Once the phone has accepted it
and the authentication is complete, the offer can be requested, once; the
request is stopped when the module is cleared.  No order of the hooked calls
and no answer of the platform leads to anything else, and every location
message that goes out while the offer stands is preceded by a request.
-/

namespace CarplayRgi

namespace HookSession

open Iap2 HookInjection

inductive Phase where
  | unpatched
  | offered (componentId : Nat)
  | requested (componentId : Nat)
  | closed
  deriving DecidableEq

structure Negotiation where
  phase : Phase
  identifyAccepted : Bool
  authDone : Bool
  deriving DecidableEq

def Phase.after : Phase → Event → Phase
  | .unpatched, .identified _ _ patched => .offered patched.componentId
  | .unpatched, .cleared .shutdown => .closed
  | .offered componentId, .requested _ _ .ok => .requested componentId
  | .offered _, .cleared _ => .closed
  | .requested _, .cleared _ => .closed
  | phase, _ => phase

def Negotiation.note (negotiation : Negotiation) (event : Event) : Negotiation where
  phase := negotiation.phase.after event
  identifyAccepted := negotiation.identifyAccepted ||
    match event with
    | .identifyAccepted => true
    | _ => false
  authDone := negotiation.authDone ||
    match event with
    | .authDone => true
    | _ => false

/-- There is one offer, a request for what is offered and agreed on, and a stop
for what has been requested. -/
def Negotiation.permits (negotiation : Negotiation) : Event → Prop
  | .identified _ _ _ => negotiation.phase = .unpatched
  | .requested componentId _ _ => negotiation = ⟨.offered componentId, true, true⟩
  | .stopped componentId _ _ => negotiation.phase = .requested componentId
  | .cleared reason =>
      reason = .identifyEnd → ∀ componentId, negotiation.phase ≠ .requested componentId
  | .identifyAccepted | .authDone | .hook _ | .forwarded _ => True

def negotiation : Monitor Negotiation Event where
  init := ⟨.unpatched, false, false⟩
  note := Negotiation.note
  permits := Negotiation.permits

inductive InPhase (state : State) : Phase → Prop
  | unpatched (registered : state.registered = true)
      (notPatched : state.ctx.identifyPatched = false)
      (inactive : state.flags.active = false)
      (unsent : state.flags.sent5200 = false) : InPhase state .unpatched
  | offered (registered : state.registered = true)
      (patched : state.ctx.identifyPatched = true)
      (contextValid : state.ctx.rgdComponentValid = true)
      (inactive : state.flags.active = false)
      (unsent : state.flags.sent5200 = false)
      (valid : state.flags.componentValid = true) :
      InPhase state (.offered state.flags.componentId)
  | requested (registered : state.registered = true)
      (patched : state.ctx.identifyPatched = true)
      (active : state.flags.active = true)
      (sent : state.flags.sent5200 = true) :
      InPhase state (.requested state.flags.componentId)
  | closed (patched : state.registered = true → state.ctx.identifyPatched = true)
      (inactive : state.flags.active = false)
      (unsent : state.flags.sent5200 = false)
      (notValid : state.registered = true → state.flags.componentValid = false) :
      InPhase state .closed

/-- What the agreement does not look at may change. -/
theorem InPhase.transfer {state next : State} {phase : Phase} (inPhase : InPhase state phase)
    (registered : next.registered = state.registered)
    (patched : next.ctx.identifyPatched = state.ctx.identifyPatched)
    (contextValid : next.ctx.rgdComponentValid = state.ctx.rgdComponentValid)
    (flags : next.flags = { state.flags with
      sent5203 := next.flags.sent5203, got520x := next.flags.got520x }) :
    InPhase next phase := by
  obtain ⟨nextInitialized, nextRegistered, nextCtx, nextFlags, nextRgd⟩ := next
  dsimp only at registered patched contextValid flags
  subst registered
  rw [flags]
  cases inPhase with
  | unpatched isRegistered notPatched inactive unsent =>
      exact .unpatched isRegistered (patched.trans notPatched) inactive unsent
  | offered isRegistered isPatched isValid inactive unsent valid =>
      exact .offered isRegistered (patched.trans isPatched) (contextValid.trans isValid) inactive
        unsent valid
  | requested isRegistered isPatched active sent =>
      exact .requested isRegistered (patched.trans isPatched) active sent
  | closed isPatched inactive unsent notValid =>
      exact .closed (fun isRegistered => patched.trans (isPatched isRegistered)) inactive unsent
        notValid

structure Agrees (state : State) (negotiation : Negotiation) : Prop where
  started : state.registered = true → state.initialized = true
  notStopped : state.flags.sent5203 = false
  identifyAccepted : state.registered = true →
    state.ctx.identifyAccepted = negotiation.identifyAccepted
  authDone : state.registered = true → state.ctx.authDone = negotiation.authDone
  moduleReady : state.registered = true → state.ctx.identifyPatched = true →
    state.rgd.initialized = true
  phase : InPhase state negotiation.phase

theorem agrees_loaded : Agrees .loaded negotiation.init :=
  ⟨fun _ => rfl, rfl, fun _ => rfl, fun _ => rfl, nofun, .unpatched rfl rfl rfl rfl⟩

/-- A framework that starts again has lost its module. -/
theorem Agrees.ensureInit {state : State} {watched : Negotiation} (agrees : Agrees state watched) :
    Agrees (ensureInit state) watched := by
  unfold HookSession.ensureInit
  split
  · exact agrees
  · rename_i notInitialized
    have gone : state.registered ≠ true := fun registered =>
      notInitialized (agrees.started registered)
    refine ⟨fun _ => rfl, agrees.notStopped, fun registered => absurd registered gone,
      fun registered => absurd registered gone, fun registered => absurd registered gone, ?_⟩
    have phase := agrees.phase
    generalize watched.phase = current at phase ⊢
    cases phase with
    | unpatched registered => exact absurd registered gone
    | offered registered => exact absurd registered gone
    | requested registered => exact absurd registered gone
    | closed _ inactive unsent =>
        exact .closed (fun registered => absurd registered gone) inactive unsent
          fun registered => absurd registered gone

theorem rgdClearState_eq (overlay : Bool) (reason : ClearReason) (state : State) :
    ∃ (rgd : RgdState) (hooks : List HookEvent), rgd.initialized = state.rgd.initialized ∧
      rgdClearState overlay reason state =
        ({ state with
            flags := ⟨false, false, false, false, state.flags.componentId, false⟩
            ctx := { state.ctx with sessionActive := false }
            rgd := rgd }, .cleared reason :: hooks.map .hook) := by
  refine ⟨_, _, ?_, rfl⟩
  unfold RgdState.rgdClearState
  cases overlay <;> rfl

/-- The hook events of the module say nothing about the negotiation. -/
theorem accepts_hooks (watched : Negotiation) (hooks : List HookEvent) :
    negotiation.Accepts watched (hooks.map .hook) ∧
      (hooks.map Event.hook).foldl negotiation.note watched = watched := by
  refine negotiation.accepts_unseen fun event member => ?_
  obtain ⟨hook, -, rfl⟩ := List.mem_map.mp member
  refine ⟨trivial, ?_⟩
  simp only [negotiation, Negotiation.note, Bool.or_false]
  cases watched with
  | mk phase => cases phase <;> rfl

/-- The state of the agreement when the module has been cleared. -/
def Negotiation.cleared (watched : Negotiation) (reason : ClearReason) : Negotiation :=
  { watched with phase := watched.phase.after (.cleared reason) }

theorem accepts_cleared {watched : Negotiation} {reason : ClearReason}
    (allowed : negotiation.permits watched (.cleared reason)) (hooks : List HookEvent) :
    negotiation.Accepts watched (.cleared reason :: hooks.map .hook) ∧
      (Event.cleared reason :: hooks.map .hook).foldl negotiation.note watched =
        watched.cleared reason := by
  have noted : negotiation.note watched (.cleared reason) = watched.cleared reason := by
    simp only [negotiation, Negotiation.note, Bool.or_false, Negotiation.cleared]
  have unseen := accepts_hooks (watched.cleared reason) hooks
  rw [Monitor.Accepts, List.foldl_cons, noted]
  exact ⟨⟨allowed, unseen.1⟩, unseen.2⟩

theorem rgdClearState_keeps (overlay : Bool) {reason : ClearReason} {state : State}
    {watched : Negotiation} (agrees : Agrees state watched)
    (allowed : negotiation.permits watched (.cleared reason))
    (notShutdown : reason ≠ .shutdown) :
    negotiation.Keeps Agrees watched (rgdClearState overlay reason state) := by
  obtain ⟨rgd, hooks, ready, clearedEq⟩ := rgdClearState_eq overlay reason state
  have accepted := accepts_cleared allowed hooks
  rw [clearedEq]
  refine ⟨accepted.1, ?_⟩
  dsimp only
  rw [accepted.2]
  refine ⟨agrees.started, rfl, agrees.identifyAccepted, agrees.authDone,
    fun registered patched => ready.trans (agrees.moduleReady registered patched), ?_⟩
  obtain ⟨current, identifyAccepted, authDone⟩ := watched
  have phase := agrees.phase
  dsimp only [Negotiation.cleared] at phase ⊢
  cases phase with
  | unpatched registered notPatched =>
      have stays : Phase.unpatched.after (.cleared reason) = .unpatched := by
        cases reason with
        | shutdown => exact absurd rfl notShutdown
        | _ => rfl
      rw [stays]
      exact .unpatched registered notPatched rfl rfl
  | offered _ patched => exact .closed (fun _ => patched) rfl rfl fun _ => rfl
  | requested _ patched => exact .closed (fun _ => patched) rfl rfl fun _ => rfl
  | closed patched => exact .closed patched rfl rfl fun _ => rfl

theorem rgdLazyInit_keeps (overlay : Bool) {state : State} {watched : Negotiation}
    (agrees : Agrees state watched) :
    negotiation.Keeps Agrees watched (rgdLazyInit overlay state) := by
  unfold rgdLazyInit
  split
  · exact Monitor.keeps_silent agrees
  · have started : Agrees { state with rgd := { state.rgd with initialized := true } } watched :=
      { agrees with
        moduleReady := fun _ _ => rfl
        phase := agrees.phase.transfer rfl rfl rfl rfl }
    exact rgdClearState_keeps overlay started (nofun) (nofun)

def startPairs (componentId : Nat) : List TlvPair :=
  [⟨0x0000, Iap2.writeBe16 componentId, by decide, by rw [length_writeBe16]; decide⟩,
    ⟨0x0001, [], by decide, by decide⟩, ⟨0x0002, [], by decide, by decide⟩,
    ⟨0x0003, [], by decide, by decide⟩]

/-- The message that asks for route guidance. -/
def startFrame (componentId : Nat) : List UInt8 :=
  [0x40, 0x40] ++ Iap2.writeBe16 24 ++ Iap2.writeBe16 iap2MsgRouteGuidanceStart ++
    encodings (startPairs componentId)

theorem startTlvs_eq (componentId : Nat) :
    startTlvs componentId = some (encodings (startPairs componentId)) := by
  rfl

theorem iap2BuildFrame_start (componentId : Nat) :
    iap2BuildFrame 512 iap2MsgRouteGuidanceStart (encodings (startPairs componentId)) =
      some (startFrame componentId) := by
  rfl

/-- What is injected for a request, and the result. -/
def injectedStart (answers : InjectAnswers) (state : State) (componentId : Nat) :
    HookResult × Option (List UInt8) :=
  hookInjectFrame answers.malloc
    ⟨state.initialized, state.ctx.inject, some answers.realTransportSend⟩ (startFrame componentId)

/-- The state behind a request with this result. -/
def requestedState (state : State) : HookResult → State
  | .ok =>
      rgdUpdateSessionActive
        { state with flags := { state.flags with sent5200 := true, active := true } }
  | _ => state

theorem rgdRequestUpdates_eq (answers : InjectAnswers) {state : State}
    (valid : state.flags.componentValid = true) :
    rgdRequestUpdates answers state =
      (requestedState state (injectedStart answers state state.flags.componentId).1,
        [.requested state.flags.componentId
          (injectedStart answers state state.flags.componentId).2
          (injectedStart answers state state.flags.componentId).1]) := by
  have injected : hookInjectMessage answers state iap2MsgRouteGuidanceStart
      (encodings (startPairs state.flags.componentId)) =
        injectedStart answers state state.flags.componentId := by
    rw [hookInjectMessage, iap2BuildFrame_start, injectedStart]
  unfold rgdRequestUpdates
  rw [if_neg (by rw [valid]; decide), startTlvs_eq]
  dsimp only
  rw [injected]
  cases (injectedStart answers state state.flags.componentId).1 <;> rfl

/-- What the module asks for is there exactly while an offer stands that the
phone has agreed to. -/
theorem Agrees.ready_iff {state : State} {watched : Negotiation} (agrees : Agrees state watched)
    (registered : state.registered = true) :
    (state.flags.sent5200 = false ∧ hookIsReady state.ctx = true ∧
        state.flags.componentValid = true) ↔
      watched = ⟨.offered state.flags.componentId, true, true⟩ := by
  have identifyAccepted := agrees.identifyAccepted registered
  have authDone := agrees.authDone registered
  obtain ⟨current, watchedAccepted, watchedDone⟩ := watched
  have phase := agrees.phase
  dsimp only at identifyAccepted authDone phase
  unfold hookIsReady
  rw [identifyAccepted, authDone]
  cases phase with
  | unpatched _ notPatched => simp [notPatched]
  | offered _ patched contextValid _ unsent valid =>
      simp [patched, contextValid, unsent, valid]
  | requested _ _ _ sent => simp [sent]
  | closed _ _ _ notValid => simp [notValid registered]

/-- The module asks for route guidance exactly when a location message goes out
while an agreed offer stands. -/
theorem rgdTransportHandler_cases (answers : InjectAnswers) (msgid : Nat) {state : State}
    {watched : Negotiation} (agrees : Agrees state watched)
    (registered : state.registered = true) :
    (msgid = iap2MsgLocationInfo ∧ watched = ⟨.offered state.flags.componentId, true, true⟩ ∧
      rgdTransportHandler answers msgid state =
        (requestedState state (injectedStart answers state state.flags.componentId).1,
          [.requested state.flags.componentId
            (injectedStart answers state state.flags.componentId).2
            (injectedStart answers state state.flags.componentId).1])) ∨
    ((msgid = iap2MsgLocationInfo → ∀ componentId,
        watched ≠ ⟨.offered componentId, true, true⟩) ∧
      rgdTransportHandler answers msgid state = (state, [])) := by
  have readyIff := agrees.ready_iff registered
  by_cases agreed : watched = ⟨.offered state.flags.componentId, true, true⟩
  · obtain ⟨unsent, ready, valid⟩ := readyIff.mpr agreed
    by_cases isLocation : msgid = iap2MsgLocationInfo
    · refine .inl ⟨isLocation, agreed, ?_⟩
      rw [rgdTransportHandler, if_pos ⟨isLocation, unsent, ready⟩, rgdRequestUpdates_eq _ valid]
    · refine .inr ⟨fun equal => absurd equal isLocation, ?_⟩
      rw [rgdTransportHandler, if_neg fun asked => isLocation asked.1]
  · refine .inr ⟨fun _ componentId isOffered => ?_, ?_⟩
    · subst isOffered
      have phase := agrees.phase
      dsimp only at phase
      cases phase
      exact agreed rfl
    · unfold rgdTransportHandler
      split
      · rename_i asked
        have notValid : state.flags.componentValid = false := by
          by_contra valid
          exact agreed (readyIff.mp ⟨asked.2.1, asked.2.2, by simpa using valid⟩)
        rw [rgdRequestUpdates, if_pos notValid]
      · rfl

theorem rgdTransportHandler_keeps (answers : InjectAnswers) (msgid : Nat) {state : State}
    {watched : Negotiation} (agrees : Agrees state watched)
    (registered : state.registered = true) :
    negotiation.Keeps Agrees watched (rgdTransportHandler answers msgid state) := by
  rcases rgdTransportHandler_cases answers msgid agrees registered with
    ⟨-, agreed, handled⟩ | ⟨-, handled⟩
  · rw [handled]
    subst agreed
    refine Monitor.keeps_single rfl ?_
    have phase := agrees.phase
    dsimp only at phase
    cases resultEq : (injectedStart answers state state.flags.componentId).1 with
    | ok =>
        refine ⟨agrees.started, agrees.notStopped, agrees.identifyAccepted, agrees.authDone,
          agrees.moduleReady, ?_⟩
        cases phase with
        | offered isRegistered patched => exact .requested isRegistered patched rfl rfl
    | _ => exact agrees
  · rw [handled]
    exact Monitor.keeps_silent agrees

/-- The stop that the module tries before it is cleared. -/
def stopEvents (answers : InjectAnswers) (state : State) : List Event :=
  (rgdStopUpdates answers state).2

theorem rgdStopUpdates_andThen_clear (overlay : Bool) (answers : InjectAnswers)
    (reason : ClearReason) (state : State) :
    (rgdStopUpdates answers).andThen (rgdClearState overlay reason) state =
      ((rgdClearState overlay reason state).1,
        stopEvents answers state ++ (rgdClearState overlay reason state).2) := by
  unfold TracedOp.andThen stopEvents rgdStopUpdates
  split
  · rfl
  · dsimp only
    split
    · rfl
    · rfl

/-- A stop is tried exactly for what has been requested. -/
theorem stopEvents_cases (answers : InjectAnswers) {state : State} {watched : Negotiation}
    (agrees : Agrees state watched) :
    (watched.phase = .requested state.flags.componentId ∧ ∃ packet result,
      stopEvents answers state = [.stopped state.flags.componentId packet result]) ∨
    ((∀ componentId, watched.phase ≠ .requested componentId) ∧ stopEvents answers state = []) := by
  have quiet (inactive : state.flags.active = false) : stopEvents answers state = [] := by
    unfold stopEvents rgdStopUpdates
    rw [if_pos (by rw [inactive, Bool.not_false, Bool.or_true])]
  have phase := agrees.phase
  generalize watched.phase = current at phase ⊢
  cases phase with
  | unpatched _ _ inactive => exact .inr ⟨nofun, quiet inactive⟩
  | offered _ _ _ inactive => exact .inr ⟨nofun, quiet inactive⟩
  | requested _ _ active =>
      refine .inl ⟨rfl, ?_⟩
      unfold stopEvents rgdStopUpdates
      rw [if_neg (by rw [active, agrees.notStopped]; decide)]
      dsimp only
      split
      · exact ⟨_, _, rfl⟩
      · exact ⟨_, _, rfl⟩
  | closed _ inactive => exact .inr ⟨nofun, quiet inactive⟩

theorem accepts_stop (answers : InjectAnswers) {state : State} {watched : Negotiation}
    (agrees : Agrees state watched) :
    negotiation.Accepts watched (stopEvents answers state) ∧
      (stopEvents answers state).foldl negotiation.note watched = watched := by
  refine negotiation.accepts_unseen fun event member => ?_
  rcases stopEvents_cases answers agrees with ⟨requested, packet, result, stopped⟩ | ⟨-, none⟩
  · rw [stopped] at member
    obtain rfl := List.mem_singleton.mp member
    refine ⟨requested, ?_⟩
    obtain ⟨current, identifyAccepted, authDone⟩ := watched
    dsimp only at requested
    subst requested
    simp [negotiation, Negotiation.note, Phase.after]
  · rw [none] at member
    cases member

theorem stop_keeps (answers : InjectAnswers) {state : State} {watched : Negotiation}
    (agrees : Agrees state watched) :
    negotiation.Keeps Agrees watched (state, stopEvents answers state) := by
  obtain ⟨accepted, unchanged⟩ := accepts_stop answers agrees
  refine ⟨accepted, ?_⟩
  rw [unchanged]
  exact agrees

theorem stopAndClear_keeps (overlay : Bool) (answers : InjectAnswers) {reason : ClearReason}
    {state : State} {watched : Negotiation} (agrees : Agrees state watched)
    (notIdentifyEnd : reason ≠ .identifyEnd) (notShutdown : reason ≠ .shutdown) :
    negotiation.Keeps Agrees watched
      ((rgdStopUpdates answers).andThen (rgdClearState overlay reason) state) := by
  have stop := accepts_stop answers agrees
  have clear := rgdClearState_keeps overlay agrees (fun equal => absurd equal notIdentifyEnd)
    notShutdown
  rw [rgdStopUpdates_andThen_clear]
  refine (stop_keeps answers agrees).append ?_
  rw [stop.2]
  exact clear

theorem Phase.after_shutdown (phase : Phase) : phase.after (.cleared .shutdown) = .closed := by
  cases phase <;> rfl

/-- A module that is gone has nothing offered. -/
theorem Agrees.closed_of_gone {state : State} {watched : Negotiation} (agrees : Agrees state watched)
    (gone : state.registered = false) :
    watched.phase = .closed ∧ state.flags.active = false ∧ state.flags.sent5200 = false := by
  have phase := agrees.phase
  generalize watched.phase = current at phase ⊢
  cases phase with
  | unpatched registered => exact absurd (registered.symm.trans gone) (by decide)
  | offered registered => exact absurd (registered.symm.trans gone) (by decide)
  | requested registered => exact absurd (registered.symm.trans gone) (by decide)
  | closed _ inactive unsent => exact ⟨rfl, inactive, unsent⟩

theorem agrees_gone {state : State} {watched : Negotiation} (gone : state.registered = false)
    (notStopped : state.flags.sent5203 = false) (inactive : state.flags.active = false)
    (unsent : state.flags.sent5200 = false) (isClosed : watched.phase = .closed) :
    Agrees state watched := by
  have notRegistered : state.registered ≠ true := by
    rw [gone]
    decide
  refine ⟨fun registered => absurd registered notRegistered, notStopped,
    fun registered => absurd registered notRegistered,
    fun registered => absurd registered notRegistered,
    fun registered => absurd registered notRegistered, ?_⟩
  rw [isClosed]
  exact .closed (fun registered => absurd registered notRegistered) inactive unsent
    fun registered => absurd registered notRegistered

/-- Behind the shutdown of the framework nothing is offered. -/
theorem frameworkShutdown_keeps (overlay : Bool) (answers : InjectAnswers) {state : State}
    {watched : Negotiation} (agrees : Agrees state watched) :
    negotiation.Keeps Agrees watched (frameworkShutdown overlay answers state) := by
  unfold frameworkShutdown
  split
  · exact Monitor.keeps_silent agrees
  · dsimp only
    unfold whenRegistered
    split
    · obtain ⟨rgd, hooks, -, clearedEq⟩ := rgdClearState_eq overlay .shutdown state
      have stop := accepts_stop answers agrees
      have allowed : negotiation.permits watched (.cleared .shutdown) := nofun
      have cleared := accepts_cleared allowed hooks
      rw [rgdStateHandler, rgdStopUpdates_andThen_clear, clearedEq]
      refine (stop_keeps answers agrees).append ?_
      rw [stop.2]
      refine ⟨cleared.1, ?_⟩
      dsimp only
      rw [cleared.2]
      exact agrees_gone rfl rfl rfl rfl watched.phase.after_shutdown
    · rename_i notRegistered
      have gone : state.registered = false := by simpa using notRegistered
      obtain ⟨isClosed, inactive, unsent⟩ := agrees.closed_of_gone gone
      exact Monitor.keeps_silent (agrees_gone rfl agrees.notStopped inactive unsent isClosed)

/-- The parts of the state that `rgd_lazy_init` leaves alone. -/
structure LazyFrame (before after : State) : Prop where
  initialized : after.initialized = before.initialized
  registered : after.registered = before.registered
  patched : after.ctx.identifyPatched = before.ctx.identifyPatched
  ready : after.rgd.initialized = true

theorem rgdLazyInit_frame (overlay : Bool) (state : State) :
    LazyFrame state (rgdLazyInit overlay state).1 := by
  unfold rgdLazyInit
  split
  · rename_i ready
    exact ⟨rfl, rfl, rfl, ready⟩
  · obtain ⟨rgd, hooks, ready, clearedEq⟩ := rgdClearState_eq overlay .init
      { state with rgd := { state.rgd with initialized := true } }
    rw [clearedEq]
    exact ⟨rfl, rfl, rfl, ready⟩

/-- The identification can be patched as long as nothing is offered. -/
theorem Agrees.unpatched_iff {state : State} {watched : Negotiation}
    (agrees : Agrees state watched) :
    state.registered = true ∧ state.ctx.identifyPatched = false ↔ watched.phase = .unpatched := by
  have phase := agrees.phase
  generalize watched.phase = current at phase ⊢
  cases phase with
  | unpatched registered notPatched => simp [registered, notPatched]
  | offered _ patched => simp [patched]
  | requested _ patched => simp [patched]
  | closed patched =>
      simp only [reduceCtorEq, iff_false, not_and, Bool.not_eq_false]
      exact patched

theorem rgdIdentify_keeps (overlay : Bool) (fresh : Option (Nat → UInt8)) (mem : List UInt8)
    (len : Nat) {state : State} {watched : Negotiation} (agrees : Agrees state watched)
    (registered : state.registered = true) (notPatched : state.ctx.identifyPatched = false) :
    negotiation.Keeps Agrees watched (rgdIdentify overlay fresh mem len state) := by
  have frame := rgdLazyInit_frame overlay state
  refine (rgdLazyInit_keeps overlay agrees).andThen fun between agreesBetween => ?_
  generalize (rgdLazyInit overlay state).1 = ready at frame agreesBetween
  have isRegistered : ready.registered = true := frame.registered.trans registered
  have stillUnpatched : ready.ctx.identifyPatched = false := frame.patched.trans notPatched
  have unpatched := agreesBetween.unpatched_iff.mp ⟨isRegistered, stillUnpatched⟩
  have phase := agreesBetween.phase
  rw [unpatched] at phase
  obtain ⟨-, -, inactive, unsent⟩ := phase
  dsimp only
  split
  · exact Monitor.keeps_silent agreesBetween
  · split
    · refine Monitor.keeps_single unpatched ?_
      refine ⟨agreesBetween.started, agreesBetween.notStopped, fun _ => ?_, fun _ => ?_,
        fun _ _ => frame.ready, ?_⟩
      · simpa [negotiation, Negotiation.note] using agreesBetween.identifyAccepted isRegistered
      · simpa [negotiation, Negotiation.note] using agreesBetween.authDone isRegistered
      · simp only [negotiation, Negotiation.note, unpatched, Phase.after]
        exact .offered isRegistered rfl rfl inactive unsent rfl
    · refine Monitor.keeps_silent { agreesBetween with phase := ?_ }
      rw [unpatched]
      exact .unpatched isRegistered stillUnpatched inactive unsent

theorem rgdMessage_keeps (overlay : Bool) (msgid : Nat) (raw : List UInt8) (now : Nat)
    (stack : RgdKey → List UInt8) {state : State} {watched : Negotiation}
    (agrees : Agrees state watched) :
    negotiation.Keeps Agrees watched (rgdMessage overlay msgid raw now stack state) := by
  have frame := rgdLazyInit_frame overlay state
  refine (rgdLazyInit_keeps overlay agrees).andThen fun between agreesBetween => ?_
  generalize (rgdLazyInit overlay state).1 = ready at frame agreesBetween
  have unseen := accepts_hooks between
  have stillReady (rgd : RgdState) (isReady : rgd.initialized = true) :
      (RgdState.handleFrame overlay msgid raw now stack rgd).1.initialized = true :=
    (RgdState.handleFrame_initialized overlay msgid raw now stack rgd).trans isReady
  dsimp only
  split
  · refine ⟨(unseen _).1, ?_⟩
    rw [(unseen _).2]
    exact { agreesBetween with
      moduleReady := fun _ _ => stillReady _ frame.ready
      phase := agreesBetween.phase.transfer rfl rfl rfl rfl }
  · refine ⟨(unseen _).1, ?_⟩
    rw [(unseen _).2]
    exact
      { started := agreesBetween.started
        notStopped := agreesBetween.notStopped
        identifyAccepted := agreesBetween.identifyAccepted
        authDone := agreesBetween.authDone
        moduleReady := fun _ _ => stillReady _ frame.ready
        phase := agreesBetween.phase.transfer rfl rfl rfl rfl }

theorem dispatchMessage_keeps (overlay : Bool) (msgid : Nat) (raw : List UInt8) (now : Nat)
    (stack : RgdKey → List UInt8) {state : State} {watched : Negotiation}
    (agrees : Agrees state watched) :
    negotiation.Keeps Agrees watched (dispatchMessage overlay msgid raw now stack state) := by
  unfold dispatchMessage whenRegistered
  split
  · dsimp only
    split
    · exact rgdMessage_keeps overlay msgid raw now stack agrees
    · exact Monitor.keeps_silent agrees
  · exact Monitor.keeps_silent agrees

/-- The end of the identification clears nothing that has been requested. -/
theorem identifyEnd_keeps (overlay : Bool) (answers : InjectAnswers) {state : State}
    {watched : Negotiation} (agrees : Agrees state watched) :
    negotiation.Keeps Agrees watched (rgdStateHandler overlay answers .identifyEnd state) := by
  unfold rgdStateHandler
  dsimp only
  split
  · rename_i idle
    refine rgdClearState_keeps overlay agrees (fun _ componentId requested => ?_) nofun
    have phase := agrees.phase
    rw [requested] at phase
    cases phase with
    | requested _ _ active => exact absurd (active.symm.trans idle.1) (by decide)
  · exact Monitor.keeps_silent agrees

theorem handleStateMessages_keeps (overlay : Bool) (answers : InjectAnswers) (msgid : Nat)
    {state : State} {watched : Negotiation} (agrees : Agrees state watched) :
    negotiation.Keeps Agrees watched (handleStateMessages overlay answers msgid state) := by
  have unmoved (event : Event) (isLatch : event = .identifyAccepted ∨ event = .authDone) :
      watched.phase.after event = watched.phase := by
    rcases isLatch with rfl | rfl
    · cases watched.phase <;> rfl
    · cases watched.phase <;> rfl
  unfold handleStateMessages
  split
  · refine Monitor.keeps_single trivial ?_
    refine ⟨agrees.started, agrees.notStopped, fun _ => ?_, fun registered => ?_,
      agrees.moduleReady, ?_⟩
    · simp [negotiation, Negotiation.note]
    · simpa [negotiation, Negotiation.note] using agrees.authDone registered
    · simp only [negotiation, Negotiation.note, unmoved _ (.inl rfl)]
      exact agrees.phase.transfer rfl rfl rfl rfl
  · split
    · split
      · unfold whenRegistered
        split
        · exact identifyEnd_keeps overlay answers agrees
        · exact Monitor.keeps_silent agrees
      · exact Monitor.keeps_silent agrees
    · split
      · refine Monitor.keeps_single trivial ?_
        refine ⟨agrees.started, agrees.notStopped, fun registered => ?_, fun _ => ?_,
          agrees.moduleReady, ?_⟩
        · simpa [negotiation, Negotiation.note] using agrees.identifyAccepted registered
        · simp [negotiation, Negotiation.note]
        · simp only [negotiation, Negotiation.note, unmoved _ (.inr rfl)]
          exact agrees.phase.transfer rfl rfl rfl rfl
      · exact Monitor.keeps_silent agrees

theorem decode_keeps (overlay : Bool) (ret : Int) (buf : List UInt8) (answers : InjectAnswers)
    (now : Nat) (stack : RgdKey → List UInt8) {state : State} {watched : Negotiation}
    (agrees : Agrees state watched) :
    negotiation.Keeps Agrees watched (decode overlay ret buf answers now stack state) := by
  have started := agrees.ensureInit
  unfold decode
  dsimp only
  split
  · exact Monitor.keeps_silent started
  · split
    · exact Monitor.keeps_silent started
    · split
      · exact Monitor.keeps_silent started
      · exact (handleStateMessages_keeps overlay answers _ started).andThen fun between kept =>
          dispatchMessage_keeps overlay _ _ now stack kept

theorem encode_keeps (overlay : Bool) (ret : Int) (fresh : Option (Nat → UInt8))
    (mem : List UInt8) (len now : Nat) (stack : RgdKey → List UInt8) {state : State}
    {watched : Negotiation} (agrees : Agrees state watched) :
    negotiation.Keeps Agrees watched (encode overlay ret fresh mem len now stack state) := by
  have started := agrees.ensureInit
  unfold encode
  dsimp only
  split
  · exact Monitor.keeps_silent started
  · split
    · exact Monitor.keeps_silent started
    · refine Monitor.Keeps.andThen ?_ fun between kept =>
        dispatchMessage_keeps overlay _ _ now stack kept
      split
      · rename_i isIdentify
        unfold whenRegistered
        split
        · rename_i registered
          exact rgdIdentify_keeps overlay fresh mem len started registered isIdentify.2
        · exact Monitor.keeps_silent started
      · exact Monitor.keeps_silent started

/-- What a sent frame leaves to inject by does not matter to the agreement. -/
theorem Agrees.stored {state : State} {watched : Negotiation} (agrees : Agrees state watched)
    (inject : InjectionContext) :
    Agrees { state with ctx := { state.ctx with inject := inject } } watched :=
  { started := agrees.started
    notStopped := agrees.notStopped
    identifyAccepted := agrees.identifyAccepted
    authDone := agrees.authDone
    moduleReady := agrees.moduleReady
    phase := agrees.phase.transfer rfl rfl rfl rfl }

theorem forwarded_keeps {state : State} {watched : Negotiation} (agrees : Agrees state watched)
    (buf : List UInt8) : negotiation.Keeps Agrees watched (state, [.forwarded buf]) := by
  refine Monitor.keeps_single trivial ?_
  have unmoved : negotiation.note watched (.forwarded buf) = watched := by
    obtain ⟨current, identifyAccepted, authDone⟩ := watched
    simp only [negotiation, Negotiation.note, Bool.or_false]
    cases current <;> rfl
  rw [unmoved]
  exact agrees

theorem send_keeps (prefixMalloc : Malloc) (transportSelf : Bool) (buf : List UInt8)
    (answers : InjectAnswers) {state : State} {watched : Negotiation}
    (agrees : Agrees state watched) :
    negotiation.Keeps Agrees watched (send prefixMalloc transportSelf buf answers state) := by
  have started := agrees.ensureInit
  unfold send
  dsimp only
  split
  · exact forwarded_keeps started buf
  · rename_i frame found
    have stored := started.stored
      (storeInjectionContext prefixMalloc transportSelf buf frame.offset)
    have notified : negotiation.Keeps Agrees watched
        (whenRegistered (rgdTransportHandler answers frame.msgid)
          { ensureInit state with ctx := { (ensureInit state).ctx with
              inject :=
                storeInjectionContext prefixMalloc transportSelf buf frame.offset } }) := by
      unfold whenRegistered
      split
      · rename_i registered
        exact rgdTransportHandler_keeps answers frame.msgid stored registered
      · exact Monitor.keeps_silent stored
    exact Monitor.Keeps.append notified (forwarded_keeps notified.2 buf)

theorem tick_keeps (now : Nat) {state : State} {watched : Negotiation}
    (agrees : Agrees state watched) :
    negotiation.Keeps Agrees watched (tick now state) := by
  have unseen := accepts_hooks watched (RgdState.rgdPeriodicTick now state.rgd).2
  have ready : (RgdState.rgdPeriodicTick now state.rgd).1.initialized = state.rgd.initialized := by
    unfold RgdState.rgdPeriodicTick
    split
    · rfl
    · rfl
  unfold tick
  refine ⟨unseen.1, ?_⟩
  dsimp only
  rw [unseen.2]
  exact { agrees with
    moduleReady := fun registered patched => ready.trans (agrees.moduleReady registered patched)
    phase := agrees.phase.transfer rfl rfl rfl rfl }

theorem perform_keeps (overlay : Bool) (label : Label) {state : State} {watched : Negotiation}
    (agrees : Agrees state watched) :
    negotiation.Keeps Agrees watched (perform overlay label state) := by
  cases label with
  | decode ret buf answers now stack => exact decode_keeps overlay ret buf answers now stack agrees
  | encode ret fresh mem len now stack =>
      exact encode_keeps overlay ret fresh mem len now stack agrees
  | send prefixMalloc transportSelf buf answers =>
      exact send_keeps prefixMalloc transportSelf buf answers agrees
  | tick now => exact tick_keeps now agrees
  | rgdShutdown answers => exact stopAndClear_keeps overlay answers agrees nofun nofun
  | frameworkShutdown answers => exact frameworkShutdown_keeps overlay answers agrees

theorem hookSession_keeps {overlay : Bool} {state : State} {trace : List Event}
    (run : (hookSession overlay).Run state trace) :
    negotiation.Keeps Agrees negotiation.init (state, trace) := by
  refine Monitor.run_keeps agrees_loaded ?_ run
  intro state next watched events label agrees stepTo
  have performed : perform overlay label state = (next, events) := Option.some.inj stepTo
  rw [← performed]
  exact perform_keeps overlay label agrees

/-- A request that the transport took. -/
def Event.isAccepted : Event → Bool
  | .requested _ _ .ok => true
  | _ => false

/-- The requests that have been accepted by the time of a phase, at most. -/
def Phase.requests : Phase → Nat
  | .unpatched | .offered _ => 0
  | .requested _ | .closed => 1

theorem Phase.requests_le (phase : Phase) : phase.requests ≤ 1 := by
  cases phase with
  | unpatched => exact Nat.zero_le 1
  | offered => exact Nat.zero_le 1
  | requested => exact Nat.le_refl 1
  | closed => exact Nat.le_refl 1

theorem requests_note {watched : Negotiation} {event : Event}
    (allowed : negotiation.permits watched event) :
    watched.phase.requests + (if event.isAccepted then 1 else 0) ≤
      (negotiation.note watched event).phase.requests := by
  obtain ⟨current, identifyAccepted, authDone⟩ := watched
  dsimp only [negotiation, Negotiation.note]
  cases event with
  | requested componentId packet result =>
      obtain ⟨rfl, -, -⟩ := Negotiation.mk.inj allowed
      cases result <;> exact Nat.le_refl _
  | identified mem len patched =>
      obtain rfl : current = .unpatched := allowed
      exact Nat.le_refl 0
  | cleared reason =>
      cases current with
      | unpatched => exact Nat.zero_le _
      | offered => exact Nat.zero_le _
      | requested => exact Nat.le_refl _
      | closed => exact Nat.le_refl _
  | _ => cases current <;> exact Nat.le_refl _

theorem countP_isAccepted_le {watched : Negotiation} {trace : List Event}
    (accepted : negotiation.Accepts watched trace) :
    watched.phase.requests + trace.countP Event.isAccepted ≤ 1 := by
  induction trace generalizing watched with
  | nil => exact watched.phase.requests_le
  | cons event trace ih =>
      have first := requests_note accepted.1
      have later := ih accepted.2
      rw [List.countP_cons]
      omega

theorem stopped_not_mem_clear (overlay : Bool) (reason : ClearReason) (state : State)
    (componentId : Nat) (packet : Option (List UInt8)) (result : HookResult) :
    .stopped componentId packet result ∉ (rgdClearState overlay reason state).2 := by
  obtain ⟨rgd, hooks, -, clearedEq⟩ := rgdClearState_eq overlay reason state
  rw [clearedEq]
  simp

theorem stopAndClear_stops (overlay : Bool) (answers : InjectAnswers) (reason : ClearReason)
    {state : State} {watched : Negotiation} (agrees : Agrees state watched) (componentId : Nat) :
    (∃ packet result, .stopped componentId packet result ∈
        ((rgdStopUpdates answers).andThen (rgdClearState overlay reason) state).2) ↔
      watched.phase = .requested componentId := by
  rw [rgdStopUpdates_andThen_clear]
  simp only [List.mem_append, stopped_not_mem_clear, or_false]
  rcases stopEvents_cases answers agrees with ⟨requested, packet, result, stopped⟩ | ⟨others, none⟩
  · simp [stopped, requested, eq_comm]
  · simp [none, others componentId]

/-- A shutdown tries a stop exactly for a request that stands. -/
theorem shutdown_stops (overlay : Bool) (answers : InjectAnswers) {state : State}
    {watched : Negotiation} (agrees : Agrees state watched) {label : Label}
    (isShutdown : label = .rgdShutdown answers ∨ label = .frameworkShutdown answers)
    (componentId : Nat) :
    (∃ packet result, .stopped componentId packet result ∈ (perform overlay label state).2) ↔
      watched.phase = .requested componentId := by
  rcases isShutdown with rfl | rfl
  · exact stopAndClear_stops overlay answers .moduleShutdown agrees componentId
  · cases registeredEq : state.registered with
    | true =>
        have initialized := agrees.started registeredEq
        have events : (perform overlay (.frameworkShutdown answers) state).2 =
            ((rgdStopUpdates answers).andThen (rgdClearState overlay .shutdown) state).2 := by
          simp [perform, frameworkShutdown, initialized, whenRegistered, registeredEq,
            rgdStateHandler]
        rw [events]
        exact stopAndClear_stops overlay answers .shutdown agrees componentId
    | false =>
        have events : (perform overlay (.frameworkShutdown answers) state).2 = [] := by
          unfold perform frameworkShutdown whenRegistered
          dsimp only
          split
          · rfl
          · rw [if_neg (by rw [registeredEq]; decide)]
        rw [events, (agrees.closed_of_gone registeredEq).1]
        simp

/-- In every run the trace is a negotiation, in which one request at most is
accepted; and the module's shutdown tries a stop exactly for a request that
stands. -/
theorem requests_negotiated {overlay : Bool} {state : State} {trace : List Event}
    (run : (hookSession overlay).Run state trace) :
    negotiation.Accepts negotiation.init trace ∧
      trace.countP Event.isAccepted ≤ 1 ∧
      ∀ answers label, label = .rgdShutdown answers ∨ label = .frameworkShutdown answers →
        ∀ componentId,
          (∃ packet result,
              .stopped componentId packet result ∈ (perform overlay label state).2) ↔
            (negotiation.watch trace).phase = .requested componentId := by
  obtain ⟨accepted, agrees⟩ := hookSession_keeps run
  refine ⟨accepted, (Nat.le_add_left _ _).trans (countP_isAccepted_le accepted), ?_⟩
  intro answers label isShutdown componentId
  exact shutdown_stops overlay answers agrees isShutdown componentId

/-- A platform with memory whose transport takes everything. -/
def willing : InjectAnswers := ⟨zeroedMalloc, fun _ => 0⟩

/-- A location message behind a link header of nine bytes. -/
def locationPacket : List UInt8 :=
  [0xFF, 0x5A, 0x00, 0x10, 0x40, 0x01, 0x02, 0x0A, 0x4A, 0x40, 0x40, 0x00, 0x06, 0xFF, 0xFB, 0x80]

/-- The identification, its acceptance and the authentication. -/
def agreeing : List Label :=
  [.encode 0 (some fun _ => 0) [0x40, 0x40, 0x00, 0x06, 0x1D, 0x01] 6 0 (fun _ => []),
    .decode 0 [0x40, 0x40, 0x00, 0x06, 0x1D, 0x02] willing 0 (fun _ => []),
    .decode 0 [0x40, 0x40, 0x00, 0x06, 0xAA, 0x05] willing 0 (fun _ => [])]

theorem accepted_request_stopped :
    ∃ state trace, (hookSession false).Run state trace ∧ trace.countP Event.isAccepted = 1 ∧
      ∃ packet result,
        .stopped 0x0010 packet result ∈ (perform false (.rgdShutdown willing) state).2 := by
  obtain ⟨state, trace, run, checked⟩ := (hookSession false).exists_run_of_replay
    (agreeing ++ [.send zeroedMalloc true locationPacket willing])
    (fun result => decide (result.2.countP Event.isAccepted = 1 ∧
      (negotiation.watch result.2).phase = .requested 0x0010)) (by decide)
  rw [decide_eq_true_eq] at checked
  obtain ⟨-, -, stops⟩ := requests_negotiated run
  exact ⟨state, trace, run, checked.1, (stops willing _ (.inl rfl) 0x0010).mpr checked.2⟩

/-- Everything that the hook needs to put a request in front of a frame. -/
structure CanRequest (prefixMalloc : Malloc) (transportSelf : Bool) (buf : List UInt8)
    (answers : InjectAnswers) (frame : Iap2Frame) : Prop where
  transportSelf : transportSelf = true
  long : 9 ≤ frame.offset
  short : frame.offset ≤ maxPrefixLen
  lengthField : readBe16 ((buf.take frame.offset).drop 2) ≠ 0
  stored : prefixMalloc frame.offset ≠ none
  memory : answers.malloc (frame.offset + 25) ≠ none

theorem offset_le_of_found {buf : List UInt8} {frame : Iap2Frame}
    (found : iap2FindFrame buf = some frame) : frame.offset ≤ buf.length := by
  unfold iap2FindFrame iap2FindFrameAt at found
  split at found
  · cases found
  · obtain ⟨offset, isFirst, rfl⟩ := Option.map_eq_some_iff.mp found
    have inRange := List.mem_of_find?_eq_some isFirst
    rw [List.drop_zero, List.mem_range] at inRange
    exact (show offset ≤ buf.length by omega)

theorem storeInjectionContext_prefixBuf {prefixMalloc : Malloc} {transportSelf : Bool}
    {buf : List UInt8} {answers : InjectAnswers} {frame : Iap2Frame}
    (found : iap2FindFrame buf = some frame)
    (can : CanRequest prefixMalloc transportSelf buf answers frame) :
    (storeInjectionContext prefixMalloc transportSelf buf frame.offset).prefixBuf =
      some (buf.take frame.offset) := by
  have inside := offset_le_of_found found
  have long := can.long
  obtain ⟨block, allocated⟩ := Option.ne_none_iff_exists'.mp can.stored
  unfold storeInjectionContext
  dsimp only
  rw [if_pos ⟨by omega, can.short⟩, allocated, Option.map_some]
  have taken : (buf.take frame.offset).length = block.1.length := by
    rw [List.length_take, block.2]
    omega
  simp [ByteBuffers.memcpy, taken]

/-- The injection behind a stored prefix, with the memory for the packet. -/
theorem hookInjectFrame_stored {malloc : Malloc} {inject : InjectionContext}
    {realTransportSend : List UInt8 → Int} {stored frame : List UInt8}
    {block : { block : List UInt8 // block.length = stored.length + frame.length + 1 }}
    (held : inject.prefixBuf = some stored) (nonempty : stored ≠ []) (long : 6 ≤ frame.length)
    (valid : inject.valid = true) (transportSelf : inject.transportSelf = true)
    (allocated : malloc (stored.length + frame.length + 1) = some block) :
    hookInjectFrame malloc ⟨true, inject, some realTransportSend⟩ frame =
      (if realTransportSend (buildPacket block.1 stored frame) ≠ 0 then .errIo else .ok,
        some (buildPacket block.1 stored frame)) := by
  cases stored with
  | nil => exact absurd rfl nonempty
  | cons first rest =>
      have checked : ¬ (inject.valid = false ∨ inject.transportSelf = false) := by
        rw [valid, transportSelf]
        decide
      unfold hookInjectFrame
      dsimp only
      rw [if_neg (Nat.not_lt.mpr long), if_neg (by decide), if_neg checked, held]
      dsimp only
      rw [allocated]

theorem injectedStart_accepted {prefixMalloc : Malloc} {transportSelf : Bool} {buf : List UInt8}
    {answers : InjectAnswers} {frame : Iap2Frame} (found : iap2FindFrame buf = some frame)
    (can : CanRequest prefixMalloc transportSelf buf answers frame) {state : State}
    (initialized : state.initialized = true)
    (isStored : state.ctx.inject =
      storeInjectionContext prefixMalloc transportSelf buf frame.offset) (componentId : Nat) :
    ∃ bytes, (injectedStart answers state componentId).2 = some bytes ∧
      LinkPacket (buf.take frame.offset) (startFrame componentId) bytes ∧
      ((injectedStart answers state componentId).1 = .ok ↔
        answers.realTransportSend bytes = 0) := by
  have inside := offset_le_of_found found
  have long := can.long
  have short := can.short
  have frameLength : (startFrame componentId).length = 24 := rfl
  have storedLength : (buf.take frame.offset).length = frame.offset := by
    rw [List.length_take]
    omega
  have total : (buf.take frame.offset).length + (startFrame componentId).length + 1 =
      frame.offset + 25 := by
    rw [storedLength, frameLength]
  obtain ⟨block, allocated⟩ : ∃ block, answers.malloc
      ((buf.take frame.offset).length + (startFrame componentId).length + 1) = some block := by
    rw [total]
    exact Option.ne_none_iff_exists'.mp can.memory
  have held := storeInjectionContext_prefixBuf found can
  have nonempty : buf.take frame.offset ≠ [] := List.ne_nil_of_length_pos (by omega)
  rw [injectedStart, initialized, isStored, hookInjectFrame_stored held nonempty (by omega)
    can.transportSelf can.transportSelf allocated]
  refine ⟨_, rfl, linkPacket_buildPacket (by omega) can.lengthField ?_ block.2, ?_⟩
  · rw [total]
    have small : maxPrefixLen = 64 := rfl
    omega
  · dsimp only
    split
    · rename_i failed
      exact iff_of_false nofun failed
    · rename_i sent
      exact iff_of_true rfl (not_not.mp sent)

end HookSession

end CarplayRgi
