import CarplayRgi.HookInjection
import CarplayRgi.RgdHookHandler
import CarplayRgi.RgdIdentify

/-!
# The session with the phone

The hook sees every message that the phone's stack decodes, encodes and sends.
It puts a component into the identification, and once the phone has accepted it
and the authentication is complete, it asks for route guidance in front of the
next location message.  The platform answers as it likes, and the calls come in
any order.
-/

namespace CarplayRgi

namespace HookSession

open Iap2 HookInjection

/-- What the framework remembers of the session. -/
structure HookContext where
  identifyPatched : Bool
  identifyAccepted : Bool
  authDone : Bool
  sessionActive : Bool
  rgdComponentId : Nat
  rgdComponentValid : Bool
  inject : InjectionContext

/-- The context behind `hook_framework_init`. -/
def HookContext.fresh : HookContext := ⟨false, false, false, false, 0x0010, false, {}⟩

/-- The part of `g_rgd` that follows the session. -/
structure RgdFlags where
  active : Bool
  sent5200 : Bool
  sent5203 : Bool
  got520x : Bool
  componentId : Nat
  componentValid : Bool
  deriving DecidableEq

/-- The framework with its one module; `registered` is whether the module is
still in the table. -/
structure State where
  initialized : Bool
  registered : Bool
  ctx : HookContext
  flags : RgdFlags
  rgd : RgdState

/-- The state when the library has been loaded. -/
def State.loaded : State :=
  ⟨true, true, .fresh, ⟨false, false, false, false, 0x0010, false⟩, .initial⟩

/-- What the platform answers while a frame is injected. -/
structure InjectAnswers where
  malloc : Malloc
  realTransportSend : List UInt8 → Int

inductive Event where
  | identifyAccepted
  | authDone
  /-- The identification has been patched. -/
  | identified (mem : List UInt8) (len : Nat) (patched : PatchedIdentify)
  | cleared (reason : ClearReason)
  | hook (event : HookEvent)
  /-- A 0x5200 with the component, what has been given to the transport, and
  the result. -/
  | requested (componentId : Nat) (packet : Option (List UInt8)) (result : HookResult)
  /-- A 0x5203. -/
  | stopped (componentId : Nat) (packet : Option (List UInt8)) (result : HookResult)
  | forwarded (buf : List UInt8)

def rgdUpdateSessionActive (state : State) : State :=
  { state with ctx := { state.ctx with
      sessionActive := state.flags.active || state.flags.got520x } }

/-- `rgd_clear_state`. -/
def rgdClearState (overlay : Bool) (reason : ClearReason) : TracedOp State Event := fun state =>
  let cleared := RgdState.rgdClearState overlay reason state.rgd
  (rgdUpdateSessionActive
    { state with
      flags := ⟨false, false, false, false, state.flags.componentId, false⟩
      rgd := cleared.1 },
    .cleared reason :: cleared.2.map .hook)

/-- `rgd_lazy_init`. -/
def rgdLazyInit (overlay : Bool) : TracedOp State Event := fun state =>
  if state.rgd.initialized then (state, [])
  else
    rgdClearState overlay .init { state with rgd := { state.rgd with initialized := true } }

/-- `hook_inject_message`: the result, and the bytes given to the transport. -/
def hookInjectMessage (answers : InjectAnswers) (state : State) (msgid : Nat)
    (payload : List UInt8) : HookResult × Option (List UInt8) :=
  match iap2BuildFrame 512 msgid payload with
  | none => (.errParam, none)
  | some frame =>
      hookInjectFrame answers.malloc
        ⟨state.initialized, state.ctx.inject, some answers.realTransportSend⟩ frame

/-- The four items of a 0x5200, built into a buffer of 24 bytes. -/
def startTlvs (componentId : Nat) : Option (List UInt8) := do
  let component ← iap2BuildTlv 24 0x0000 (Iap2.writeBe16 componentId)
  let sourceName ← iap2BuildTlv (24 - component.length) 0x0001 []
  let off := component.length + sourceName.length
  let sourceSupportsRg ← iap2BuildTlv (24 - off) 0x0002 []
  let off := off + sourceSupportsRg.length
  let supportsExitInfo ← iap2BuildTlv (24 - off) 0x0003 []
  some (component ++ sourceName ++ sourceSupportsRg ++ supportsExitInfo)

def iap2MsgRouteGuidanceStart : Nat := 0x5200

def iap2MsgRouteGuidanceStop : Nat := 0x5203

/-- `rgd_request_updates`. -/
def rgdRequestUpdates (answers : InjectAnswers) : TracedOp State Event := fun state =>
  if state.flags.componentValid = false then (state, [])
  else
    match startTlvs state.flags.componentId with
    | none => (state, [])
    | some tlv =>
        let injected := hookInjectMessage answers state iap2MsgRouteGuidanceStart tlv
        let event := .requested state.flags.componentId injected.2 injected.1
        if injected.1 = .ok then
          (rgdUpdateSessionActive
            { state with flags := { state.flags with sent5200 := true, active := true } }, [event])
        else (state, [event])

/-- `rgd_stop_updates`. -/
def rgdStopUpdates (answers : InjectAnswers) : TracedOp State Event := fun state =>
  if state.flags.sent5203 || !state.flags.active then (state, [])
  else
    let tlv := (iap2BuildTlv 6 0x0000 (Iap2.writeBe16 state.flags.componentId)).getD []
    let injected := hookInjectMessage answers state iap2MsgRouteGuidanceStop tlv
    let event := .stopped state.flags.componentId injected.2 injected.1
    if injected.1 = .ok then
      (rgdUpdateSessionActive
        { state with flags := { state.flags with sent5203 := true, active := false } }, [event])
    else (state, [event])

def hookIsReady (ctx : HookContext) : Bool :=
  ctx.identifyPatched && ctx.identifyAccepted && ctx.authDone && ctx.rgdComponentValid

def iap2MsgLocationInfo : Nat := 0xFFFB

/-- `rgd_transport_handler`. -/
def rgdTransportHandler (answers : InjectAnswers) (msgid : Nat) : TracedOp State Event :=
  fun state =>
    if msgid = iap2MsgLocationInfo ∧ state.flags.sent5200 = false ∧ hookIsReady state.ctx then
      rgdRequestUpdates answers state
    else (state, [])

/-- The states of the session that a module is told about. -/
inductive HookStateEvent where
  | shutdown | disconnect | identifyStart | identifyOk | identifyEnd | authDone

/-- `rgd_state_handler`. -/
def rgdStateHandler (overlay : Bool) (answers : InjectAnswers) :
    HookStateEvent → TracedOp State Event
  | .shutdown => (rgdStopUpdates answers).andThen (rgdClearState overlay .shutdown)
  | .disconnect => (rgdStopUpdates answers).andThen (rgdClearState overlay .disconnect)
  | .identifyEnd => fun state =>
      if state.flags.active = false ∧ state.flags.got520x = false then
        rgdClearState overlay .identifyEnd state
      else (state, [])
  | .identifyStart | .identifyOk | .authDone => TracedOp.silent id

/-- Whether the identification can be patched: it has a header, and there is
room for the component. -/
def identifyFits (fresh : Option (Nat → UInt8)) (componentId : Nat) (mem : List UInt8)
    (len : Nat) : Bool :=
  let existing := iap2FindTlvOffset ((mem.take len).drop 6) identTlvRouteGuidanceComponent
  let existingLen := existing.2.getD 0
  let used :=
    if 0 < existingLen then
      keptComponentId componentId ((mem.drop (existing.1 + 6)).take existingLen)
    else componentId
  match rgdBuildComponentTlv 256 used with
  | none => false
  | some newTlv =>
      let newLen :=
        if 0 < existingLen then len - existingLen + newTlv.length else len + newTlv.length
      decide (6 ≤ len) && (decide (newLen ≤ mem.length) || fresh.isSome)

/-- `rgd_identify_patcher` inside the session. -/
def rgdIdentify (overlay : Bool) (fresh : Option (Nat → UInt8)) (mem : List UInt8) (len : Nat) :
    TracedOp State Event :=
  (rgdLazyInit overlay).andThen fun state =>
    if len < 6 then (state, [])
    else
      let patched := rgdIdentifyPatcher fresh state.flags.componentId mem len
      let flags :=
        { state.flags with componentId := patched.componentId, componentValid := true }
      if identifyFits fresh state.flags.componentId mem len then
        ({ state with
            flags := flags
            ctx := { state.ctx with
              identifyPatched := true
              rgdComponentId := patched.componentId
              rgdComponentValid := true } }, [.identified mem len patched])
      else ({ state with flags := flags }, [])

/-- `rgd_msg_filter`. -/
def rgdMsgFilter : List Nat :=
  [RgdState.iap2MsgRouteGuidanceUpdate, RgdState.iap2MsgRouteGuidanceManeuver,
    RgdState.iap2MsgRouteGuidanceLane]

/-- `rgd_message_handler` inside the session. -/
def rgdMessage (overlay : Bool) (msgid : Nat) (raw : List UInt8) (now : Nat)
    (stack : RgdKey → List UInt8) : TracedOp State Event :=
  (rgdLazyInit overlay).andThen fun state =>
    let first :=
      if state.flags.got520x then state
      else rgdUpdateSessionActive { state with flags := { state.flags with got520x := true } }
    let handled := RgdState.handleFrame overlay msgid raw now stack first.rgd
    ({ first with rgd := handled.1 }, handled.2.map .hook)

/-- `hook_framework_init` at the start of a hooked call. -/
def ensureInit (state : State) : State :=
  if state.initialized then state else { state with initialized := true, ctx := .fresh }

/-- The operation of the module, if it is in the table. -/
def whenRegistered (operation : TracedOp State Event) : TracedOp State Event := fun state =>
  if state.registered then operation state else (state, [])

def iap2MsgIdentify : Nat := 0x1D01
def iap2MsgIdentifyAccepted : Nat := 0x1D02
def iap2MsgIdentifyEnd : Nat := 0x1D03
def iap2MsgAuthComplete : Nat := 0xAA05

/-- `handle_state_messages`.  No state that a message can bring about makes the
module inject anything. -/
def handleStateMessages (overlay : Bool) (answers : InjectAnswers) (msgid : Nat) :
    TracedOp State Event := fun state =>
  if msgid = iap2MsgIdentifyAccepted then
    ({ state with ctx := { state.ctx with identifyAccepted := true } }, [.identifyAccepted])
  else if msgid = iap2MsgIdentifyEnd then
    if state.ctx.sessionActive = false then
      whenRegistered (rgdStateHandler overlay answers .identifyEnd) state
    else (state, [])
  else if msgid = iap2MsgAuthComplete then
    ({ state with ctx := { state.ctx with authDone := true } }, [.authDone])
  else (state, [])

/-- `dispatch_message` to the module and its filter. -/
def dispatchMessage (overlay : Bool) (msgid : Nat) (raw : List UInt8) (now : Nat)
    (stack : RgdKey → List UInt8) : TracedOp State Event :=
  if msgid ∈ rgdMsgFilter then whenRegistered (rgdMessage overlay msgid raw now stack)
  else TracedOp.silent id

/-- `Decode`, with the result of the real one.  The length is compared as a
16-bit number. -/
def decode (overlay : Bool) (ret : Int) (buf : List UInt8) (answers : InjectAnswers) (now : Nat)
    (stack : RgdKey → List UInt8) : TracedOp State Event := fun state =>
  let state := ensureInit state
  let frameLen := readBe16 (buf.drop 2)
  let msgid := readBe16 (buf.drop 4)
  if ret ≠ 0 ∨ buf.length < 6 then (state, [])
  else if buf.take 2 ≠ [0x40, 0x40] then (state, [])
  else if frameLen < 6 ∨ buf.length % 2 ^ 16 < frameLen then (state, [])
  else
    ((handleStateMessages overlay answers msgid).andThen
      (dispatchMessage overlay msgid (buf.take frameLen) now stack)) state

/-- `Encode`, with the result of the real one and the array that it has filled:
its memory and its length. -/
def encode (overlay : Bool) (ret : Int) (fresh : Option (Nat → UInt8)) (mem : List UInt8)
    (len : Nat) (now : Nat) (stack : RgdKey → List UInt8) : TracedOp State Event := fun state =>
  let state := ensureInit state
  if ret ≠ 0 ∨ len < 6 then (state, [])
  else if mem.take 2 ≠ [0x40, 0x40] then (state, [])
  else
    let msgid := readBe16 (mem.drop 4)
    ((if msgid = iap2MsgIdentify ∧ state.ctx.identifyPatched = false then
        whenRegistered (rgdIdentify overlay fresh mem len)
      else TracedOp.silent id).andThen
      (dispatchMessage overlay msgid (mem.take (readBe16 (mem.drop 2))) now stack)) state

/-- `Send`: the frame may bring the module to inject one in front of it. -/
def send (prefixMalloc : Malloc) (transportSelf : Bool) (buf : List UInt8)
    (answers : InjectAnswers) : TracedOp State Event := fun state =>
  let state := ensureInit state
  match iap2FindFrame buf with
  | none => (state, [.forwarded buf])
  | some frame =>
      let stored :=
        { state with ctx := { state.ctx with
            inject := storeInjectionContext prefixMalloc transportSelf buf frame.offset } }
      let notified := whenRegistered (rgdTransportHandler answers frame.msgid) stored
      (notified.1, notified.2 ++ [.forwarded buf])

/-- `hook_framework_shutdown`. -/
def frameworkShutdown (overlay : Bool) (answers : InjectAnswers) : TracedOp State Event :=
  fun state =>
    if state.initialized = false then (state, [])
    else
      let notified := whenRegistered (rgdStateHandler overlay answers .shutdown) state
      ({ notified.1 with
          initialized := false
          registered := false
          ctx := { notified.1.ctx with
            inject := { notified.1.ctx.inject with prefixBuf := none } } }, notified.2)

/-- `rgd_shutdown`. -/
def rgdShutdown (overlay : Bool) (answers : InjectAnswers) : TracedOp State Event :=
  (rgdStopUpdates answers).andThen (rgdClearState overlay .moduleShutdown)

/-- The 1 Hz tick. -/
def tick (now : Nat) : TracedOp State Event := fun state =>
  let ticked := RgdState.rgdPeriodicTick now state.rgd
  ({ state with rgd := ticked.1 }, ticked.2.map .hook)

inductive Label where
  | decode (ret : Int) (buf : List UInt8) (answers : InjectAnswers) (now : Nat)
      (stack : RgdKey → List UInt8)
  | encode (ret : Int) (fresh : Option (Nat → UInt8)) (mem : List UInt8) (len now : Nat)
      (stack : RgdKey → List UInt8)
  | send (prefixMalloc : Malloc) (transportSelf : Bool) (buf : List UInt8)
      (answers : InjectAnswers)
  | tick (now : Nat)
  | rgdShutdown (answers : InjectAnswers)
  | frameworkShutdown (answers : InjectAnswers)

def perform (overlay : Bool) : Label → TracedOp State Event
  | .decode ret buf answers now stack => decode overlay ret buf answers now stack
  | .encode ret fresh mem len now stack => encode overlay ret fresh mem len now stack
  | .send prefixMalloc transportSelf buf answers => send prefixMalloc transportSelf buf answers
  | .tick now => tick now
  | .rgdShutdown answers => rgdShutdown overlay answers
  | .frameworkShutdown answers => frameworkShutdown overlay answers

end HookSession

open HookSession in
/-- The hook over the calls of a process. -/
def hookSession (overlay : Bool) : TracedSystem State Label Event where
  init := .loaded
  step state label := some (perform overlay label state)

end CarplayRgi
