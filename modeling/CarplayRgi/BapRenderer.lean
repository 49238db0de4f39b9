import CarplayRgi.BapDistance
import CarplayRgi.RendererMapper
import CarplayRgi.RendererProtocol
import CarplayRgi.TracedPairs

/-!
# The maneuver that the renderer shows

The bridge sends a maneuver to the renderer only if it differs from the one that
it remembers.  It remembers what the maneuver is made of but for the junction
angles, so that a change of these alone is not sent.
-/

namespace CarplayRgi

open BapBridge RouteGuidance

/-- What a `MANEUVER` or a `PRELOAD` packet is built from. -/
structure ManeuverCommand where
  preload : Bool
  icon : Int
  direction : Int
  exitAngle : Int
  drivingSide : Int
  junctionAngles : Option (List Int)
  bargraphLevel : Int
  bargraphMode : Int
  perspective : Int

/-- What a packet says of the maneuver, which has room for 18 angles. -/
structure ManeuverGeometry where
  icon : Int
  direction : Int
  exitAngle : Int
  drivingSide : Int
  junctionAngles : List Int
  deriving DecidableEq

def sentAngles (junctionAngles : Option (List Int)) : List Int :=
  (junctionAngles.getD []).take maxJunctionAngles

namespace ManeuverCommand

def packet (command : ManeuverCommand) : RendererPacket :=
  sendManeuverCommand (if command.preload then cmdPreloadManeuver else cmdManeuver) command.icon
    command.direction command.exitAngle command.drivingSide command.junctionAngles
    command.bargraphLevel command.bargraphMode command.perspective

def geometry (command : ManeuverCommand) : ManeuverGeometry where
  icon := command.icon
  direction := command.direction
  exitAngle := command.exitAngle
  drivingSide := command.drivingSide
  junctionAngles := sentAngles command.junctionAngles

/-- Of the maneuver, a packet has nothing but the geometry. -/
theorem packet_of_geometry {first second : ManeuverCommand}
    (geometry : first.geometry = second.geometry) (preload : first.preload = second.preload)
    (level : first.bargraphLevel = second.bargraphLevel)
    (mode : first.bargraphMode = second.bargraphMode)
    (perspective : first.perspective = second.perspective) : first.packet = second.packet := by
  simp only [ManeuverCommand.geometry, ManeuverGeometry.mk.injEq, sentAngles] at geometry
  obtain ⟨icon, direction, exitAngle, drivingSide, angles⟩ := geometry
  unfold packet sendManeuverCommand
  rw [icon, direction, exitAngle, drivingSide, angles, preload, level, mode, perspective]

end ManeuverCommand

/-- The `lastCr` fields. -/
structure LastManeuver where
  icon : Int
  direction : Int
  exitAngle : Int
  drivingSide : Int
  ver : Int
  deriving DecidableEq

namespace LastManeuver

def unset : LastManeuver := ⟨-1, -99, -9999, -1, -1⟩

def followStreet : LastManeuver := ⟨RendererMapper.iconApproach, 0, 0, 0, -1⟩

/-- The version of an arrival is ignored. -/
def suppresses (last next : LastManeuver) : Bool :=
  decide (next.icon = last.icon ∧ next.direction = last.direction ∧
    next.exitAngle = last.exitAngle ∧ next.drivingSide = last.drivingSide ∧
    (next.icon = RendererMapper.iconArrived ∨ next.ver = last.ver))

end LastManeuver

structure RendererBridge where
  zone : ApproachZone
  startupFramePending : Bool
  customRendererPrepared : Bool
  customRendererStarted : Bool
  customRendererSoftHidden : Bool
  lastCr : LastManeuver

/-- How the renderer and the cluster respond to a call of the receiver. -/
structure RendererResponse where
  prepares : Bool
  frameReady : Bool
  pipelineActivates : Bool

/-- The slot of the first maneuver of the list that has a valid type. -/
def firstValid (state : State) : Option Slot :=
  (getManeuverIndexList state).findSome? fun idx =>
    (slotOf idx).filter fun slot => ManeuverMapper.isValidType (state.maneuver slot).type

/-- The bar that comes with a maneuver. -/
def rendererBargraph (state : State) : Int × Int :=
  let distM := state.route.distManeuverM
  let denominator := bargraphDenominatorM state
  if 0 < denominator ∧ 0 < distM ∧ distM ≤ denominator then
    ((DistanceBridge.linearBargraph distM denominator * 16).tdiv 100, 1)
  else (0, 0)

def headManeuver (man : ManeuverFields) : LastManeuver where
  icon := RendererMapper.mapIcon man.type
  direction := RendererMapper.mapDirection man.type man.turnAngle man.drivingSide
  exitAngle := RendererMapper.mapExitAngle man.type man.turnAngle
  drivingSide := man.drivingSide
  ver := man.ver

def headCommand (preload : Bool) (state : State) (man : ManeuverFields) : ManeuverCommand :=
  let head := headManeuver man
  { preload
    icon := head.icon, direction := head.direction, exitAngle := head.exitAngle
    drivingSide := head.drivingSide, junctionAngles := man.junctionAngles
    bargraphLevel := (rendererBargraph state).1, bargraphMode := (rendererBargraph state).2
    perspective := 1 }

def followStreetCommand (preload : Bool) : ManeuverCommand :=
  ⟨preload, RendererMapper.iconApproach, 0, 0, 0, none, 0, 0, 1⟩

def windowPolicySoftHide : Nat := 1
def windowPolicyAlwaysOn : Nat := 3
def windowPolicy : Nat := windowPolicyAlwaysOn

namespace RendererBridge

def fresh : RendererBridge := ⟨.outside, false, false, false, false, .unset⟩

/-- `updateRendererIfChanged`: it sends a packet or nothing. -/
def updateRendererIfChanged (state : State) : TracedOp RendererBridge ManeuverCommand :=
  fun bridge =>
    if !bridge.customRendererStarted && !bridge.customRendererPrepared then (bridge, [])
    else if !hasManeuverList state || decide (state.route.maneuverCount = 0) then (bridge, [])
    else
      match firstValid state with
      | none => (bridge, [])
      | some slot =>
          let man := state.maneuver slot
          let preload := bridge.customRendererPrepared && !bridge.customRendererStarted
          if bridge.lastCr.suppresses (headManeuver man) then (bridge, [])
          else ({ bridge with lastCr := headManeuver man }, [headCommand preload state man])

def preloadRendererFollowStreet : TracedOp RendererBridge ManeuverCommand := fun bridge =>
  if !bridge.customRendererPrepared || bridge.customRendererStarted then (bridge, [])
  else ({ bridge with lastCr := .followStreet }, [followStreetCommand true])

def sendRendererFollowStreet : TracedOp RendererBridge ManeuverCommand := fun bridge =>
  if !bridge.customRendererStarted then (bridge, [])
  else if RendererMapper.iconApproach = bridge.lastCr.icon ∧
      bridge.customRendererSoftHidden = false then (bridge, [])
  else ({ bridge with lastCr := .followStreet }, [followStreetCommand false])

/-- `startCustomRenderer`, when it succeeds. -/
def startCustomRenderer (bridge : RendererBridge) : RendererBridge :=
  if bridge.customRendererPrepared || bridge.customRendererStarted then bridge
  else
    { bridge with
      customRendererPrepared := true, customRendererStarted := false
      customRendererSoftHidden := false, lastCr := .unset }

def abortPreparedCustomRenderer (bridge : RendererBridge) : RendererBridge :=
  { bridge with
    customRendererPrepared := false, customRendererStarted := false
    customRendererSoftHidden := false, lastCr := .unset }

def activatePreparedCustomRenderer (response : RendererResponse) (state : State)
    (followStreet : Bool) : TracedOp RendererBridge ManeuverCommand := fun bridge =>
  if !bridge.customRendererPrepared || bridge.customRendererStarted then (bridge, [])
  else
    let preloaded :=
      if followStreet then bridge.preloadRendererFollowStreet
      else bridge.updateRendererIfChanged state
    if preloaded.2.isEmpty then preloaded
    else if !response.frameReady || !response.pipelineActivates then
      (preloaded.1.abortPreparedCustomRenderer, preloaded.2)
    else
      ({ preloaded.1 with
          customRendererPrepared := false, customRendererStarted := true
          customRendererSoftHidden := false, startupFramePending := false },
        preloaded.2)

def softHideCustomRendererForCruise (bridge : RendererBridge) : RendererBridge :=
  if !bridge.customRendererStarted || bridge.customRendererSoftHidden then bridge
  else { bridge with customRendererSoftHidden := true, lastCr := .unset }

def resumeSoftHiddenCustomRenderer (state : State) (followStreet : Bool) :
    TracedOp RendererBridge ManeuverCommand := fun bridge =>
  if !bridge.customRendererStarted || !bridge.customRendererSoftHidden then (bridge, [])
  else
    let sent :=
      if followStreet then bridge.sendRendererFollowStreet
      else bridge.updateRendererIfChanged state
    if sent.2.isEmpty then sent else ({ sent.1 with customRendererSoftHidden := false }, sent.2)

def hideCustomRendererForCruise (bridge : RendererBridge) : RendererBridge :=
  if !bridge.customRendererStarted then bridge
  else
    { bridge with
      customRendererStarted := false, customRendererPrepared := true
      customRendererSoftHidden := false, lastCr := .unset }

def stopCustomRenderer (bridge : RendererBridge) : RendererBridge :=
  { bridge with
    startupFramePending := false, customRendererPrepared := false
    customRendererStarted := false, customRendererSoftHidden := false, lastCr := .unset }

/-- `handleRendererDied`, after the cooldown. -/
def handleRendererDied (restarts : Bool) (bridge : RendererBridge) : RendererBridge :=
  if !bridge.customRendererStarted && !bridge.customRendererPrepared then bridge
  else
    let stopped :=
      { bridge with
        customRendererPrepared := false, customRendererStarted := false, lastCr := .unset }
    if restarts then stopped.startCustomRenderer else stopped

section Visibility

variable (state : State) (bridge : RendererBridge)

def clears : Bool := explicitClear state || shouldClearManeuver state

def rendererApproach : Bool :=
  bridge.zone.nowApproach state && showManeuver state && hasManeuverList state && !clears state

def rendererHasValidState : Bool :=
  showManeuver state && hasManeuverList state && hasUsableDistance state && !clears state

def zeroDistanceStartupFrame : Bool :=
  decide (windowPolicy = windowPolicyAlwaysOn) && bridge.startupFramePending &&
    decide (state.route.distManeuverM = 0 ∧ 0 < state.route.routeState ∧
      0 < state.route.maneuverCount) &&
    hasManeuverList state && showManeuver state && !clears state

def rendererHasDisplayState : Bool :=
  rendererHasValidState state || bridge.zeroDistanceStartupFrame state

def rendererTransientState : Bool :=
  bridge.customRendererStarted && hasAnyManeuver state && !clears state &&
    (!hasManeuverList state || !hasUsableDistance state)

def rendererFollowStreet : Bool :=
  bridge.rendererHasDisplayState state && !bridge.rendererApproach state &&
    !bridge.zeroDistanceStartupFrame state

def rendererShouldBeVisible : Bool :=
  bridge.rendererHasDisplayState state || bridge.rendererTransientState state

end Visibility

def crIconMask : Finset DirtyFlag := {.maneuverIcon, .maneuverList, .maneuverCount}

/-- What is sent to a renderer that has started. -/
def showRenderer (state : State) (followStreet : Bool) (dirty : Finset DirtyFlag) :
    TracedOp RendererBridge ManeuverCommand := fun bridge =>
  if bridge.customRendererSoftHidden then
    bridge.resumeSoftHiddenCustomRenderer state followStreet
  else if followStreet then bridge.sendRendererFollowStreet
  else if ¬ Disjoint dirty crIconMask ∨ bridge.lastCr.icon = RendererMapper.iconApproach then
    bridge.updateRendererIfChanged state
  else (bridge, [])

/-- The renderer is hidden while nothing is to be seen. -/
def hideRenderer (visible : Bool) (bridge : RendererBridge) : RendererBridge :=
  if bridge.customRendererStarted && !visible then
    if windowPolicy = windowPolicySoftHide then bridge.softHideCustomRendererForCruise
    else bridge.hideCustomRendererForCruise
  else bridge

/-- The renderer is prepared and activated for the first display. -/
def exposeRenderer (response : RendererResponse) (state : State) (followStreet : Bool) :
    TracedOp RendererBridge ManeuverCommand := fun bridge =>
  if bridge.customRendererStarted then (bridge, [])
  else
    activatePreparedCustomRenderer response state followStreet
      (if response.prepares then bridge.startCustomRenderer else bridge)

/-- The branch of `update` for the renderer. -/
def update (response : RendererResponse) (state : State) :
    TracedOp RendererBridge ManeuverCommand := fun bridge =>
  if state.dirtyMask = ∅ then (bridge, [])
  else
    let display := bridge.rendererHasDisplayState state
    let visible := bridge.rendererShouldBeVisible state
    let followStreet := bridge.rendererFollowStreet state
    let hidden := { bridge with zone := bridge.zone.follow state }.hideRenderer visible
    let exposed :=
      if visible && display then hidden.exposeRenderer response state followStreet else (hidden, [])
    if exposed.1.customRendererStarted && visible && display then
      let shown := exposed.1.showRenderer state followStreet (bridge.zone.dirty state)
      (shown.1, exposed.2 ++ shown.2)
    else exposed

def onStart (bridge : RendererBridge) : RendererBridge :=
  { bridge with
    zone := .outside, startupFramePending := true, customRendererSoftHidden := false }

def onStop (bridge : RendererBridge) : RendererBridge :=
  { bridge.hideCustomRendererForCruise with zone := .outside, startupFramePending := false }

def perform (response : RendererResponse) : BridgeCall → TracedOp RendererBridge ManeuverCommand
  | .onStart => .silent onStart
  | .onStop => .silent onStop
  | .onShutdown => .silent stopCustomRenderer
  | .update state => update response state

end RendererBridge

/-- A call of the receiver, a thread that has prepared the renderer, the death of
the renderer, and the thread that stops it. -/
inductive BapRendererLabel where
  | call (call : BridgeCall) (response : RendererResponse)
  | prepared
  | died (restarts : Bool)
  | stop

def bapRendererStep : BapRendererLabel → TracedOp RendererBridge ManeuverCommand
  | .call call response => RendererBridge.perform response call
  | .prepared => .silent RendererBridge.startCustomRenderer
  | .died restarts => .silent (RendererBridge.handleRendererDied restarts)
  | .stop => .silent RendererBridge.stopCustomRenderer

/-- The bridge of a renderer that accepts every packet; the trace has these. -/
def bapRenderer : TracedSystem RendererBridge BapRendererLabel ManeuverCommand where
  init := .fresh
  step bridge label := some (bapRendererStep label bridge)

namespace RendererBridge

variable {bridge : RendererBridge} {trace : List ManeuverCommand} {state : State}

/-- The remembered maneuver is the one of a packet. -/
structure IsOf (last : LastManeuver) (command : ManeuverCommand) : Prop where
  icon : command.icon = last.icon
  direction : command.direction = last.direction
  exitAngle : command.exitAngle = last.exitAngle
  drivingSide : command.drivingSide = last.drivingSide

/-- The bridge remembers nothing, or the last packet. -/
def Remembers (bridge : RendererBridge) (trace : List ManeuverCommand) : Prop :=
  bridge.lastCr = .unset ∨ ∃ command ∈ trace.getLast?, IsOf bridge.lastCr command

theorem Remembers.of_eq {after : RendererBridge} (remembers : bridge.Remembers trace)
    (same : after.lastCr = bridge.lastCr) : after.Remembers trace := by
  unfold Remembers
  rw [same]
  exact remembers

theorem Remembers.quiet {after : RendererBridge} (remembers : bridge.Remembers trace)
    (same : after.lastCr = bridge.lastCr ∨ after.lastCr = .unset) : after.Remembers trace := by
  rcases same with same | unset
  · exact remembers.of_eq same
  · exact .inl unset

theorem remembers_sent {command : ManeuverCommand} (isOf : IsOf bridge.lastCr command) :
    bridge.Remembers (trace ++ [command]) :=
  .inr ⟨command, by simp, isOf⟩

/-- An operation keeps what is remembered true. -/
def KeepsMemory (operation : TracedOp RendererBridge ManeuverCommand) : Prop :=
  ∀ bridge trace, Remembers bridge trace →
    Remembers (operation bridge).1 (trace ++ (operation bridge).2)

theorem KeepsMemory.of_silent {change : RendererBridge → RendererBridge}
    (same : ∀ bridge, (change bridge).lastCr = bridge.lastCr ∨ (change bridge).lastCr = .unset) :
    KeepsMemory (.silent change) := by
  intro bridge trace remembers
  simpa [TracedOp.silent] using remembers.quiet (same bridge)

theorem updateRendererIfChanged_keeps (state : State) :
    KeepsMemory (updateRendererIfChanged state) := by
  intro bridge trace remembers
  unfold updateRendererIfChanged
  split_ifs
  · simpa using remembers
  · simpa using remembers
  cases firstValid state with
  | none => simpa using remembers
  | some slot =>
      dsimp only
      split_ifs
      · simpa using remembers
      · exact remembers_sent ⟨rfl, rfl, rfl, rfl⟩

theorem preloadRendererFollowStreet_keeps : KeepsMemory preloadRendererFollowStreet := by
  intro bridge trace remembers
  unfold preloadRendererFollowStreet
  split_ifs
  · simpa using remembers
  · exact remembers_sent ⟨rfl, rfl, rfl, rfl⟩

theorem sendRendererFollowStreet_keeps : KeepsMemory sendRendererFollowStreet := by
  intro bridge trace remembers
  unfold sendRendererFollowStreet
  split_ifs
  · simpa using remembers
  · simpa using remembers
  · exact remembers_sent ⟨rfl, rfl, rfl, rfl⟩

theorem KeepsMemory.ite (condition : Bool) {yes no : TracedOp RendererBridge ManeuverCommand}
    (yesKeeps : KeepsMemory yes) (noKeeps : KeepsMemory no) :
    KeepsMemory fun bridge => if condition then yes bridge else no bridge := by
  cases condition with
  | true => exact yesKeeps
  | false => exact noKeeps

theorem activatePreparedCustomRenderer_keeps (response : RendererResponse) (state : State)
    (followStreet : Bool) :
    KeepsMemory (activatePreparedCustomRenderer response state followStreet) := by
  intro bridge trace remembers
  have preloads := KeepsMemory.ite followStreet preloadRendererFollowStreet_keeps
    (updateRendererIfChanged_keeps state) bridge trace remembers
  unfold activatePreparedCustomRenderer
  dsimp only at preloads ⊢
  generalize (if followStreet = true then bridge.preloadRendererFollowStreet
    else bridge.updateRendererIfChanged state) = preloaded at preloads ⊢
  split_ifs
  · simpa using remembers
  · exact preloads
  · exact .inl rfl
  · exact preloads.of_eq rfl

theorem resumeSoftHiddenCustomRenderer_keeps (state : State) (followStreet : Bool) :
    KeepsMemory (resumeSoftHiddenCustomRenderer state followStreet) := by
  intro bridge trace remembers
  have sends := KeepsMemory.ite followStreet sendRendererFollowStreet_keeps
    (updateRendererIfChanged_keeps state) bridge trace remembers
  unfold resumeSoftHiddenCustomRenderer
  dsimp only at sends ⊢
  generalize (if followStreet = true then bridge.sendRendererFollowStreet
    else bridge.updateRendererIfChanged state) = sent at sends ⊢
  split_ifs
  · simpa using remembers
  · exact sends
  · exact sends.of_eq rfl

theorem showRenderer_keeps (state : State) (followStreet : Bool) (dirty : Finset DirtyFlag) :
    KeepsMemory (showRenderer state followStreet dirty) := by
  intro bridge trace remembers
  unfold showRenderer
  split_ifs
  · exact resumeSoftHiddenCustomRenderer_keeps state followStreet bridge trace remembers
  · exact sendRendererFollowStreet_keeps bridge trace remembers
  · exact updateRendererIfChanged_keeps state bridge trace remembers
  · simpa using remembers

theorem startCustomRenderer_lastCr (bridge : RendererBridge) :
    bridge.startCustomRenderer.lastCr = bridge.lastCr ∨
      bridge.startCustomRenderer.lastCr = .unset := by
  unfold startCustomRenderer
  split_ifs
  · exact .inl rfl
  · exact .inr rfl

theorem hideCustomRendererForCruise_lastCr (bridge : RendererBridge) :
    bridge.hideCustomRendererForCruise.lastCr = bridge.lastCr ∨
      bridge.hideCustomRendererForCruise.lastCr = .unset := by
  unfold hideCustomRendererForCruise
  split_ifs
  · exact .inl rfl
  · exact .inr rfl

theorem hideRenderer_lastCr (visible : Bool) (bridge : RendererBridge) :
    (bridge.hideRenderer visible).lastCr = bridge.lastCr ∨
      (bridge.hideRenderer visible).lastCr = .unset := by
  unfold hideRenderer
  split_ifs with _ soft
  · exact absurd soft (by decide)
  · exact bridge.hideCustomRendererForCruise_lastCr
  · exact .inl rfl

theorem exposeRenderer_keeps (response : RendererResponse) (state : State) (followStreet : Bool) :
    KeepsMemory (exposeRenderer response state followStreet) := by
  intro bridge trace remembers
  unfold exposeRenderer
  split_ifs
  · simpa using remembers
  · exact activatePreparedCustomRenderer_keeps response state followStreet _ trace
      (remembers.quiet bridge.startCustomRenderer_lastCr)
  · exact activatePreparedCustomRenderer_keeps response state followStreet _ trace remembers

theorem update_keeps (response : RendererResponse) (state : State) :
    KeepsMemory (update response state) := by
  intro bridge trace remembers
  have zoned : Remembers { bridge with zone := bridge.zone.follow state } trace :=
    remembers.of_eq rfl
  have hidden := zoned.quiet (hideRenderer_lastCr (bridge.rendererShouldBeVisible state) _)
  have exposes := exposeRenderer_keeps response state (bridge.rendererFollowStreet state) _ trace
    hidden
  unfold update
  dsimp only
  split_ifs with clean exposed shown shown
  · simpa using remembers
  · rw [← List.append_assoc]
    exact showRenderer_keeps state _ _ _ _ exposes
  · exact exposes
  · rw [← List.append_assoc, List.append_nil]
    exact showRenderer_keeps state _ _ _ _ hidden
  · rw [List.append_nil]
    exact hidden

theorem handleRendererDied_lastCr (restarts : Bool) (bridge : RendererBridge) :
    (bridge.handleRendererDied restarts).lastCr = bridge.lastCr ∨
      (bridge.handleRendererDied restarts).lastCr = .unset := by
  unfold handleRendererDied
  dsimp only
  split_ifs
  · exact .inl rfl
  · refine .inr ?_
    rcases startCustomRenderer_lastCr { bridge with
      customRendererPrepared := false, customRendererStarted := false
      lastCr := .unset } with same | unset
    · exact same
    · exact unset
  · exact .inr rfl

theorem bapRendererStep_keeps (label : BapRendererLabel) : KeepsMemory (bapRendererStep label) := by
  cases label with
  | prepared => exact .of_silent startCustomRenderer_lastCr
  | died restarts => exact .of_silent (handleRendererDied_lastCr restarts)
  | stop => exact .of_silent fun _ => .inr rfl
  | call call response =>
      cases call with
      | onStart => exact .of_silent fun _ => .inl rfl
      | onStop => exact .of_silent hideCustomRendererForCruise_lastCr
      | onShutdown => exact .of_silent fun _ => .inr rfl
      | update state => exact update_keeps response state

end RendererBridge

/-- In every run, the bridge remembers nothing or the last packet. -/
theorem remembers_of_run {bridge : RendererBridge} {trace : List ManeuverCommand}
    (run : bapRenderer.Run bridge trace) : bridge.Remembers trace := by
  refine run.invariant RendererBridge.Remembers (.inl rfl) ?_
  intro state next trace sent label remembers _ stepTo
  obtain ⟨rfl, rfl⟩ : (bapRendererStep label state).1 = next ∧
      (bapRendererStep label state).2 = sent :=
    Prod.mk.injEq _ _ _ _ ▸ Option.some.inj stepTo
  exact RendererBridge.bapRendererStep_keeps label state trace remembers

def headGeometry (man : ManeuverFields) : ManeuverGeometry where
  icon := (headManeuver man).icon
  direction := (headManeuver man).direction
  exitAngle := (headManeuver man).exitAngle
  drivingSide := (headManeuver man).drivingSide
  junctionAngles := sentAngles man.junctionAngles

/-- The last packet has the first valid maneuver of the list. -/
def ShowsHead (state : State) (trace : List ManeuverCommand) : Prop :=
  ∃ command ∈ trace.getLast?, ∃ slot ∈ firstValid state,
    command.geometry = headGeometry (state.maneuver slot)

/-- An update that changes the list, an icon or the count, and whose first
maneuver is shown by a renderer that has started; it is no arrival. -/
structure HeadShown (state : State) (bridge : RendererBridge) : Prop where
  started : bridge.customRendererStarted = true
  notHidden : bridge.customRendererSoftHidden = false
  display : bridge.rendererHasDisplayState state = true
  notFollowStreet : bridge.rendererFollowStreet state = false
  dirty : ¬ Disjoint state.dirtyMask RendererBridge.crIconMask
  notArrived : ∀ slot ∈ firstValid state,
    (headManeuver (state.maneuver slot)).icon ≠ RendererMapper.iconArrived

/-- A maneuver that is remembered comes with the angles of the last packet.
Without a count nothing is sent. -/
def KeepsGeometry (state : State) (bridge : RendererBridge) (trace : List ManeuverCommand) : Prop :=
  if state.route.maneuverCount = 0 then ShowsHead state trace
  else
    ∀ slot ∈ firstValid state, headManeuver (state.maneuver slot) = bridge.lastCr →
      ∀ command ∈ trace.getLast?,
        sentAngles command.junctionAngles = sentAngles (state.maneuver slot).junctionAngles

/-- A first maneuver that can be shown is the first valid one. -/
theorem firstValid_of_shown {state : State} (shown : showManeuver state = true) :
    ∃ slot, firstValid state = some slot ∧ hasManeuverList state = true := by
  unfold showManeuver firstType firstValue firstIdx at shown
  unfold firstValid hasManeuverList
  cases list : getManeuverIndexList state with
  | nil =>
      rw [list] at shown
      simp [slotOf, ManeuverMapper.isValidType, ManeuverMapper.mtNoTurn] at shown
  | cons first rest =>
      rw [list, List.headD_cons] at shown
      cases isSlot : slotOf first with
      | none =>
          rw [isSlot] at shown
          simp [ManeuverMapper.isValidType, ManeuverMapper.mtNoTurn] at shown
      | some slot =>
          rw [isSlot, Option.map_some, Option.getD_some] at shown
          refine ⟨slot, ?_, rfl⟩
          rw [List.findSome?_cons, isSlot, Option.filter_some, if_pos shown]

theorem mapIcon_ne_unset (type : Int) : RendererMapper.mapIcon type ≠ LastManeuver.unset.icon := by
  unfold RendererMapper.mapIcon
  split_ifs <;> decide

namespace HeadShown

variable {state : State} {bridge : RendererBridge} (headShown : HeadShown state bridge)

include headShown

theorem shown : showManeuver state = true := by
  have display := headShown.display
  simp only [RendererBridge.rendererHasDisplayState, RendererBridge.rendererHasValidState,
    RendererBridge.zeroDistanceStartupFrame, Bool.or_eq_true, Bool.and_eq_true] at display
  rcases display with valid | zero
  · exact valid.1.1.1
  · exact zero.1.2

/-- The update is left to `updateRendererIfChanged`. -/
theorem update_eq (response : RendererResponse) :
    RendererBridge.update response state bridge =
      RendererBridge.updateRendererIfChanged state
        { bridge with zone := bridge.zone.follow state } := by
  obtain ⟨started, notHidden, display, notFollowStreet, dirty, -⟩ := headShown
  have someDirty : state.dirtyMask ≠ ∅ := by
    intro clean
    exact dirty (clean ▸ Finset.disjoint_empty_left _)
  have visible : bridge.rendererShouldBeVisible state = true := by
    rw [RendererBridge.rendererShouldBeVisible, display, Bool.true_or]
  have zoneDirty : ¬ Disjoint (bridge.zone.dirty state) RendererBridge.crIconMask := by
    intro disjoint
    refine dirty (disjoint.mono_left ?_)
    unfold ApproachZone.dirty
    split_ifs
    · exact Finset.subset_union_left
    · exact subset_rfl
  have hidden : RendererBridge.hideRenderer true { bridge with zone := bridge.zone.follow state } =
      { bridge with zone := bridge.zone.follow state } := by
    rw [RendererBridge.hideRenderer, Bool.not_true, Bool.and_false, if_neg (by decide)]
  unfold RendererBridge.update
  rw [if_neg someDirty]
  dsimp only
  rw [visible, display, notFollowStreet, hidden, Bool.and_self, if_pos rfl,
    RendererBridge.exposeRenderer, if_pos started]
  dsimp only
  rw [started, Bool.and_self, if_pos (by decide), List.nil_append, RendererBridge.showRenderer]
  dsimp only
  rw [notHidden, if_neg (by decide), if_neg (by decide), if_pos (.inl zoneDirty)]

end HeadShown

theorem suppresses_iff {last next : LastManeuver}
    (notArrived : next.icon ≠ RendererMapper.iconArrived) :
    last.suppresses next = true ↔ next = last := by
  unfold LastManeuver.suppresses
  rw [decide_eq_true_eq, or_iff_right notArrived]
  cases next
  cases last
  rw [LastManeuver.mk.injEq]

theorem headCommand_geometry (preload : Bool) (state : State) (man : ManeuverFields) :
    (headCommand preload state man).geometry = headGeometry man :=
  rfl

/-- With the remembered maneuver, the last packet has the geometry if and only if
it has the angles. -/
theorem geometry_iff {command : ManeuverCommand} {man : ManeuverFields} {last : LastManeuver}
    (isOf : RendererBridge.IsOf last command) (same : headManeuver man = last) :
    command.geometry = headGeometry man ↔
      sentAngles command.junctionAngles = sentAngles man.junctionAngles := by
  unfold ManeuverCommand.geometry headGeometry
  rw [ManeuverGeometry.mk.injEq, same]
  simp [isOf.icon, isOf.direction, isOf.exitAngle, isOf.drivingSide]

/-- Along every run, an update that shows the first maneuver leaves its geometry
with the renderer if and only if a remembered maneuver has kept its angles. -/
theorem renderer_shows_head_iff {bridge : RendererBridge} {trace : List ManeuverCommand}
    (run : bapRenderer.Run bridge trace) {state : State} (headShown : HeadShown state bridge)
    (response : RendererResponse) :
    ShowsHead state (trace ++ (RendererBridge.update response state bridge).2) ↔
      KeepsGeometry state bridge trace := by
  obtain ⟨slot, isFirst, listed⟩ := firstValid_of_shown headShown.shown
  have notArrived := headShown.notArrived slot isFirst
  have active : ¬ (!bridge.customRendererStarted && !bridge.customRendererPrepared) = true := by
    simp [headShown.started]
  rw [headShown.update_eq, RendererBridge.updateRendererIfChanged, if_neg active]
  unfold KeepsGeometry
  by_cases noCount : state.route.maneuverCount = 0
  · rw [if_pos (by simp [noCount]), if_pos noCount, List.append_nil]
  rw [if_neg (by simp [noCount, listed]), if_neg noCount]
  unfold ShowsHead
  rw [isFirst]
  dsimp only
  by_cases same : headManeuver (state.maneuver slot) = bridge.lastCr
  · rw [if_pos ((suppresses_iff notArrived).mpr same), List.append_nil]
    -- the bridge remembers a maneuver, so that there is a packet
    have known : bridge.lastCr ≠ .unset := by
      intro unset
      refine mapIcon_ne_unset (state.maneuver slot).type ?_
      exact congrArg LastManeuver.icon (same.trans unset)
    obtain ⟨command, isLast, isOf⟩ := (remembers_of_run run).resolve_left known
    rw [Option.mem_def] at isLast
    rw [isLast]
    simpa [same] using geometry_iff isOf same
  · rw [if_neg fun suppressed => same ((suppresses_iff notArrived).mp suppressed)]
    simp [same, headCommand_geometry]

/-- A left turn in a hundred meters, at a junction with a side street. -/
def crossing (sideStreet : Int) : State where
  route := { routeState := 1, maneuverCount := 1, maneuverOrder := some [0], distManeuverM := 100 }
  maneuver _ := { type := 1, turnAngle := -90, ver := 1, junctionAngles := some [sideStreet] }
  lane _ := {}
  dirtyMask := {.maneuverIcon}

def crossingLabels : List BapRendererLabel :=
  [.prepared, .call (.update (crossing 45)) ⟨false, true, true⟩]

def crossingRun : RendererBridge × List ManeuverCommand :=
  performAll bapRendererStep crossingLabels .fresh

theorem crossingRun_run : bapRenderer.Run crossingRun.1 crossingRun.2 :=
  run_performAll .fresh bapRendererStep crossingLabels

theorem crossingRun_started : crossingRun.1.customRendererStarted = true ∧
    crossingRun.1.customRendererSoftHidden = false := by
  decide +kernel

theorem crossing_shown (sideStreet : Int) : HeadShown (crossing sideStreet) crossingRun.1 := by
  have dirty : ¬ Disjoint ({.maneuverIcon} : Finset DirtyFlag) RendererBridge.crIconMask := by
    decide
  refine ⟨crossingRun_started.1, crossingRun_started.2, rfl, rfl, dirty, ?_⟩
  rintro slot -
  exact show (2 : Int) ≠ 7 by decide

theorem same_crossing_shown :
    ShowsHead (crossing 45) (crossingRun.2 ++
        (RendererBridge.update ⟨false, true, true⟩ (crossing 45) crossingRun.1).2) ↔
      KeepsGeometry (crossing 45) crossingRun.1 crossingRun.2 :=
  renderer_shows_head_iff crossingRun_run (crossing_shown 45) ⟨false, true, true⟩

/-- Another side street is not sent. -/
theorem other_side_street_not_sent :
    ¬ ∀ bridge trace, bapRenderer.Run bridge trace → ∀ state, HeadShown state bridge →
      ∀ response, ShowsHead state (trace ++ (RendererBridge.update response state bridge).2) := by
  intro shows
  have shown := shows _ _ crossingRun_run (crossing 90) (crossing_shown 90) ⟨false, true, true⟩
  have packets : (crossingRun.2 ++ (RendererBridge.update ⟨false, true, true⟩ (crossing 90)
      crossingRun.1).2).getLast?.map (fun command => command.geometry.junctionAngles) =
        some [45] := by
    decide +kernel
  obtain ⟨command, isLast, slot, -, geometry⟩ := shown
  rw [Option.mem_def] at isLast
  rw [isLast, Option.map_some, geometry] at packets
  have angles : (headGeometry ((crossing 90).maneuver slot)).junctionAngles = [90] := rfl
  exact absurd (angles.symm.trans (Option.some.inj packets)) (by decide)

end CarplayRgi
