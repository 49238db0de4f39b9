import CarplayRgi.RendererBatches
import CarplayRgi.RendererConnections

/-!
# The renderer behind its connection

The bridge preloads a maneuver, waits until the renderer has a frame of it, and
only then exposes the surface and starts the animation.  Commands and events
keep their order on a connection, while connections and processes come and go.
A process takes one turn of its loop at a time, and the threads on the other
side take their steps in between.
-/

namespace CarplayRgi

/-- What is on the surface: the maneuvers that a frame shows, if it shows any. -/
structure Frame where
  current : Option ManeuverState
  next : Option ManeuverState
  transparent : Bool
  deriving DecidableEq

/-- The engine, what the loop keeps beside it, and the last frame. -/
structure RendererProcess where
  renderer : Renderer
  transparent : Bool
  fadeActive : Bool
  frameReadyPending : Bool
  readySent : Bool
  frameReadySent : Bool
  surface : Option Frame
  deriving DecidableEq

/-- What a turn is told: whether an animation and the fade have come to their
end, and whether anything but a preload asks for a frame. -/
structure TurnInput where
  finished : Bool
  faded : Bool
  redraws : Bool
  deriving DecidableEq

namespace RendererProcess

/-- A process is ready once its display is. -/
def launched (ready : Bool) : RendererProcess :=
  ⟨.initial, true, false, false, ready, false, none⟩

def fadeIn (process : RendererProcess) : RendererProcess :=
  { process with transparent := true, fadeActive := true }

/-- A command of a drain, with the fade that a started animation begins. -/
def handle (process : RendererProcess) (command : RendererCommand) : RendererProcess :=
  let handled := { process with renderer := process.renderer.handle command }
  if decide (command = .startAnimation) && process.renderer.startsAnimation then handled.fadeIn
  else handled

/-- The latest maneuver of a drain: a preload is transparent, and the first of
all maneuvers fades in. -/
def applyLatest (pending : Renderer.PendingManeuver) (process : RendererProcess) :
    RendererProcess :=
  let applied := { process with renderer := process.renderer.applyLatest pending }
  if pending.preload then
    { applied with transparent := true, fadeActive := false, frameReadyPending := true }
  else if process.renderer.engine.hasCurrent then applied
  else applied.fadeIn

def drain (batch : List RendererCommand) (process : RendererProcess) : RendererProcess :=
  let handled := batch.foldl handle process
  match Renderer.latest batch with
  | none => handled
  | some pending => handled.applyLatest pending

def tick (input : TurnInput) (process : RendererProcess) : RendererProcess :=
  let ticked := { process with renderer := process.renderer.engineTick input.finished }
  if ticked.fadeActive then { ticked with transparent := false, fadeActive := !input.faded }
  else ticked

def frame (process : RendererProcess) : Frame :=
  let engine := process.renderer.engine
  { current := if engine.hasCurrent then some engine.current else none
    next := if engine.hasNext then some engine.next else none
    transparent := process.transparent }

/-- A frame is announced if it is the first one with a maneuver, or the first
one behind a preload. -/
def present : TracedOp RendererProcess UInt8 := fun process =>
  let presented := { process with surface := some process.frame }
  if process.renderer.engine.hasCurrent &&
      (!process.frameReadySent || process.frameReadyPending) then
    ({ presented with frameReadySent := true, frameReadyPending := false },
      [RendererServer.evtFrameReady])
  else (presented, [])

/-- A turn of the loop.  A preload always asks for a frame. -/
def turn (batch : List RendererCommand) (input : TurnInput) : TracedOp RendererProcess UInt8 :=
  fun process =>
    let ticked := (process.drain batch).tick input
    if input.redraws || ticked.frameReadyPending then ticked.present else (ticked, [])

/-- What is announced again when the process connects. -/
def announcements (process : RendererProcess) : List UInt8 :=
  (if process.readySent then [RendererServer.evtReady] else []) ++
    (if process.frameReadySent then [RendererServer.evtFrameReady] else [])

end RendererProcess

/-- Where `activatePreparedCustomRenderer` stands, with the connection that the
preload has been written to, and the client at the end of the wait. -/
inductive Activation where
  | idle
  | preloading (man : ManeuverPayload)
  | waiting (man : ManeuverPayload) (conn : Nat)
  | framed (man : ManeuverPayload) (conn : Nat) (seen : Option Nat)
  | exposed (man : ManeuverPayload) (conn : Nat)
  | aborting
  deriving DecidableEq

/-- A connection: the commands and events on their way, and the process at its
other end. -/
structure RendererLine where
  toRenderer : List RendererCommand
  toServer : List UInt8
  process : RendererProcess

namespace RendererLine

def attached (process : RendererProcess) : RendererLine := ⟨[], process.announcements, process⟩

/-- The process reads some of its commands, and takes a turn. -/
def takeTurn (count : Nat) (input : TurnInput) (line : RendererLine) : RendererLine :=
  let turned := line.process.turn (line.toRenderer.take count) input
  ⟨line.toRenderer.drop count, line.toServer ++ turned.2, turned.1⟩

def becomeReady (line : RendererLine) : RendererLine :=
  { line with
    toServer := line.toServer ++ [RendererServer.evtReady]
    process := { line.process with readySent := true } }

def stop (line : RendererLine) : RendererLine :=
  { line with
    process :=
      { line.process with renderer := { line.process.renderer with running := false } } }

def write (command : RendererCommand) (line : RendererLine) : RendererLine :=
  { line with toRenderer := line.toRenderer ++ [command] }

def receive (line : RendererLine) : RendererLine := { line with toServer := line.toServer.tail }

end RendererLine

/-- The server with its connections, the packets of the sends in progress, and
the activation. -/
structure RendererPipeline where
  server : RendererServer
  lines : Nat → RendererLine
  packets : Nat → RendererCommand
  activation : Activation

inductive PipelineEvent where
  | written (conn : Nat) (command : RendererCommand)
  | exposed (man : ManeuverPayload) (conn : Nat)
  deriving DecidableEq

inductive PipelineLabel where
  | server (label : RendererLabel)
  | installs (ready : Bool)
  | reconnects (old : Nat)
  | ready (conn : Nat)
  | turns (conn count : Nat) (input : TurnInput)
  | dies (conn : Nat)
  | reads (conn : Nat)
  | preloads (man : ManeuverPayload)
  | begins (call : Nat) (command : RendererCommand)
  | writes (call : Nat)
  | closes (call : Nat)
  | sees
  | timesOut
  | exposes (activates : Bool)
  | aborts

/-- The steps of the server that neither move data nor belong to an activation. -/
def RendererLabel.movesNothing : RendererLabel → Bool
  | .connect | .accepts | .acceptFails | .acceptEnds | .sendFails _ | .readerStops _
  | .readerFails _ | .readerChecks _ | .readerCloses _ | .disconnectClient | .dispose => true
  | .installs | .preloads | .sendBegins _ | .sendWrites _ | .sendCloses _
  | .readerReads _ _ => false

/-- A command that neither is a maneuver nor starts an animation. -/
def RendererCommand.isPassive (command : RendererCommand) : Bool :=
  !command.isManeuver && decide (command ≠ .startAnimation)

def RendererCommand.isPreload : RendererCommand → Bool
  | .preload _ => true
  | _ => false

namespace RendererPipeline

def initial : RendererPipeline where
  server := .initial
  lines := fun _ => .attached (.launched false)
  packets := fun _ => .other
  activation := .idle

/-- The thread of the updates makes its calls under the number 0, one after the
other.  All other threads send bargraphs and shutdowns. -/
def permits (activation : Activation) (call : Nat) (command : RendererCommand) : Bool :=
  if call = 0 then
    match activation with
    | .idle => !command.isPreload
    | .preloading man => decide (command = .preload man)
    | .exposed _ _ => decide (command = .startAnimation)
    | .aborting => decide (command = .shutdown)
    | .waiting _ _ | .framed _ _ _ => false
  else command.isPassive

/-- The activation after a packet has been written. -/
def sent (conn : Nat) : Activation → Activation
  | .preloading man => .waiting man conn
  | .exposed _ _ => .idle
  | activation => activation

/-- The activation after a send has failed. -/
def failed : Activation → Activation
  | .preloading _ => .idle
  | .exposed _ _ => .aborting
  | activation => activation

def setActivation (call : Nat) (next : Activation → Activation) (state : RendererPipeline) :
    RendererPipeline :=
  if call = 0 then { state with activation := next state.activation } else state

def setServer (state : RendererPipeline) (stepped : RendererServer × List RendererEvent) :
    RendererPipeline :=
  { state with server := stepped.1 }

def onLine (conn : Nat) (change : RendererLine → RendererLine) (state : RendererPipeline) :
    RendererPipeline :=
  { state with lines := Function.update state.lines conn (change (state.lines conn)) }

/-- A process behind the connection that is accepted next. -/
def attach (process : RendererProcess) (state : RendererPipeline) : RendererPipeline :=
  state.onLine state.server.accepted fun _ => .attached process

def setPacket (call : Nat) (command : RendererCommand) (state : RendererPipeline) :
    RendererPipeline :=
  { state with packets := Function.update state.packets call command }

def begin (call : Nat) (command : RendererCommand) (state : RendererPipeline) :
    RendererPipeline :=
  let begun := state.setPacket call command
  if state.server.out = none then begun.setActivation call failed else begun

def step (state : RendererPipeline) :
    PipelineLabel → Option (RendererPipeline × List PipelineEvent)
  | .server label =>
      if label.movesNothing then
        (state.server.step label).map fun stepped => (state.setServer stepped, [])
      else none
  | .installs ready =>
      (state.server.step .installs).map fun stepped =>
        ((state.attach (.launched ready)).setServer stepped, [])
  | .reconnects old =>
      if (state.lines old).process.renderer.running then
        (state.server.step .installs).map fun stepped =>
          (((state.onLine old .stop).attach (state.lines old).process).setServer stepped, [])
      else none
  | .ready conn =>
      if (state.lines conn).process.readySent then none
      else some (state.onLine conn .becomeReady, [])
  | .turns conn count input =>
      if (state.lines conn).process.readySent && (state.lines conn).process.renderer.running then
        some (state.onLine conn (.takeTurn count input), [])
      else none
  | .dies conn => some (state.onLine conn .stop, [])
  | .reads conn =>
      match (state.lines conn).toServer with
      | [] => none
      | event :: _ =>
          (state.server.step (.readerReads conn event)).map fun stepped =>
            ((state.onLine conn .receive).setServer stepped, [])
  | .preloads man =>
      if decide (state.activation = .idle) && decide (state.server.sends 0 = none) then
        (state.server.step .preloads).map fun stepped =>
          ({ state.setServer stepped with activation := .preloading man }, [])
      else none
  | .begins call command =>
      if permits state.activation call command then
        (state.server.step (.sendBegins call)).map fun stepped =>
          ((state.begin call command).setServer stepped, [])
      else none
  | .writes call =>
      match state.server.sends call with
      | some (.writing conn) =>
          (state.server.step (.sendWrites call)).map fun stepped =>
            (((state.onLine conn (.write (state.packets call))).setActivation call
                (sent conn)).setServer stepped,
              [.written conn (state.packets call)])
      | _ => none
  | .closes call =>
      (state.server.step (.sendCloses call)).map fun stepped =>
        ((state.setActivation call failed).setServer stepped, [])
  -- The flag is read once more when the time is up.
  | .sees =>
      match state.activation with
      | .waiting man conn =>
          if state.server.frameReady then
            some ({ state with activation := .framed man conn state.server.sock }, [])
          else none
      | _ => none
  | .timesOut =>
      match state.activation with
      | .waiting _ _ =>
          if state.server.frameReady then none
          else some ({ state with activation := .aborting }, [])
      | _ => none
  | .exposes activates =>
      match state.activation with
      | .framed man conn _ =>
          if activates then
            some ({ state with activation := .exposed man conn }, [.exposed man conn])
          else some ({ state with activation := .aborting }, [])
      | _ => none
  | .aborts =>
      if decide (state.activation = .aborting) && decide (state.server.sends 0 = none) then
        (state.server.step .disconnectClient).map fun stepped =>
          ({ state.setServer stepped with activation := .idle }, [])
      else none

end RendererPipeline

def rendererPipeline : TracedSystem RendererPipeline PipelineLabel PipelineEvent where
  init := .initial
  step := RendererPipeline.step

end CarplayRgi
