import CarplayRgi.TracedSystems
import Mathlib.Algebra.Group.Nat.Defs
import Mathlib.Logic.Function.Basic
import Mathlib.Tactic.Common

/-!
# The threads of the bus

Any number of senders fill a ring, one connector thread connects, greets,
replays the cached frames and publishes its descriptor, and one writer thread
drains the ring to the published descriptor.  A step is what a thread does
under `g_lock`, or one `send` call on a socket.  Descriptors are numbers that
the kernel may hand out again; the connection behind a number is a ghost.
-/

namespace CarplayRgi

def busMagic : Nat := 0x43504842
def busMaxPayload : Nat := 128 * 1024
def busFlagSticky : UInt8 := 0x01
def busFlagReplay : UInt8 := 0x04
def evtHello : Nat := 0x0001
def evtSyncBegin : Nat := 0x0002
def evtSyncEnd : Nat := 0x0003

/-- `MAX_TYPES`. -/
def maxTypes : Nat := 0x0040

def sendQueueCapacity : Nat := 256

/-- `frame_t`; its length is that of the payload. -/
structure BusFrame where
  type : Nat
  flags : UInt8
  seq : Nat
  payload : List UInt8
  deriving DecidableEq

def writeBe16 (value : Nat) : List UInt8 :=
  [UInt8.ofNat (value / 2 ^ 8), UInt8.ofNat value]

def writeBe32 (value : Nat) : List UInt8 :=
  writeBe16 (value / 2 ^ 16) ++ writeBe16 value

namespace BusFrame

def header (frame : BusFrame) : List UInt8 :=
  writeBe32 busMagic ++ writeBe32 frame.seq ++ writeBe16 frame.type ++ [frame.flags, 0] ++
    writeBe32 frame.payload.length

def bytes (frame : BusFrame) : List UInt8 :=
  frame.header ++ frame.payload

/-- Every field fits its place in the header. -/
structure WellFormed (frame : BusFrame) : Prop where
  type : frame.type < 2 ^ 16
  seq : frame.seq < 2 ^ 32
  payload : frame.payload.length ≤ busMaxPayload

/-- The buffers of the calls of `write_all`: the header, and a payload that is
not empty. -/
def buffers (frame : BusFrame) : List (List UInt8) :=
  if frame.payload = [] then [frame.header] else [frame.header, frame.payload]

theorem flatten_buffers (frame : BusFrame) : frame.buffers.flatten = frame.bytes := by
  unfold buffers bytes
  split
  · simp [*]
  · simp

theorem buffers_ne_nil (frame : BusFrame) : frame.buffers ≠ [] := by
  unfold buffers
  split <;> simp

end BusFrame

/-- `type_slot_t` without policy and handler, which no thread here reads. -/
structure TypeSlot where
  sticky : Bool
  last : Option BusFrame

/-- A `send_frame` call that holds `g_sock_write`, with the buffers that are
still to be sent.  The number of the call is a ghost. -/
structure SendCall where
  id : Nat
  fd : Nat
  frame : BusFrame
  buffers : List (List UInt8)
  deriving DecidableEq

/-- Where the connector thread stands.  While it sends, `rest` holds the
frames still to be replayed, or nothing for the HELLO. -/
inductive ConnectorPhase where
  | connecting
  | connected (fd : Nat)
  | greets (fd : Nat) (hello : BusFrame)
  | greeted (fd : Nat)
  | refused (fd : Nat)
  | replays (fd : Nat) (frames : List BusFrame)
  | sending (call : SendCall) (rest : Option (List BusFrame))
  | watching (fd : Nat)
  | dropping (fd : Nat)

/-- Where the writer thread stands. -/
inductive WriterPhase where
  | waiting
  | loaded (fd : Nat) (frame : BusFrame)
  | sending (call : SendCall)
  | failed (fd : Nat)
  deriving DecidableEq

structure BusState where
  /-- `g_types`. -/
  types : Nat → TypeSlot
  ring : List BusFrame
  txSeq : Nat
  /-- `g_client_fd`. -/
  client : Option Nat
  /-- The connection behind each open descriptor. -/
  fds : Nat → Option Nat
  connections : Nat
  calls : Nat
  connector : ConnectorPhase
  writer : WriterPhase

def BusState.initial : BusState where
  types := fun _ => ⟨false, none⟩
  ring := []
  txSeq := 1
  client := none
  fds := fun _ => none
  connections := 0
  calls := 0
  connector := .connecting
  writer := .waiting

inductive Sender where
  | connector | writer
  deriving DecidableEq

inductive BusEvent where
  /-- A call of `bus_send`, and whether the ring had room. -/
  | sendCalled (type : Nat) (flags : UInt8) (payload : List UInt8) (queued : Bool)
  /-- The sticky cache is copied for a connection while frames are waiting. -/
  | copied (conn : Option Nat) (waiting : List BusFrame)
  /-- Bytes of a frame that a `send_frame` call writes to a connection. -/
  | wrote (call conn : Nat) (frame : BusFrame) (bytes : List UInt8)
  /-- The last byte of a frame has been written to a connection. -/
  | delivered (conn : Nat) (frame : BusFrame)
  | sendFailed (sender : Sender) (call : Nat) (conn : Option Nat)
  | closed (sender : Sender) (conn : Nat)
  deriving DecidableEq

namespace SendCall

/-- One `send` call that takes `count` bytes of the current buffer. -/
def advance (count : Nat) (call : SendCall) : Option (List UInt8 × SendCall) :=
  match call.buffers with
  | [] => none
  | buffer :: buffers =>
      if 0 < count ∧ count ≤ buffer.length then
        some (buffer.take count,
          { call with
            buffers := if count = buffer.length then buffers else buffer.drop count :: buffers })
      else none

/-- What a `send` call changes. -/
structure Advanced (call : SendCall) (bytes : List UInt8) (next : SendCall) : Prop where
  id : next.id = call.id
  fd : next.fd = call.fd
  frame : next.frame = call.frame
  moved : bytes ≠ []
  started : call.buffers ≠ []
  bytes : bytes ++ next.buffers.flatten = call.buffers.flatten

theorem advance_spec {call next : SendCall} {count : Nat} {bytes : List UInt8}
    (advanced : call.advance count = some (bytes, next)) : Advanced call bytes next := by
  unfold advance at advanced
  split at advanced
  · cases advanced
  · rename_i buffer buffers buffersEq
    split at advanced
    · rename_i positive
      simp only [Option.some.injEq, Prod.mk.injEq] at advanced
      obtain ⟨rfl, rfl⟩ := advanced
      have someBytes : buffer.take count ≠ [] := by
        rw [← List.length_pos_iff, List.length_take]
        omega
      refine ⟨rfl, rfl, rfl, someBytes, by simp [buffersEq], ?_⟩
      rw [buffersEq]
      dsimp only
      split
      · rename_i whole
        rw [whole, List.take_length, List.flatten_cons]
      · rw [List.flatten_cons, List.flatten_cons, ← List.append_assoc, List.take_append_drop]
    · cases advanced

/-- The events of such a call on a connection. -/
def written (call : SendCall) (conn : Nat) (bytes : List UInt8) : List BusEvent :=
  .wrote call.id conn call.frame bytes ::
    if call.buffers = [] then [.delivered conn call.frame] else []

end SendCall

namespace BusState

/-- `g_sock_write` is held during a `send_frame` call. -/
def wireIsFree (state : BusState) : Bool :=
  (match state.connector with
    | .sending _ _ => false
    | _ => true) &&
  (match state.writer with
    | .sending _ => false
    | _ => true)

def startCall (state : BusState) (fd : Nat) (frame : BusFrame) : SendCall :=
  ⟨state.calls, fd, frame, frame.buffers⟩

/-- The frame that the writer has taken from the ring and not written yet. -/
def inFlight (state : BusState) : List BusFrame :=
  match state.writer with
  | .loaded _ frame => [frame]
  | .sending call => if call.buffers = [] then [] else [call.frame]
  | _ => []

/-- Frames that have not been written yet, oldest first. -/
def waiting (state : BusState) : List BusFrame :=
  state.inFlight ++ state.ring

def isSticky (state : BusState) (type : Nat) (flags : UInt8) : Bool :=
  decide (flags &&& busFlagSticky ≠ 0) || (state.types type).sticky

/-- The sticky cache of a type after a send. -/
def cacheSticky (state : BusState) (frame : BusFrame) : Nat → TypeSlot :=
  if state.isSticky frame.type frame.flags then
    Function.update state.types frame.type { state.types frame.type with last := some frame }
  else state.types

/-- `bus_send`.  A frame that finds the ring full is cached all the same. -/
def busSend (type : Nat) (flags : UInt8) (payload : List UInt8) (state : BusState) :
    BusState × List BusEvent :=
  if busMaxPayload < payload.length ∨ maxTypes ≤ type then (state, [])
  else
    let frame : BusFrame := ⟨type, flags, state.txSeq, payload⟩
    if state.ring.length = sendQueueCapacity then
      ({ state with types := state.cacheSticky frame },
        [.sendCalled type flags payload false])
    else
      ({ state with
          types := state.cacheSticky frame
          ring := state.ring ++ [frame]
          txSeq := (state.txSeq + 1) % 2 ^ 32 },
        [.sendCalled type flags payload true])

/-- `bus_set_sticky`. -/
def busSetSticky (type : Nat) (sticky : Bool) (state : BusState) : BusState :=
  if maxTypes ≤ type then state
  else
    { state with
      types := Function.update state.types type { state.types type with sticky := sticky } }

def helloPayload : List UInt8 :=
  [118, 101, 114, 58, 110, 58, 49, 10, 112, 114, 111, 116, 111, 58, 115, 58, 99, 97, 114, 112,
    108, 97, 121, 95, 98, 117, 115, 10]

def helloFrame (state : BusState) : BusFrame :=
  ⟨evtHello, 0, state.txSeq, helloPayload⟩

/-- The cached frames, marked as replayed. -/
def cachedFrames (state : BusState) : List BusFrame :=
  (List.range maxTypes).filterMap fun type =>
    (state.types type).last.map fun frame => { frame with flags := frame.flags ||| busFlagReplay }

/-- The frames of `send_sync_snapshot`. -/
def syncFrames (state : BusState) : List BusFrame :=
  ⟨evtSyncBegin, 0, state.txSeq, []⟩ ::
    (state.cachedFrames ++ [⟨evtSyncEnd, 0, (state.txSeq + 1) % 2 ^ 32, []⟩])

/-- `close` on a descriptor. -/
def closeFd (fd : Nat) (state : BusState) : Nat → Option Nat :=
  Function.update state.fds fd none

/-- Close the published descriptor if it is this number. -/
def closeIfCurrent (sender : Sender) (fd : Nat) (state : BusState) : BusState × List BusEvent :=
  if state.client = some fd then
    ({ state with client := none, fds := closeFd fd state },
      ((state.fds fd).map (BusEvent.closed sender)).toList)
  else (state, [])

end BusState

/-- The next frame of the connector: its HELLO, or the next one to replay. -/
def ConnectorPhase.nextFrame : ConnectorPhase → Option (Nat × BusFrame × Option (List BusFrame))
  | .greets fd hello => some (fd, hello, none)
  | .replays fd (frame :: frames) => some (fd, frame, some frames)
  | _ => none

def ConnectorPhase.afterSend (fd : Nat) : Option (List BusFrame) → ConnectorPhase
  | none => .greeted fd
  | some frames => .replays fd frames

/-- A HELLO that fails is noticed; a replayed frame that fails is not. -/
def ConnectorPhase.afterFailure (fd : Nat) : Option (List BusFrame) → ConnectorPhase
  | none => .refused fd
  | some frames => .replays fd frames

inductive BusLabel where
  | send (type : Nat) (flags : UInt8) (payload : List UInt8)
  | setSticky (type : Nat) (sticky : Bool)
  /-- `connect` succeeds with this descriptor. -/
  | connect (fd : Nat)
  | takeHelloSeq
  | connectorBegins
  | connectorSends (count : Nat)
  | connectorFinishes
  | connectorFails
  | closeRefused
  | copySnapshot
  | publish
  /-- The connector finds that its descriptor is no longer the published one. -/
  | noticeDrop
  /-- The probe of the published socket says that the peer has closed. -/
  | peerClosed
  | dropCurrent
  | dequeue
  | writerBegins
  | writerSends (count : Nat)
  | writerFinishes
  | writerFails
  | writerCloses

open BusState in
/-- One step of a thread. -/
def busStep (state : BusState) : BusLabel → Option (BusState × List BusEvent)
  | .send type flags payload => some (busSend type flags payload state)
  | .setSticky type sticky => some (busSetSticky type sticky state, [])
  | .connect fd =>
      match state.connector, state.fds fd with
      | .connecting, none =>
          some ({ state with
            connector := .connected fd
            fds := Function.update state.fds fd (some state.connections)
            connections := state.connections + 1 }, [])
      | _, _ => none
  | .takeHelloSeq =>
      match state.connector with
      | .connected fd =>
          some ({ state with
            connector := .greets fd state.helloFrame, txSeq := (state.txSeq + 1) % 2 ^ 32 }, [])
      | _ => none
  | .connectorBegins =>
      match state.connector.nextFrame, state.wireIsFree with
      | some (fd, frame, rest), true =>
          some ({ state with
            connector := .sending (state.startCall fd frame) rest, calls := state.calls + 1 }, [])
      | _, _ => none
  | .connectorSends count =>
      match state.connector with
      | .sending call rest =>
          match state.fds call.fd, call.advance count with
          | some conn, some (bytes, next) =>
              some ({ state with connector := .sending next rest }, next.written conn bytes)
          | _, _ => none
      | _ => none
  | .connectorFinishes =>
      match state.connector with
      | .sending call rest =>
          if call.buffers = [] then
            some ({ state with connector := .afterSend call.fd rest }, [])
          else none
      | _ => none
  | .connectorFails =>
      match state.connector with
      | .sending call rest =>
          if call.buffers = [] then none
          else
            some ({ state with connector := .afterFailure call.fd rest },
              [.sendFailed .connector call.id (state.fds call.fd)])
      | _ => none
  | .closeRefused =>
      match state.connector with
      | .refused fd =>
          some ({ state with connector := .connecting, fds := closeFd fd state },
            ((state.fds fd).map (BusEvent.closed .connector)).toList)
      | _ => none
  | .copySnapshot =>
      match state.connector with
      | .greeted fd =>
          some ({ state with
            connector := .replays fd state.syncFrames, txSeq := (state.txSeq + 2) % 2 ^ 32 },
            [.copied (state.fds fd) state.waiting])
      | _ => none
  | .publish =>
      match state.connector with
      | .replays fd [] =>
          let replaced :=
            match state.client with
            | none => (state, [])
            | some stale => closeIfCurrent .connector stale state
          some ({ replaced.1 with connector := .watching fd, client := some fd }, replaced.2)
      | _ => none
  | .noticeDrop =>
      match state.connector with
      | .watching fd =>
          if state.client = some fd then none
          else some ({ state with connector := .connecting }, [])
      | _ => none
  | .peerClosed =>
      match state.connector with
      | .watching fd => some ({ state with connector := .dropping fd }, [])
      | _ => none
  | .dropCurrent =>
      match state.connector with
      | .dropping fd =>
          let dropped := closeIfCurrent .connector fd state
          some ({ dropped.1 with connector := .connecting }, dropped.2)
      | _ => none
  | .dequeue =>
      match state.writer, state.ring, state.client with
      | .waiting, frame :: frames, some fd =>
          some ({ state with ring := frames, writer := .loaded fd frame }, [])
      | _, _, _ => none
  | .writerBegins =>
      match state.writer, state.wireIsFree with
      | .loaded fd frame, true =>
          some ({ state with
            writer := .sending (state.startCall fd frame), calls := state.calls + 1 }, [])
      | _, _ => none
  | .writerSends count =>
      match state.writer with
      | .sending call =>
          match state.fds call.fd, call.advance count with
          | some conn, some (bytes, next) =>
              some ({ state with writer := .sending next }, next.written conn bytes)
          | _, _ => none
      | _ => none
  | .writerFinishes =>
      match state.writer with
      | .sending call =>
          if call.buffers = [] then some ({ state with writer := .waiting }, []) else none
      | _ => none
  | .writerFails =>
      match state.writer with
      | .sending call =>
          if call.buffers = [] then none
          else
            some ({ state with writer := .failed call.fd },
              [.sendFailed .writer call.id (state.fds call.fd)])
      | _ => none
  | .writerCloses =>
      match state.writer with
      | .failed fd =>
          let dropped := closeIfCurrent .writer fd state
          some ({ dropped.1 with writer := .waiting }, dropped.2)
      | _ => none

def busThreads : TracedSystem BusState BusLabel BusEvent where
  init := .initial
  step := busStep

open BusState in
/-- The steps by case, with what each of them finds and leaves. -/
inductive BusStep (state : BusState) : BusLabel → BusState → List BusEvent → Prop
  | rejected {type : Nat} {flags : UInt8} {payload : List UInt8} :
      (busMaxPayload < payload.length ∨ maxTypes ≤ type) →
      BusStep state (.send type flags payload) state []
  | full {type : Nat} {flags : UInt8} {payload : List UInt8} :
      payload.length ≤ busMaxPayload → type < maxTypes →
      state.ring.length = sendQueueCapacity →
      BusStep state (.send type flags payload)
        { state with types := state.cacheSticky ⟨type, flags, state.txSeq, payload⟩ }
        [.sendCalled type flags payload false]
  | queued {type : Nat} {flags : UInt8} {payload : List UInt8} :
      payload.length ≤ busMaxPayload → type < maxTypes →
      state.ring.length ≠ sendQueueCapacity →
      BusStep state (.send type flags payload)
        { state with
          types := state.cacheSticky ⟨type, flags, state.txSeq, payload⟩
          ring := state.ring ++ [⟨type, flags, state.txSeq, payload⟩]
          txSeq := (state.txSeq + 1) % 2 ^ 32 }
        [.sendCalled type flags payload true]
  | setSticky {type : Nat} {sticky : Bool} :
      BusStep state (.setSticky type sticky) (busSetSticky type sticky state) []
  | connect {fd : Nat} : state.connector = .connecting → state.fds fd = none →
      BusStep state (.connect fd)
        { state with
          connector := .connected fd
          fds := Function.update state.fds fd (some state.connections)
          connections := state.connections + 1 } []
  | takeHelloSeq {fd : Nat} : state.connector = .connected fd →
      BusStep state .takeHelloSeq
        { state with
          connector := .greets fd state.helloFrame, txSeq := (state.txSeq + 1) % 2 ^ 32 } []
  | connectorBegins {fd : Nat} {frame : BusFrame} {rest : Option (List BusFrame)} :
      state.connector.nextFrame = some (fd, frame, rest) → state.wireIsFree = true →
      BusStep state .connectorBegins
        { state with
          connector := .sending (state.startCall fd frame) rest, calls := state.calls + 1 } []
  | connectorSends {count conn : Nat} {call next : SendCall} {bytes : List UInt8}
      {rest : Option (List BusFrame)} :
      state.connector = .sending call rest → state.fds call.fd = some conn →
      call.advance count = some (bytes, next) →
      BusStep state (.connectorSends count) { state with connector := .sending next rest }
        (next.written conn bytes)
  | connectorFinishes {call : SendCall} {rest : Option (List BusFrame)} :
      state.connector = .sending call rest → call.buffers = [] →
      BusStep state .connectorFinishes { state with connector := .afterSend call.fd rest } []
  | connectorFails {call : SendCall} {rest : Option (List BusFrame)} :
      state.connector = .sending call rest → call.buffers ≠ [] →
      BusStep state .connectorFails { state with connector := .afterFailure call.fd rest }
        [.sendFailed .connector call.id (state.fds call.fd)]
  | closeRefused {fd : Nat} : state.connector = .refused fd →
      BusStep state .closeRefused
        { state with connector := .connecting, fds := closeFd fd state }
        ((state.fds fd).map (BusEvent.closed .connector)).toList
  | copySnapshot {fd : Nat} : state.connector = .greeted fd →
      BusStep state .copySnapshot
        { state with
          connector := .replays fd state.syncFrames, txSeq := (state.txSeq + 2) % 2 ^ 32 }
        [.copied (state.fds fd) state.waiting]
  | publish {fd : Nat} : state.connector = .replays fd [] → state.client = none →
      BusStep state .publish { state with connector := .watching fd, client := some fd } []
  | replace {fd stale : Nat} : state.connector = .replays fd [] → state.client = some stale →
      BusStep state .publish
        { state with
          connector := .watching fd, client := some fd, fds := closeFd stale state }
        ((state.fds stale).map (BusEvent.closed .connector)).toList
  | noticeDrop {fd : Nat} : state.connector = .watching fd → state.client ≠ some fd →
      BusStep state .noticeDrop { state with connector := .connecting } []
  | peerClosed {fd : Nat} : state.connector = .watching fd →
      BusStep state .peerClosed { state with connector := .dropping fd } []
  | dropCurrent {fd : Nat} : state.connector = .dropping fd → state.client = some fd →
      BusStep state .dropCurrent
        { state with connector := .connecting, client := none, fds := closeFd fd state }
        ((state.fds fd).map (BusEvent.closed .connector)).toList
  | dropNothing {fd : Nat} : state.connector = .dropping fd → state.client ≠ some fd →
      BusStep state .dropCurrent { state with connector := .connecting } []
  | dequeue {fd : Nat} {frame : BusFrame} {frames : List BusFrame} :
      state.writer = .waiting → state.ring = frame :: frames → state.client = some fd →
      BusStep state .dequeue { state with ring := frames, writer := .loaded fd frame } []
  | writerBegins {fd : Nat} {frame : BusFrame} :
      state.writer = .loaded fd frame → state.wireIsFree = true →
      BusStep state .writerBegins
        { state with writer := .sending (state.startCall fd frame), calls := state.calls + 1 } []
  | writerSends {count conn : Nat} {call next : SendCall} {bytes : List UInt8} :
      state.writer = .sending call → state.fds call.fd = some conn →
      call.advance count = some (bytes, next) →
      BusStep state (.writerSends count) { state with writer := .sending next }
        (next.written conn bytes)
  | writerFinishes {call : SendCall} : state.writer = .sending call → call.buffers = [] →
      BusStep state .writerFinishes { state with writer := .waiting } []
  | writerFails {call : SendCall} : state.writer = .sending call → call.buffers ≠ [] →
      BusStep state .writerFails { state with writer := .failed call.fd }
        [.sendFailed .writer call.id (state.fds call.fd)]
  | writerCloses {fd : Nat} : state.writer = .failed fd → state.client = some fd →
      BusStep state .writerCloses
        { state with writer := .waiting, client := none, fds := closeFd fd state }
        ((state.fds fd).map (BusEvent.closed .writer)).toList
  | writerDrops {fd : Nat} : state.writer = .failed fd → state.client ≠ some fd →
      BusStep state .writerCloses { state with writer := .waiting } []

theorem busSend_case (state : BusState) (type : Nat) (flags : UInt8) (payload : List UInt8) :
    BusStep state (.send type flags payload) (BusState.busSend type flags payload state).1
      (BusState.busSend type flags payload state).2 := by
  unfold BusState.busSend
  split
  · rename_i invalid
    exact .rejected invalid
  · rename_i valid
    rw [not_or, Nat.not_lt, Nat.not_le] at valid
    dsimp only
    split
    · rename_i isFull
      exact .full valid.1 valid.2 isFull
    · rename_i hasRoom
      exact .queued valid.1 valid.2 hasRoom

open BusState in
/-- Frames of a type that is not sticky only fill the ring. -/
theorem busThreads_replay_sends {state : BusState} {type : Nat} {flags : UInt8} {payload : List UInt8}
    (short : payload.length ≤ busMaxPayload) (known : type < maxTypes)
    (notSticky : state.isSticky type flags = false) {number : Nat}
    (room : state.ring.length + number ≤ sendQueueCapacity)
    (counts : state.txSeq + number < 2 ^ 32) :
    busThreads.replay (fun _ _ => true) state (List.replicate number (.send type flags payload)) =
      some ({ state with
              ring := state.ring ++ (List.range number).map fun offset =>
                ⟨type, flags, state.txSeq + offset, payload⟩
              txSeq := state.txSeq + number },
        List.replicate number (.sendCalled type flags payload true)) := by
  induction number generalizing state with
  | zero => simp [TracedSystem.replay]
  | succ number ih =>
      have valid : ¬ (busMaxPayload < payload.length ∨ maxTypes ≤ type) := by omega
      have notFull : state.ring.length ≠ sendQueueCapacity := by omega
      have sameTypes : state.cacheSticky ⟨type, flags, state.txSeq, payload⟩ = state.types := by
        rw [cacheSticky, notSticky, if_neg Bool.false_ne_true]
      have sent : busThreads.step state (.send type flags payload) =
          some ({ state with
              ring := state.ring ++ [⟨type, flags, state.txSeq, payload⟩]
              txSeq := state.txSeq + 1 }, [.sendCalled type flags payload true]) := by
        show some (busSend type flags payload state) = _
        rw [busSend, if_neg valid, if_neg notFull, sameTypes, Nat.mod_eq_of_lt (by omega)]
      rw [List.replicate_succ, TracedSystem.replay, if_pos rfl, sent]
      dsimp only
      have fewer : (state.ring ++ [(⟨type, flags, state.txSeq, payload⟩ : BusFrame)]).length +
          number ≤ sendQueueCapacity := by
        rw [List.length_append, List.length_singleton]
        omega
      have rest := @ih { state with
        ring := state.ring ++ [⟨type, flags, state.txSeq, payload⟩]
        txSeq := state.txSeq + 1 } notSticky fewer (by dsimp only; omega)
      rw [rest]
      simp [List.range_succ_eq_map, List.replicate_succ, Function.comp_def, Nat.add_assoc,
        Nat.add_comm 1]

open BusState in
theorem closeIfCurrent_cases (sender : Sender) (fd : Nat) (state : BusState) :
    (state.client = some fd ∧ closeIfCurrent sender fd state =
      ({ state with client := none, fds := closeFd fd state },
        ((state.fds fd).map (BusEvent.closed sender)).toList)) ∨
    (state.client ≠ some fd ∧ closeIfCurrent sender fd state = (state, [])) := by
  unfold closeIfCurrent
  split
  · rename_i isCurrent
    exact .inl ⟨isCurrent, rfl⟩
  · rename_i notCurrent
    exact .inr ⟨notCurrent, rfl⟩

theorem busStep_cases {state next : BusState} {label : BusLabel} {events : List BusEvent}
    (stepTo : busThreads.step state label = some (next, events)) :
    BusStep state label next events := by
  change busStep state label = some (next, events) at stepTo
  unfold busStep at stepTo
  cases label with
  | send type flags payload =>
      have sent := busSend_case state type flags payload
      simp only [Option.some.injEq] at stepTo
      rwa [stepTo] at sent
  | setSticky type sticky =>
      simp only [Option.some.injEq, Prod.mk.injEq] at stepTo
      obtain ⟨rfl, rfl⟩ := stepTo
      exact .setSticky
  | connect fd =>
      dsimp only at stepTo
      split at stepTo
      · rename_i phase isClosed
        simp only [Option.some.injEq, Prod.mk.injEq] at stepTo
        obtain ⟨rfl, rfl⟩ := stepTo
        exact .connect phase isClosed
      · cases stepTo
  | takeHelloSeq =>
      dsimp only at stepTo
      split at stepTo
      · rename_i fd phase
        simp only [Option.some.injEq, Prod.mk.injEq] at stepTo
        obtain ⟨rfl, rfl⟩ := stepTo
        exact .takeHelloSeq phase
      · cases stepTo
  | connectorBegins =>
      dsimp only at stepTo
      split at stepTo
      · rename_i fd frame rest isNext isFree
        simp only [Option.some.injEq, Prod.mk.injEq] at stepTo
        obtain ⟨rfl, rfl⟩ := stepTo
        exact .connectorBegins isNext isFree
      · cases stepTo
  | connectorSends count =>
      dsimp only at stepTo
      split at stepTo
      · rename_i call rest phase
        split at stepTo
        · rename_i conn bytes after isOpen advanced
          simp only [Option.some.injEq, Prod.mk.injEq] at stepTo
          obtain ⟨rfl, rfl⟩ := stepTo
          exact .connectorSends phase isOpen advanced
        · cases stepTo
      · cases stepTo
  | connectorFinishes =>
      dsimp only at stepTo
      split at stepTo
      · rename_i call rest phase
        split at stepTo
        · rename_i isDone
          simp only [Option.some.injEq, Prod.mk.injEq] at stepTo
          obtain ⟨rfl, rfl⟩ := stepTo
          exact .connectorFinishes phase isDone
        · cases stepTo
      · cases stepTo
  | connectorFails =>
      dsimp only at stepTo
      split at stepTo
      · rename_i call rest phase
        split at stepTo
        · cases stepTo
        · rename_i notDone
          simp only [Option.some.injEq, Prod.mk.injEq] at stepTo
          obtain ⟨rfl, rfl⟩ := stepTo
          exact .connectorFails phase notDone
      · cases stepTo
  | closeRefused =>
      dsimp only at stepTo
      split at stepTo
      · rename_i fd phase
        simp only [Option.some.injEq, Prod.mk.injEq] at stepTo
        obtain ⟨rfl, rfl⟩ := stepTo
        exact .closeRefused phase
      · cases stepTo
  | copySnapshot =>
      dsimp only at stepTo
      split at stepTo
      · rename_i fd phase
        simp only [Option.some.injEq, Prod.mk.injEq] at stepTo
        obtain ⟨rfl, rfl⟩ := stepTo
        exact .copySnapshot phase
      · cases stepTo
  | publish =>
      dsimp only at stepTo
      split at stepTo
      · rename_i fd phase
        simp only [Option.some.injEq, Prod.mk.injEq] at stepTo
        obtain ⟨rfl, rfl⟩ := stepTo
        cases clientEq : state.client with
        | none => exact .publish phase clientEq
        | some stale =>
            simp only [BusState.closeIfCurrent, clientEq, if_true]
            exact .replace phase clientEq
      · cases stepTo
  | noticeDrop =>
      dsimp only at stepTo
      split at stepTo
      · rename_i fd phase
        split at stepTo
        · cases stepTo
        · rename_i notCurrent
          simp only [Option.some.injEq, Prod.mk.injEq] at stepTo
          obtain ⟨rfl, rfl⟩ := stepTo
          exact .noticeDrop phase notCurrent
      · cases stepTo
  | peerClosed =>
      dsimp only at stepTo
      split at stepTo
      · rename_i fd phase
        simp only [Option.some.injEq, Prod.mk.injEq] at stepTo
        obtain ⟨rfl, rfl⟩ := stepTo
        exact .peerClosed phase
      · cases stepTo
  | dropCurrent =>
      dsimp only at stepTo
      split at stepTo
      · rename_i fd phase
        simp only [Option.some.injEq, Prod.mk.injEq] at stepTo
        obtain ⟨rfl, rfl⟩ := stepTo
        rcases closeIfCurrent_cases .connector fd state with ⟨isCurrent, closed⟩ |
          ⟨notCurrent, kept⟩
        · rw [closed]
          exact .dropCurrent phase isCurrent
        · rw [kept]
          exact .dropNothing phase notCurrent
      · cases stepTo
  | dequeue =>
      dsimp only at stepTo
      split at stepTo
      · rename_i frame frames fd idle ringEq isCurrent
        simp only [Option.some.injEq, Prod.mk.injEq] at stepTo
        obtain ⟨rfl, rfl⟩ := stepTo
        exact .dequeue idle ringEq isCurrent
      · cases stepTo
  | writerBegins =>
      dsimp only at stepTo
      split at stepTo
      · rename_i fd frame phase isFree
        simp only [Option.some.injEq, Prod.mk.injEq] at stepTo
        obtain ⟨rfl, rfl⟩ := stepTo
        exact .writerBegins phase isFree
      · cases stepTo
  | writerSends count =>
      dsimp only at stepTo
      split at stepTo
      · rename_i call phase
        split at stepTo
        · rename_i conn bytes after isOpen advanced
          simp only [Option.some.injEq, Prod.mk.injEq] at stepTo
          obtain ⟨rfl, rfl⟩ := stepTo
          exact .writerSends phase isOpen advanced
        · cases stepTo
      · cases stepTo
  | writerFinishes =>
      dsimp only at stepTo
      split at stepTo
      · rename_i call phase
        split at stepTo
        · rename_i isDone
          simp only [Option.some.injEq, Prod.mk.injEq] at stepTo
          obtain ⟨rfl, rfl⟩ := stepTo
          exact .writerFinishes phase isDone
        · cases stepTo
      · cases stepTo
  | writerFails =>
      dsimp only at stepTo
      split at stepTo
      · rename_i call phase
        split at stepTo
        · cases stepTo
        · rename_i notDone
          simp only [Option.some.injEq, Prod.mk.injEq] at stepTo
          obtain ⟨rfl, rfl⟩ := stepTo
          exact .writerFails phase notDone
      · cases stepTo
  | writerCloses =>
      dsimp only at stepTo
      split at stepTo
      · rename_i fd phase
        simp only [Option.some.injEq, Prod.mk.injEq] at stepTo
        obtain ⟨rfl, rfl⟩ := stepTo
        rcases closeIfCurrent_cases .writer fd state with ⟨isCurrent, closed⟩ |
          ⟨notCurrent, kept⟩
        · rw [closed]
          exact .writerCloses phase isCurrent
        · rw [kept]
          exact .writerDrops phase notCurrent
      · cases stepTo

/-- The descriptor that the connector works on. -/
def ConnectorPhase.fd : ConnectorPhase → Option Nat
  | .connecting => none
  | .connected fd => some fd
  | .greets fd _ => some fd
  | .greeted fd => some fd
  | .refused fd => some fd
  | .replays fd _ => some fd
  | .sending call _ => some call.fd
  | .watching fd => some fd
  | .dropping fd => some fd

/-- The connector has published its descriptor. -/
def ConnectorPhase.isExposed : ConnectorPhase → Bool
  | .watching _ => true
  | .dropping _ => true
  | _ => false

theorem ConnectorPhase.fd_of_nextFrame {phase : ConnectorPhase} {fd : Nat} {frame : BusFrame}
    {rest : Option (List BusFrame)} (next : phase.nextFrame = some (fd, frame, rest)) :
    phase.fd = some fd ∧ phase.isExposed = false := by
  unfold nextFrame at next
  split at next
  · simp only [Option.some.injEq, Prod.mk.injEq] at next
    exact ⟨congrArg some next.1, rfl⟩
  · simp only [Option.some.injEq, Prod.mk.injEq] at next
    exact ⟨congrArg some next.1, rfl⟩
  · cases next

@[simp]
theorem ConnectorPhase.afterSend_fd (fd : Nat) (rest : Option (List BusFrame)) :
    (afterSend fd rest).fd = some fd ∧ (afterSend fd rest).isExposed = false := by
  cases rest <;> exact ⟨rfl, rfl⟩

@[simp]
theorem ConnectorPhase.afterFailure_fd (fd : Nat) (rest : Option (List BusFrame)) :
    (afterFailure fd rest).fd = some fd ∧ (afterFailure fd rest).isExposed = false := by
  cases rest <;> exact ⟨rfl, rfl⟩

/-- Only the connector's descriptor can be open, and it is published exactly
while the connector watches it and it is open. -/
structure OneLink (state : BusState) : Prop where
  hidden : state.connector.isExposed = false → state.client = none
  current : ∀ fd, state.client = some fd → state.connector.fd = some fd
  onlyOpen : ∀ fd conn, state.fds fd = some conn →
    state.connector.fd = some fd ∧ (state.connector.isExposed = true → state.client = some fd)
  isOpen : ∀ fd, state.connector.fd = some fd →
    (state.connector.isExposed = true → state.client = some fd) → ∃ conn, state.fds fd = some conn
  known : ∀ fd conn, state.fds fd = some conn → conn < state.connections

/-- A step that neither connects nor closes, and moves the connector within
its connection without publishing it. -/
theorem OneLink.congr {before after : BusState} (link : OneLink before)
    (client : after.client = before.client) (fds : after.fds = before.fds)
    (connections : after.connections = before.connections)
    (fd : after.connector.fd = before.connector.fd)
    (exposed : after.connector.isExposed = before.connector.isExposed) : OneLink after := by
  obtain ⟨hidden, current, onlyOpen, isOpen, known⟩ := link
  constructor <;> simp only [client, fds, connections, fd, exposed]
  · exact hidden
  · exact current
  · exact onlyOpen
  · exact isOpen
  · exact known

/-- Once the published descriptor is closed nothing is open. -/
theorem OneLink.closed {state : BusState} (link : OneLink state) {fd : Nat}
    (published : state.client = some fd ∨ state.connector = .refused fd) (other : Nat) :
    BusState.closeFd fd state other = none := by
  by_cases same : other = fd
  · rw [same]
    exact Function.update_self fd none state.fds
  · rw [BusState.closeFd, Function.update_of_ne same]
    by_contra isOpen
    obtain ⟨conn, connEq⟩ := Option.ne_none_iff_exists'.mp isOpen
    have only := (link.onlyOpen other conn connEq).1
    rcases published with current | refused
    · rw [link.current fd current] at only
      exact same (Option.some.inj only).symm
    · rw [refused] at only
      exact same (Option.some.inj only).symm

/-- Nothing is open while the connector connects, or watches a descriptor that
is no longer published. -/
theorem oneLink_of_nothing_open {state : BusState} (noClient : state.client = none)
    (closed : ∀ fd, state.fds fd = none)
    (phase : state.connector = .connecting ∨ state.connector.isExposed = true) : OneLink state := by
  constructor
  · exact fun _ => noClient
  · intro fd isClient
    rw [noClient] at isClient
    cases isClient
  · intro fd conn isOpen
    rw [closed] at isOpen
    cases isOpen
  · intro fd isFd client
    rcases phase with connecting | exposed
    · rw [connecting] at isFd
      cases isFd
    · have isClient := client exposed
      rw [noClient] at isClient
      cases isClient
  · intro fd conn isOpen
    rw [closed] at isOpen
    cases isOpen

/-- A connector that watches a descriptor that is not published any more has
nothing open. -/
theorem OneLink.nothing_open {state : BusState} (link : OneLink state) {fd : Nat}
    (exposed : state.connector.isExposed = true) (isFd : state.connector.fd = some fd)
    (notCurrent : state.client ≠ some fd) :
    state.client = none ∧ ∀ other, state.fds other = none := by
  have noClient : state.client = none := by
    by_contra isClient
    obtain ⟨other, clientEq⟩ := Option.ne_none_iff_exists'.mp isClient
    have same := link.current other clientEq
    rw [isFd] at same
    exact notCurrent (same ▸ clientEq)
  refine ⟨noClient, fun other => ?_⟩
  by_contra isOpen
  obtain ⟨conn, connEq⟩ := Option.ne_none_iff_exists'.mp isOpen
  have isClient := (link.onlyOpen other conn connEq).2 exposed
  rw [noClient] at isClient
  cases isClient

theorem BusStep.oneLink {state next : BusState} {label : BusLabel} {events : List BusEvent}
    (step : BusStep state label next events) (link : OneLink state) : OneLink next := by
  cases step with
  | rejected invalid => exact link
  | full short known isFull => exact link.congr rfl rfl rfl rfl rfl
  | queued short known hasRoom => exact link.congr rfl rfl rfl rfl rfl
  | setSticky =>
      unfold BusState.busSetSticky
      split
      · exact link
      · exact link.congr rfl rfl rfl rfl rfl
  | @connect fd phase isClosed =>
      have noClient : state.client = none := link.hidden (by rw [phase]; rfl)
      have nothing : ∀ other, state.fds other = none := by
        intro other
        by_contra isOpen
        obtain ⟨conn, connEq⟩ := Option.ne_none_iff_exists'.mp isOpen
        have only := (link.onlyOpen other conn connEq).1
        rw [phase] at only
        cases only
      refine ⟨fun _ => noClient, ?_, ?_, ?_, ?_⟩
      · intro other isClient
        rw [noClient] at isClient
        cases isClient
      · intro other conn isOpen
        refine ⟨?_, fun exposed => by cases exposed⟩
        by_cases same : other = fd
        · rw [same]
          rfl
        · dsimp only at isOpen
          rw [Function.update_of_ne same, nothing] at isOpen
          cases isOpen
      · intro other isFd _
        cases isFd
        exact ⟨state.connections, Function.update_self ..⟩
      · intro other conn isOpen
        dsimp only at isOpen ⊢
        by_cases same : other = fd
        · rw [same, Function.update_self, Option.some.injEq] at isOpen
          omega
        · rw [Function.update_of_ne same, nothing] at isOpen
          cases isOpen
  | takeHelloSeq phase => exact link.congr rfl rfl rfl (by rw [phase]; rfl) (by rw [phase]; rfl)
  | connectorBegins isNext isFree =>
      obtain ⟨fdEq, hiddenEq⟩ := ConnectorPhase.fd_of_nextFrame isNext
      exact link.congr rfl rfl rfl (by rw [fdEq]; rfl) (by rw [hiddenEq]; rfl)
  | connectorSends phase isOpen advanced =>
      have fdEq := (SendCall.advance_spec advanced).fd
      exact link.congr rfl rfl rfl (by rw [phase]; exact congrArg some fdEq) (by rw [phase]; rfl)
  | connectorFinishes phase isDone =>
      exact link.congr rfl rfl rfl (by simp [phase]; rfl) (by simp [phase]; rfl)
  | connectorFails phase notDone =>
      exact link.congr rfl rfl rfl (by simp [phase]; rfl) (by simp [phase]; rfl)
  | closeRefused phase =>
      exact oneLink_of_nothing_open (link.hidden (by rw [phase]; rfl)) (link.closed (.inr phase))
        (.inl rfl)
  | copySnapshot phase => exact link.congr rfl rfl rfl (by rw [phase]; rfl) (by rw [phase]; rfl)
  | @publish fd phase noClient =>
      obtain ⟨conn, connEq⟩ := link.isOpen fd (by rw [phase]; rfl)
        (by rw [phase]; simp [ConnectorPhase.isExposed])
      have only : ∀ other conn, state.fds other = some conn → other = fd := by
        intro other conn isOpen
        have isFd := (link.onlyOpen other conn isOpen).1
        rw [phase] at isFd
        exact (Option.some.inj isFd).symm
      constructor
      · intro hidden
        cases hidden
      · exact fun other isClient => isClient
      · intro other conn isOpen
        rw [only other conn isOpen]
        exact ⟨rfl, fun _ => rfl⟩
      · intro other isFd _
        cases isFd
        exact ⟨conn, connEq⟩
      · exact link.known
  | replace phase isClient =>
      rw [link.hidden (by rw [phase]; rfl)] at isClient
      cases isClient
  | noticeDrop phase notCurrent =>
      obtain ⟨noClient, closed⟩ :=
        link.nothing_open (by rw [phase]; rfl) (by rw [phase]; rfl) notCurrent
      exact oneLink_of_nothing_open noClient closed (.inl rfl)
  | peerClosed phase => exact link.congr rfl rfl rfl (by rw [phase]; rfl) (by rw [phase]; rfl)
  | dropCurrent phase isCurrent =>
      exact oneLink_of_nothing_open rfl (link.closed (.inl isCurrent)) (.inl rfl)
  | dropNothing phase notCurrent =>
      obtain ⟨noClient, closed⟩ :=
        link.nothing_open (by rw [phase]; rfl) (by rw [phase]; rfl) notCurrent
      exact oneLink_of_nothing_open noClient closed (.inl rfl)
  | dequeue idle ringEq isCurrent => exact link.congr rfl rfl rfl rfl rfl
  | writerBegins phase isFree => exact link.congr rfl rfl rfl rfl rfl
  | writerSends phase isOpen advanced => exact link.congr rfl rfl rfl rfl rfl
  | writerFinishes phase isDone => exact link.congr rfl rfl rfl rfl rfl
  | writerFails phase notDone => exact link.congr rfl rfl rfl rfl rfl
  | writerCloses phase isCurrent =>
      refine oneLink_of_nothing_open rfl (link.closed (.inl isCurrent)) (.inr ?_)
      by_contra hidden
      rw [link.hidden (by simpa using hidden)] at isCurrent
      cases isCurrent
  | writerDrops phase notCurrent => exact link.congr rfl rfl rfl rfl rfl

theorem busThreads_oneLink {guard : BusState → List BusEvent → BusLabel → Prop} {state : BusState}
    {history : List BusEvent} (run : busThreads.RunWithin guard state history) : OneLink state := by
  refine run.invariant (fun state _ => OneLink state)
    (oneLink_of_nothing_open rfl (fun _ => rfl) (.inl rfl)) ?_
  intro before after trace events label link _ stepTo
  exact (busStep_cases stepTo).oneLink link

end CarplayRgi
