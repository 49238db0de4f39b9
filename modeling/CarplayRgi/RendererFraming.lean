import Mathlib.Algebra.Order.Group.Nat
import CarplayRgi.ByteBuffers
import CarplayRgi.RendererConnections
import CarplayRgi.RendererProtocol

/-!
# Commands out of a stream

The renderer reads what the socket has into a buffer of 512 bytes and takes
commands of 48 bytes from its front.  However the stream of a connection is
split into reads, the commands are its complete groups of 48 bytes, and the
bytes in the buffer are what is left of it; a new connection begins with an
empty buffer.
-/

namespace CarplayRgi

section Groups

variable {Item : Type*}

/-- The consecutive complete groups of a list; an incomplete last one is left out. -/
def completeGroups (size : Nat) (items : List Item) : List (List Item) :=
  if size = 0 ∨ items.length < size then []
  else items.take size :: completeGroups size (items.drop size)
termination_by items.length
decreasing_by
  rw [List.length_drop]
  omega

theorem completeGroups_short {size : Nat} {items : List Item} (short : items.length < size) :
    completeGroups size items = [] := by
  rw [completeGroups, if_pos (Or.inr short)]

theorem completeGroups_append {size : Nat} (positive : 0 < size) {group : List Item}
    (whole : group.length = size) (items : List Item) :
    completeGroups size (group ++ items) = group :: completeGroups size items := by
  rw [completeGroups, if_neg (by rw [List.length_append]; omega), ← whole, List.take_left,
    List.drop_left]

/-- Groups that were taken from the front of a list are its first groups. -/
theorem completeGroups_flatten_append {size : Nat} (positive : 0 < size)
    {groups : List (List Item)} (whole : ∀ group ∈ groups, group.length = size)
    (items : List Item) :
    completeGroups size (groups.flatten ++ items) = groups ++ completeGroups size items := by
  induction groups with
  | nil => rfl
  | cons group groups ih =>
      obtain ⟨groupWhole, othersWhole⟩ := List.forall_mem_cons.mp whole
      rw [List.flatten_cons, List.append_assoc, completeGroups_append positive groupWhole,
        ih othersWhole, List.cons_append]

end Groups

inductive RecvResult where
  | data (bytes : List UInt8)
  | closed
  | wouldBlock
  | failed

inductive FramingEvent where
  | connected
  | received (bytes : List UInt8)
  | command (packet : List UInt8)
  | disconnected
  | sent (event : UInt8)
  deriving DecidableEq

def recvBufSize : Nat := 512

/-- The statics of the socket code. -/
structure CrServer where
  connected : Bool := false
  targetPort : Nat := 0
  lastRetry : Int := 0
  recvBuf : List UInt8 := List.replicate recvBufSize 0
  recvLen : Nat := 0
  readySent : Bool := false
  frameReadySent : Bool := false
  peerClosed : Bool := false

/-- What a poll meets: the time in seconds, whether a connection attempt
succeeds, and the result of `recv`. -/
structure PollInput where
  now : Int
  connects : Bool
  recv : RecvResult

inductive ServerCall where
  | init (port : Nat) (connects : Bool)
  | poll (input : PollInput)
  | readCmd
  | sendHeartbeat
  | markReady
  | markFrameReady
  | shutdown

namespace CrServer

open ByteBuffers

def evtHeartbeat : UInt8 := 0x80
def retryIntervalSec : Int := 1

/-- The bytes that wait in the buffer. -/
def buffered (server : CrServer) : List UInt8 := server.recvBuf.take server.recvLen

def sendEvent (event : UInt8) (server : CrServer) : List FramingEvent :=
  if server.connected then [.sent event] else []

/-- The lifecycle events that a new socket is told again. -/
def announce (server : CrServer) : List FramingEvent :=
  (if server.readySent then server.sendEvent RendererServer.evtReady else []) ++
    (if server.frameReadySent then server.sendEvent RendererServer.evtFrameReady else [])

def crServerInit (port : Nat) (connects : Bool) : TracedOp CrServer FramingEvent := fun server =>
  ({ server with targetPort := port, connected := connects, recvLen := 0 },
    if connects then [.connected] else [])

/-- The first half of `cr_server_poll`: connect again, at most once a second. -/
def reconnect (now : Int) (connects : Bool) : TracedOp CrServer FramingEvent := fun server =>
  if server.connected = false ∧ 0 < server.targetPort ∧
      retryIntervalSec ≤ now - server.lastRetry then
    if connects then
      let joined := { server with lastRetry := now, connected := true, recvLen := 0 }
      (joined, .connected :: joined.announce)
    else ({ server with lastRetry := now }, [])
  else (server, [])

def disconnect (server : CrServer) : CrServer := { server with connected := false, recvLen := 0 }

/-- The second half: read what there is, behind what waits in the buffer.
`recv` gives at least one byte and no more than it is asked for. -/
def receive (result : RecvResult) (server : CrServer) : Option (CrServer × List FramingEvent) :=
  if server.connected then
    let space := recvBufSize - server.recvLen
    if 0 < space then
      match result with
      | .data bytes =>
          if 0 < bytes.length ∧ bytes.length ≤ space then
            some ({ server with
              recvBuf := memcpy server.recvBuf server.recvLen bytes
              recvLen := server.recvLen + bytes.length }, [.received bytes])
          else none
      | .closed => some ({ server.disconnect with peerClosed := true }, [.disconnected])
      | .wouldBlock => some (server, [])
      | .failed => some (server.disconnect, [.disconnected])
    else some (server, [])
  else some (server, [])

def crServerPoll (input : PollInput) (server : CrServer) :
    Option (CrServer × List FramingEvent) := do
  let (joined, opening) := reconnect input.now input.connects server
  let (next, events) ← joined.receive input.recv
  pure (next, opening ++ events)

/-- `cr_server_read_cmd`; it returns 0 where no command comes out. -/
def crServerReadCmd : TracedOp CrServer FramingEvent := fun server =>
  if server.recvLen < rendererPktSize then (server, [])
  else
    let left := server.recvLen - rendererPktSize
    ({ server with
        recvBuf := if 0 < left then memmove server.recvBuf 0 rendererPktSize left
          else server.recvBuf
        recvLen := left }, [.command (server.recvBuf.take rendererPktSize)])

/-- A read of a command returns nothing. -/
def drained (server : CrServer) : Bool := (crServerReadCmd server).2.isEmpty

def crServerShutdown : TracedOp CrServer FramingEvent := fun server => (server.disconnect, [])

def step (server : CrServer) : ServerCall → Option (CrServer × List FramingEvent)
  | .init port connects => some (crServerInit port connects server)
  | .poll input => crServerPoll input server
  | .readCmd => some (crServerReadCmd server)
  | .sendHeartbeat => some (server, server.sendEvent evtHeartbeat)
  | .markReady =>
      some ({ server with readySent := true }, server.sendEvent RendererServer.evtReady)
  | .markFrameReady =>
      some ({ server with frameReadySent := true }, server.sendEvent RendererServer.evtFrameReady)
  | .shutdown => some (crServerShutdown server)

theorem drained_iff {server : CrServer} :
    server.drained = true ↔ server.recvLen < rendererPktSize := by
  unfold drained crServerReadCmd
  split_ifs with short
  · exact iff_of_true rfl short
  · exact iff_of_false Bool.false_ne_true short

/-- What a read of the socket comes to. -/
theorem receive_cases {result : RecvResult} {server next : CrServer}
    {events : List FramingEvent} (received : server.receive result = some (next, events)) :
    (next = server ∧ events = []) ∨
      (∃ bytes, server.connected = true ∧ server.recvLen + bytes.length ≤ recvBufSize ∧
        next = { server with
          recvBuf := memcpy server.recvBuf server.recvLen bytes
          recvLen := server.recvLen + bytes.length } ∧
        events = [.received bytes]) ∨
      (next.recvBuf = server.recvBuf ∧ next.recvLen = 0 ∧ next.connected = false ∧
        events = [.disconnected]) := by
  unfold receive at received
  by_cases connection : server.connected = true
  · by_cases room : 0 < recvBufSize - server.recvLen
    · rw [if_pos connection, if_pos room] at received
      cases result with
      | data bytes =>
          simp only at received
          split_ifs at received with valid
          simp only [Option.some.injEq, Prod.mk.injEq] at received
          exact Or.inr (Or.inl ⟨bytes, connection, by omega, received.1.symm, received.2.symm⟩)
      | closed =>
          simp only [Option.some.injEq, Prod.mk.injEq] at received
          obtain ⟨rfl, rfl⟩ := received
          exact Or.inr (Or.inr ⟨rfl, rfl, rfl, rfl⟩)
      | wouldBlock =>
          simp only [Option.some.injEq, Prod.mk.injEq] at received
          exact Or.inl ⟨received.1.symm, received.2.symm⟩
      | failed =>
          simp only [Option.some.injEq, Prod.mk.injEq] at received
          obtain ⟨rfl, rfl⟩ := received
          exact Or.inr (Or.inr ⟨rfl, rfl, rfl, rfl⟩)
    · rw [if_pos connection, if_neg room, Option.some.injEq, Prod.mk.injEq] at received
      exact Or.inl ⟨received.1.symm, received.2.symm⟩
  · rw [if_neg connection, Option.some.injEq, Prod.mk.injEq] at received
    exact Or.inl ⟨received.1.symm, received.2.symm⟩

/-- A new connection has nothing in its buffer. -/
theorem reconnect_drained {server : CrServer} (drained : server.recvLen < rendererPktSize)
    (now : Int) (connects : Bool) :
    (reconnect now connects server).1.recvLen < rendererPktSize := by
  unfold reconnect
  split_ifs
  · exact Nat.zero_lt_of_lt drained
  · exact drained
  · exact drained

end CrServer

def crServer : TracedSystem CrServer ServerCall FramingEvent where
  init := {}
  step := CrServer.step

/-- What came in and what was read since the newest connection was made. -/
structure ConnectionView where
  received : List UInt8 := []
  commands : List (List UInt8) := []

namespace ConnectionView

def see (view : ConnectionView) : FramingEvent → ConnectionView
  | .connected => {}
  | .received bytes => { view with received := view.received ++ bytes }
  | .command packet => { view with commands := view.commands ++ [packet] }
  | .disconnected | .sent _ => view

theorem see_sendEvent (view : ConnectionView) (event : UInt8) (server : CrServer) :
    (server.sendEvent event).foldl see view = view := by
  unfold CrServer.sendEvent
  split_ifs
  · rfl
  · rfl

theorem see_announce (view : ConnectionView) (server : CrServer) :
    server.announce.foldl see view = view := by
  rw [CrServer.announce, List.foldl_append]
  split_ifs <;> simp only [see_sendEvent, List.foldl_nil]

/-- The view of the newest connection of a trace. -/
def ofTrace (trace : List FramingEvent) : ConnectionView := trace.foldl see {}

theorem ofTrace_append (trace events : List FramingEvent) :
    ofTrace (trace ++ events) = events.foldl see (ofTrace trace) :=
  List.foldl_append

end ConnectionView

/-- The commands are whole, and what came in is the commands and then the bytes
in the buffer; without a connection less than a command is left behind them. -/
structure Framed (server : CrServer) (view : ConnectionView) : Prop where
  size : server.recvBuf.length = recvBufSize
  inside : server.recvLen ≤ recvBufSize
  whole : ∀ command ∈ view.commands, command.length = rendererPktSize
  joined : server.connected = true → view.received = view.commands.flatten ++ server.buffered
  parted : server.connected = false → server.recvLen = 0 ∧
    ∃ tail, tail.length < rendererPktSize ∧ view.received = view.commands.flatten ++ tail

namespace Framed

open ByteBuffers CrServer

variable {server : CrServer} {view : ConnectionView}

theorem length_buffered (framed : Framed server view) :
    server.buffered.length = server.recvLen := by
  rw [buffered, List.length_take, framed.size, Nat.min_eq_left framed.inside]

/-- Once no command is left in the buffer, less than a command is left of the stream. -/
theorem exists_tail (framed : Framed server view) (drained : server.recvLen < rendererPktSize) :
    ∃ tail, tail.length < rendererPktSize ∧ view.received = view.commands.flatten ++ tail := by
  cases connection : server.connected with
  | true => exact ⟨server.buffered, framed.length_buffered ▸ drained, framed.joined connection⟩
  | false => exact (framed.parted connection).2

/-- The connection is gone, with what was left in the buffer. -/
theorem part (framed : Framed server view) (drained : server.recvLen < rendererPktSize)
    {next : CrServer} (sameBuf : next.recvBuf = server.recvBuf) (empty : next.recvLen = 0)
    (gone : next.connected = false) : Framed next view where
  size := sameBuf ▸ framed.size
  inside := empty ▸ Nat.zero_le _
  whole := framed.whole
  joined := fun connection => Bool.noConfusion (gone.symm.trans connection)
  parted := fun _ => ⟨empty, framed.exists_tail drained⟩

/-- A new connection starts with an empty buffer and an empty stream. -/
theorem join (framed : Framed server view) {next : CrServer}
    (sameBuf : next.recvBuf = server.recvBuf) (empty : next.recvLen = 0)
    (made : next.connected = true) : Framed next {} where
  size := sameBuf ▸ framed.size
  inside := empty ▸ Nat.zero_le _
  whole := fun command isMember => absurd isMember List.not_mem_nil
  joined := fun _ => by rw [buffered, empty]; rfl
  parted := fun connection => Bool.noConfusion (made.symm.trans connection)

/-- Neither the buffer nor the connection changes. -/
theorem keep (framed : Framed server view) {next : CrServer}
    (sameBuf : next.recvBuf = server.recvBuf) (sameLen : next.recvLen = server.recvLen)
    (same : next.connected = server.connected) : Framed next view where
  size := sameBuf ▸ framed.size
  inside := sameLen ▸ framed.inside
  whole := framed.whole
  joined := fun connection => by
    rw [framed.joined (same ▸ connection), buffered, buffered, sameBuf, sameLen]
  parted := fun connection => sameLen ▸ framed.parted (same ▸ connection)

theorem crServerInit (framed : Framed server view) (drained : server.recvLen < rendererPktSize)
    (port : Nat) (connects : Bool) :
    Framed (CrServer.crServerInit port connects server).1
      ((CrServer.crServerInit port connects server).2.foldl ConnectionView.see view) := by
  cases connects with
  | true => exact framed.join rfl rfl rfl
  | false => exact framed.part drained rfl rfl rfl

theorem reconnect (framed : Framed server view) (now : Int) (connects : Bool) :
    Framed (CrServer.reconnect now connects server).1
      ((CrServer.reconnect now connects server).2.foldl ConnectionView.see view) := by
  unfold CrServer.reconnect
  split_ifs
  · rw [List.foldl_cons, ConnectionView.see_announce]
    exact framed.join rfl rfl rfl
  · exact framed.keep rfl rfl rfl
  · exact framed

/-- What is received goes behind what waits in the buffer. -/
theorem data (framed : Framed server view) (connection : server.connected = true)
    {bytes : List UInt8} (fits : server.recvLen + bytes.length ≤ recvBufSize) :
    Framed { server with
        recvBuf := memcpy server.recvBuf server.recvLen bytes
        recvLen := server.recvLen + bytes.length }
      { view with received := view.received ++ bytes } := by
  have size := framed.size
  have takeLength : (server.recvBuf.take server.recvLen).length = server.recvLen :=
    framed.length_buffered
  have waits : (memcpy server.recvBuf server.recvLen bytes).take
      (server.recvLen + bytes.length) = server.buffered ++ bytes := by
    rw [memcpy, ← List.append_assoc]
    exact List.take_left' (by rw [List.length_append, takeLength])
  exact {
    size := by
      rw [memcpy, List.length_append, List.length_append, List.length_drop, takeLength, size]
      omega
    inside := fits
    whole := framed.whole
    joined := fun _ => by
      rw [buffered, waits, ← List.append_assoc, ← framed.joined connection]
    parted := fun parted => Bool.noConfusion (connection.symm.trans parted) }

theorem receive (framed : Framed server view) (drained : server.recvLen < rendererPktSize)
    {result : RecvResult} {next : CrServer} {events : List FramingEvent}
    (received : server.receive result = some (next, events)) :
    Framed next (events.foldl ConnectionView.see view) := by
  cases receive_cases received with
  | inl unchanged =>
      obtain ⟨rfl, rfl⟩ := unchanged
      exact framed
  | inr changed =>
      cases changed with
      | inl more =>
          obtain ⟨bytes, connection, fits, rfl, rfl⟩ := more
          exact framed.data connection fits
      | inr ended =>
          obtain ⟨sameBuf, empty, gone, rfl⟩ := ended
          exact framed.part drained sameBuf empty gone

theorem crServerPoll (framed : Framed server view) (drained : server.recvLen < rendererPktSize)
    {input : PollInput} {next : CrServer} {events : List FramingEvent}
    (polled : CrServer.crServerPoll input server = some (next, events)) :
    Framed next (events.foldl ConnectionView.see view) := by
  simp only [CrServer.crServerPoll, Option.bind_eq_bind, Option.pure_def,
    Option.bind_eq_some_iff, Option.some.injEq, Prod.mk.injEq, Prod.exists] at polled
  obtain ⟨joined, later, received, rfl, rfl⟩ := polled
  rw [List.foldl_append]
  exact (framed.reconnect input.now input.connects).receive
    (reconnect_drained drained input.now input.connects) received

/-- The buffer after a command has been taken from its front. -/
theorem shifted_buffer (framed : Framed server view) {left : Nat}
    (isLeft : server.recvLen = rendererPktSize + left) :
    (if 0 < left then memmove server.recvBuf 0 rendererPktSize left
      else server.recvBuf).length = recvBufSize ∧
      (if 0 < left then memmove server.recvBuf 0 rendererPktSize left
        else server.recvBuf).take left = server.buffered.drop rendererPktSize := by
  have size := framed.size
  have inside := framed.inside
  have waits : server.buffered.drop rendererPktSize =
      (server.recvBuf.drop rendererPktSize).take left := by
    rw [buffered, List.drop_take, isLeft, Nat.add_sub_cancel_left]
  have movedLength : ((server.recvBuf.drop rendererPktSize).take left).length = left := by
    rw [List.length_take, List.length_drop]
    omega
  split_ifs with moves
  · have moved : memmove server.recvBuf 0 rendererPktSize left =
        (server.recvBuf.drop rendererPktSize).take left ++ server.recvBuf.drop left := by
      rw [memmove, memcpy, movedLength, Nat.zero_add, List.take_zero, List.nil_append]
    constructor
    · rw [moved, List.length_append, movedLength, List.length_drop]
      omega
    · rw [moved, waits, List.take_left' movedLength]
  · obtain rfl : left = 0 := by omega
    exact ⟨size, by rw [waits, List.take_zero, List.take_zero]⟩

/-- A command leaves the front of the buffer, and the rest moves there. -/
theorem crServerReadCmd (framed : Framed server view) :
    Framed (CrServer.crServerReadCmd server).1
      ((CrServer.crServerReadCmd server).2.foldl ConnectionView.see view) := by
  unfold CrServer.crServerReadCmd
  split_ifs with short
  · exact framed
  have size := framed.size
  have inside := framed.inside
  have connection : server.connected = true := by
    by_contra gone
    have empty := (framed.parted (Bool.eq_false_of_not_eq_true gone)).1
    exact short (empty ▸ (by decide))
  obtain ⟨shiftedSize, shifted⟩ := framed.shifted_buffer
    (show server.recvLen = rendererPktSize + (server.recvLen - rendererPktSize) by omega)
  have command : server.recvBuf.take rendererPktSize = server.buffered.take rendererPktSize := by
    rw [buffered, List.take_take, Nat.min_eq_left (Nat.le_of_not_lt short)]
  exact {
    size := shiftedSize
    inside := (Nat.sub_le _ _).trans inside
    whole := by
      intro packet isMember
      cases List.mem_append.mp isMember with
      | inl earlier => exact framed.whole packet earlier
      | inr newest =>
          rw [List.mem_singleton.mp newest, List.length_take]
          omega
    joined := fun _ => by
      show view.received = (view.commands ++ [server.recvBuf.take rendererPktSize]).flatten ++
        List.take (server.recvLen - rendererPktSize) _
      rw [shifted, command, List.flatten_append, List.flatten_singleton, List.append_assoc,
        List.take_append_drop]
      exact framed.joined connection
    parted := fun parted => Bool.noConfusion (connection.symm.trans parted) }

end Framed

/-- The commands are read until none is left before anything else is done with
the socket. -/
def drainedFirst (server : CrServer) : ServerCall → Bool
  | .init _ _ | .poll _ | .shutdown => server.drained
  | .readCmd | .sendHeartbeat | .markReady | .markFrameReady => true

theorem framed_step {server next : CrServer} {view : ConnectionView} {call : ServerCall}
    {events : List FramingEvent} (framed : Framed server view)
    (drained : drainedFirst server call = true)
    (stepTo : server.step call = some (next, events)) :
    Framed next (events.foldl ConnectionView.see view) := by
  cases call with
  | init port connects =>
      obtain ⟨rfl, rfl⟩ := Prod.ext_iff.mp (Option.some.inj stepTo)
      exact framed.crServerInit (CrServer.drained_iff.mp drained) port connects
  | poll input => exact framed.crServerPoll (CrServer.drained_iff.mp drained) stepTo
  | readCmd =>
      obtain ⟨rfl, rfl⟩ := Prod.ext_iff.mp (Option.some.inj stepTo)
      exact framed.crServerReadCmd
  | sendHeartbeat =>
      simp only [CrServer.step, Option.some.injEq, Prod.mk.injEq] at stepTo
      obtain ⟨rfl, rfl⟩ := stepTo
      rw [ConnectionView.see_sendEvent]
      exact framed
  | markReady =>
      simp only [CrServer.step, Option.some.injEq, Prod.mk.injEq] at stepTo
      obtain ⟨rfl, rfl⟩ := stepTo
      rw [ConnectionView.see_sendEvent]
      exact framed.keep rfl rfl rfl
  | markFrameReady =>
      simp only [CrServer.step, Option.some.injEq, Prod.mk.injEq] at stepTo
      obtain ⟨rfl, rfl⟩ := stepTo
      rw [ConnectionView.see_sendEvent]
      exact framed.keep rfl rfl rfl
  | shutdown =>
      obtain ⟨rfl, rfl⟩ := Prod.ext_iff.mp (Option.some.inj stepTo)
      exact framed.part (CrServer.drained_iff.mp drained) rfl rfl rfl

theorem framed_run {server : CrServer} {trace : List FramingEvent}
    (run : crServer.RunWithin (fun server _ call => drainedFirst server call = true) server trace) :
    Framed server (.ofTrace trace) := by
  refine run.invariant (fun server trace => Framed server (.ofTrace trace)) ?_ ?_
  · exact ⟨List.length_replicate, Nat.zero_le _, fun _ isMember => absurd isMember List.not_mem_nil,
      fun connection => Bool.noConfusion connection, fun _ => ⟨rfl, [], by decide, rfl⟩⟩
  · intro server next trace call events framed drained stepTo
    rw [ConnectionView.ofTrace_append]
    exact framed_step framed drained stepTo

/-- However the stream of the newest connection is split into reads, the
commands are its first complete groups, and all of them once a read of a
command returns nothing; together with the bytes in the buffer they are the stream, and the
buffer never overflows. -/
theorem commands_are_complete_groups {server : CrServer} {trace : List FramingEvent}
    (run : crServer.RunWithin (fun server _ call => drainedFirst server call = true) server trace) :
    server.recvLen ≤ recvBufSize ∧
      (server.connected = true →
        (ConnectionView.ofTrace trace).received =
          (ConnectionView.ofTrace trace).commands.flatten ++ server.buffered) ∧
      (ConnectionView.ofTrace trace).commands <+:
        completeGroups rendererPktSize (ConnectionView.ofTrace trace).received ∧
      (server.drained = true →
        (ConnectionView.ofTrace trace).commands =
          completeGroups rendererPktSize (ConnectionView.ofTrace trace).received) := by
  have framed := framed_run run
  refine ⟨framed.inside, framed.joined, ?_, ?_⟩
  · have split : ∃ tail, (ConnectionView.ofTrace trace).received =
        (ConnectionView.ofTrace trace).commands.flatten ++ tail := by
      cases connection : server.connected with
      | true => exact ⟨_, framed.joined connection⟩
      | false =>
          obtain ⟨-, tail, -, received⟩ := framed.parted connection
          exact ⟨tail, received⟩
    obtain ⟨tail, received⟩ := split
    rw [received, completeGroups_flatten_append (by decide) framed.whole]
    exact List.prefix_append _ _
  · intro drained
    obtain ⟨tail, short, received⟩ := framed.exists_tail (CrServer.drained_iff.mp drained)
    rw [received, completeGroups_flatten_append (by decide) framed.whole,
      completeGroups_short short, List.append_nil]

/-- A command in two reads, with the start of the next one. -/
def splitReads : List ServerCall :=
  [.init 19800 true,
    .poll ⟨0, true, .data (List.replicate 20 1)⟩, .readCmd,
    .poll ⟨0, true, .data (List.replicate 30 2)⟩, .readCmd, .readCmd]

theorem split_command_read : ∃ server trace,
    crServer.RunWithin (fun server _ call => drainedFirst server call = true) server trace ∧
      .command (List.replicate 20 1 ++ List.replicate 28 2) ∈ trace ∧
      (ConnectionView.ofTrace trace).commands =
        completeGroups rendererPktSize (ConnectionView.ofTrace trace).received := by
  obtain ⟨server, trace, run, checked⟩ := crServer.exists_runWithin_of_replay
    drainedFirst splitReads
    (fun result => result.1.drained &&
      decide (.command (List.replicate 20 1 ++ List.replicate 28 2) ∈ result.2)) (by decide +kernel)
  rw [Bool.and_eq_true, decide_eq_true_eq] at checked
  exact ⟨server, trace, run, checked.2, (commands_are_complete_groups run).2.2.2 checked.1⟩

end CarplayRgi
