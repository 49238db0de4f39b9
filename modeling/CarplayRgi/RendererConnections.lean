import CarplayRgi.TracedSystems
import Mathlib.Logic.Function.Basic
import Mathlib.Tactic.Common

/-!
# The connections of the renderer server

The accept thread, one reader thread for each connection and any number of
senders share the current client.  A step is what a thread does under `lock`,
or one call of the socket; a connection may fail at any time.  Connections are
numbered in the order in which they become the current client.
-/

namespace CarplayRgi

/-- The accept thread waits for a renderer, or holds an accepted socket that
is not the client yet. -/
inductive AcceptPhase where
  | accepting | holding
  deriving DecidableEq

/-- A `sendPacket` call that has read the stream of a connection. -/
inductive SendPhase where
  | writing (conn : Nat)
  | failed (conn : Nat)
  deriving DecidableEq

/-- Where `readerLoop` stands: before and after the `catch` block. -/
inductive ReaderPhase where
  | reading | caught | leaving
  deriving DecidableEq

/-- The fields of the server, the sockets that are closed, and the threads. -/
structure RendererServer where
  server : Bool
  running : Bool
  sock : Option Nat
  out : Option Nat
  everConnected : Bool
  rendererReady : Bool
  frameReady : Bool
  closed : Nat → Bool
  accepted : Nat
  acceptThread : Option AcceptPhase
  readers : Nat → Option ReaderPhase
  sends : Nat → Option SendPhase

/-- Why a client is closed. -/
inductive CloseCause where
  | replaced
  | sendFailed (conn : Nat)
  | readerEnded (conn : Nat)
  | disconnected
  deriving DecidableEq

/-- The connection on which a failure or an end of stream has been observed. -/
def CloseCause.observedOn : CloseCause → Option Nat
  | .sendFailed conn | .readerEnded conn => some conn
  | .replaced | .disconnected => none

inductive RendererEvent where
  | connected (conn : Nat)
  | clientClosed (cause : CloseCause) (client : Nat)
  | sendReturned (call : Nat) (sent : Bool)
  | rendererDied (conn : Nat)
  deriving DecidableEq

inductive RendererLabel where
  | connect
  | accepts
  | acceptFails
  | acceptEnds
  | installs
  | preloads
  | sendBegins (call : Nat)
  | sendWrites (call : Nat)
  | sendFails (call : Nat)
  | sendCloses (call : Nat)
  | readerReads (conn : Nat) (event : UInt8)
  | readerStops (conn : Nat)
  | readerFails (conn : Nat)
  | readerChecks (conn : Nat)
  | readerCloses (conn : Nat)
  | disconnectClient
  | dispose

namespace RendererServer

def evtReady : UInt8 := 0x81
def evtFrameReady : UInt8 := 0x82

def initial : RendererServer where
  server := false
  running := false
  sock := none
  out := none
  everConnected := false
  rendererReady := false
  frameReady := false
  closed := fun _ => false
  accepted := 0
  acceptThread := none
  readers := fun _ => none
  sends := fun _ => none

/-- Close a socket, if there is one. -/
def closeSocket (conn : Option Nat) (closed : Nat → Bool) : Nat → Bool :=
  match conn with
  | none => closed
  | some conn => Function.update closed conn true

def closeClientLocked (cause : CloseCause) : TracedOp RendererServer RendererEvent := fun state =>
  ({ state with
      out := none
      sock := none
      closed := closeSocket state.sock (closeSocket state.out state.closed)
      rendererReady := false
      frameReady := false },
    (state.sock.map (.clientClosed cause)).toList)

/-- `connect`, once the accept thread of an earlier one has ended. -/
def connect (state : RendererServer) : Option (RendererServer × List RendererEvent) :=
  if state.server then some (state, [])
  else if state.acceptThread = none then
    some ({ state with server := true, running := true, acceptThread := some .accepting }, [])
  else none

/-- The locked block of `acceptLoop`, and the start of the reader. -/
def install : TracedOp RendererServer RendererEvent := fun state =>
  let conn := state.accepted
  ({ state with
      sock := some conn
      out := some conn
      closed := closeSocket state.sock state.closed
      everConnected := true
      rendererReady := false
      frameReady := false
      accepted := conn + 1
      acceptThread := some .accepting
      readers := Function.update state.readers conn (some .reading) },
    (state.sock.map (.clientClosed .replaced)).toList ++ [.connected conn])

def handleRendererEvent (owned : Nat) (event : UInt8) (state : RendererServer) : RendererServer :=
  if state.sock ≠ some owned then state
  else if event = evtReady then { state with rendererReady := true }
  else if event = evtFrameReady then { state with rendererReady := true, frameReady := true }
  else state

def setReader (conn : Nat) (phase : Option ReaderPhase) (state : RendererServer) :
    RendererServer :=
  { state with readers := Function.update state.readers conn phase }

def setSend (call : Nat) (phase : Option SendPhase) (state : RendererServer) : RendererServer :=
  { state with sends := Function.update state.sends call phase }

/-- `sendPacket` reads the stream. -/
def beginSend (call : Nat) (state : RendererServer) : RendererServer × List RendererEvent :=
  match state.out with
  | none => (state, [.sendReturned call false])
  | some conn => (state.setSend call (some (.writing conn)), [])

/-- The `catch` block of `sendPacket`. -/
def closeSend (call conn : Nat) : TracedOp RendererServer RendererEvent := fun state =>
  let closing := closeClientLocked (.sendFailed conn) state
  (closing.1.setSend call none, closing.2 ++ [.sendReturned call false])

/-- The `finally` block of `readerLoop`. -/
def closeReader (owned : Nat) : TracedOp RendererServer RendererEvent := fun state =>
  let left := state.setReader owned none
  if state.sock = some owned then closeClientLocked (.readerEnded owned) left else (left, [])

def step (state : RendererServer) : RendererLabel → Option (RendererServer × List RendererEvent)
  | .connect => state.connect
  | .accepts =>
      if state.running && state.server && decide (state.acceptThread = some .accepting) then
        some ({ state with acceptThread := some .holding }, [])
      else none
  -- An exception before the locked block leaves the accepted socket alone.
  | .acceptFails =>
      if state.acceptThread = some .holding then
        some ({ state with acceptThread := some .accepting }, [])
      else none
  | .acceptEnds =>
      if !(state.running && state.server) && decide (state.acceptThread = some .accepting) then
        some ({ state with acceptThread := none }, [])
      else none
  | .installs =>
      if state.acceptThread = some .holding then some (install state) else none
  -- The flag is written without the lock, before the packet is sent.
  | .preloads => some ({ state with frameReady := false }, [])
  | .sendBegins call => if state.sends call = none then some (beginSend call state) else none
  | .sendWrites call =>
      match state.sends call with
      | some (.writing conn) =>
          if state.closed conn then none
          else some (state.setSend call none, [.sendReturned call true])
      | _ => none
  | .sendFails call =>
      match state.sends call with
      | some (.writing conn) => some (state.setSend call (some (.failed conn)), [])
      | _ => none
  | .sendCloses call =>
      match state.sends call with
      | some (.failed conn) => some (closeSend call conn state)
      | _ => none
  | .readerReads conn event =>
      if decide (state.readers conn = some .reading) && !state.closed conn then
        some (handleRendererEvent conn event state, [])
      else none
  | .readerStops conn =>
      if !state.running && decide (state.readers conn = some .reading) then
        some (state.setReader conn (some .leaving), [])
      else none
  | .readerFails conn =>
      if state.readers conn = some .reading then
        some (state.setReader conn (some .caught), [])
      else none
  | .readerChecks conn =>
      if state.readers conn = some .caught then
        some (state.setReader conn (some .leaving),
          if state.running && decide (state.sock = some conn) then [.rendererDied conn] else [])
      else none
  | .readerCloses conn =>
      if state.readers conn = some .leaving then some (closeReader conn state) else none
  | .disconnectClient => some (closeClientLocked .disconnected state)
  | .dispose =>
      let closing := closeClientLocked .disconnected
        { state with running := false, everConnected := false }
      some ({ closing.1 with server := false }, closing.2)

theorem clientClosed_of_closeClientLocked {cause other : CloseCause} {client : Nat}
    {state : RendererServer}
    (closes : .clientClosed other client ∈ (closeClientLocked cause state).2) :
    other = cause ∧ state.sock = some client := by
  unfold closeClientLocked at closes
  cases sockEq : state.sock with
  | none => simp [sockEq] at closes
  | some current => simpa [sockEq, eq_comm] using closes

/-- A step closes the current client only.  It is an accept, a teardown, the
reader of the client, or a send call that has failed on some connection. -/
theorem clientClosed_of_step {state next : RendererServer} {label : RendererLabel}
    {events : List RendererEvent} (stepTo : state.step label = some (next, events))
    {cause : CloseCause} {client : Nat} (closes : .clientClosed cause client ∈ events) :
    state.sock = some client ∧
      (cause.observedOn = none ∨ cause.observedOn = some client ∨
        ∃ call conn, label = .sendCloses call ∧ state.sends call = some (.failed conn) ∧
          cause = .sendFailed conn) := by
  cases label with
  | installs =>
      unfold step at stepTo
      dsimp only at stepTo
      split at stepTo
      · obtain ⟨-, rfl⟩ := Prod.mk.inj (Option.some.inj stepTo)
        cases sockEq : state.sock with
        | none => simp [sockEq] at closes
        | some current =>
            simp only [sockEq, Option.map_some, Option.toList_some, List.cons_append,
              List.nil_append, List.mem_cons, RendererEvent.clientClosed.injEq, reduceCtorEq,
              List.not_mem_nil, or_false] at closes
            obtain ⟨rfl, rfl⟩ := closes
            exact ⟨rfl, .inl rfl⟩
      · cases stepTo
  | sendCloses call =>
      unfold step at stepTo
      dsimp only at stepTo
      split at stepTo
      · rename_i conn failed
        obtain ⟨-, rfl⟩ := Prod.mk.inj (Option.some.inj stepTo)
        rcases List.mem_append.mp closes with closing | returned
        · obtain ⟨rfl, isClient⟩ := clientClosed_of_closeClientLocked closing
          exact ⟨isClient, .inr (.inr ⟨call, conn, rfl, failed, rfl⟩)⟩
        · simp at returned
      · cases stepTo
  | readerCloses conn =>
      unfold step closeReader at stepTo
      dsimp only at stepTo
      split at stepTo
      · split at stepTo
        · rename_i isOwned
          obtain ⟨-, rfl⟩ := Prod.mk.inj (Option.some.inj stepTo)
          obtain ⟨rfl, isClient⟩ := clientClosed_of_closeClientLocked closes
          exact ⟨isClient, .inr (.inl (isOwned.symm.trans isClient))⟩
        · obtain ⟨-, rfl⟩ := Prod.mk.inj (Option.some.inj stepTo)
          cases closes
      · cases stepTo
  | disconnectClient =>
      obtain ⟨-, rfl⟩ := Prod.mk.inj (Option.some.inj stepTo)
      obtain ⟨rfl, isClient⟩ := clientClosed_of_closeClientLocked closes
      exact ⟨isClient, .inl rfl⟩
  | dispose =>
      obtain ⟨-, rfl⟩ := Prod.mk.inj (Option.some.inj stepTo)
      obtain ⟨rfl, isClient⟩ := clientClosed_of_closeClientLocked closes
      exact ⟨isClient, .inl rfl⟩
  | sendBegins call =>
      unfold step beginSend at stepTo
      dsimp only at stepTo
      split at stepTo
      · split at stepTo
        · obtain ⟨-, rfl⟩ := Prod.mk.inj (Option.some.inj stepTo)
          simp at closes
        · obtain ⟨-, rfl⟩ := Prod.mk.inj (Option.some.inj stepTo)
          cases closes
      · cases stepTo
  | connect | accepts | acceptFails | acceptEnds | preloads | sendWrites | sendFails | readerReads
  | readerStops | readerFails | readerChecks =>
      simp only [step, connect] at stepTo
      grind

/-- The current client is the connection accepted last. -/
def ClientNewest (state : RendererServer) : Prop :=
  ∀ client ∈ state.sock, client + 1 = state.accepted

theorem clientNewest_of_none {state : RendererServer} (noClient : state.sock = none) :
    ClientNewest state := by
  intro client isClient
  rw [noClient] at isClient
  cases isClient

theorem ClientNewest.congr {before after : RendererServer} (newest : ClientNewest before)
    (sock : after.sock = before.sock) (accepted : after.accepted = before.accepted) :
    ClientNewest after := by
  unfold ClientNewest
  rw [sock, accepted]
  exact newest

theorem ClientNewest.step {state next : RendererServer} (newest : ClientNewest state)
    {label : RendererLabel} {events : List RendererEvent}
    (stepTo : state.step label = some (next, events)) : ClientNewest next := by
  cases label with
  | installs =>
      unfold RendererServer.step at stepTo
      dsimp only at stepTo
      split at stepTo
      · obtain ⟨rfl, -⟩ := Prod.mk.inj (Option.some.inj stepTo)
        intro client isClient
        obtain rfl := Option.some.inj isClient
        rfl
      · cases stepTo
  | sendCloses call =>
      unfold RendererServer.step at stepTo
      dsimp only at stepTo
      split at stepTo
      · obtain ⟨rfl, -⟩ := Prod.mk.inj (Option.some.inj stepTo)
        exact clientNewest_of_none rfl
      · cases stepTo
  | readerCloses conn =>
      unfold RendererServer.step closeReader at stepTo
      dsimp only at stepTo
      split at stepTo
      · split at stepTo
        · obtain ⟨rfl, -⟩ := Prod.mk.inj (Option.some.inj stepTo)
          exact clientNewest_of_none rfl
        · obtain ⟨rfl, -⟩ := Prod.mk.inj (Option.some.inj stepTo)
          exact newest.congr rfl rfl
      · cases stepTo
  | disconnectClient | dispose =>
      obtain ⟨rfl, -⟩ := Prod.mk.inj (Option.some.inj stepTo)
      exact clientNewest_of_none rfl
  | connect | accepts | acceptFails | acceptEnds | preloads | sendBegins | sendWrites | sendFails
  | readerReads | readerStops | readerFails | readerChecks =>
      have kept : next.sock = state.sock ∧ next.accepted = state.accepted := by
        simp only [RendererServer.step, RendererServer.connect, beginSend, setSend, setReader,
          handleRendererEvent] at stepTo
        grind
      exact newest.congr kept.1 kept.2

end RendererServer

def rendererServer : TracedSystem RendererServer RendererLabel RendererEvent where
  init := .initial
  step := RendererServer.step

open RendererServer

/-- A failure or an end of stream closes no other client than its own. -/
def OwnersClose (trace : List RendererEvent) : Prop :=
  ∀ cause client, .clientClosed cause client ∈ trace →
    ∀ conn ∈ cause.observedOn, client = conn

/-- When a send call closes the client because it has failed on a connection,
no client has been accepted after that connection, or none is connected. -/
def noneAcceptedSince (state : RendererServer) : RendererLabel → Bool
  | .sendCloses call =>
      match state.sends call with
      | some (.failed conn) => state.sock.isNone || decide (conn + 1 = state.accepted)
      | _ => true
  | _ => true

theorem clientNewest_of_run {guard : RendererServer → List RendererEvent → RendererLabel → Prop}
    {state : RendererServer} {trace : List RendererEvent}
    (run : rendererServer.RunWithin guard state trace) : ClientNewest state := by
  refine run.invariant (fun state _ => ClientNewest state) (clientNewest_of_none rfl) ?_
  intro state next trace events label newest _ stepTo
  exact newest.step stepTo

theorem ownersClose_append {trace events : List RendererEvent} :
    OwnersClose (trace ++ events) ↔ OwnersClose trace ∧ OwnersClose events := by
  unfold OwnersClose
  simp only [List.mem_append, or_imp, forall_and]

/-- A step keeps ownership if and only if it is within the condition. -/
theorem ownersClose_step_iff {state next : RendererServer} (newest : ClientNewest state)
    {label : RendererLabel} {events : List RendererEvent}
    (stepTo : state.step label = some (next, events)) :
    OwnersClose events ↔ noneAcceptedSince state label = true := by
  constructor
  · intro owners
    cases label with
    | sendCloses call =>
        unfold step at stepTo
        unfold noneAcceptedSince
        dsimp only at stepTo ⊢
        split
        · rename_i conn failed
          rw [failed] at stepTo
          obtain ⟨-, rfl⟩ := Prod.mk.inj (Option.some.inj stepTo)
          cases sockEq : state.sock with
          | none => rfl
          | some client =>
              obtain rfl := owners (.sendFailed conn) client
                (by simp [closeClientLocked, sockEq]) conn rfl
              simpa using newest client sockEq
        · rfl
    | _ => rfl
  · intro within cause client closes conn observed
    obtain ⟨isClient, noFailure | own | ⟨call, failedOn, isLabel, failed, isCause⟩⟩ :=
      clientClosed_of_step stepTo closes
    · rw [noFailure] at observed
      cases observed
    · exact Option.some.inj (own.symm.trans observed)
    · rw [isCause] at observed
      obtain rfl := Option.some.inj observed
      subst isLabel
      have isNewest : failedOn + 1 = state.accepted := by
        simpa [noneAcceptedSince, failed, isClient] using within
      exact Nat.succ.inj ((newest client isClient).trans isNewest.symm)

/-- In a run within the condition, a failure or an end of stream closes its own
client only; the first step outside of it closes another one. -/
theorem owners_close_their_client {state : RendererServer} {trace : List RendererEvent}
    (run : rendererServer.RunWithin (fun state _ label => noneAcceptedSince state label = true)
      state trace) :
    OwnersClose trace ∧
      ∀ label next events, state.step label = some (next, events) →
        noneAcceptedSince state label = false → ¬ OwnersClose (trace ++ events) := by
  constructor
  · induction run with
    | start =>
        intro cause client closes
        cases closes
    | next steps within stepTo ih =>
        exact ownersClose_append.mpr
          ⟨ih, (ownersClose_step_iff (clientNewest_of_run steps) stepTo).mpr within⟩
  · intro label next events stepTo outside owners
    have within := (ownersClose_step_iff (clientNewest_of_run run) stepTo).mp
      (ownersClose_append.mp owners).2
    rw [outside] at within
    cases within

/-- The client whose stream a call writes to is closed when the call fails. -/
theorem failed_client_closed : ∃ state trace,
    rendererServer.RunWithin (fun state _ label => noneAcceptedSince state label = true)
        state trace ∧
      .clientClosed (.sendFailed 0) 0 ∈ trace ∧ OwnersClose trace := by
  obtain ⟨state, trace, run, checked⟩ := rendererServer.exists_runWithin_of_replay
    noneAcceptedSince
    [.connect, .accepts, .installs, .sendBegins 0, .sendFails 0, .sendCloses 0]
    (fun result => decide (.clientClosed (.sendFailed 0) 0 ∈ result.2))
    (by decide)
  exact ⟨state, trace, run, of_decide_eq_true checked, (owners_close_their_client run).1⟩

/-- A call reads the stream of a client, which is replaced before the call
writes: the failure of the call closes the new client. -/
theorem newer_client_closed : ¬ ∀ (state : RendererServer) (trace : List RendererEvent),
    rendererServer.Run state trace → OwnersClose trace := by
  intro owners
  obtain ⟨state, trace, run, checked⟩ := rendererServer.exists_run_of_replay
    [.connect, .accepts, .installs, .sendBegins 0, .accepts, .installs, .sendFails 0,
      .sendCloses 0]
    (fun result => decide (.clientClosed (.sendFailed 0) 1 ∈ result.2))
    (by decide)
  exact absurd (owners state trace run _ _ (of_decide_eq_true checked) 0 rfl) (by decide)

end CarplayRgi
