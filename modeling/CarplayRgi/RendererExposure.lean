import CarplayRgi.RendererAnnouncements

/-!
# The frame that is exposed

While the bridge waits for a frame, its preload is on the way to the renderer,
or the renderer shows it and the announcement is on the way back, or it has
come.  No other announcement is under way on that connection, so the surface is
exposed with the preloaded maneuver on it, still transparent.
-/

namespace CarplayRgi

open RendererServer

namespace RendererPipeline

/-- The client of the server is silent. -/
def ClientSilent (state : RendererPipeline) : Prop :=
  ∀ conn, state.server.sock = some conn → (state.lines conn).Silent

/-- What holds at each stage of an activation. -/
inductive Stage (state : RendererPipeline) : Prop
  | idle : state.activation = .idle → state.ClientSilent → Stage state
  | preloading (man : ManeuverPayload) : state.activation = .preloading man →
      state.server.frameReady = false → state.ClientSilent → Stage state
  | waiting (man : ManeuverPayload) (conn : Nat) : state.activation = .waiting man conn →
      conn < state.server.accepted →
      (∀ other, state.server.sock = some other → other ≠ conn → (state.lines other).Silent) →
      (state.server.frameReady = true → state.server.sock = some conn) →
      (state.server.sock = some conn →
        state.server.frameReady = false ∧ (state.lines conn).Underway man ∨
          (state.lines conn).Shows man ∧ evtFrameReady ∉ (state.lines conn).toServer) →
      Stage state
  | framed (man : ManeuverPayload) (conn : Nat) (seen : Option Nat) :
      state.activation = .framed man conn seen → conn < state.server.accepted →
      (state.lines conn).Shows man → state.ClientSilent → Stage state
  | exposed (man : ManeuverPayload) (conn : Nat) : state.activation = .exposed man conn →
      conn < state.server.accepted → (state.lines conn).Shows man → state.ClientSilent →
      Stage state
  | aborting : state.activation = .aborting → Stage state

/-- What the thread of the updates may be writing at each stage. -/
def Writes (state : RendererPipeline) (conn : Nat) : Prop :=
  match state.activation with
  | .idle => (state.packets 0).isPreload = false ∧
      ((state.packets 0).isManeuver = true → (state.lines conn).process.frameReadySent = true)
  | .preloading man => state.packets 0 = .preload man
  | .exposed _ _ => state.packets 0 = .startAnimation
  | .aborting => True
  | .waiting _ _ | .framed _ _ _ => False

structure Ordered (state : RendererPipeline) : Prop where
  connected : state.server.Connected
  stage : state.Stage
  own : ∀ conn, state.server.sends 0 = some (.writing conn) → state.Writes conn
  others : ∀ call conn, call ≠ 0 → state.server.sends call = some (.writing conn) →
    (state.packets call).isPassive = true

/-- The bridge sends maneuvers once the renderer has been exposed, so that it
has announced a frame; and a process whose connection fails does not come back. -/
def orderly (state : RendererPipeline) : PipelineLabel → Bool
  | .reconnects _ => false
  | .begins 0 command =>
      !(command.isManeuver && decide (state.activation = .idle)) ||
        state.server.out.all fun conn => (state.lines conn).process.frameReadySent
  | _ => true

theorem ordered_initial : Ordered initial where
  connected := connected_initial
  stage := .idle rfl nofun
  own := nofun
  others := nofun

variable {state next : RendererPipeline}

theorem Stage.keep (stage : state.Stage) (activation : next.activation = state.activation)
    (sock : next.server.sock = state.server.sock)
    (frameReady : next.server.frameReady = state.server.frameReady)
    (accepted : next.server.accepted = state.server.accepted)
    (keeps : ∀ conn, RendererLine.Keeps (state.lines conn) (next.lines conn)) : next.Stage := by
  have silent (clientSilent : state.ClientSilent) : next.ClientSilent := fun conn isClient =>
    (keeps conn).silent (clientSilent conn (sock.symm.trans isClient))
  cases stage with
  | idle stays clientSilent => exact .idle (activation.trans stays) (silent clientSilent)
  | preloading man stays notReady clientSilent =>
      exact .preloading man (activation.trans stays) (frameReady.trans notReady)
        (silent clientSilent)
  | waiting man conn stays known others ready own =>
      refine .waiting man conn (activation.trans stays) (accepted ▸ known)
        (fun other isClient isOther =>
          (keeps other).silent (others other (sock.symm.trans isClient) isOther)) ?_ ?_
      · rw [frameReady, sock]
        exact ready
      · rw [frameReady, sock]
        refine fun isClient => (own isClient).imp (fun underway => ?_) fun shows => ?_
        · exact ⟨underway.1, (keeps conn).underway man underway.2⟩
        · exact ⟨(keeps conn).shows man shows.1, (keeps conn).unannounced man shows.1 shows.2⟩
  | framed man conn seen stays known shows clientSilent =>
      exact .framed man conn seen (activation.trans stays) (accepted ▸ known)
        ((keeps conn).shows man shows) (silent clientSilent)
  | exposed man conn stays known shows clientSilent =>
      exact .exposed man conn (activation.trans stays) (accepted ▸ known)
        ((keeps conn).shows man shows) (silent clientSilent)
  | aborting stays => exact .aborting (activation.trans stays)

/-- Without a client nothing is announced. -/
theorem Stage.drop (stage : state.Stage) (activation : next.activation = state.activation)
    (sock : next.server.sock = none) (frameReady : next.server.frameReady = false)
    (accepted : next.server.accepted = state.server.accepted) (lines : next.lines = state.lines) :
    next.Stage := by
  have noClient {conn : Nat} (isClient : next.server.sock = some conn) : False := by
    rw [sock] at isClient
    cases isClient
  have silent : next.ClientSilent := fun conn isClient => (noClient isClient).elim
  cases stage with
  | idle stays => exact .idle (activation.trans stays) silent
  | preloading man stays => exact .preloading man (activation.trans stays) frameReady silent
  | waiting man conn stays known =>
      exact .waiting man conn (activation.trans stays) (accepted ▸ known)
        (fun _ isClient => (noClient isClient).elim)
        (fun ready => absurd (frameReady.symm.trans ready) (by decide))
        (fun isClient => (noClient isClient).elim)
  | framed man conn seen stays known shows =>
      exact .framed man conn seen (activation.trans stays) (accepted ▸ known)
        (lines ▸ shows) silent
  | exposed man conn stays known shows =>
      exact .exposed man conn (activation.trans stays) (accepted ▸ known) (lines ▸ shows) silent
  | aborting stays => exact .aborting (activation.trans stays)

/-- A new process has nothing to announce. -/
theorem Stage.install (stage : state.Stage) (ready : Bool) :
    ((state.attach (.launched ready)).setServer
      (RendererServer.install state.server)).Stage := by
  have attached : ((state.attach (.launched ready)).setServer
      (RendererServer.install state.server)).lines state.server.accepted =
        .attached (.launched ready) :=
    Function.update_self ..
  have kept {conn : Nat} (known : conn < state.server.accepted) :
      ((state.attach (.launched ready)).setServer
        (RendererServer.install state.server)).lines conn = state.lines conn :=
    Function.update_of_ne (Nat.ne_of_lt known) ..
  have silent : ((state.attach (.launched ready)).setServer
      (RendererServer.install state.server)).ClientSilent := by
    intro conn isClient
    obtain rfl := Option.some.inj isClient
    rw [attached]
    exact RendererLine.silent_attached ready
  cases stage with
  | idle stays => exact .idle stays silent
  | preloading man stays => exact .preloading man stays rfl silent
  | waiting man conn stays known =>
      refine .waiting man conn stays (Nat.lt_succ_of_lt known) (fun other isClient _ =>
        silent other isClient) (fun ready => by cases ready) fun isClient => ?_
      have isNew : state.server.accepted = conn := Option.some.inj isClient
      omega
  | framed man conn seen stays known shows =>
      exact .framed man conn seen stays (Nat.lt_succ_of_lt known) (by rwa [kept known]) silent
  | exposed man conn stays known shows =>
      exact .exposed man conn stays (Nat.lt_succ_of_lt known) (by rwa [kept known]) silent
  | aborting stays => exact .aborting stays

theorem Writes.congr {conn : Nat} (writes : state.Writes conn)
    (activation : next.activation = state.activation) (packets : next.packets = state.packets)
    (announced : (state.lines conn).process.frameReadySent = true →
      (next.lines conn).process.frameReadySent = true) : next.Writes conn := by
  unfold Writes at writes ⊢
  rw [activation, packets]
  split at writes
  · exact ⟨writes.1, fun isManeuver => announced (writes.2 isManeuver)⟩
  all_goals exact writes

theorem Ordered.server (ordered : state.Ordered) {label : RendererLabel}
    (movesNothing : label.movesNothing = true) {stepped : RendererServer × List RendererEvent}
    (stepTo : state.server.step label = some stepped) : (state.setServer stepped).Ordered := by
  obtain ⟨accepted, writes, -, client⟩ := keepsOrDrops movesNothing stepTo
  refine ⟨ordered.connected.step stepTo, ?_, fun conn isWriting => ?_,
    fun call conn other isWriting => ordered.others call conn other (writes call conn isWriting)⟩
  · rcases client with ⟨sock, frameReady⟩ | ⟨sock, frameReady⟩
    · exact ordered.stage.keep rfl sock frameReady accepted fun conn => .refl _
    · exact ordered.stage.drop rfl sock frameReady accepted rfl
  · exact (ordered.own conn (writes 0 conn isWriting)).congr rfl rfl id

theorem Ordered.installs (ordered : state.Ordered) (ready : Bool)
    {stepped : RendererServer × List RendererEvent}
    (stepTo : state.server.step .installs = some stepped) :
    ((state.attach (.launched ready)).setServer stepped).Ordered := by
  have connected := ordered.connected.step stepTo
  simp only [RendererServer.step] at stepTo
  split_ifs at stepTo
  obtain rfl := Option.some.inj stepTo
  refine ⟨connected, ordered.stage.install ready, fun conn isWriting => ?_, ordered.others⟩
  have known := ordered.connected.sends 0 conn isWriting
  refine (ordered.own conn isWriting).congr rfl rfl fun announced => ?_
  have kept : ((state.attach (.launched ready)).setServer
      (RendererServer.install state.server)).lines conn = state.lines conn :=
    Function.update_of_ne (Nat.ne_of_lt known) ..
  rwa [kept]

/-- A change of one connection that disturbs nothing on it. -/
theorem keeps_onLine {conn : Nat} {change : RendererLine → RendererLine}
    (keeps : RendererLine.Keeps (state.lines conn) (change (state.lines conn))) (other : Nat) :
    RendererLine.Keeps (state.lines other) ((state.onLine conn change).lines other) := by
  dsimp only [onLine]
  by_cases isConn : other = conn
  · rw [isConn, Function.update_self]
    exact keeps
  · rw [Function.update_of_ne isConn]
    exact .refl _

theorem Ordered.onLine (ordered : state.Ordered) {conn : Nat}
    {change : RendererLine → RendererLine}
    (keeps : RendererLine.Keeps (state.lines conn) (change (state.lines conn))) :
    (state.onLine conn change).Ordered where
  connected := ordered.connected
  stage := ordered.stage.keep rfl rfl rfl rfl (keeps_onLine keeps)
  own other isWriting :=
    (ordered.own other isWriting).congr rfl rfl (keeps_onLine keeps other).announced
  others := ordered.others

/-- An open connection is that of the client. -/
theorem client_of_open {server : RendererServer} (connected : server.Connected) {conn : Nat}
    (known : conn < server.accepted) (isOpen : server.closed conn = false) :
    server.sock = some conn := by
  by_contra notClient
  exact absurd (isOpen.symm.trans (connected.closed conn known notClient)) (by decide)

/-- What the reader does with an event of its own connection. -/
theorem handleRendererEvent_client {server : RendererServer} {conn : Nat}
    (isClient : server.sock = some conn) (event : UInt8) :
    (handleRendererEvent conn event server).sock = server.sock ∧
      (handleRendererEvent conn event server).accepted = server.accepted ∧
      (handleRendererEvent conn event server).sends = server.sends ∧
      (handleRendererEvent conn event server).frameReady =
        (decide (event = evtFrameReady) || server.frameReady) := by
  unfold handleRendererEvent
  rw [if_neg (by rw [isClient]; simp)]
  split_ifs with isReady isFrame
  · exact ⟨rfl, rfl, rfl, by rw [isReady]; rfl⟩
  · exact ⟨rfl, rfl, rfl, by rw [decide_eq_true isFrame, Bool.true_or]⟩
  · exact ⟨rfl, rfl, rfl, by rw [decide_eq_false isFrame, Bool.false_or]⟩

theorem Stage.reads (stage : state.Stage) {conn : Nat} (isClient : state.server.sock = some conn)
    {event : UInt8} {rest : List UInt8} (events : (state.lines conn).toServer = event :: rest) :
    ((state.onLine conn .receive).setServer
      (handleRendererEvent conn event state.server, [])).Stage := by
  obtain ⟨sock, accepted, -, frameReady⟩ := handleRendererEvent_client isClient event
  have received : ((state.onLine conn .receive).setServer
      (handleRendererEvent conn event state.server, [])).lines conn = (state.lines conn).receive :=
    Function.update_self ..
  have kept {other : Nat} (isOther : other ≠ conn) : ((state.onLine conn .receive).setServer
      (handleRendererEvent conn event state.server, [])).lines other = state.lines other :=
    Function.update_of_ne isOther ..
  have silent (clientSilent : state.ClientSilent) : ((state.onLine conn .receive).setServer
      (handleRendererEvent conn event state.server, [])).ClientSilent := by
    intro other isOther
    obtain rfl := Option.some.inj (isClient.symm.trans (sock.symm.trans isOther))
    rw [received]
    exact (clientSilent conn isClient).receive
  have shows {man : ManeuverPayload} {other : Nat} (shown : (state.lines other).Shows man) :
      (((state.onLine conn .receive).setServer
        (handleRendererEvent conn event state.server, [])).lines other).Shows man := by
    by_cases isConn : other = conn
    · rw [isConn, received]
      exact ⟨isConn ▸ shown.presents, isConn ▸ shown.passive⟩
    · rwa [kept isConn]
  cases stage with
  | idle stays clientSilent => exact .idle stays (silent clientSilent)
  | preloading man stays notReady clientSilent =>
      refine .preloading man stays ?_ (silent clientSilent)
      have notFrame := (clientSilent conn isClient).event events
      exact frameReady.trans (by rw [decide_eq_false notFrame, notReady]; rfl)
  | waiting man waited stays known others ready own =>
      refine .waiting man waited stays (accepted.symm ▸ known) (fun other isOther notWaited => ?_)
        (fun isReady => ?_) fun isWaited => ?_
      · obtain rfl := Option.some.inj (isClient.symm.trans (sock.symm.trans isOther))
        rw [received]
        exact (others conn isClient notWaited).receive
      · refine sock.trans ?_
        by_cases isConn : conn = waited
        · rw [← isConn]
          exact isClient
        · have notFrame := (others conn isClient isConn).event events
          have stillReady := frameReady.symm.trans isReady
          rw [decide_eq_false notFrame, Bool.false_or] at stillReady
          exact ready stillReady
      · obtain rfl := Option.some.inj (isClient.symm.trans (sock.symm.trans isWaited))
        rw [received]
        rcases own isClient with ⟨notReady, underway⟩ | ⟨shown, absent⟩
        · rcases underway.receive events with ⟨notFrame, later⟩ | ⟨-, shown, absent⟩
          · refine .inl ⟨?_, later⟩
            exact frameReady.trans (by rw [decide_eq_false notFrame, notReady]; rfl)
          · exact .inr ⟨shown, absent⟩
        · exact .inr ⟨⟨shown.presents, shown.passive⟩,
            fun isEvent => absent (List.mem_of_mem_tail isEvent)⟩
  | framed man exposes seen stays known shown clientSilent =>
      exact .framed man exposes seen stays (accepted.symm ▸ known) (shows shown)
        (silent clientSilent)
  | exposed man exposes stays known shown clientSilent =>
      exact .exposed man exposes stays (accepted.symm ▸ known) (shows shown) (silent clientSilent)
  | aborting stays => exact .aborting stays

theorem Ordered.reads (ordered : state.Ordered) {conn : Nat} {event : UInt8} {rest : List UInt8}
    (events : (state.lines conn).toServer = event :: rest)
    {stepped : RendererServer × List RendererEvent}
    (stepTo : state.server.step (.readerReads conn event) = some stepped) :
    ((state.onLine conn .receive).setServer stepped).Ordered := by
  have connected := ordered.connected.step stepTo
  simp only [RendererServer.step] at stepTo
  split_ifs at stepTo with reads
  obtain rfl := Option.some.inj stepTo
  simp only [Bool.and_eq_true, decide_eq_true_eq, Bool.not_eq_true'] at reads
  have isClient := client_of_open ordered.connected (ordered.connected.readers conn reads.1) reads.2
  have sends := (handleRendererEvent_client isClient event).2.2.1
  refine ⟨connected, ordered.stage.reads isClient events, fun other isWriting => ?_,
    fun call other notOwn isWriting => ?_⟩
  · refine (ordered.own other (sends ▸ isWriting)).congr rfl rfl fun announced => ?_
    dsimp only [setServer, RendererPipeline.onLine]
    by_cases isConn : other = conn
    · rw [isConn, Function.update_self]
      exact isConn ▸ announced
    · rwa [Function.update_of_ne isConn]
  · exact ordered.others call other notOwn (sends ▸ isWriting)

/-- What other threads write disturbs nothing, and what the thread of the
updates writes belongs to its stage. -/
theorem Stage.writes (stage : state.Stage) {conn : Nat} (isClient : state.server.sock = some conn)
    (known : conn < state.server.accepted) (writes : state.Writes conn) :
    ((state.onLine conn (.write (state.packets 0))).setActivation 0 (sent conn)).Stage := by
  have written : (state.onLine conn (.write (state.packets 0))).lines conn =
      (state.lines conn).write (state.packets 0) :=
    Function.update_self ..
  have silent (silentAfter : ((state.lines conn).write (state.packets 0)).Silent)
      (other : Nat) (isOther : state.server.sock = some other) :
      ((state.onLine conn (.write (state.packets 0))).lines other).Silent := by
    obtain rfl := Option.some.inj (isClient.symm.trans isOther)
    rwa [written]
  cases stage with
  | idle stays clientSilent =>
      rw [Writes, stays] at writes
      refine .idle (congrArg (sent conn) stays) (silent ?_)
      exact (clientSilent conn isClient).write writes.1 writes.2
  | preloading man stays notReady clientSilent =>
      rw [Writes, stays] at writes
      refine .waiting man conn (congrArg (sent conn) stays) known (fun other isOther notConn => ?_)
        (fun isReady => absurd (notReady.symm.trans isReady) (by decide)) fun _ =>
          .inl ⟨notReady, ?_⟩
      · exact absurd (Option.some.inj (isOther.symm.trans isClient)) notConn
      · have underway := (clientSilent conn isClient).preload man
        rw [← writes, ← written] at underway
        exact underway
  | waiting man waited stays => rw [Writes, stays] at writes; exact writes.elim
  | framed man exposes seen stays => rw [Writes, stays] at writes; exact writes.elim
  | exposed man exposes stays known shown clientSilent =>
      rw [Writes, stays] at writes
      refine .idle (congrArg (sent conn) stays) (silent ?_)
      refine (clientSilent conn isClient).write ?_ ?_
      · rw [writes]
        rfl
      · rw [writes]
        nofun
  | aborting stays => exact .aborting (congrArg (sent conn) stays)

/-- A send that is over. -/
theorem setSend_writing {server : RendererServer} {call : Nat} {phase : Option SendPhase}
    (notWriting : ∀ conn, phase ≠ some (.writing conn)) {other conn : Nat}
    (isWriting : (server.setSend call phase).sends other = some (.writing conn)) :
    other ≠ call ∧ server.sends other = some (.writing conn) := by
  dsimp only [RendererServer.setSend] at isWriting
  by_cases isCall : other = call
  · rw [isCall, Function.update_self] at isWriting
    exact absurd isWriting (notWriting conn)
  · rw [Function.update_of_ne isCall] at isWriting
    exact ⟨isCall, isWriting⟩

theorem Ordered.writes (ordered : state.Ordered) {call conn : Nat}
    (isWriting : state.server.sends call = some (.writing conn))
    {stepped : RendererServer × List RendererEvent}
    (stepTo : state.server.step (.sendWrites call) = some stepped) :
    (((state.onLine conn (.write (state.packets call))).setActivation call
      (sent conn)).setServer stepped).Ordered := by
  have connected := ordered.connected.step stepTo
  simp only [RendererServer.step, isWriting] at stepTo
  split_ifs at stepTo with isOpen
  obtain rfl := Option.some.inj stepTo
  have known := ordered.connected.sends call conn isWriting
  have isClient := client_of_open ordered.connected known (Bool.eq_false_iff.mpr isOpen)
  by_cases own : call = 0
  · subst own
    have stage := ordered.stage.writes isClient known (ordered.own conn isWriting)
    refine ⟨connected, ?_, fun other isOther => ?_, fun other _ notOwn isOther => ?_⟩
    · exact stage.keep rfl rfl rfl rfl fun _ => .refl _
    · exact absurd rfl (setSend_writing (by simp) isOther).1
    · exact ordered.others other _ notOwn (setSend_writing (by simp) isOther).2
  · have passive := ordered.others call conn own isWriting
    have line := ordered.onLine (RendererLine.keeps_write passive (state.lines conn))
    have same : (state.onLine conn (.write (state.packets call))).setActivation call (sent conn) =
        state.onLine conn (.write (state.packets call)) :=
      if_neg own
    rw [same]
    refine ⟨connected, line.stage.keep rfl rfl rfl rfl fun _ => .refl _, fun other isOther => ?_,
      fun other _ notOwn isOther => ?_⟩
    · exact (line.own other (setSend_writing (by simp) isOther).2).congr rfl rfl id
    · exact line.others other _ notOwn (setSend_writing (by simp) isOther).2

/-- A send that gives up. -/
theorem Stage.gives_up (stage : state.Stage) (call : Nat) :
    (state.setActivation call failed).Stage := by
  unfold setActivation
  split_ifs
  · cases stage with
    | idle stays clientSilent => exact .idle (congrArg failed stays) clientSilent
    | preloading man stays notReady clientSilent =>
        exact .idle (congrArg failed stays) clientSilent
    | waiting man conn stays known others ready own =>
        exact .waiting man conn (congrArg failed stays) known others ready own
    | framed man conn seen stays known shows clientSilent =>
        exact .framed man conn seen (congrArg failed stays) known shows clientSilent
    | exposed man conn stays => exact .aborting (congrArg failed stays)
    | aborting stays => exact .aborting (congrArg failed stays)
  · exact stage

theorem setActivation_frame (state : RendererPipeline) (call : Nat)
    (change : Activation → Activation) :
    (state.setActivation call change).server = state.server ∧
      (state.setActivation call change).lines = state.lines ∧
      (state.setActivation call change).packets = state.packets ∧
      (call ≠ 0 → (state.setActivation call change).activation = state.activation) := by
  unfold setActivation
  split_ifs with own
  · exact ⟨rfl, rfl, rfl, fun notOwn => absurd own notOwn⟩
  · exact ⟨rfl, rfl, rfl, fun _ => rfl⟩

theorem Ordered.closes (ordered : state.Ordered) {call : Nat}
    {stepped : RendererServer × List RendererEvent}
    (stepTo : state.server.step (.sendCloses call) = some stepped) :
    ((state.setActivation call failed).setServer stepped).Ordered := by
  have connected := ordered.connected.step stepTo
  simp only [RendererServer.step] at stepTo
  split at stepTo
  · rename_i conn isFailed
    obtain rfl := Option.some.inj stepTo
    obtain ⟨server, lines, packets, activation⟩ := setActivation_frame state call failed
    refine ⟨connected, ?_, fun other isWriting => ?_, fun other _ notOwn isWriting => ?_⟩
    · refine (ordered.stage.gives_up call).drop rfl rfl rfl ?_ rfl
      rw [server]
      rfl
    · have isWriting : ((closeClientLocked (.sendFailed conn) state.server).1.setSend call
          none).sends 0 = some (.writing other) := isWriting
      obtain ⟨notCall, writing⟩ := setSend_writing (by simp) isWriting
      refine (ordered.own other writing).congr (activation notCall.symm) packets ?_
      dsimp only [setServer]
      rw [lines]
      exact id
    · dsimp only [setServer]
      rw [packets]
      exact ordered.others other _ notOwn (setSend_writing (by simp) isWriting).2
  · cases stepTo

theorem setPacket_self (call : Nat) (command : RendererCommand) :
    (state.setPacket call command).packets call = command := by
  dsimp only [setPacket]
  exact Function.update_self call command state.packets

/-- A send begins with a packet that its stage permits. -/
theorem Ordered.begins (ordered : state.Ordered) {call : Nat} {command : RendererCommand}
    (permitted : permits state.activation call command = true)
    (isOrderly : state.orderly (.begins call command) = true)
    {stepped : RendererServer × List RendererEvent}
    (stepTo : state.server.step (.sendBegins call) = some stepped) :
    ((state.begin call command).setServer stepped).Ordered := by
  have connected := ordered.connected.step stepTo
  simp only [RendererServer.step] at stepTo
  split_ifs at stepTo with free
  obtain rfl := Option.some.inj stepTo
  -- A packet that is not being written may change.
  have unwritten : (state.setPacket call command).Ordered := by
    refine ⟨ordered.connected, ordered.stage.keep rfl rfl rfl rfl fun _ => .refl _,
      fun conn isWriting => ?_, fun other conn notOwn isWriting => ?_⟩
    · have notCall : (0 : Nat) ≠ call := by
        rintro rfl
        cases free.symm.trans isWriting
      have kept := Function.update_of_ne notCall command state.packets
      have writes := ordered.own conn isWriting
      unfold Writes at writes ⊢
      dsimp only [setPacket]
      rwa [kept]
    · have notCall : other ≠ call := by
        rintro rfl
        cases free.symm.trans isWriting
      dsimp only [setPacket]
      rw [Function.update_of_ne notCall]
      exact ordered.others other conn notOwn isWriting
  cases isOut : state.server.out with
  | none =>
      have nothing : beginSend call state.server = (state.server, [.sendReturned call false]) := by
        rw [beginSend, isOut]
      have gaveUp : (state.begin call command).setServer (beginSend call state.server) =
          (state.setPacket call command).setActivation call failed := by
        rw [nothing, RendererPipeline.begin, if_pos isOut]
        have same := (setActivation_frame (state.setPacket call command) call failed).1
        exact congrArg (fun server =>
          { (state.setPacket call command).setActivation call failed with server }) same.symm
      rw [gaveUp]
      obtain ⟨server, lines, packets, activation⟩ :=
        setActivation_frame (state.setPacket call command) call failed
      refine ⟨server ▸ ordered.connected, unwritten.stage.gives_up call, fun conn isWriting => ?_,
        fun other conn notOwn isWriting => ?_⟩
      · rw [server] at isWriting
        have notCall : call ≠ 0 := by
          rintro rfl
          cases free.symm.trans isWriting
        refine (unwritten.own conn isWriting).congr (activation notCall) packets ?_
        rw [lines]
        exact id
      · rw [server] at isWriting
        rw [packets]
        exact unwritten.others other conn notOwn isWriting
  | some client =>
      have writing : beginSend call state.server =
          (state.server.setSend call (some (.writing client)), []) := by
        rw [beginSend, isOut]
      have begun : state.begin call command = state.setPacket call command := by
        rw [RendererPipeline.begin, if_neg (by rw [isOut]; exact Option.some_ne_none client)]
      rw [begun, writing]
      refine ⟨writing ▸ connected, unwritten.stage.keep rfl rfl rfl rfl fun _ => .refl _,
        fun conn isWriting => ?_, fun other conn notOwn isWriting => ?_⟩
      · dsimp only [setServer, RendererServer.setSend] at isWriting
        by_cases own : 0 = call
        · subst own
          rw [Function.update_self] at isWriting
          cases isWriting
          have packet : (state.setPacket 0 command).packets 0 = command := setPacket_self ..
          simp only [permits, if_true] at permitted
          have announced (isIdle : state.activation = .idle)
              (isManeuver : command.isManeuver = true) :
              (state.lines client).process.frameReadySent = true := by
            simpa [orderly, isIdle, isManeuver, isOut] using isOrderly
          unfold Writes
          dsimp only [setServer]
          rw [packet]
          have sameActivation : (state.setPacket 0 command).activation = state.activation := rfl
          rw [sameActivation]
          cases activation : state.activation with
          | idle =>
              rw [activation] at permitted
              exact ⟨by simpa using permitted, announced activation⟩
          | preloading man =>
              rw [activation] at permitted
              exact of_decide_eq_true permitted
          | exposed man exposes =>
              rw [activation] at permitted
              exact of_decide_eq_true permitted
          | aborting => trivial
          | waiting | framed =>
              rw [activation] at permitted
              cases permitted
        · rw [Function.update_of_ne own] at isWriting
          exact (unwritten.own conn isWriting).congr rfl rfl id
      · dsimp only [setServer, RendererServer.setSend] at isWriting
        by_cases isCall : other = call
        · subst isCall
          simp only [permits, if_neg notOwn] at permitted
          have packet : (state.setPacket other command).packets other = command :=
            setPacket_self ..
          rw [← packet] at permitted
          exact permitted
        · rw [Function.update_of_ne isCall] at isWriting
          exact unwritten.others other conn notOwn isWriting

theorem Stage.silent_of_idle (stage : state.Stage) (isIdle : state.activation = .idle) :
    state.ClientSilent := by
  cases stage with
  | idle _ clientSilent => exact clientSilent
  | preloading _ stays | waiting _ _ stays | framed _ _ _ stays | exposed _ _ stays
  | aborting stays => cases isIdle.symm.trans stays

theorem Ordered.preloads (ordered : state.Ordered) (man : ManeuverPayload)
    (isIdle : state.activation = .idle) (free : state.server.sends 0 = none)
    {stepped : RendererServer × List RendererEvent}
    (stepTo : state.server.step .preloads = some stepped) :
    ({ state.setServer stepped with
      activation := .preloading man } : RendererPipeline).Ordered := by
  have connected := ordered.connected.step stepTo
  obtain rfl := Option.some.inj stepTo
  refine ⟨connected, .preloading man rfl rfl (ordered.stage.silent_of_idle isIdle),
    fun conn isWriting => ?_, ordered.others⟩
  cases free.symm.trans isWriting

/-- While nothing is permitted, nothing is written. -/
theorem Ordered.free_of_waiting (ordered : state.Ordered) {man : ManeuverPayload} {waited : Nat}
    (waits : state.activation = .waiting man waited) {conn : Nat}
    (isWriting : state.server.sends 0 = some (.writing conn)) : False := by
  have writes := ordered.own conn isWriting
  rwa [Writes, waits] at writes

theorem Ordered.free_of_framed (ordered : state.Ordered) {man : ManeuverPayload} {waited : Nat}
    {seen : Option Nat} (framed : state.activation = .framed man waited seen) {conn : Nat}
    (isWriting : state.server.sends 0 = some (.writing conn)) : False := by
  have writes := ordered.own conn isWriting
  rwa [Writes, framed] at writes

/-- A frame that is seen is the one behind the preload. -/
theorem Stage.sees (stage : state.Stage) {man : ManeuverPayload} {conn : Nat}
    (waits : state.activation = .waiting man conn) (isReady : state.server.frameReady = true) :
    conn < state.server.accepted ∧ (state.lines conn).Shows man ∧ state.ClientSilent := by
  cases stage with
  | waiting shown waited stays known others ready own =>
      obtain ⟨rfl, rfl⟩ := Activation.waiting.inj (waits.symm.trans stays)
      have isClient := ready isReady
      rcases own isClient with ⟨notReady, -⟩ | ⟨shows, absent⟩
      · cases notReady.symm.trans isReady
      · refine ⟨known, shows, fun other isOther => ?_⟩
        obtain rfl := Option.some.inj (isClient.symm.trans isOther)
        exact shows.silent absent
  | idle stays | preloading _ stays | framed _ _ _ stays | exposed _ _ stays | aborting stays =>
      cases waits.symm.trans stays

theorem Ordered.sees (ordered : state.Ordered) {man : ManeuverPayload} {conn : Nat}
    (waits : state.activation = .waiting man conn) (isReady : state.server.frameReady = true) :
    ({ state with
      activation := .framed man conn state.server.sock } : RendererPipeline).Ordered := by
  obtain ⟨known, shows, silent⟩ := ordered.stage.sees waits isReady
  exact ⟨ordered.connected, .framed man conn _ rfl known shows silent,
    fun _ isWriting => (ordered.free_of_waiting waits isWriting).elim, ordered.others⟩

theorem Ordered.timesOut (ordered : state.Ordered) {man : ManeuverPayload} {conn : Nat}
    (waits : state.activation = .waiting man conn) :
    ({ state with activation := .aborting } : RendererPipeline).Ordered :=
  ⟨ordered.connected, .aborting rfl,
    fun _ isWriting => (ordered.free_of_waiting waits isWriting).elim, ordered.others⟩

theorem Stage.shows_of_framed (stage : state.Stage) {man : ManeuverPayload} {conn : Nat}
    {seen : Option Nat} (framed : state.activation = .framed man conn seen) :
    conn < state.server.accepted ∧ (state.lines conn).Shows man ∧ state.ClientSilent := by
  cases stage with
  | framed shown waited sawn stays known shows silent =>
      obtain ⟨rfl, rfl, rfl⟩ := Activation.framed.inj (framed.symm.trans stays)
      exact ⟨known, shows, silent⟩
  | idle stays | preloading _ stays | waiting _ _ stays | exposed _ _ stays | aborting stays =>
      cases framed.symm.trans stays

theorem Ordered.exposes (ordered : state.Ordered) {man : ManeuverPayload} {conn : Nat}
    {seen : Option Nat} (framed : state.activation = .framed man conn seen) :
    ({ state with activation := .exposed man conn } : RendererPipeline).Ordered ∧
      ({ state with activation := .aborting } : RendererPipeline).Ordered := by
  obtain ⟨known, shows, silent⟩ := ordered.stage.shows_of_framed framed
  refine ⟨⟨ordered.connected, .exposed man conn rfl known shows silent, ?_, ordered.others⟩,
    ordered.connected, .aborting rfl, ?_, ordered.others⟩
  all_goals exact fun _ isWriting => (ordered.free_of_framed framed isWriting).elim

theorem Ordered.aborts (ordered : state.Ordered) (free : state.server.sends 0 = none)
    {stepped : RendererServer × List RendererEvent}
    (stepTo : state.server.step .disconnectClient = some stepped) :
    ({ state.setServer stepped with activation := .idle } : RendererPipeline).Ordered := by
  have connected := ordered.connected.step stepTo
  obtain rfl := Option.some.inj stepTo
  refine ⟨connected, .idle rfl fun conn isClient => ?_, fun conn isWriting => ?_, ordered.others⟩
  · cases isClient
  · cases free.symm.trans isWriting

theorem exists_of_serverStep {result : Option (RendererServer × List RendererEvent)}
    {change : RendererServer × List RendererEvent → RendererPipeline}
    {emitted events : List PipelineEvent}
    (stepTo : result.map (fun stepped => (change stepped, emitted)) = some (next, events)) :
    ∃ stepped, result = some stepped ∧ change stepped = next := by
  obtain ⟨stepped, serverStep, equal⟩ := Option.map_eq_some_iff.mp stepTo
  exact ⟨stepped, serverStep, (Prod.mk.inj equal).1⟩

theorem Ordered.step (ordered : state.Ordered) {label : PipelineLabel}
    {events : List PipelineEvent} (isOrderly : state.orderly label = true)
    (stepTo : state.step label = some (next, events)) : next.Ordered := by
  cases label with
  | server label =>
      simp only [RendererPipeline.step] at stepTo
      split_ifs at stepTo with movesNothing
      obtain ⟨stepped, serverStep, rfl⟩ := exists_of_serverStep stepTo
      exact ordered.server movesNothing serverStep
  | installs ready =>
      obtain ⟨stepped, serverStep, rfl⟩ := exists_of_serverStep stepTo
      exact ordered.installs ready serverStep
  | reconnects old => cases isOrderly
  | ready conn =>
      simp only [RendererPipeline.step] at stepTo
      split_ifs at stepTo
      obtain ⟨rfl, -⟩ := Prod.mk.inj (Option.some.inj stepTo)
      exact ordered.onLine (RendererLine.keeps_becomeReady _)
  | turns conn count input =>
      simp only [RendererPipeline.step] at stepTo
      split_ifs at stepTo
      obtain ⟨rfl, -⟩ := Prod.mk.inj (Option.some.inj stepTo)
      exact ordered.onLine (RendererLine.keeps_takeTurn count input _)
  | dies conn =>
      obtain ⟨rfl, -⟩ := Prod.mk.inj (Option.some.inj stepTo)
      exact ordered.onLine (RendererLine.keeps_stop _)
  | reads conn =>
      simp only [RendererPipeline.step] at stepTo
      split at stepTo
      · cases stepTo
      · rename_i event rest isNext
        obtain ⟨stepped, serverStep, rfl⟩ := exists_of_serverStep stepTo
        exact ordered.reads isNext serverStep
  | preloads man =>
      simp only [RendererPipeline.step] at stepTo
      split_ifs at stepTo with starts
      obtain ⟨stepped, serverStep, rfl⟩ := exists_of_serverStep stepTo
      simp only [Bool.and_eq_true, decide_eq_true_eq] at starts
      exact ordered.preloads man starts.1 starts.2 serverStep
  | begins call command =>
      simp only [RendererPipeline.step] at stepTo
      split_ifs at stepTo with permitted
      obtain ⟨stepped, serverStep, rfl⟩ := exists_of_serverStep stepTo
      exact ordered.begins permitted isOrderly serverStep
  | writes call =>
      simp only [RendererPipeline.step] at stepTo
      split at stepTo
      · rename_i conn isWriting
        obtain ⟨stepped, serverStep, rfl⟩ := exists_of_serverStep stepTo
        exact ordered.writes isWriting serverStep
      · cases stepTo
  | closes call =>
      obtain ⟨stepped, serverStep, rfl⟩ := exists_of_serverStep stepTo
      exact ordered.closes serverStep
  | sees =>
      simp only [RendererPipeline.step] at stepTo
      split at stepTo
      · rename_i man conn waits
        split_ifs at stepTo with isReady
        obtain ⟨rfl, -⟩ := Prod.mk.inj (Option.some.inj stepTo)
        exact ordered.sees waits isReady
      · cases stepTo
  | timesOut =>
      simp only [RendererPipeline.step] at stepTo
      split at stepTo
      · rename_i man conn waits
        split_ifs at stepTo
        obtain ⟨rfl, -⟩ := Prod.mk.inj (Option.some.inj stepTo)
        exact ordered.timesOut waits
      · cases stepTo
  | exposes activates =>
      simp only [RendererPipeline.step] at stepTo
      split at stepTo
      · rename_i man conn seen framed
        split_ifs at stepTo
        · obtain ⟨rfl, -⟩ := Prod.mk.inj (Option.some.inj stepTo)
          exact (ordered.exposes framed).1
        · obtain ⟨rfl, -⟩ := Prod.mk.inj (Option.some.inj stepTo)
          exact (ordered.exposes framed).2
      · cases stepTo
  | aborts =>
      simp only [RendererPipeline.step] at stepTo
      split_ifs at stepTo with ends
      obtain ⟨stepped, serverStep, rfl⟩ := exists_of_serverStep stepTo
      simp only [Bool.and_eq_true, decide_eq_true_eq] at ends
      exact ordered.aborts ends.2 serverStep

theorem ordered_of_run {history : List PipelineEvent}
    (run : rendererPipeline.RunWithin (fun state _ label => state.orderly label = true) state
      history) : state.Ordered :=
  run.invariant (fun state _ => state.Ordered) ordered_initial
    fun ordered isOrderly stepTo => ordered.step isOrderly stepTo

/-- From the end of the wait until the animation is started, the renderer that
has read the preload shows exactly its maneuver, transparent and at rest.  A
renderer that dies keeps its last surface here. -/
theorem exposed_frame_preloaded {history : List PipelineEvent}
    (run : rendererPipeline.RunWithin (fun state _ label => state.orderly label = true) state
      history) {man : ManeuverPayload} {conn : Nat}
    (isExposed : state.activation = .exposed man conn ∨
      ∃ seen, state.activation = .framed man conn seen) :
    (state.lines conn).process.surface = some ⟨some man.state, none, true⟩ ∧
      (state.lines conn).process.renderer.engine.current = man.state ∧
      (state.lines conn).process.renderer.engine.phase = .idle ∧
      (state.lines conn).process.renderer.preloadPending = true := by
  have stage := (ordered_of_run run).stage
  have shows : (state.lines conn).Shows man := by
    rcases isExposed with exposed | ⟨seen, framed⟩
    · cases stage with
      | exposed shown waited stays _ shows =>
          obtain ⟨rfl, rfl⟩ := Activation.exposed.inj (exposed.symm.trans stays)
          exact shows
      | idle stays | preloading _ stays | waiting _ _ stays | framed _ _ _ stays
      | aborting stays => cases exposed.symm.trans stays
    · exact (stage.shows_of_framed framed).2.1
  have presents := shows.presents
  exact ⟨presents.surface, presents.current, presents.rests, presents.waits⟩

def exposingLabels : List PipelineLabel :=
  [.server .connect, .server .accepts, .installs true, .preloads (Renderer.payloadOf 1),
    .begins 0 (.preload (Renderer.payloadOf 1)), .writes 0, .turns 0 1 ⟨false, false, false⟩,
    .reads 0, .reads 0, .sees, .exposes true]

/-- A left turn is preloaded and exposed. -/
theorem left_turn_exposed : ∃ state history,
    rendererPipeline.RunWithin (fun state _ label => state.orderly label = true) state history ∧
      .exposed (Renderer.payloadOf 1) 0 ∈ history ∧
      (state.lines 0).process.surface = some ⟨some (Renderer.payloadOf 1).state, none, true⟩ := by
  obtain ⟨state, history, run, checked⟩ := rendererPipeline.exists_runWithin_of_replay
    RendererPipeline.orderly exposingLabels
    (fun result => decide (result.1.activation = .exposed (Renderer.payloadOf 1) 0) &&
      decide (.exposed (Renderer.payloadOf 1) 0 ∈ result.2))
    (by decide +kernel)
  simp only [Bool.and_eq_true, decide_eq_true_eq] at checked
  exact ⟨state, history, run, checked.2, (exposed_frame_preloaded run (.inl checked.1)).1⟩

end RendererPipeline

end CarplayRgi
