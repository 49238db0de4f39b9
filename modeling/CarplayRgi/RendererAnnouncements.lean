import CarplayRgi.RendererPipeline

/-!
# What the renderer announces

A process announces a frame when it shows a maneuver for the first time, and
once for each preload.  A connection is silent while nothing on its way leads
to an announcement, and a preload on its way leads to exactly one.
-/

namespace CarplayRgi

open RendererServer

namespace Renderer

theorem latest_append (first second : List RendererCommand) :
    latest (first ++ second) = (latest second <|> latest first) := by
  unfold latest
  rw [List.foldl_append]
  exact foldl_keepLatest second _

theorem latest_passive {batch : List RendererCommand}
    (passive : ∀ command ∈ batch, command.isPassive = true) : latest batch = none := by
  refine latest_eq_none.mpr (List.any_eq_false.mpr fun command isCommand => ?_)
  have quiet := passive command isCommand
  simp only [RendererCommand.isPassive, Bool.and_eq_true, Bool.not_eq_true'] at quiet
  rw [quiet.1]
  decide

/-- A preload with only passive commands behind it is the latest maneuver. -/
theorem latest_preload (before : List RendererCommand) (man : ManeuverPayload)
    {after : List RendererCommand} (passive : ∀ command ∈ after, command.isPassive = true) :
    latest (before ++ .preload man :: after) = some ⟨true, man⟩ := by
  rw [latest_append, latest_cons, latest_passive passive]
  rfl

theorem latest_of_noPreload {batch : List RendererCommand}
    (noPreload : ∀ command ∈ batch, command.isPreload = false) :
    ∀ pending, latest batch = some pending → pending.preload = false := by
  induction batch with
  | nil => exact nofun
  | cons command batch ih =>
      intro pending isLatest
      rw [latest_cons] at isLatest
      cases later : latest batch with
      | some other =>
          rw [later] at isLatest
          obtain rfl := Option.some.inj isLatest
          exact ih (fun command isCommand => noPreload command (List.mem_cons_of_mem _ isCommand))
            other later
      | none =>
          rw [later] at isLatest
          have first := noPreload command List.mem_cons_self
          cases command with
          | preload man => cases first
          | maneuver man =>
              obtain rfl := Option.some.inj isLatest
              rfl
          | startAnimation | hideDisplay | perspective | bargraph | shutdown | other =>
              cases isLatest

/-- What is handled at once creates no maneuver. -/
theorem handle_hasCurrent (command : RendererCommand) (renderer : Renderer) :
    (handle command renderer).engine.hasCurrent = renderer.engine.hasCurrent := by
  cases command with
  | startAnimation =>
      dsimp only [handle, engineStartPreloadedAnimation]
      split_ifs
      · rw [applyDeferred_engine]
      · rfl
  | maneuver | preload | hideDisplay | perspective | bargraph | shutdown | other => rfl

theorem engineTick_hasCurrent (finished : Bool) (renderer : Renderer) :
    (renderer.engineTick finished).engine.hasCurrent = renderer.engine.hasCurrent := by
  cases finished with
  | false => rfl
  | true =>
      rw [engineTick, if_pos rfl]
      cases renderer.engine.phase with
      | idle => rfl
      | pushing =>
          dsimp only [commitNext, promote]
          split_ifs
          all_goals rfl
      | slidingIn =>
          dsimp only [promote]
          split_ifs
          · rfl
          · rw [applyDeferred_engine]

theorem applyLatest_hasCurrent (pending : PendingManeuver) (renderer : Renderer) :
    (renderer.applyLatest pending).engine.hasCurrent = true := by
  unfold applyLatest
  dsimp only
  split_ifs
  · rfl
  · unfold engineApplyManeuver
    dsimp only
    rw [defer_engine]
    split_ifs with cold moving
    · rfl
    · simpa using cold
    · simpa using cold

end Renderer

namespace RendererProcess

variable {process : RendererProcess} {batch : List RendererCommand} {input : TurnInput}
  {man : ManeuverPayload}

/-- Commands that are handled at once announce nothing and draw nothing. -/
theorem handled_frame (batch : List RendererCommand) (process : RendererProcess) :
    (batch.foldl handle process).renderer = process.renderer.handleAll batch ∧
      (batch.foldl handle process).frameReadyPending = process.frameReadyPending ∧
      (batch.foldl handle process).frameReadySent = process.frameReadySent ∧
      (batch.foldl handle process).surface = process.surface := by
  induction batch generalizing process with
  | nil => exact ⟨rfl, rfl, rfl, rfl⟩
  | cons command batch ih =>
      have step : (process.handle command).renderer = process.renderer.handle command ∧
          (process.handle command).frameReadyPending = process.frameReadyPending ∧
          (process.handle command).frameReadySent = process.frameReadySent ∧
          (process.handle command).surface = process.surface := by
        dsimp only [handle]
        split_ifs
        · exact ⟨rfl, rfl, rfl, rfl⟩
        · exact ⟨rfl, rfl, rfl, rfl⟩
      obtain ⟨renderer, pending, sent, surface⟩ := ih (process.handle command)
      rw [step.1] at renderer
      exact ⟨renderer, pending.trans step.2.1, sent.trans step.2.2.1, surface.trans step.2.2.2⟩

/-- The engine drains as it does without the rest of the process. -/
theorem drain_renderer (batch : List RendererCommand) (process : RendererProcess) :
    (process.drain batch).renderer = process.renderer.drain batch := by
  rw [Renderer.drain_eq, drain]
  have handled := (handled_frame batch process).1
  cases Renderer.latest batch with
  | none => exact handled
  | some pending =>
      dsimp only [applyLatest, Renderer.finish]
      split_ifs
      all_goals rw [← handled]
      rfl

theorem handleAll_hasCurrent (batch : List RendererCommand) (renderer : Renderer) :
    (renderer.handleAll batch).engine.hasCurrent = renderer.engine.hasCurrent := by
  induction batch generalizing renderer with
  | nil => rfl
  | cons command batch ih =>
      exact (ih (renderer.handle command)).trans (Renderer.handle_hasCurrent command renderer)

/-- A drain without a preload leaves what the announcements depend on. -/
theorem drain_frame (process : RendererProcess)
    (noPreload : ∀ command ∈ batch, command.isPreload = false) :
    (process.drain batch).frameReadyPending = process.frameReadyPending ∧
      (process.drain batch).frameReadySent = process.frameReadySent ∧
      (process.drain batch).surface = process.surface := by
  have handled := (handled_frame batch process).2
  unfold drain
  cases isLatest : Renderer.latest batch with
  | none => exact handled
  | some pending =>
      dsimp only [applyLatest]
      rw [if_neg (by rw [Renderer.latest_of_noPreload noPreload pending isLatest]; decide)]
      split_ifs
      · exact handled
      · exact handled

theorem drain_hasCurrent (noManeuver : ∀ command ∈ batch, command.isManeuver = false) :
    (process.drain batch).renderer.engine.hasCurrent = process.renderer.engine.hasCurrent := by
  have none : Renderer.latest batch = none :=
    Renderer.latest_eq_none.mpr (List.any_eq_false.mpr fun command isCommand => by
      rw [noManeuver command isCommand]
      decide)
  rw [drain_renderer, Renderer.drain_eq, none]
  exact handleAll_hasCurrent batch process.renderer

theorem tick_frame (input : TurnInput) (process : RendererProcess) :
    (process.tick input).renderer = process.renderer.engineTick input.finished ∧
      (process.tick input).frameReadyPending = process.frameReadyPending ∧
      (process.tick input).frameReadySent = process.frameReadySent ∧
      (process.tick input).surface = process.surface := by
  unfold tick
  dsimp only
  split_ifs
  · exact ⟨rfl, rfl, rfl, rfl⟩
  · exact ⟨rfl, rfl, rfl, rfl⟩

/-- A process that announces nothing for the commands that are on their way: a
frame has been announced before, or there is no maneuver to show. -/
structure Quiet (process : RendererProcess) (commands : List RendererCommand) : Prop where
  pending : process.frameReadyPending = false
  noPreload : ∀ command ∈ commands, command.isPreload = false
  settled : process.frameReadySent = true ∨
    process.renderer.engine.hasCurrent = false ∧ ∀ command ∈ commands, command.isManeuver = false

theorem Quiet.turn {rest : List RendererCommand} (quiet : process.Quiet (batch ++ rest))
    (input : TurnInput) :
    (process.turn batch input).2 = [] ∧ (process.turn batch input).1.Quiet rest := by
  obtain ⟨drainedPending, drainedSent, -⟩ := drain_frame process fun command isCommand =>
    quiet.noPreload command (List.mem_append_left _ isCommand)
  obtain ⟨renderer, tickedPending, tickedSent, -⟩ := tick_frame input (process.drain batch)
  have pending := tickedPending.trans (drainedPending.trans quiet.pending)
  have sent := tickedSent.trans drainedSent
  have settled : ((process.drain batch).tick input).frameReadySent = true ∨
      ((process.drain batch).tick input).renderer.engine.hasCurrent = false ∧
        ∀ command ∈ rest, command.isManeuver = false := by
    refine quiet.settled.imp sent.trans fun cold => ⟨?_, fun command isCommand => ?_⟩
    · rw [renderer, Renderer.engineTick_hasCurrent, drain_hasCurrent fun command isCommand =>
        cold.2 command (List.mem_append_left _ isCommand)]
      exact cold.1
    · exact cold.2 command (List.mem_append_right _ isCommand)
  have noPreload : ∀ command ∈ rest, command.isPreload = false := fun command isCommand =>
    quiet.noPreload command (List.mem_append_right _ isCommand)
  have unannounced : (((process.drain batch).tick input).renderer.engine.hasCurrent &&
      (!((process.drain batch).tick input).frameReadySent ||
        ((process.drain batch).tick input).frameReadyPending)) = false := by
    rw [pending]
    rcases settled with isSent | cold
    · rw [isSent]
      simp
    · rw [cold.1]
      rfl
  unfold RendererProcess.turn
  dsimp only
  split_ifs
  · rw [present]
    dsimp only
    rw [if_neg (by rw [unannounced]; decide)]
    exact ⟨rfl, pending, noPreload, settled⟩
  · exact ⟨rfl, pending, noPreload, settled⟩

/-- A preloaded maneuver is on the surface, transparent, and waits for its
animation. -/
structure Presents (man : ManeuverPayload) (process : RendererProcess) : Prop where
  current : process.renderer.engine.current = man.state
  hasCurrent : process.renderer.engine.hasCurrent = true
  noNext : process.renderer.engine.hasNext = false
  rests : process.renderer.engine.phase = .idle
  waits : process.renderer.preloadPending = true
  transparent : process.transparent = true
  still : process.fadeActive = false
  pending : process.frameReadyPending = false
  announced : process.frameReadySent = true
  surface : process.surface = some ⟨some man.state, none, true⟩

theorem Presents.quiet (presents : Presents man process) {commands : List RendererCommand}
    (passive : ∀ command ∈ commands, command.isPassive = true) : process.Quiet commands := by
  refine ⟨presents.pending, fun command isCommand => ?_, .inl presents.announced⟩
  have quiet := passive command isCommand
  cases command with
  | preload => cases quiet
  | maneuver | startAnimation | hideDisplay | perspective | bargraph | shutdown | other => rfl

/-- What a frame of a preloaded maneuver shows. -/
theorem frame_of_preloaded (current : process.renderer.engine.current = man.state)
    (hasCurrent : process.renderer.engine.hasCurrent = true)
    (noNext : process.renderer.engine.hasNext = false) (transparent : process.transparent = true) :
    process.frame = ⟨some man.state, none, true⟩ := by
  rw [frame, current, hasCurrent, noNext, transparent]
  rfl

/-- An engine at rest, and a fade that is not active, stand still. -/
theorem tick_of_rest (rests : process.renderer.engine.phase = .idle)
    (still : process.fadeActive = false) (input : TurnInput) : process.tick input = process := by
  have kept : process.renderer.engineTick input.finished = process.renderer := by
    unfold Renderer.engineTick
    rw [rests]
    exact ite_self _
  unfold tick
  dsimp only
  rw [kept, if_neg (by rw [still]; decide)]

/-- A passive command changes neither the engine nor the fade. -/
theorem Presents.handle (presents : Presents man process) {command : RendererCommand}
    (passive : command.isPassive = true) : Presents man (process.handle command) := by
  simp only [RendererCommand.isPassive, Bool.and_eq_true, decide_eq_true_eq] at passive
  obtain ⟨engine, preloadPending⟩ := Renderer.handle_engine process.renderer passive.2
  have handled : process.handle command =
      { process with renderer := process.renderer.handle command } := by
    rw [RendererProcess.handle, decide_eq_false passive.2]
    rfl
  rw [handled]
  exact ⟨engine ▸ presents.current, engine ▸ presents.hasCurrent, engine ▸ presents.noNext,
    engine ▸ presents.rests, preloadPending ▸ presents.waits, presents.transparent, presents.still,
    presents.pending, presents.announced, presents.surface⟩

/-- It matters neither whether the process runs on, nor whether it is ready. -/
theorem Presents.set (presents : Presents man process) (running ready : Bool) :
    Presents man
      { process with renderer := { process.renderer with running }, readySent := ready } :=
  ⟨presents.current, presents.hasCurrent, presents.noNext, presents.rests, presents.waits,
    presents.transparent, presents.still, presents.pending, presents.announced, presents.surface⟩

/-- A turn with passive commands draws the same frame again, if any. -/
theorem Presents.turn (presents : Presents man process)
    (passive : ∀ command ∈ batch, command.isPassive = true) (input : TurnInput) :
    (process.turn batch input).2 = [] ∧ Presents man (process.turn batch input).1 := by
  have drained : Presents man (process.drain batch) := by
    rw [drain, Renderer.latest_passive passive]
    dsimp only
    induction batch generalizing process with
    | nil => exact presents
    | cons command batch ih =>
        exact ih (presents.handle (passive command List.mem_cons_self)) fun later isLater =>
          passive later (List.mem_cons_of_mem _ isLater)
  unfold RendererProcess.turn
  dsimp only
  rw [tick_of_rest drained.rests drained.still]
  split_ifs
  · rw [present]
    dsimp only
    rw [if_neg (by rw [drained.announced, drained.pending]; simp), frame_of_preloaded
      drained.current drained.hasCurrent drained.noNext drained.transparent, ← drained.surface]
    exact ⟨rfl, drained⟩
  · exact ⟨rfl, drained⟩

/-- A turn that reads a preload as its latest maneuver shows and announces it. -/
theorem turn_preload (process : RendererProcess) {before after : List RendererCommand}
    (passive : ∀ command ∈ after, command.isPassive = true) (input : TurnInput) :
    (process.turn (before ++ .preload man :: after) input).2 = [evtFrameReady] ∧
      Presents man (process.turn (before ++ .preload man :: after) input).1 := by
  have drained : process.drain (before ++ .preload man :: after) =
      ((before ++ .preload man :: after).foldl RendererProcess.handle process).applyLatest
        ⟨true, man⟩ := by
    rw [drain, Renderer.latest_preload before man passive]
  generalize (before ++ .preload man :: after).foldl RendererProcess.handle process = handled
    at drained
  unfold RendererProcess.turn
  dsimp only
  rw [drained, tick_of_rest rfl rfl]
  have asked : (input.redraws || (handled.applyLatest ⟨true, man⟩).frameReadyPending) = true :=
    Bool.or_true _
  rw [if_pos asked, present, if_pos (by simp [applyLatest, Renderer.applyLatest_hasCurrent])]
  refine ⟨rfl, rfl, rfl, rfl, rfl, rfl, rfl, rfl, rfl, rfl, ?_⟩
  exact congrArg some (frame_of_preloaded rfl rfl rfl rfl)

end RendererProcess

namespace RendererServer

/-- Of all connections only that of the client is open. -/
structure Connected (server : RendererServer) : Prop where
  same : server.out = server.sock
  known : ∀ conn, server.sock = some conn → conn < server.accepted
  closed : ∀ conn < server.accepted, server.sock ≠ some conn → server.closed conn = true
  sends : ∀ call conn, server.sends call = some (.writing conn) → conn < server.accepted
  readers : ∀ conn, server.readers conn = some .reading → conn < server.accepted

theorem connected_initial : Connected initial := ⟨rfl, nofun, nofun, nofun, nofun⟩

variable {server next : RendererServer} {events : List RendererEvent}

theorem Connected.closing (connected : Connected server) (cause : CloseCause) :
    Connected (closeClientLocked cause server).1 := by
  refine ⟨rfl, nofun, fun conn isKnown _ => ?_, connected.sends, connected.readers⟩
  dsimp only [closeClientLocked]
  rw [connected.same]
  cases sockEq : server.sock with
  | none =>
      have stale := connected.closed conn isKnown (by rw [sockEq]; nofun)
      exact stale
  | some client =>
      dsimp only [closeSocket]
      by_cases isClient : conn = client
      · rw [isClient, Function.update_self]
      · rw [Function.update_of_ne isClient, Function.update_of_ne isClient]
        exact connected.closed conn isKnown fun same =>
          isClient (Option.some.inj (same.symm.trans sockEq))

/-- Threads that come to other stages neither read nor write. -/
theorem Connected.congr (connected : Connected server) (sock : next.sock = server.sock)
    (out : next.out = server.out) (accepted : next.accepted = server.accepted)
    (closed : next.closed = server.closed)
    (sends : ∀ call conn, next.sends call = some (.writing conn) → conn < server.accepted)
    (readers : ∀ conn, next.readers conn = some .reading → conn < server.accepted) :
    Connected next := by
  refine ⟨?_, ?_, ?_, ?_, ?_⟩
  · rw [out, sock]
    exact connected.same
  · rw [sock, accepted]
    exact connected.known
  · rw [sock, accepted, closed]
    exact connected.closed
  · rw [accepted]
    exact sends
  · rw [accepted]
    exact readers

theorem Connected.install (connected : Connected server) : Connected (install server).1 := by
  refine ⟨rfl, fun conn isClient => ?_, fun conn isKnown notClient => ?_,
    fun call conn writes => ?_, fun conn reads => ?_⟩
  · obtain rfl := Option.some.inj isClient
    exact Nat.lt_succ_self _
  · have earlier : conn < server.accepted := by
      have isKnown : conn < server.accepted + 1 := isKnown
      have other : conn ≠ server.accepted := fun same => notClient (by rw [same]; rfl)
      omega
    dsimp only [RendererServer.install]
    cases sockEq : server.sock with
    | none => exact connected.closed conn earlier (by rw [sockEq]; nofun)
    | some client =>
        dsimp only [closeSocket]
        by_cases isClient : conn = client
        · rw [isClient, Function.update_self]
        · rw [Function.update_of_ne isClient]
          exact connected.closed conn earlier fun same =>
            isClient (Option.some.inj (same.symm.trans sockEq))
  · exact Nat.lt_succ_of_lt (connected.sends call conn writes)
  · dsimp only [RendererServer.install] at reads ⊢
    by_cases isNew : conn = server.accepted
    · omega
    · rw [Function.update_of_ne isNew] at reads
      exact Nat.lt_succ_of_lt (connected.readers conn reads)

theorem Connected.setSend (connected : Connected server) {call : Nat} {phase : Option SendPhase}
    (known : ∀ conn, phase = some (.writing conn) → conn < server.accepted) :
    Connected (server.setSend call phase) := by
  refine connected.congr rfl rfl rfl rfl (fun other conn writes => ?_) connected.readers
  dsimp only [RendererServer.setSend] at writes
  by_cases isCall : other = call
  · rw [isCall, Function.update_self] at writes
    exact known conn writes
  · rw [Function.update_of_ne isCall] at writes
    exact connected.sends other conn writes

theorem Connected.setReader (connected : Connected server) {owned : Nat}
    {phase : Option ReaderPhase} (notReading : phase ≠ some .reading) :
    Connected (server.setReader owned phase) := by
  refine connected.congr rfl rfl rfl rfl connected.sends fun conn reads => ?_
  dsimp only [RendererServer.setReader] at reads
  by_cases isOwned : conn = owned
  · rw [isOwned, Function.update_self] at reads
    exact absurd reads notReading
  · rw [Function.update_of_ne isOwned] at reads
    exact connected.readers conn reads

theorem Connected.step (connected : Connected server) {label : RendererLabel}
    (stepTo : server.step label = some (next, events)) : Connected next := by
  have plain {after : RendererServer} (sock : after.sock = server.sock)
      (out : after.out = server.out) (accepted : after.accepted = server.accepted)
      (closed : after.closed = server.closed) (sends : after.sends = server.sends)
      (readers : after.readers = server.readers) : Connected after :=
    connected.congr sock out accepted closed (sends ▸ connected.sends)
      (readers ▸ connected.readers)
  cases label with
  | connect =>
      simp only [RendererServer.step, RendererServer.connect] at stepTo
      split_ifs at stepTo
      · obtain ⟨rfl, -⟩ := Prod.mk.inj (Option.some.inj stepTo)
        exact connected
      · obtain ⟨rfl, -⟩ := Prod.mk.inj (Option.some.inj stepTo)
        exact plain rfl rfl rfl rfl rfl rfl
  | accepts | acceptFails | acceptEnds =>
      simp only [RendererServer.step] at stepTo
      split_ifs at stepTo
      obtain ⟨rfl, -⟩ := Prod.mk.inj (Option.some.inj stepTo)
      exact plain rfl rfl rfl rfl rfl rfl
  | installs =>
      simp only [RendererServer.step] at stepTo
      split_ifs at stepTo
      obtain ⟨rfl, -⟩ := Prod.mk.inj (Option.some.inj stepTo)
      exact connected.install
  | preloads =>
      obtain ⟨rfl, -⟩ := Prod.mk.inj (Option.some.inj stepTo)
      exact plain rfl rfl rfl rfl rfl rfl
  | sendBegins call =>
      simp only [RendererServer.step, beginSend] at stepTo
      split_ifs at stepTo
      split at stepTo
      · obtain ⟨rfl, -⟩ := Prod.mk.inj (Option.some.inj stepTo)
        exact connected
      · rename_i current isOut
        obtain ⟨rfl, -⟩ := Prod.mk.inj (Option.some.inj stepTo)
        refine connected.setSend fun conn writes => ?_
        cases writes
        exact connected.known current (connected.same.symm.trans isOut)
  | sendWrites call =>
      simp only [RendererServer.step] at stepTo
      split at stepTo
      · split_ifs at stepTo
        obtain ⟨rfl, -⟩ := Prod.mk.inj (Option.some.inj stepTo)
        exact connected.setSend fun _ isWriting => by cases isWriting
      · cases stepTo
  | sendFails call =>
      simp only [RendererServer.step] at stepTo
      split at stepTo
      · obtain ⟨rfl, -⟩ := Prod.mk.inj (Option.some.inj stepTo)
        exact connected.setSend fun _ isWriting => by cases isWriting
      · cases stepTo
  | sendCloses call =>
      simp only [RendererServer.step] at stepTo
      split at stepTo
      · rename_i conn isFailed
        obtain ⟨rfl, -⟩ := Prod.mk.inj (Option.some.inj stepTo)
        exact (connected.closing (.sendFailed conn)).setSend fun _ isWriting => by cases isWriting
      · cases stepTo
  | readerReads conn event =>
      simp only [RendererServer.step, handleRendererEvent] at stepTo
      split_ifs at stepTo
      all_goals
        obtain ⟨rfl, -⟩ := Prod.mk.inj (Option.some.inj stepTo)
        exact plain rfl rfl rfl rfl rfl rfl
  | readerStops conn | readerFails conn | readerChecks conn =>
      simp only [RendererServer.step] at stepTo
      split_ifs at stepTo
      all_goals
        obtain ⟨rfl, -⟩ := Prod.mk.inj (Option.some.inj stepTo)
        exact connected.setReader (by decide)
  | readerCloses conn =>
      simp only [RendererServer.step, closeReader] at stepTo
      split_ifs at stepTo
      · obtain ⟨rfl, -⟩ := Prod.mk.inj (Option.some.inj stepTo)
        exact (connected.setReader (by decide)).closing (.readerEnded conn)
      · obtain ⟨rfl, -⟩ := Prod.mk.inj (Option.some.inj stepTo)
        exact connected.setReader (by decide)
  | disconnectClient =>
      obtain ⟨rfl, -⟩ := Prod.mk.inj (Option.some.inj stepTo)
      exact connected.closing .disconnected
  | dispose =>
      obtain ⟨rfl, -⟩ := Prod.mk.inj (Option.some.inj stepTo)
      have closing := connected.closing .disconnected
      exact closing.congr rfl rfl rfl rfl closing.sends closing.readers

/-- What the steps leave alone that move no data. -/
structure KeepsOrDrops (server next : RendererServer) : Prop where
  accepted : next.accepted = server.accepted
  writes : ∀ call conn, next.sends call = some (.writing conn) →
    server.sends call = some (.writing conn)
  free : server.sends 0 = none → next.sends 0 = none
  client : next.sock = server.sock ∧ next.frameReady = server.frameReady ∨
    next.sock = none ∧ next.frameReady = false

theorem keepsOrDrops {label : RendererLabel} (movesNothing : label.movesNothing = true)
    (stepTo : server.step label = some (next, events)) : KeepsOrDrops server next := by
  cases label with
  | installs | preloads | sendBegins | sendWrites | sendCloses | readerReads => cases movesNothing
  | disconnectClient | dispose =>
      obtain ⟨rfl, -⟩ := Prod.mk.inj (Option.some.inj stepTo)
      exact ⟨rfl, fun _ _ => id, id, .inr ⟨rfl, rfl⟩⟩
  | connect | accepts | acceptFails | acceptEnds | readerStops | readerFails | readerChecks =>
      simp only [RendererServer.step, RendererServer.connect] at stepTo
      split_ifs at stepTo
      all_goals
        obtain ⟨rfl, -⟩ := Prod.mk.inj (Option.some.inj stepTo)
        exact ⟨rfl, fun _ _ => id, id, .inl ⟨rfl, rfl⟩⟩
  | readerCloses conn =>
      simp only [RendererServer.step, closeReader] at stepTo
      split_ifs at stepTo
      · obtain ⟨rfl, -⟩ := Prod.mk.inj (Option.some.inj stepTo)
        exact ⟨rfl, fun _ _ => id, id, .inr ⟨rfl, rfl⟩⟩
      · obtain ⟨rfl, -⟩ := Prod.mk.inj (Option.some.inj stepTo)
        exact ⟨rfl, fun _ _ => id, id, .inl ⟨rfl, rfl⟩⟩
  | sendFails call =>
      simp only [RendererServer.step] at stepTo
      split at stepTo
      · rename_i current writing
        obtain ⟨rfl, -⟩ := Prod.mk.inj (Option.some.inj stepTo)
        refine ⟨rfl, fun other conn writes => ?_, fun free => ?_, .inl ⟨rfl, rfl⟩⟩
        · dsimp only [RendererServer.setSend] at writes
          by_cases isCall : other = call
          · rw [isCall, Function.update_self] at writes
            cases writes
          · rwa [Function.update_of_ne isCall] at writes
        · dsimp only [RendererServer.setSend]
          by_cases isCall : 0 = call
          · rw [← isCall, free] at writing
            cases writing
          · rwa [Function.update_of_ne isCall]
      · cases stepTo

end RendererServer

namespace RendererLine

variable {line : RendererLine} {man : ManeuverPayload}

/-- No frame is announced on the connection, now or for what is on its way. -/
structure Silent (line : RendererLine) : Prop where
  quiet : line.process.Quiet line.toRenderer
  events : evtFrameReady ∉ line.toServer

/-- The preloaded maneuver is shown, and nothing on the way will change that. -/
structure Shows (man : ManeuverPayload) (line : RendererLine) : Prop where
  presents : line.process.Presents man
  passive : ∀ command ∈ line.toRenderer, command.isPassive = true

/-- Where a preload and its announcement are before the server knows of them. -/
inductive Underway (man : ManeuverPayload) (line : RendererLine) : Prop
  | sent (before after : List RendererCommand) :
      line.toRenderer = before ++ .preload man :: after →
      (∀ command ∈ after, command.isPassive = true) → line.process.Quiet before →
      evtFrameReady ∉ line.toServer → Underway man line
  | announced (first last : List UInt8) : line.Shows man →
      line.toServer = first ++ evtFrameReady :: last → evtFrameReady ∉ first →
      evtFrameReady ∉ last → Underway man line

theorem Shows.silent (shows : line.Shows man) (events : evtFrameReady ∉ line.toServer) :
    line.Silent :=
  ⟨shows.presents.quiet shows.passive, events⟩

theorem silent_attached (ready : Bool) : (attached (.launched ready)).Silent := by
  refine ⟨⟨rfl, nofun, .inr ⟨rfl, nofun⟩⟩, ?_⟩
  cases ready with
  | false => exact List.not_mem_nil
  | true => decide

theorem Silent.takeTurn (silent : line.Silent) (count : Nat) (input : TurnInput) :
    (line.takeTurn count input).Silent := by
  have quiet := silent.quiet
  rw [← List.take_append_drop count line.toRenderer] at quiet
  obtain ⟨unannounced, quietAfter⟩ := quiet.turn input
  refine ⟨quietAfter, ?_⟩
  dsimp only [RendererLine.takeTurn]
  rw [unannounced, List.append_nil]
  exact silent.events

theorem Shows.takeTurn (shows : line.Shows man) (count : Nat) (input : TurnInput) :
    (line.takeTurn count input).toServer = line.toServer ∧
      (line.takeTurn count input).Shows man := by
  obtain ⟨unannounced, presents⟩ := shows.presents.turn
    (fun command isCommand => shows.passive command (List.mem_of_mem_take isCommand)) input
  refine ⟨?_, presents, fun command isCommand =>
    shows.passive command (List.mem_of_mem_drop isCommand)⟩
  dsimp only [RendererLine.takeTurn]
  rw [unannounced, List.append_nil]

theorem Underway.takeTurn (underway : line.Underway man) (count : Nat) (input : TurnInput) :
    (line.takeTurn count input).Underway man := by
  cases underway with
  | announced first last shows events noFirst noLast =>
      obtain ⟨sameEvents, shown⟩ := shows.takeTurn count input
      exact .announced first last shown (sameEvents.trans events) noFirst noLast
  | sent before after commands passive quiet events =>
      by_cases reads : before.length < count
      · -- The turn reads the preload, and passive commands behind it.
        obtain ⟨more, countEq⟩ := Nat.exists_eq_add_of_lt reads
        have batch : line.toRenderer.take count = before ++ .preload man :: after.take more := by
          rw [commands, countEq, Nat.add_assoc, List.take_length_add_append, List.take_succ_cons]
        have rest : line.toRenderer.drop count = after.drop more := by
          rw [commands, countEq, Nat.add_assoc, List.drop_length_add_append, List.drop_succ_cons]
        obtain ⟨announced, presents⟩ := RendererProcess.turn_preload line.process
          (fun command isCommand => passive command (List.mem_of_mem_take isCommand)) input
        rw [← batch] at announced presents
        refine .announced line.toServer [] ⟨presents, ?_⟩ ?_ events List.not_mem_nil
        · dsimp only [RendererLine.takeTurn]
          rw [rest]
          exact fun command isCommand => passive command (List.mem_of_mem_drop isCommand)
        · dsimp only [RendererLine.takeTurn]
          rw [announced]
      · have short : count ≤ before.length := Nat.le_of_not_lt reads
        have batch : line.toRenderer.take count = before.take count := by
          rw [commands, List.take_append_of_le_length short]
        have rest : line.toRenderer.drop count = before.drop count ++ .preload man :: after := by
          rw [commands, List.drop_append_of_le_length short]
        rw [← List.take_append_drop count before] at quiet
        obtain ⟨unannounced, quietAfter⟩ := quiet.turn input
        rw [← batch] at unannounced quietAfter
        refine .sent (before.drop count) after rest passive quietAfter ?_
        dsimp only [RendererLine.takeTurn]
        rw [unannounced, List.append_nil]
        exact events

/-- A change of a connection that disturbs nothing on it. -/
structure Keeps (before after : RendererLine) : Prop where
  silent : before.Silent → after.Silent
  shows : ∀ man, before.Shows man → after.Shows man
  unannounced : ∀ man, before.Shows man → evtFrameReady ∉ before.toServer →
    evtFrameReady ∉ after.toServer
  underway : ∀ man, before.Underway man → after.Underway man
  announced : before.process.frameReadySent = true → after.process.frameReadySent = true

theorem Keeps.refl (line : RendererLine) : Keeps line line :=
  ⟨id, fun _ => id, fun _ _ => id, fun _ => id, id⟩

theorem turn_announced {process : RendererProcess} (announced : process.frameReadySent = true)
    (batch : List RendererCommand) (input : TurnInput) :
    (process.turn batch input).1.frameReadySent = true := by
  have ticked : ((process.drain batch).tick input).frameReadySent = true := by
    rw [(RendererProcess.tick_frame input _).2.2.1]
    unfold RendererProcess.drain
    have handled := (RendererProcess.handled_frame batch process).2.2.1.trans announced
    split
    · exact handled
    · dsimp only [RendererProcess.applyLatest]
      split_ifs
      all_goals exact handled
  unfold RendererProcess.turn RendererProcess.present
  dsimp only
  split_ifs
  · rfl
  · exact ticked
  · exact ticked

theorem keeps_takeTurn (count : Nat) (input : TurnInput) (line : RendererLine) :
    Keeps line (line.takeTurn count input) where
  silent silent := silent.takeTurn count input
  shows _ shows := (shows.takeTurn count input).2
  unannounced _ shows events := by rwa [(shows.takeTurn count input).1]
  underway _ underway := underway.takeTurn count input
  announced announced := turn_announced announced _ input

theorem keeps_stop (line : RendererLine) : Keeps line line.stop where
  silent silent :=
    ⟨⟨silent.quiet.pending, silent.quiet.noPreload, silent.quiet.settled⟩, silent.events⟩
  shows _ shows := ⟨shows.presents.set false line.process.readySent, shows.passive⟩
  unannounced _ _ := id
  underway man underway := by
    cases underway with
    | sent before after commands passive quiet events =>
        exact .sent before after commands passive
          ⟨quiet.pending, quiet.noPreload, quiet.settled⟩ events
    | announced first last shows events noFirst noLast =>
        exact .announced first last
          ⟨shows.presents.set false line.process.readySent, shows.passive⟩ events noFirst noLast
  announced := id

theorem not_mem_append_ready {events : List UInt8} (absent : evtFrameReady ∉ events) :
    evtFrameReady ∉ events ++ [evtReady] := by
  rw [List.mem_append, not_or]
  exact ⟨absent, by decide⟩

theorem keeps_becomeReady (line : RendererLine) : Keeps line line.becomeReady where
  silent silent :=
    ⟨⟨silent.quiet.pending, silent.quiet.noPreload, silent.quiet.settled⟩,
      not_mem_append_ready silent.events⟩
  shows _ shows := ⟨shows.presents.set line.process.renderer.running true, shows.passive⟩
  unannounced _ _ := not_mem_append_ready
  underway man underway := by
    cases underway with
    | sent before after commands passive quiet events =>
        exact .sent before after commands passive
          ⟨quiet.pending, quiet.noPreload, quiet.settled⟩ (not_mem_append_ready events)
    | announced first last shows events noFirst noLast =>
        refine .announced first (last ++ [evtReady])
          ⟨shows.presents.set line.process.renderer.running true, shows.passive⟩ ?_ noFirst
          (not_mem_append_ready noLast)
        dsimp only [becomeReady]
        rw [events, List.append_assoc, List.cons_append]
  announced := id

theorem noPreload_of_passive {command : RendererCommand} (passive : command.isPassive = true) :
    command.isPreload = false ∧ command.isManeuver = false := by
  cases command with
  | preload | maneuver | startAnimation => cases passive
  | hideDisplay | perspective | bargraph | shutdown | other => exact ⟨rfl, rfl⟩

/-- A maneuver may follow an announced frame; a preload has to be waited for. -/
theorem Silent.write (silent : line.Silent) {command : RendererCommand}
    (noPreload : command.isPreload = false)
    (settled : command.isManeuver = true → line.process.frameReadySent = true) :
    (line.write command).Silent := by
  refine ⟨⟨silent.quiet.pending, List.forall_mem_append.mpr
    ⟨silent.quiet.noPreload, List.forall_mem_singleton.mpr noPreload⟩, ?_⟩, silent.events⟩
  cases announced : line.process.frameReadySent with
  | true => exact .inl announced
  | false =>
      rcases silent.quiet.settled with isSent | cold
      · exact .inl isSent
      · refine .inr ⟨cold.1, List.forall_mem_append.mpr
          ⟨cold.2, List.forall_mem_singleton.mpr ?_⟩⟩
        cases isManeuver : command.isManeuver with
        | false => rfl
        | true => exact absurd (announced.symm.trans (settled isManeuver)) (by decide)

theorem Silent.preload (silent : line.Silent) (man : ManeuverPayload) :
    (line.write (.preload man)).Underway man :=
  .sent line.toRenderer [] rfl nofun silent.quiet silent.events

theorem Shows.write (shows : line.Shows man) {command : RendererCommand}
    (passive : command.isPassive = true) : (line.write command).Shows man :=
  ⟨shows.presents, List.forall_mem_append.mpr
    ⟨shows.passive, List.forall_mem_singleton.mpr passive⟩⟩

theorem keeps_write {command : RendererCommand} (passive : command.isPassive = true)
    (line : RendererLine) : Keeps line (line.write command) where
  silent silent := by
    obtain ⟨noPreload, noManeuver⟩ := noPreload_of_passive passive
    exact silent.write noPreload fun isManeuver =>
      absurd (noManeuver.symm.trans isManeuver) (by decide)
  shows _ shows := shows.write passive
  unannounced _ _ := id
  underway man underway := by
    cases underway with
    | sent before after commands passiveAfter quiet events =>
        refine .sent before (after ++ [command]) ?_ (List.forall_mem_append.mpr
          ⟨passiveAfter, List.forall_mem_singleton.mpr passive⟩) quiet events
        dsimp only [RendererLine.write]
        rw [commands, List.append_assoc, List.cons_append]
    | announced first last shows events noFirst noLast =>
        exact .announced first last (shows.write passive) events noFirst noLast
  announced := id

theorem Silent.receive (silent : line.Silent) : line.receive.Silent :=
  ⟨silent.quiet, fun isEvent => silent.events (List.mem_of_mem_tail isEvent)⟩

theorem Silent.event (silent : line.Silent) {event : UInt8} {rest : List UInt8}
    (events : line.toServer = event :: rest) : event ≠ evtFrameReady := by
  rintro rfl
  exact silent.events (by rw [events]; exact List.mem_cons_self)

/-- The announcement comes once. -/
theorem Underway.receive (underway : line.Underway man) {event : UInt8} {rest : List UInt8}
    (events : line.toServer = event :: rest) :
    event ≠ evtFrameReady ∧ line.receive.Underway man ∨
      event = evtFrameReady ∧ line.receive.Shows man ∧ evtFrameReady ∉ line.receive.toServer := by
  cases underway with
  | sent before after commands passive quiet absent =>
      refine .inl ⟨?_, .sent before after commands passive quiet fun isEvent => ?_⟩
      · rintro rfl
        exact absent (by rw [events]; exact List.mem_cons_self)
      · exact absent (List.mem_of_mem_tail isEvent)
  | announced first last shows isAnnounced noFirst noLast =>
      rw [events] at isAnnounced
      cases first with
      | nil =>
          obtain ⟨rfl, rfl⟩ := List.cons.inj isAnnounced
          refine .inr ⟨rfl, ⟨shows.presents, shows.passive⟩, ?_⟩
          dsimp only [RendererLine.receive]
          rw [events]
          exact noLast
      | cons earlier first =>
          obtain ⟨rfl, restEq⟩ := List.cons.inj isAnnounced
          rw [List.mem_cons, not_or] at noFirst
          refine .inl ⟨fun same => noFirst.1 same.symm,
            .announced first last ⟨shows.presents, shows.passive⟩ ?_ noFirst.2 noLast⟩
          dsimp only [RendererLine.receive]
          rw [events]
          exact restEq

end RendererLine

end CarplayRgi
