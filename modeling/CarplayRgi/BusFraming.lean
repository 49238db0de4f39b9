import CarplayRgi.BusCalls

/-!
# The bytes of a connection

What is written to a connection is its HELLO and then one whole frame after
another, until a frame is cut short.  The connector goes on after a replayed
frame that failed, and the writer acts on a descriptor that it read earlier.
Runs without these two faults keep every connection well framed.
-/

namespace CarplayRgi

def ConnectorPhase.frames : ConnectorPhase → List BusFrame
  | .greets _ hello => [hello]
  | .replays _ frames => frames
  | .sending call rest => call.frame :: rest.getD []
  | _ => []

def WriterPhase.frames : WriterPhase → List BusFrame
  | .loaded _ frame => [frame]
  | .sending call => [call.frame]
  | _ => []

def BusFrame.IsHello (frame : BusFrame) : Prop :=
  frame.type = evtHello ∧ frame.payload = BusState.helloPayload

/-- The frame that the connector greets with is a HELLO. -/
def ConnectorPhase.GreetsWithHello : ConnectorPhase → Prop
  | .greets _ hello => hello.IsHello
  | .sending call none => call.frame.IsHello
  | _ => True

structure FramesFit (state : BusState) : Prop where
  seq : state.txSeq < 2 ^ 32
  ring : ∀ frame ∈ state.ring, frame.WellFormed
  cached : ∀ type frame, (state.types type).last = some frame → frame.WellFormed
  connector : ∀ frame ∈ state.connector.frames, frame.WellFormed
  greets : state.connector.GreetsWithHello
  writer : ∀ frame ∈ state.writer.frames, frame.WellFormed

theorem ConnectorPhase.frames_of_nextFrame {phase : ConnectorPhase} {fd : Nat} {frame : BusFrame}
    {rest : Option (List BusFrame)} (isNext : phase.nextFrame = some (fd, frame, rest)) :
    phase.frames = frame :: rest.getD [] ∧
      (rest = none → phase = .greets fd frame) := by
  unfold nextFrame at isNext
  split at isNext
  · cases isNext
    exact ⟨rfl, fun _ => rfl⟩
  · cases isNext
    exact ⟨rfl, fun noRest => by cases noRest⟩
  · cases isNext

@[simp]
theorem ConnectorPhase.frames_afterSend (fd : Nat) (rest : Option (List BusFrame)) :
    (afterSend fd rest).frames = rest.getD [] := by
  cases rest <;> rfl

@[simp]
theorem ConnectorPhase.frames_afterFailure (fd : Nat) (rest : Option (List BusFrame)) :
    (afterFailure fd rest).frames = rest.getD [] := by
  cases rest <;> rfl

theorem ConnectorPhase.greets_afterSend (fd : Nat) (rest : Option (List BusFrame)) :
    (afterSend fd rest).GreetsWithHello := by
  cases rest <;> trivial

theorem ConnectorPhase.greets_afterFailure (fd : Nat) (rest : Option (List BusFrame)) :
    (afterFailure fd rest).GreetsWithHello := by
  cases rest <;> trivial

theorem isHello_helloFrame (state : BusState) : state.helloFrame.IsHello := ⟨rfl, rfl⟩

theorem wellFormed_helloFrame {state : BusState} (seq : state.txSeq < 2 ^ 32) :
    state.helloFrame.WellFormed :=
  ⟨show evtHello < 2 ^ 16 by decide, seq,
    show BusState.helloPayload.length ≤ busMaxPayload by decide⟩

theorem wellFormed_syncFrames {state : BusState} (fit : FramesFit state) :
    ∀ frame ∈ state.syncFrames, frame.WellFormed := by
  intro frame member
  rw [BusState.syncFrames, List.mem_cons, List.mem_append, List.mem_singleton] at member
  rcases member with rfl | cached | rfl
  · exact ⟨show evtSyncBegin < 2 ^ 16 by decide, fit.seq, Nat.zero_le _⟩
  · rw [BusState.cachedFrames, List.mem_filterMap] at cached
    obtain ⟨type, -, replayed⟩ := cached
    rw [Option.map_eq_some_iff] at replayed
    obtain ⟨last, isLast, rfl⟩ := replayed
    obtain ⟨typeFits, seqFits, payloadFits⟩ := fit.cached type last isLast
    exact ⟨typeFits, seqFits, payloadFits⟩
  · exact ⟨show evtSyncEnd < 2 ^ 16 by decide, Nat.mod_lt _ (by decide), Nat.zero_le _⟩

theorem cacheSticky_wellFormed {state : BusState} (fit : FramesFit state) {sent : BusFrame}
    (sentFits : sent.WellFormed) (type : Nat) (frame : BusFrame)
    (isLast : (state.cacheSticky sent type).last = some frame) : frame.WellFormed := by
  unfold BusState.cacheSticky at isLast
  split at isLast
  · by_cases same : type = sent.type
    · rw [same, Function.update_self, Option.some.injEq] at isLast
      exact isLast ▸ sentFits
    · rw [Function.update_of_ne same] at isLast
      exact fit.cached type frame isLast
  · exact fit.cached type frame isLast

theorem wellFormed_sent {state : BusState} (fit : FramesFit state) {type : Nat} {flags : UInt8}
    {payload : List UInt8} (short : payload.length ≤ busMaxPayload) (known : type < maxTypes) :
    BusFrame.WellFormed ⟨type, flags, state.txSeq, payload⟩ :=
  ⟨Nat.lt_trans known (by decide), fit.seq, short⟩

theorem BusStep.framesFit {state next : BusState} {label : BusLabel} {events : List BusEvent}
    (step : BusStep state label next events) (fit : FramesFit state) : FramesFit next := by
  obtain ⟨seq, ring, cached, connector, greets, writer⟩ := id fit
  have noFrames : ∀ frame ∈ ([] : List BusFrame), frame.WellFormed := by simp
  cases step with
  | rejected => exact fit
  | @full type flags payload short known isFull =>
      exact ⟨seq, ring, cacheSticky_wellFormed fit (wellFormed_sent fit short known), connector,
        greets, writer⟩
  | @queued type flags payload short known hasRoom =>
      have sentFits := @wellFormed_sent state fit type flags payload short known
      refine ⟨Nat.mod_lt _ (by decide), ?_, cacheSticky_wellFormed fit sentFits, connector,
        greets, writer⟩
      intro frame member
      rcases List.mem_append.mp member with old | new
      · exact ring frame old
      · rw [List.mem_singleton.mp new]
        exact sentFits
  | @setSticky type sticky =>
      unfold BusState.busSetSticky
      split
      · exact fit
      · refine ⟨seq, ring, ?_, connector, greets, writer⟩
        intro other frame isLast
        by_cases same : other = type
        · subst same
          dsimp only at isLast
          rw [Function.update_self] at isLast
          exact cached other frame isLast
        · dsimp only at isLast
          rw [Function.update_of_ne same] at isLast
          exact cached other frame isLast
  | takeHelloSeq phase =>
      refine ⟨Nat.mod_lt _ (by decide), ring, cached, ?_, isHello_helloFrame state, writer⟩
      intro frame member
      rw [List.mem_singleton.mp member]
      exact wellFormed_helloFrame seq
  | @connectorBegins fd frame rest isNext isFree =>
      obtain ⟨framesEq, isHello⟩ := ConnectorPhase.frames_of_nextFrame isNext
      refine ⟨seq, ring, cached, ?_, ?_, writer⟩
      · intro other member
        exact connector other (framesEq ▸ member)
      · cases rest with
        | none =>
            rw [isHello rfl] at greets
            exact greets
        | some later => trivial
  | @connectorSends count conn call next bytes rest phase isOpen advanced =>
      have sameFrame := (SendCall.advance_spec advanced).frame
      rw [phase] at connector greets
      refine ⟨seq, ring, cached, ?_, ?_, writer⟩
      · intro frame member
        refine connector frame ?_
        dsimp only [ConnectorPhase.frames] at member ⊢
        rwa [sameFrame] at member
      · cases rest with
        | none =>
            dsimp only [ConnectorPhase.GreetsWithHello] at greets ⊢
            rwa [sameFrame]
        | some later => trivial
  | @connectorFinishes call rest phase isDone =>
      rw [phase] at connector
      refine ⟨seq, ring, cached, ?_, ConnectorPhase.greets_afterSend _ _, writer⟩
      intro frame member
      rw [ConnectorPhase.frames_afterSend] at member
      exact connector frame (List.mem_cons_of_mem _ member)
  | @connectorFails call rest phase notDone =>
      rw [phase] at connector
      refine ⟨seq, ring, cached, ?_, ConnectorPhase.greets_afterFailure _ _, writer⟩
      intro frame member
      rw [ConnectorPhase.frames_afterFailure] at member
      exact connector frame (List.mem_cons_of_mem _ member)
  | copySnapshot phase =>
      exact ⟨Nat.mod_lt _ (by decide), ring, cached, wellFormed_syncFrames fit, trivial, writer⟩
  | connect | closeRefused | publish | replace | noticeDrop | peerClosed | dropCurrent
  | dropNothing => exact ⟨seq, ring, cached, noFrames, trivial, writer⟩
  | @dequeue fd frame frames idle ringEq isCurrent =>
      rw [ringEq] at ring
      refine ⟨seq, fun other member => ring other (List.mem_cons_of_mem _ member), cached, connector,
        greets, ?_⟩
      intro other member
      rw [List.mem_singleton.mp member]
      exact ring frame List.mem_cons_self
  | writerBegins phase isFree =>
      rw [phase] at writer
      exact ⟨seq, ring, cached, connector, greets, writer⟩
  | writerSends phase isOpen advanced =>
      rw [phase] at writer
      refine ⟨seq, ring, cached, connector, greets, ?_⟩
      intro frame member
      refine writer frame ?_
      dsimp only [WriterPhase.frames] at member ⊢
      rwa [(SendCall.advance_spec advanced).frame] at member
  | writerFinishes | writerFails | writerCloses | writerDrops =>
      exact ⟨seq, ring, cached, connector, greets, noFrames⟩

def BusEvent.wroteOn (conn : Nat) : BusEvent → Option (List UInt8)
  | .wrote _ other _ bytes => if other = conn then some bytes else none
  | _ => none

/-- The bytes that have been written to a connection. -/
def bytesOn (conn : Nat) (history : List BusEvent) : List UInt8 :=
  (history.filterMap (BusEvent.wroteOn conn)).flatten

/-- A frame has been cut short on the connection: some of it was written, and
then its `send_frame` call failed. -/
def TruncatedOn (conn : Nat) (past : List BusEvent) : Prop :=
  ∃ call frame bytes sender failedOn,
    .wrote call conn frame bytes ∈ past ∧ .sendFailed sender call failedOn ∈ past

def streamBytes (frames : List BusFrame) : List UInt8 :=
  frames.flatMap BusFrame.bytes

/-- Whole frames of a connection, of which the first is the HELLO. -/
structure Conversation (frames : List BusFrame) : Prop where
  greets : ∃ hello later, frames = hello :: later ∧ hello.IsHello
  wellFormed : ∀ frame ∈ frames, frame.WellFormed

/-- The bytes of a connection are a prefix of a conversation. -/
def FramedOn (conn : Nat) (history : List BusEvent) : Prop :=
  ∃ frames, Conversation frames ∧ bytesOn conn history <+: streamBytes frames

theorem bytesOn_append (conn : Nat) (history events : List BusEvent) :
    bytesOn conn (history ++ events) = bytesOn conn history ++ bytesOn conn events := by
  simp [bytesOn]

theorem bytesOn_of_none {conn : Nat} {events : List BusEvent}
    (none : ∀ event ∈ events, event.wroteOn conn = none) (history : List BusEvent) :
    bytesOn conn (history ++ events) = bytesOn conn history := by
  have nothing : events.filterMap (BusEvent.wroteOn conn) = [] :=
    List.filterMap_eq_nil_iff.mpr none
  rw [bytesOn_append, bytesOn, bytesOn, nothing, List.flatten_nil, List.append_nil]

theorem wroteOn_of_quiet {event : BusEvent} (quiet : event.isQuiet = true) (conn : Nat) :
    event.wroteOn conn = none := by
  cases event <;> first | rfl | cases quiet

theorem bytesOn_of_quiet {events : List BusEvent}
    (quiet : ∀ event ∈ events, event.isQuiet = true) (conn : Nat) (history : List BusEvent) :
    bytesOn conn (history ++ events) = bytesOn conn history :=
  bytesOn_of_none (fun event member => wroteOn_of_quiet (quiet event member) conn) history

theorem bytesOn_written (call : SendCall) (conn : Nat) (bytes : List UInt8)
    (history : List BusEvent) :
    bytesOn conn (history ++ call.written conn bytes) = bytesOn conn history ++ bytes := by
  rw [bytesOn_append, SendCall.written]
  split <;> simp [bytesOn, List.filterMap_cons, BusEvent.wroteOn]

theorem bytesOn_written_of_ne {conn other : Nat} (different : other ≠ conn) (call : SendCall)
    (bytes : List UInt8) (history : List BusEvent) :
    bytesOn conn (history ++ call.written other bytes) = bytesOn conn history := by
  refine bytesOn_of_none ?_ history
  intro event member
  unfold SendCall.written at member
  split at member <;> simp only [List.mem_cons, List.not_mem_nil, or_false] at member
  · rcases member with rfl | rfl
    · exact if_neg different
    · rfl
  · rw [member]
    exact if_neg different

theorem truncatedOn_of_quiet {conn : Nat} {history events : List BusEvent}
    (quiet : ∀ event ∈ events, event.isQuiet = true)
    (truncated : TruncatedOn conn (history ++ events)) : TruncatedOn conn history := by
  obtain ⟨call, frame, bytes, sender, failedOn, wrote, failed⟩ := truncated
  refine ⟨call, frame, bytes, sender, failedOn, ?_, ?_⟩
  · exact (List.mem_append.mp wrote).resolve_right (not_mem_of_quiet quiet rfl)
  · exact (List.mem_append.mp failed).resolve_right (not_mem_of_quiet quiet rfl)

/-- A live call that goes on writing has not failed. -/
theorem truncatedOn_of_written {state : BusState} {conn other : Nat} {call next : SendCall}
    {bytes : List UInt8} {history : List BusEvent} (known : CallsKnown state history)
    (live : state.liveCall = some call) (sameId : next.id = call.id)
    (truncated : TruncatedOn other (history ++ next.written conn bytes)) :
    TruncatedOn other history := by
  obtain ⟨id, frame, part, sender, failedOn, wrote, failed⟩ := truncated
  have failedBefore : .sendFailed sender id failedOn ∈ history :=
    (List.mem_append.mp failed).resolve_right SendCall.failed_not_mem_written
  rcases List.mem_append.mp wrote with old | new
  · exact ⟨id, frame, part, sender, failedOn, old, failedBefore⟩
  · rw [(SendCall.wrote_mem_written new).1, sameId] at failedBefore
    exact absurd failedBefore (known.works call sender failedOn live)

theorem streamBytes_append (first second : List BusFrame) :
    streamBytes (first ++ second) = streamBytes first ++ streamBytes second := by
  simp [streamBytes]

@[simp]
theorem streamBytes_singleton (frame : BusFrame) : streamBytes [frame] = frame.bytes := by
  simp [streamBytes]

theorem conversation_hello {hello : BusFrame} (isHello : hello.IsHello)
    (fits : hello.WellFormed) : Conversation [hello] :=
  ⟨⟨hello, [], rfl, isHello⟩, fun _ member => List.mem_singleton.mp member ▸ fits⟩

theorem Conversation.append {frames : List BusFrame} (conversation : Conversation frames)
    {frame : BusFrame} (fits : frame.WellFormed) : Conversation (frames ++ [frame]) := by
  obtain ⟨⟨hello, later, rfl, isHello⟩, wellFormed⟩ := conversation
  refine ⟨⟨hello, later ++ [frame], rfl, isHello⟩, ?_⟩
  intro other member
  rcases List.mem_append.mp member with old | new
  · exact wellFormed other old
  · exact List.mem_singleton.mp new ▸ fits

/-- How far the open connection has come. -/
inductive WirePosition where
  | fresh
  | greeting (call : SendCall)
  | between
  | within (call : SendCall)
  | spoiled

/-- The position of the connection behind a published descriptor. -/
def WriterPhase.position (fd : Nat) : WriterPhase → WirePosition
  | .sending call => if call.fd = fd then .within call else .between
  | .failed other => if other = fd then .spoiled else .between
  | _ => .between

/-- The position of the connection behind the connector's descriptor. -/
def BusState.wirePosition (state : BusState) : WirePosition :=
  match state.connector with
  | .connecting | .connected _ | .greets _ _ => .fresh
  | .sending call none => .greeting call
  | .refused _ => .spoiled
  | .greeted _ | .replays _ _ => .between
  | .sending call (some _) => .within call
  | .watching fd | .dropping fd => state.writer.position fd

/-- What a position says about the bytes of the connection. -/
def WirePosition.Describes (sent : List UInt8) : WirePosition → Prop
  | .fresh => sent = []
  | .greeting call => sent ++ call.buffers.flatten = call.frame.bytes
  | .between => ∃ frames, Conversation frames ∧ sent = streamBytes frames
  | .within call => ∃ frames taken, Conversation frames ∧
      taken ++ call.buffers.flatten = call.frame.bytes ∧ sent = streamBytes frames ++ taken
  | .spoiled => True

structure WireKept (state : BusState) (history : List BusEvent) : Prop where
  described : ∀ fd conn, state.fds fd = some conn →
    state.wirePosition.Describes (bytesOn conn history)
  whole : ∀ fd conn, state.fds fd = some conn → state.wirePosition ≠ .spoiled →
    ¬TruncatedOn conn history
  framed : ∀ conn, FramedOn conn history

theorem ConnectorPhase.exposed_cases {phase : ConnectorPhase} {fd : Nat}
    (exposed : phase.isExposed = true) (isFd : phase.fd = some fd) :
    phase = .watching fd ∨ phase = .dropping fd := by
  cases phase with
  | watching other => exact .inl (congrArg watching (Option.some.inj isFd))
  | dropping other => exact .inr (congrArg dropping (Option.some.inj isFd))
  | _ => cases exposed

theorem BusState.wirePosition_of_exposed {state : BusState} {fd : Nat}
    (exposed : state.connector.isExposed = true) (isFd : state.connector.fd = some fd) :
    state.wirePosition = state.writer.position fd := by
  unfold wirePosition
  rcases ConnectorPhase.exposed_cases exposed isFd with phase | phase
  · rw [phase]
  · rw [phase]

theorem BusState.wirePosition_of_hidden {state next : BusState}
    (hidden : state.connector.isExposed = false) (same : next.connector = state.connector) :
    next.wirePosition = state.wirePosition := by
  unfold wirePosition
  rw [same]
  cases phase : state.connector with
  | watching fd | dropping fd =>
      rw [phase] at hidden
      cases hidden
  | sending call rest => cases rest <;> rfl
  | _ => rfl

namespace WirePosition.Describes

variable {sent bytes : List UInt8} {call next : SendCall}

theorem greets {frame : BusFrame} (fresh : Describes sent .fresh) (id fd : Nat) :
    Describes sent (.greeting ⟨id, fd, frame, frame.buffers⟩) := by
  change sent = [] at fresh
  rw [fresh]
  exact frame.flatten_buffers

theorem begins (between : Describes sent .between) (id fd : Nat) (frame : BusFrame) :
    Describes sent (.within ⟨id, fd, frame, frame.buffers⟩) := by
  obtain ⟨frames, conversation, sentEq⟩ := between
  exact ⟨frames, [], conversation, frame.flatten_buffers, by rw [List.append_nil, sentEq]⟩

theorem advances (within : Describes sent (.within call)) (advanced : call.Advanced bytes next) :
    Describes (sent ++ bytes) (.within next) := by
  obtain ⟨frames, taken, conversation, split, sentEq⟩ := within
  refine ⟨frames, taken ++ bytes, conversation, ?_, by rw [sentEq, List.append_assoc]⟩
  rw [List.append_assoc, advanced.bytes, split, advanced.frame]

theorem greeting_advances (greeting : Describes sent (.greeting call))
    (advanced : call.Advanced bytes next) : Describes (sent ++ bytes) (.greeting next) := by
  change sent ++ call.buffers.flatten = call.frame.bytes at greeting
  change sent ++ bytes ++ next.buffers.flatten = next.frame.bytes
  rw [List.append_assoc, advanced.bytes, greeting, advanced.frame]

theorem finishes (within : Describes sent (.within call)) (isDone : call.buffers = [])
    (fits : call.frame.WellFormed) : Describes sent .between := by
  obtain ⟨frames, taken, conversation, split, sentEq⟩ := within
  refine ⟨frames ++ [call.frame], conversation.append fits, ?_⟩
  rw [isDone, List.flatten_nil, List.append_nil] at split
  rw [streamBytes_append, streamBytes_singleton, sentEq, split]

theorem greeted (greeting : Describes sent (.greeting call)) (isDone : call.buffers = [])
    (isHello : call.frame.IsHello) (fits : call.frame.WellFormed) : Describes sent .between := by
  change sent ++ call.buffers.flatten = call.frame.bytes at greeting
  rw [isDone, List.flatten_nil, List.append_nil] at greeting
  exact ⟨[call.frame], conversation_hello isHello fits, by rw [greeting, streamBytes_singleton]⟩

/-- A call that has written nothing leaves the connection between frames. -/
theorem untouched (within : Describes sent (.within call))
    (whole : call.buffers = call.frame.buffers) : Describes sent .between := by
  obtain ⟨frames, taken, conversation, split, sentEq⟩ := within
  rw [whole, BusFrame.flatten_buffers] at split
  have nothing : taken = [] := by
    have lengths := congrArg List.length split
    rw [List.length_append] at lengths
    exact List.length_eq_zero_iff.mp (by omega)
  exact ⟨frames, conversation, by rw [sentEq, nothing, List.append_nil]⟩

theorem framed (within : Describes sent (.within call)) (fits : call.frame.WellFormed) :
    ∃ frames, Conversation frames ∧ sent <+: streamBytes frames := by
  obtain ⟨frames, taken, conversation, split, sentEq⟩ := within
  refine ⟨frames ++ [call.frame], conversation.append fits, call.buffers.flatten, ?_⟩
  rw [streamBytes_append, streamBytes_singleton, sentEq, List.append_assoc, split]

theorem greeting_framed (greeting : Describes sent (.greeting call))
    (isHello : call.frame.IsHello) (fits : call.frame.WellFormed) :
    ∃ frames, Conversation frames ∧ sent <+: streamBytes frames := by
  refine ⟨[call.frame], conversation_hello isHello fits, call.buffers.flatten, ?_⟩
  rw [streamBytes_singleton]
  exact greeting

end WirePosition.Describes

namespace WireKept

variable {state next : BusState} {history events : List BusEvent}

/-- A step that writes nothing. -/
theorem quietly (kept : WireKept state history)
    (quiet : ∀ event ∈ events, event.isQuiet = true)
    (moves : ∀ fd conn, next.fds fd = some conn → state.fds fd = some conn ∧
      (∀ sent, state.wirePosition.Describes sent → next.wirePosition.Describes sent) ∧
      (next.wirePosition ≠ .spoiled → state.wirePosition ≠ .spoiled)) :
    WireKept next (history ++ events) := by
  refine ⟨?_, ?_, ?_⟩
  · intro fd conn isOpen
    obtain ⟨openBefore, describes, -⟩ := moves fd conn isOpen
    rw [bytesOn_of_quiet quiet]
    exact describes _ (kept.described fd conn openBefore)
  · intro fd conn isOpen notSpoiled truncated
    obtain ⟨openBefore, -, spoiled⟩ := moves fd conn isOpen
    exact kept.whole fd conn openBefore (spoiled notSpoiled) (truncatedOn_of_quiet quiet truncated)
  · intro conn
    unfold FramedOn
    rw [bytesOn_of_quiet quiet]
    exact kept.framed conn

/-- A step of the writer that writes nothing. -/
theorem writer_moves (kept : WireKept state history) (link : OneLink state)
    (connector : next.connector = state.connector) (fds : next.fds = state.fds)
    (moves : ∀ fd conn, state.fds fd = some conn → state.client = some fd →
      (∀ sent, (state.writer.position fd).Describes sent →
        (next.writer.position fd).Describes sent) ∧
      (next.writer.position fd ≠ .spoiled → state.writer.position fd ≠ .spoiled)) :
    WireKept next history := by
  rw [← List.append_nil history]
  refine kept.quietly (by simp) ?_
  intro fd conn isOpen
  rw [fds] at isOpen
  refine ⟨isOpen, ?_⟩
  obtain ⟨isFd, current⟩ := link.onlyOpen fd conn isOpen
  cases exposed : state.connector.isExposed with
  | false =>
      rw [BusState.wirePosition_of_hidden exposed connector]
      exact ⟨fun _ described => described, fun notSpoiled => notSpoiled⟩
  | true =>
      rw [BusState.wirePosition_of_exposed exposed isFd,
        BusState.wirePosition_of_exposed (connector ▸ exposed) (connector ▸ isFd)]
      exact moves fd conn isOpen (current exposed)

/-- A `send` call of the live call. -/
theorem sends {call after : SendCall} {conn : Nat} {bytes : List UInt8}
    (kept : WireKept state history) (link : OneLink state) (known : CallsKnown state history)
    (live : state.liveCall = some call) (isOpen : state.fds call.fd = some conn)
    (advanced : call.Advanced bytes after) (fits : call.frame.WellFormed)
    (fds : next.fds = state.fds)
    (moves : (state.wirePosition = .greeting call ∧ next.wirePosition = .greeting after ∧
        call.frame.IsHello) ∨
      (state.wirePosition = .within call ∧ next.wirePosition = .within after)) :
    WireKept next (history ++ after.written conn bytes) := by
  have described := kept.described call.fd conn isOpen
  have sameConn : ∀ fd other, state.fds fd = some other → conn = other := by
    intro fd other otherOpen
    rw [link.same_fd otherOpen isOpen, isOpen, Option.some.injEq] at otherOpen
    exact otherOpen
  have describedAfter : next.wirePosition.Describes (bytesOn conn history ++ bytes) := by
    rcases moves with ⟨before, position, -⟩ | ⟨before, position⟩
    · rw [before] at described
      rw [position]
      exact described.greeting_advances advanced
    · rw [before] at described
      rw [position]
      exact described.advances advanced
  refine ⟨?_, ?_, ?_⟩
  · intro fd other otherOpen
    rw [fds] at otherOpen
    rw [← sameConn fd other otherOpen, bytesOn_written]
    exact describedAfter
  · intro fd other otherOpen _ truncated
    rw [fds] at otherOpen
    refine kept.whole fd other otherOpen ?_
      (truncatedOn_of_written known live advanced.id truncated)
    rcases moves with ⟨before, -, -⟩ | ⟨before, -⟩
    · rw [before]
      exact WirePosition.noConfusion
    · rw [before]
      exact WirePosition.noConfusion
  · intro other
    by_cases same : conn = other
    · rw [← same]
      unfold FramedOn
      rw [bytesOn_written]
      rw [← advanced.frame] at fits
      rcases moves with ⟨-, position, isHello⟩ | ⟨-, position⟩
      · rw [position] at describedAfter
        rw [← advanced.frame] at isHello
        exact describedAfter.greeting_framed isHello fits
      · rw [position] at describedAfter
        exact describedAfter.framed fits
    · unfold FramedOn
      rw [bytesOn_written_of_ne same]
      exact kept.framed other

/-- A `send_frame` call that fails spoils the connection that it wrote to. -/
theorem fails {sender : Sender} {id : Nat} {failedOn : Option Nat}
    (kept : WireKept state history) (fds : next.fds = state.fds)
    (moves : ∀ fd conn, state.fds fd = some conn →
      (∀ sent, state.wirePosition.Describes sent → next.wirePosition.Describes sent) ∧
      (next.wirePosition ≠ .spoiled → state.wirePosition ≠ .spoiled ∧
        ∀ frame bytes, .wrote id conn frame bytes ∉ history)) :
    WireKept next (history ++ [.sendFailed sender id failedOn]) := by
  have nothing : ∀ conn, bytesOn conn (history ++ [.sendFailed sender id failedOn]) =
      bytesOn conn history := by
    intro conn
    refine bytesOn_of_none ?_ history
    intro event member
    rw [List.mem_singleton.mp member]
    rfl
  refine ⟨?_, ?_, ?_⟩
  · intro fd conn isOpen
    rw [fds] at isOpen
    rw [nothing]
    exact (moves fd conn isOpen).1 _ (kept.described fd conn isOpen)
  · rintro fd conn isOpen notSpoiled ⟨call, frame, bytes, other, where_, wrote, failed⟩
    rw [fds] at isOpen
    obtain ⟨notSpoiledBefore, unwritten⟩ := (moves fd conn isOpen).2 notSpoiled
    have wroteBefore : .wrote call conn frame bytes ∈ history := by simpa using wrote
    rcases List.mem_append.mp failed with old | new
    · exact kept.whole fd conn isOpen notSpoiledBefore
        ⟨call, frame, bytes, other, where_, wroteBefore, old⟩
    · rw [List.mem_singleton, BusEvent.sendFailed.injEq] at new
      rw [new.2.1] at wroteBefore
      exact unwritten frame bytes wroteBefore
  · intro conn
    unfold FramedOn
    rw [nothing]
    exact kept.framed conn

theorem connects {fd : Nat} (kept : WireKept state history) (known : CallsKnown state history)
    (link : OneLink state) (phase : state.connector = .connecting) :
    WireKept
      { state with
        connector := .connected fd
        fds := Function.update state.fds fd (some state.connections)
        connections := state.connections + 1 } history := by
  have unwritten : ∀ call frame bytes, .wrote call state.connections frame bytes ∉ history :=
    fun call frame bytes member => Nat.lt_irrefl _ (known.wrote call _ frame bytes member).2
  have onlyNew : ∀ other conn, Function.update state.fds fd (some state.connections) other =
      some conn → conn = state.connections := by
    intro other conn isOpen
    by_cases same : other = fd
    · rw [same, Function.update_self, Option.some.injEq] at isOpen
      exact isOpen.symm
    · rw [Function.update_of_ne same] at isOpen
      have isFd := (link.onlyOpen other conn isOpen).1
      rw [phase] at isFd
      cases isFd
  refine ⟨?_, ?_, kept.framed⟩
  · intro other conn isOpen
    rw [onlyNew other conn isOpen]
    change bytesOn state.connections history = []
    have nothing : history.filterMap (BusEvent.wroteOn state.connections) = [] := by
      rw [List.filterMap_eq_nil_iff]
      intro event member
      cases event with
      | wrote call written frame bytes =>
          refine if_neg ?_
          rintro rfl
          exact unwritten call frame bytes member
      | _ => rfl
    rw [bytesOn, nothing, List.flatten_nil]
  · rintro other conn isOpen - ⟨call, frame, bytes, sender, failedOn, wrote, -⟩
    rw [onlyNew other conn isOpen] at wrote
    exact unwritten call frame bytes wrote

end WireKept

/-- A replayed frame only fails before any of it is written. -/
def ReplaysWhole (state : BusState) (label : BusLabel) : Prop :=
  label = .connectorFails → ∀ call rest, state.connector = .sending call (some rest) →
    call.buffers = call.frame.buffers

theorem BusStep.wireKept {state next : BusState} {label : BusLabel}
    {history events : List BusEvent} (step : BusStep state label next events)
    (link : OneLink state) (held : HeldIsCurrent state) (home : LiveCallHome state history)
    (known : CallsKnown state history) (fit : FramesFit state)
    (whole : ReplaysWhole state label) (kept : WireKept state history) :
    WireKept next (history ++ events) := by
  have quiet : ∀ event ∈ ([] : List BusEvent), event.isQuiet = true := by simp
  have still : next.fds = state.fds → next.wirePosition = state.wirePosition →
      ∀ fd conn, next.fds fd = some conn → state.fds fd = some conn ∧
        (∀ sent, state.wirePosition.Describes sent → next.wirePosition.Describes sent) ∧
        (next.wirePosition ≠ .spoiled → state.wirePosition ≠ .spoiled) := by
    intro fds position fd conn isOpen
    rw [position]
    exact ⟨fds ▸ isOpen, fun _ described => described, fun notSpoiled => notSpoiled⟩
  have shut : (∀ fd, next.fds fd = none) → ∀ fd conn, next.fds fd = some conn →
      state.fds fd = some conn ∧
        (∀ sent, state.wirePosition.Describes sent → next.wirePosition.Describes sent) ∧
        (next.wirePosition ≠ .spoiled → state.wirePosition ≠ .spoiled) := by
    intro closed fd conn isOpen
    rw [closed] at isOpen
    cases isOpen
  cases step with
  | rejected => exact kept.quietly quiet (still rfl rfl)
  | full | queued => exact kept.quietly (by simp [BusEvent.isQuiet]) (still rfl rfl)
  | setSticky =>
      refine kept.quietly quiet (still ?_ ?_)
      all_goals
        unfold BusState.busSetSticky
        split <;> rfl
  | connect phase isClosed =>
      rw [List.append_nil]
      exact kept.connects known link phase
  | takeHelloSeq phase =>
      refine kept.quietly quiet (still rfl ?_)
      simp only [BusState.wirePosition, phase]
  | @connectorBegins fd frame rest isNext isFree =>
      refine kept.quietly quiet ?_
      intro other conn isOpen
      refine ⟨isOpen, ?_⟩
      unfold ConnectorPhase.nextFrame at isNext
      split at isNext
      · rename_i phase
        cases isNext
        simp only [BusState.wirePosition, phase]
        exact ⟨fun _ fresh => fresh.greets _ _, fun _ => WirePosition.noConfusion⟩
      · rename_i phase
        cases isNext
        simp only [BusState.wirePosition, phase]
        exact ⟨fun _ between => between.begins _ _ _, fun _ => WirePosition.noConfusion⟩
      · cases isNext
  | @connectorSends count conn call after bytes rest phase isOpen advanced =>
      have live : state.liveCall = some call := by rw [BusState.liveCall, phase]
      have fits := fit.connector call.frame (by rw [phase]; exact List.mem_cons_self)
      refine kept.sends link known live isOpen (SendCall.advance_spec advanced) fits rfl ?_
      cases rest with
      | none =>
          have isHello := fit.greets
          rw [phase] at isHello
          exact .inl ⟨by simp only [BusState.wirePosition, phase], rfl, isHello⟩
      | some later => exact .inr ⟨by simp only [BusState.wirePosition, phase], rfl⟩
  | @connectorFinishes call rest phase isDone =>
      have fits := fit.connector call.frame (by rw [phase]; exact List.mem_cons_self)
      refine kept.quietly quiet ?_
      intro other conn isOpen
      refine ⟨isOpen, ?_⟩
      cases rest with
      | none =>
          have isHello := fit.greets
          rw [phase] at isHello
          simp only [BusState.wirePosition, phase, ConnectorPhase.afterSend]
          exact ⟨fun _ greeting => greeting.greeted isDone isHello fits,
            fun _ => WirePosition.noConfusion⟩
      | some later =>
          simp only [BusState.wirePosition, phase, ConnectorPhase.afterSend]
          exact ⟨fun _ within => within.finishes isDone fits, fun _ => WirePosition.noConfusion⟩
  | @connectorFails call rest phase notDone =>
      have live : state.liveCall = some call := by rw [BusState.liveCall, phase]
      refine kept.fails rfl ?_
      intro fd conn isOpen
      cases rest with
      | none =>
          simp only [BusState.wirePosition, phase, ConnectorPhase.afterFailure]
          exact ⟨fun _ _ => trivial, fun notSpoiled => absurd rfl notSpoiled⟩
      | some later =>
          have unsent := whole rfl call later phase
          simp only [BusState.wirePosition, phase, ConnectorPhase.afterFailure]
          exact ⟨fun _ within => within.untouched unsent, fun _ => ⟨WirePosition.noConfusion,
            fun frame bytes => known.untouched call conn frame bytes live unsent⟩⟩
  | closeRefused phase => exact kept.quietly (isQuiet_closed _ _) (shut (link.closed (.inr phase)))
  | copySnapshot phase =>
      refine kept.quietly (by simp [BusEvent.isQuiet]) (still rfl ?_)
      simp only [BusState.wirePosition, phase]
  | @publish fd phase noClient =>
      refine kept.quietly quiet ?_
      intro other conn isOpen
      have sameFd : other = fd := by
        have isFd := (link.onlyOpen other conn isOpen).1
        rw [phase] at isFd
        exact (Option.some.inj isFd).symm
      have notHeld : state.writer.held ≠ some fd := by
        intro holds
        have exposed := held.exposed link holds (sameFd ▸ isOpen)
        rw [phase] at exposed
        cases exposed
      have between : state.writer.position fd = .between := by
        cases writerEq : state.writer with
        | waiting | loaded heldFd frame => rfl
        | sending call =>
            rw [writerEq] at notHeld
            exact if_neg fun same => notHeld (congrArg some same)
        | failed heldFd =>
            rw [writerEq] at notHeld
            exact if_neg fun same => notHeld (congrArg some same)
      simp only [BusState.wirePosition, phase, between]
      exact ⟨isOpen, fun _ described => described, fun notSpoiled => notSpoiled⟩
  | replace phase isCurrent =>
      rw [link.hidden (by rw [phase]; rfl)] at isCurrent
      cases isCurrent
  | noticeDrop phase notCurrent =>
      exact kept.quietly quiet
        (shut (link.nothing_open (by rw [phase]; rfl) (by rw [phase]; rfl) notCurrent).2)
  | peerClosed phase =>
      refine kept.quietly quiet (still rfl ?_)
      simp only [BusState.wirePosition, phase]
  | dropCurrent phase isCurrent =>
      exact kept.quietly (isQuiet_closed _ _) (shut (link.closed (.inl isCurrent)))
  | dropNothing phase notCurrent =>
      exact kept.quietly quiet
        (shut (link.nothing_open (by rw [phase]; rfl) (by rw [phase]; rfl) notCurrent).2)
  | dequeue idle ringEq isCurrent =>
      rw [List.append_nil]
      refine kept.writer_moves link rfl rfl ?_
      intro fd conn _ _
      rw [idle]
      exact ⟨fun _ described => described, fun notSpoiled => notSpoiled⟩
  | @writerBegins fd frame phase isFree =>
      rw [List.append_nil]
      refine kept.writer_moves link rfl rfl ?_
      intro other conn _ _
      rw [phase]
      by_cases same : fd = other
      · simp only [WriterPhase.position, BusState.startCall, same, if_true]
        exact ⟨fun _ between => between.begins _ _ _, fun _ => WirePosition.noConfusion⟩
      · simp only [WriterPhase.position, BusState.startCall, same, if_false]
        exact ⟨fun _ described => described, fun notSpoiled => notSpoiled⟩
  | @writerSends count conn call after bytes phase isOpen advanced =>
      have moved := SendCall.advance_spec advanced
      have live := BusState.liveCall_of_writer known.one phase
      have fits := fit.writer call.frame (by rw [phase]; exact List.mem_cons_self)
      have exposed := held.exposed link (by rw [phase]; rfl) isOpen
      have isFd := (link.onlyOpen call.fd conn isOpen).1
      refine kept.sends link known live isOpen moved fits rfl (.inr ⟨?_, ?_⟩)
      · rw [BusState.wirePosition_of_exposed exposed isFd, phase]
        exact if_pos rfl
      · rw [@BusState.wirePosition_of_exposed { state with writer := .sending after } _ exposed isFd]
        exact if_pos moved.fd
  | @writerFinishes call phase isDone =>
      have fits := fit.writer call.frame (by rw [phase]; exact List.mem_cons_self)
      rw [List.append_nil]
      refine kept.writer_moves link rfl rfl ?_
      intro fd conn _ _
      rw [phase]
      by_cases same : call.fd = fd
      · simp only [WriterPhase.position, same, if_true]
        exact ⟨fun _ within => within.finishes isDone fits, fun _ => WirePosition.noConfusion⟩
      · simp only [WriterPhase.position, same, if_false]
        exact ⟨fun _ described => described, fun notSpoiled => notSpoiled⟩
  | @writerFails call phase notDone =>
      have live := BusState.liveCall_of_writer known.one phase
      refine kept.fails rfl ?_
      intro fd conn isOpen
      obtain ⟨isFd, current⟩ := link.onlyOpen fd conn isOpen
      cases exposed : state.connector.isExposed with
      | false =>
          rw [@BusState.wirePosition_of_hidden state { state with writer := .failed call.fd }
            exposed rfl]
          refine ⟨fun _ described => described, fun notSpoiled => ⟨notSpoiled, ?_⟩⟩
          intro frame bytes wrote
          have sameFd := home call conn fd frame bytes live wrote isOpen
          have isExposed := @HeldIsCurrent.exposed state held link call.fd conn (by rw [phase]; rfl)
            (sameFd ▸ isOpen)
          rw [exposed] at isExposed
          cases isExposed
      | true =>
          rw [BusState.wirePosition_of_exposed exposed isFd,
            @BusState.wirePosition_of_exposed { state with writer := .failed call.fd } _ exposed
              isFd, phase]
          by_cases same : call.fd = fd
          · simp only [WriterPhase.position, same, if_true]
            exact ⟨fun _ _ => trivial, fun notSpoiled => absurd rfl notSpoiled⟩
          · simp only [WriterPhase.position, same, if_false]
            refine ⟨fun _ described => described, fun notSpoiled => ⟨notSpoiled, ?_⟩⟩
            intro frame bytes wrote
            exact same (home call conn fd frame bytes live wrote isOpen).symm
  | writerCloses phase isCurrent =>
      exact kept.quietly (isQuiet_closed _ _) (shut (link.closed (.inl isCurrent)))
  | @writerDrops fd phase notCurrent =>
      rw [List.append_nil]
      refine kept.writer_moves link rfl rfl ?_
      intro other conn _ isCurrent
      rw [phase]
      have different : fd ≠ other := by
        rintro rfl
        exact notCurrent isCurrent
      simp only [WriterPhase.position, different, if_false]
      exact ⟨fun _ described => described, fun notSpoiled => notSpoiled⟩

def noteWriterFailure (last : Option Nat) : BusEvent → Option Nat
  | .sendFailed .writer _ conn => conn
  | _ => last

/-- The connection on which the writer failed last. -/
def lastWriterFailure (past : List BusEvent) : Option Nat :=
  past.foldl noteWriterFailure none

/-- The wire of a whole run: every connection is well framed, nothing follows a
truncated frame, a frame stays on one connection, and the writer closes no
connection but the one that it failed on. -/
structure WireIntact (history : List BusEvent) : Prop where
  framed : ∀ conn, FramedOn conn history
  nothingAfterTruncation : Always (fun past event => ∀ call conn frame bytes,
    event = .wrote call conn frame bytes → ¬TruncatedOn conn past) history
  oneConnection : OneConnectionPerCall history
  ownClose : Always (fun past event => ∀ conn, event = .closed .writer conn →
    lastWriterFailure past = some conn) history

/-- A replayed frame only fails before any of it is written, and `connect` does
not return a number that the writer still holds. -/
def wireSafe (state : BusState) : BusLabel → Bool
  | .connectorFails =>
      match state.connector with
      | .sending call (some _) => decide (call.buffers = call.frame.buffers)
      | _ => true
  | .connect fd => decide (state.writer.held ≠ some fd)
  | _ => true

theorem replaysWhole_of_safe {state : BusState} {label : BusLabel}
    (safe : wireSafe state label = true) : ReplaysWhole state label := by
  rintro rfl call rest phase
  simpa [wireSafe, phase] using safe

theorem connectsFresh_of_safe {state : BusState} {label : BusLabel}
    (safe : wireSafe state label = true) : ConnectsFresh state label := by
  rintro fd rfl
  simpa [wireSafe] using safe

/-- While the writer has a failed descriptor, the connection behind it is the
one that it failed on. -/
def FailureKnown (state : BusState) (history : List BusEvent) : Prop :=
  ∀ fd conn, state.writer = .failed fd → state.fds fd = some conn →
    lastWriterFailure history = some conn

theorem lastWriterFailure_of_quiet {events : List BusEvent}
    (quiet : ∀ event ∈ events, event.isQuiet = true) (history : List BusEvent) :
    lastWriterFailure (history ++ events) = lastWriterFailure history := by
  unfold lastWriterFailure
  rw [List.foldl_append]
  induction events with
  | nil => rfl
  | cons event events ih =>
      have same : noteWriterFailure (history.foldl noteWriterFailure none) event =
          history.foldl noteWriterFailure none := by
        have isQuiet := quiet event List.mem_cons_self
        cases event with
        | sendFailed => cases isQuiet
        | _ => rfl
      rw [List.foldl_cons, same]
      exact ih fun later member => quiet later (List.mem_cons_of_mem event member)

theorem BusStep.failureKnown {state next : BusState} {label : BusLabel}
    {history events : List BusEvent} (step : BusStep state label next events)
    (fresh : ConnectsFresh state label) (known : FailureKnown state history) :
    FailureKnown next (history ++ events) := by
  have opens : next.writer = state.writer → ∀ fd conn, next.writer = .failed fd →
      next.fds fd = some conn → state.fds fd = some conn := by
    intro sameWriter fd conn failed isOpen
    rcases step.fds_cases with ⟨-, closes⟩ | ⟨-, opened, isConnect, opens⟩
    · exact closes fd conn isOpen
    · have different : fd ≠ opened := by
        rintro rfl
        exact fresh fd isConnect (by rw [← sameWriter, failed]; rfl)
      rwa [opens, Function.update_of_ne different] at isOpen
  have keeps : next.writer = state.writer → (∀ event ∈ events, event.isQuiet = true) →
      FailureKnown next (history ++ events) := by
    intro sameWriter quiet fd conn failed isOpen
    rw [lastWriterFailure_of_quiet quiet]
    exact known fd conn (sameWriter ▸ failed) (opens sameWriter fd conn failed isOpen)
  cases step with
  | writerFails phase notDone =>
      intro fd conn failed isOpen
      cases failed
      rw [lastWriterFailure, List.foldl_append]
      exact isOpen
  | connectorFails phase notDone =>
      intro fd conn failed isOpen
      rw [lastWriterFailure, List.foldl_append]
      exact known fd conn failed isOpen
  | @connectorSends count written call after bytes rest phase isOpen advanced =>
      intro fd conn failed stillOpen
      have unchanged : lastWriterFailure (history ++ after.written written bytes) =
          lastWriterFailure history := by
        rw [lastWriterFailure, List.foldl_append, SendCall.written]
        split <;> rfl
      rw [unchanged]
      exact known fd conn failed stillOpen
  | setSticky =>
      refine keeps ?_ (by simp)
      unfold BusState.busSetSticky
      split <;> rfl
  | full | queued | copySnapshot => exact keeps rfl (by simp [BusEvent.isQuiet])
  | closeRefused | replace | dropCurrent => exact keeps rfl (isQuiet_closed _ _)
  | dequeue | writerBegins | writerSends | writerFinishes | writerCloses | writerDrops =>
      intro fd conn failed
      cases failed
  | _ => exact keeps rfl (by simp)

/-- What the steps of a safe run keep. -/
structure SafeWire (state : BusState) (history : List BusEvent) : Prop where
  link : OneLink state
  held : HeldIsCurrent state
  within : CallsWithin state
  known : CallsKnown state history
  stays : LiveCallStays state history
  home : LiveCallHome state history
  fit : FramesFit state
  kept : WireKept state history
  failure : FailureKnown state history
  intact : WireIntact history

theorem framedOn_nil (conn : Nat) : FramedOn conn [] := by
  have greets : BusFrame.IsHello ⟨evtHello, 0, 0, BusState.helloPayload⟩ := ⟨rfl, rfl⟩
  refine ⟨_, conversation_hello greets ?_, List.nil_prefix⟩
  exact ⟨show evtHello < 2 ^ 16 by decide, show 0 < 2 ^ 32 by decide,
    show BusState.helloPayload.length ≤ busMaxPayload by decide⟩

theorem safeWire_initial : SafeWire .initial [] := by
  refine ⟨busThreads_oneLink (@TracedSystem.RunWithin.start _ _ _ busThreads fun _ _ _ => True),
    heldIsCurrent_of_idle rfl, ?_, ?_, ?_, ?_, ?_, ?_, ?_, ?_⟩
  · intro call live
    cases live
  · refine ⟨?_, ?_, ?_, ?_, ?_, ?_⟩
    · intro call rest other sending
      cases sending
    · intro call conn frame bytes member
      cases member
    · intro sender call conn member
      cases member
    · intro call live
      cases live
    · intro call sender conn live
      cases live
    · intro call conn frame bytes live
      cases live
  · intro call conn other frame bytes live
    cases live
  · intro call conn fd frame bytes live
    cases live
  · refine ⟨show 1 < 2 ^ 32 by decide, ?_, ?_, ?_, trivial, ?_⟩
    · intro frame member
      cases member
    · intro type frame isLast
      cases isLast
    · intro frame member
      cases member
    · intro frame member
      cases member
  · refine ⟨?_, ?_, framedOn_nil⟩
    · intro fd conn isOpen
      cases isOpen
    · intro fd conn isOpen
      cases isOpen
  · intro fd conn failed
    cases failed
  · refine ⟨framedOn_nil, always_nil _, ?_, always_nil _⟩
    intro call first second frame other bytes part member
    cases member

theorem wirePosition_of_live {state : BusState} (link : OneLink state)
    (held : HeldIsCurrent state) {call : SendCall} {conn : Nat}
    (live : state.liveCall = some call) (isOpen : state.fds call.fd = some conn) :
    state.wirePosition ≠ .spoiled := by
  rcases BusState.liveCall_fd live with holds | ⟨rest, phase⟩
  · have exposed := held.exposed link holds isOpen
    unfold BusState.liveCall at live
    split at live
    · rename_i phase
      rw [phase] at exposed
      cases exposed
    · split at live
      · rename_i phase
        rw [Option.some.injEq] at live
        rw [BusState.wirePosition_of_exposed exposed (link.onlyOpen call.fd conn isOpen).1, phase,
          live, WriterPhase.position, if_pos rfl]
        exact WirePosition.noConfusion
      · cases live
  · unfold BusState.wirePosition
    rw [phase]
    cases rest <;> exact WirePosition.noConfusion

theorem TruncatedOn.mono {conn : Nat} {past later : List BusEvent}
    (truncated : TruncatedOn conn past) (grows : past ⊆ later) : TruncatedOn conn later := by
  obtain ⟨call, frame, bytes, sender, failedOn, wrote, failed⟩ := truncated
  exact ⟨call, frame, bytes, sender, failedOn, grows wrote, grows failed⟩

/-- The writer closes the connection behind the descriptor that it failed on. -/
theorem BusStep.writer_closed {state next : BusState} {label : BusLabel}
    {events : List BusEvent} (step : BusStep state label next events) {conn : Nat}
    (member : .closed .writer conn ∈ events) :
    events = [.closed .writer conn] ∧
      ∃ fd, state.writer = .failed fd ∧ state.fds fd = some conn := by
  cases step with
  | connectorSends phase isOpen advanced | writerSends phase isOpen advanced =>
      unfold SendCall.written at member
      split at member <;> simp at member
  | closeRefused | replace | dropCurrent => simp at member
  | @writerCloses fd phase isCurrent =>
      rw [Option.mem_toList, Option.map_eq_some_iff] at member
      obtain ⟨other, isOpen, same⟩ := member
      simp only [BusEvent.closed.injEq, true_and] at same
      rw [isOpen, same]
      exact ⟨rfl, fd, phase, same ▸ isOpen⟩
  | _ => simp at member

theorem BusStep.wireIntact {state next : BusState} {label : BusLabel}
    {history events : List BusEvent} (step : BusStep state label next events)
    (safe : SafeWire state history) (kept : WireKept next (history ++ events)) :
    WireIntact (history ++ events) := by
  refine ⟨kept.framed, ?_, step.oneConnectionPerCall safe.known safe.stays
    safe.intact.oneConnection, ?_⟩
  · refine safe.intact.nothingAfterTruncation.append ?_
    rintro past event future eventsEq id conn frame part rfl truncated
    have member : .wrote id conn frame part ∈ events := by
      rw [eventsEq]
      simp
    cases step.callStep safe.known.one with
    | quiet _ _ quiet => exact not_mem_of_quiet quiet rfl member
    | begins _ _ _ _ _ noEvents | finishes _ _ _ noEvents | fails _ _ _ _ noEvents =>
        rw [noEvents] at member
        simp at member
    | @sends call after other bytes live _ _ advanced isOpen written =>
        rw [written] at member
        obtain ⟨-, rfl, -, -⟩ := SendCall.wrote_mem_written member
        have grows : history ++ past ⊆ history ++ after.written conn bytes := by
          rw [← written, eventsEq, ← List.append_assoc]
          exact List.subset_append_left _ _
        exact safe.kept.whole call.fd conn isOpen
          (wirePosition_of_live safe.link safe.held live isOpen)
          (truncatedOn_of_written safe.known live advanced.id (truncated.mono grows))
  · refine safe.intact.ownClose.append ?_
    rintro past event future eventsEq conn rfl
    have member : .closed .writer conn ∈ events := by
      rw [eventsEq]
      simp
    obtain ⟨only, fd, failed, isOpen⟩ := step.writer_closed member
    rw [only] at eventsEq
    have noPast : past = [] := by
      have lengths := congrArg List.length eventsEq
      rw [List.length_append, List.length_singleton, List.length_cons] at lengths
      exact List.length_eq_zero_iff.mp (by omega)
    rw [noPast, List.append_nil]
    exact safe.failure fd conn failed isOpen

theorem BusStep.safeWire {state next : BusState} {label : BusLabel}
    {history events : List BusEvent} (step : BusStep state label next events)
    (whole : ReplaysWhole state label) (fresh : ConnectsFresh state label)
    (safe : SafeWire state history) : SafeWire next (history ++ events) := by
  have kept := step.wireKept safe.link safe.held safe.home safe.known safe.fit whole safe.kept
  exact {
    link := step.oneLink safe.link
    held := step.heldIsCurrent safe.link fresh safe.held
    within := (step.callStep safe.known.one).within safe.within
    known := step.callsKnown safe.link safe.within safe.known
    stays := step.liveCallStays fresh safe.known safe.stays
    home := step.liveCallHome safe.link safe.known safe.home
    fit := step.framesFit safe.fit
    kept := kept
    failure := step.failureKnown fresh safe.failure
    intact := step.wireIntact safe kept }

theorem wire_stays_intact {state : BusState} {history : List BusEvent}
    (run : busThreads.RunWithin (fun state _ label => wireSafe state label = true)
      state history) : WireIntact history := by
  refine (run.invariant SafeWire safeWire_initial ?_).intact
  intro before after past events label safe allowed stepTo
  exact (busStep_cases stepTo).safeWire (replaysWhole_of_safe allowed)
    (connectsFresh_of_safe allowed) safe

/-- Connect as descriptor 0 and greet. -/
def greetLabels : List BusLabel :=
  [.connect 0, .takeHelloSeq, .connectorBegins, .connectorSends 16, .connectorSends 28,
    .connectorFinishes, .copySnapshot]

theorem wire_stays_intact_after_writer_failure : ∃ state history,
    busThreads.RunWithin (fun state _ label => wireSafe state label = true) state history ∧
      TruncatedOn 0 history ∧ .closed .writer 0 ∈ history ∧ WireIntact history := by
  obtain ⟨state, history, run, checked⟩ := busThreads.exists_runWithin_of_replay wireSafe
    ([.send 16 0 [7]] ++ greetLabels ++
      [.connectorBegins, .connectorSends 16, .connectorFinishes,
        .connectorBegins, .connectorSends 16, .connectorFinishes, .publish,
        .dequeue, .writerBegins, .writerSends 5, .writerFails, .writerCloses])
    (fun (_, history) => decide (.closed .writer 0 ∈ history ∧
      .wrote 3 0 ⟨16, 0, 1, [7]⟩ ((BusFrame.header ⟨16, 0, 1, [7]⟩).take 5) ∈ history ∧
      .sendFailed .writer 3 (some 0) ∈ history))
    (by decide +kernel)
  obtain ⟨closes, wrote, failed⟩ := of_decide_eq_true checked
  exact ⟨state, history, run, ⟨3, _, _, _, _, wrote, failed⟩, closes, wire_stays_intact run⟩

/-- `SYNC_BEGIN` is cut short and `SYNC_END` follows it. -/
theorem ignored_failure_breaks_wire : ∃ state history, busThreads.Run state history ∧
    ¬WireIntact history := by
  obtain ⟨state, history, run, checked⟩ := busThreads.exists_run_of_replay
    (greetLabels ++ [.connectorBegins, .connectorSends 5, .connectorFails, .connectorBegins,
      .connectorSends 16])
    (fun (_, history) => decide (history.drop 6 =
        [.wrote 2 0 ⟨evtSyncEnd, 0, 3, []⟩ (BusFrame.header ⟨evtSyncEnd, 0, 3, []⟩),
          .delivered 0 ⟨evtSyncEnd, 0, 3, []⟩] ∧
      .wrote 1 0 ⟨evtSyncBegin, 0, 2, []⟩ ((BusFrame.header ⟨evtSyncBegin, 0, 2, []⟩).take 5) ∈
        history.take 6 ∧
      .sendFailed .connector 1 (some 0) ∈ history.take 6))
    (by decide +kernel)
  obtain ⟨later, wrote, failed⟩ := of_decide_eq_true checked
  refine ⟨state, history, run, fun intact => ?_⟩
  have split := (List.take_append_drop 6 history).symm
  rw [later] at split
  exact intact.nothingAfterTruncation _ _ _ split 2 0 _ _ rfl ⟨1, _, _, _, _, wrote, failed⟩

/-- The writer's descriptor is closed and handed out again in the middle of a
frame. -/
theorem reused_descriptor_breaks_wire : ∃ state history, busThreads.Run state history ∧
    ¬WireIntact history := by
  obtain ⟨state, history, run, checked⟩ := busThreads.exists_run_of_replay
    ([.send 16 0 []] ++ greetLabels ++
      [.connectorBegins, .connectorSends 16, .connectorFinishes,
        .connectorBegins, .connectorSends 16, .connectorFinishes, .publish,
        .dequeue, .writerBegins, .writerSends 8, .peerClosed, .dropCurrent,
        .connect 0, .writerSends 8])
    (fun (_, history) => decide (
      .wrote 3 0 ⟨16, 0, 1, []⟩ ((BusFrame.header ⟨16, 0, 1, []⟩).take 8) ∈ history ∧
      .wrote 3 1 ⟨16, 0, 1, []⟩ ((BusFrame.header ⟨16, 0, 1, []⟩).drop 8) ∈ history))
    (by decide +kernel)
  obtain ⟨first, second⟩ := of_decide_eq_true checked
  refine ⟨state, history, run, fun intact => ?_⟩
  exact absurd (intact.oneConnection 3 0 1 _ _ _ _ first second) (by decide)

end CarplayRgi
