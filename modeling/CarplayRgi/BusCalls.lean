import CarplayRgi.BusThreads

/-!
# The calls of `send_frame`

`g_sock_write` admits one call at a time.  So a step begins a call, writes
bytes of the one that is live, ends it, or has nothing to do with it.  A call
whose descriptor is not reused while it is held writes to one connection.
-/

namespace CarplayRgi

/-- The descriptor that the writer took with a frame. -/
def WriterPhase.held : WriterPhase → Option Nat
  | .waiting => none
  | .loaded fd _ => some fd
  | .sending call => some call.fd
  | .failed fd => some fd

/-- The call that holds `g_sock_write`. -/
def BusState.liveCall (state : BusState) : Option SendCall :=
  match state.connector with
  | .sending call _ => some call
  | _ =>
      match state.writer with
      | .sending call => some call
      | _ => none

theorem BusState.liveCall_of_free {state : BusState} (isFree : state.wireIsFree = true) :
    state.liveCall = none := by
  unfold wireIsFree at isFree
  unfold liveCall
  rw [Bool.and_eq_true] at isFree
  obtain ⟨connectorFree, writerFree⟩ := isFree
  split
  · rename_i phase
    rw [phase] at connectorFree
    cases connectorFree
  · split
    · rename_i phase
      rw [phase] at writerFree
      cases writerFree
    · rfl

/-- The two threads never both have a call. -/
def OneCall (state : BusState) : Prop :=
  ∀ call rest other, state.connector = .sending call rest → state.writer ≠ .sending other

/-- An event that neither writes bytes nor ends a call. -/
def BusEvent.isQuiet : BusEvent → Bool
  | .wrote _ _ _ _ => false
  | .delivered _ _ => false
  | .sendFailed _ _ _ => false
  | _ => true

/-- What a step does to the live call. -/
inductive CallStep (before after : BusState) (events : List BusEvent) : Prop
  | quiet : after.liveCall = before.liveCall → after.calls = before.calls →
      (∀ event ∈ events, event.isQuiet = true) → CallStep before after events
  | begins (fd : Nat) (frame : BusFrame) : before.liveCall = none →
      after.liveCall = some (before.startCall fd frame) → after.calls = before.calls + 1 →
      events = [] → CallStep before after events
  | sends {call next : SendCall} {conn : Nat} {bytes : List UInt8} :
      before.liveCall = some call → after.liveCall = some next → after.calls = before.calls →
      call.Advanced bytes next → before.fds call.fd = some conn →
      events = next.written conn bytes → CallStep before after events
  | finishes {call : SendCall} : before.liveCall = some call → after.liveCall = none →
      after.calls = before.calls → events = [] → CallStep before after events
  | fails (sender : Sender) {call : SendCall} : before.liveCall = some call →
      after.liveCall = none → after.calls = before.calls →
      events = [.sendFailed sender call.id (before.fds call.fd)] → CallStep before after events

theorem isQuiet_closed (sender : Sender) (conn : Option Nat) :
    ∀ event ∈ (conn.map (BusEvent.closed sender)).toList, event.isQuiet = true := by
  cases conn <;> simp [BusEvent.isQuiet]

/-- The phases in which the connector has no call. -/
theorem BusState.liveCall_of_connector {state : BusState}
    (phase : ∀ call rest, state.connector ≠ .sending call rest) :
    state.liveCall = match state.writer with
      | .sending call => some call
      | _ => none := by
  unfold liveCall
  split
  · rename_i call rest connectorEq
    exact absurd connectorEq (phase call rest)
  · rfl

theorem BusState.liveCall_of_writer {state : BusState} (one : OneCall state) {call : SendCall}
    (phase : state.writer = .sending call) : state.liveCall = some call := by
  rw [liveCall_of_connector fun other rest sending => one other rest call sending phase, phase]

theorem BusState.liveCall_none_of_writer {state : BusState} {next : WriterPhase}
    (phase : ∀ call rest, state.connector ≠ .sending call rest)
    (idle : ∀ call, next ≠ .sending call) :
    BusState.liveCall { state with writer := next } = none := by
  rw [@liveCall_of_connector { state with writer := next } phase]
  cases next with
  | sending call => exact absurd rfl (idle call)
  | _ => rfl

/-- The connector has no call while the writer has one. -/
theorem OneCall.connector {state : BusState} (one : OneCall state) {call : SendCall}
    (phase : state.writer = .sending call) :
    ∀ other rest, state.connector ≠ .sending other rest :=
  fun other rest sending => one other rest call sending phase

theorem OneCall.of_connector {state : BusState} {phase : ConnectorPhase}
    (hidden : ∀ call rest, phase ≠ .sending call rest) :
    OneCall { state with connector := phase } :=
  fun call rest _ sending => absurd sending (hidden call rest)

theorem OneCall.congr {before after : BusState} (one : OneCall before)
    (connector : after.connector = before.connector) (writer : after.writer = before.writer) :
    OneCall after := by
  unfold OneCall
  rw [connector, writer]
  exact one

theorem BusState.liveCall_congr {before after : BusState}
    (connector : after.connector = before.connector) (writer : after.writer = before.writer) :
    after.liveCall = before.liveCall := by
  unfold liveCall
  rw [connector, writer]

theorem ConnectorPhase.afterSend_ne_sending (fd : Nat) (rest : Option (List BusFrame))
    (call : SendCall) (later : Option (List BusFrame)) : afterSend fd rest ≠ .sending call later := by
  cases rest <;> exact ConnectorPhase.noConfusion

theorem ConnectorPhase.afterFailure_ne_sending (fd : Nat) (rest : Option (List BusFrame))
    (call : SendCall) (later : Option (List BusFrame)) :
    afterFailure fd rest ≠ .sending call later := by
  cases rest <;> exact ConnectorPhase.noConfusion

theorem BusState.writer_of_free {state : BusState} (isFree : state.wireIsFree = true)
    (call : SendCall) : state.writer ≠ .sending call := by
  intro sending
  simp [wireIsFree, sending] at isFree

theorem BusState.connector_of_free {state : BusState} (isFree : state.wireIsFree = true)
    (call : SendCall) (rest : Option (List BusFrame)) :
    state.connector ≠ .sending call rest := by
  intro sending
  simp [wireIsFree, sending] at isFree

theorem BusStep.oneCall {state next : BusState} {label : BusLabel} {events : List BusEvent}
    (step : BusStep state label next events) (one : OneCall state) : OneCall next := by
  cases step with
  | setSticky =>
      unfold BusState.busSetSticky
      split
      · exact one
      · exact one.congr rfl rfl
  | connectorBegins isNext isFree =>
      intro call rest other _ sending
      exact BusState.writer_of_free isFree other sending
  | connectorSends phase isOpen advanced =>
      intro call rest other _ sending
      exact one _ _ other phase sending
  | connectorFinishes phase isDone =>
      exact OneCall.of_connector (ConnectorPhase.afterSend_ne_sending _ _)
  | connectorFails phase notDone =>
      exact OneCall.of_connector (ConnectorPhase.afterFailure_ne_sending _ _)
  | writerBegins phase isFree =>
      intro call rest other sending _
      exact BusState.connector_of_free isFree call rest sending
  | writerSends phase isOpen advanced =>
      intro call rest other sending _
      exact one call rest _ sending phase
  | rejected => exact one
  | full | queued => exact one.congr rfl rfl
  | dequeue | writerFinishes | writerFails | writerCloses | writerDrops =>
      exact fun _ _ _ _ => WriterPhase.noConfusion
  | _ => exact fun _ _ _ sending => ConnectorPhase.noConfusion sending

theorem BusStep.callStep {state next : BusState} {label : BusLabel} {events : List BusEvent}
    (step : BusStep state label next events) (one : OneCall state) :
    CallStep state next events := by
  cases step with
  | rejected => exact .quiet rfl rfl (by simp)
  | full | queued => exact .quiet (BusState.liveCall_congr rfl rfl) rfl (by simp [BusEvent.isQuiet])
  | setSticky =>
      refine .quiet ?_ ?_ (by simp)
      all_goals
        unfold BusState.busSetSticky
        split <;> rfl
  | connectorBegins isNext isFree =>
      exact .begins _ _ (BusState.liveCall_of_free isFree) rfl rfl rfl
  | connectorSends phase isOpen advanced =>
      exact .sends (by rw [BusState.liveCall, phase]) rfl rfl (SendCall.advance_spec advanced)
        isOpen rfl
  | @connectorFinishes call rest phase isDone =>
      refine .finishes (by rw [BusState.liveCall, phase]) ?_ rfl rfl
      rw [BusState.liveCall_of_connector (ConnectorPhase.afterSend_ne_sending _ _)]
      split
      · rename_i other sending
        exact absurd sending (one call rest other phase)
      · rfl
  | @connectorFails call rest phase notDone =>
      refine .fails .connector (by rw [BusState.liveCall, phase]) ?_ rfl rfl
      rw [BusState.liveCall_of_connector (ConnectorPhase.afterFailure_ne_sending _ _)]
      split
      · rename_i other sending
        exact absurd sending (one call rest other phase)
      · rfl
  | @writerBegins fd frame phase isFree =>
      refine .begins fd frame (BusState.liveCall_of_free isFree) ?_ rfl rfl
      exact BusState.liveCall_of_connector fun call rest =>
        BusState.connector_of_free isFree call rest
  | writerSends phase isOpen advanced =>
      refine .sends (BusState.liveCall_of_writer one phase) ?_ rfl
        (SendCall.advance_spec advanced) isOpen rfl
      exact BusState.liveCall_of_connector (one.connector phase)
  | writerFinishes phase isDone =>
      exact .finishes (BusState.liveCall_of_writer one phase)
        (BusState.liveCall_none_of_writer (one.connector phase) fun _ => WriterPhase.noConfusion)
        rfl rfl
  | writerFails phase notDone =>
      exact .fails .writer (BusState.liveCall_of_writer one phase)
        (BusState.liveCall_none_of_writer (one.connector phase) fun _ => WriterPhase.noConfusion)
        rfl rfl
  | dequeue idle ringEq isCurrent =>
      refine .quiet ?_ rfl (by simp)
      simp [BusState.liveCall, idle]
  | writerCloses phase isCurrent =>
      refine .quiet ?_ rfl (isQuiet_closed _ _)
      simp [BusState.liveCall, phase]
  | writerDrops phase notCurrent =>
      refine .quiet ?_ rfl (by simp)
      simp [BusState.liveCall, phase]
  | copySnapshot phase =>
      refine .quiet ?_ rfl (by simp [BusEvent.isQuiet])
      simp [BusState.liveCall, phase]
  | closeRefused phase =>
      refine .quiet ?_ rfl (isQuiet_closed _ _)
      simp [BusState.liveCall, phase]
  | dropCurrent phase isCurrent =>
      refine .quiet ?_ rfl (isQuiet_closed _ _)
      simp [BusState.liveCall, phase]
  | replace phase isCurrent =>
      refine .quiet ?_ rfl (isQuiet_closed _ _)
      simp [BusState.liveCall, phase]
  | connect phase | takeHelloSeq phase | publish phase | noticeDrop phase | peerClosed phase
  | dropNothing phase =>
      refine .quiet ?_ rfl (by simp)
      simp [BusState.liveCall, phase]

/-- A step opens no descriptor, or opens one for a new connection. -/
theorem BusStep.fds_cases {state next : BusState} {label : BusLabel} {events : List BusEvent}
    (step : BusStep state label next events) :
    (next.connections = state.connections ∧
      ∀ fd conn, next.fds fd = some conn → state.fds fd = some conn) ∨
    (next.connections = state.connections + 1 ∧ ∃ fd, label = .connect fd ∧
      next.fds = Function.update state.fds fd (some state.connections)) := by
  have closes : ∀ closed fd conn, BusState.closeFd closed state fd = some conn →
      state.fds fd = some conn := by
    intro closed fd conn isOpen
    unfold BusState.closeFd at isOpen
    by_cases same : fd = closed
    · rw [same, Function.update_self] at isOpen
      cases isOpen
    · rwa [Function.update_of_ne same] at isOpen
  cases step with
  | connect phase isClosed => exact .inr ⟨rfl, _, rfl, rfl⟩
  | closeRefused | replace | dropCurrent | writerCloses => exact .inl ⟨rfl, closes _⟩
  | setSticky =>
      unfold BusState.busSetSticky
      split <;> exact .inl ⟨rfl, fun _ _ isOpen => isOpen⟩
  | _ => exact .inl ⟨rfl, fun _ _ isOpen => isOpen⟩

/-- The numbers of calls and connections are new when they are handed out, a
live call has not failed, and it has written nothing while its buffers are
whole. -/
structure CallsKnown (state : BusState) (history : List BusEvent) : Prop where
  one : OneCall state
  wrote : ∀ call conn frame bytes, .wrote call conn frame bytes ∈ history →
    call < state.calls ∧ conn < state.connections
  failed : ∀ sender call conn, .sendFailed sender call conn ∈ history → call < state.calls
  live : ∀ call, state.liveCall = some call → call.id < state.calls
  works : ∀ call sender conn, state.liveCall = some call →
    .sendFailed sender call.id conn ∉ history
  untouched : ∀ call conn frame bytes, state.liveCall = some call →
    call.buffers = call.frame.buffers → .wrote call.id conn frame bytes ∉ history

theorem SendCall.wrote_mem_written {call : SendCall} {conn id other : Nat} {frame : BusFrame}
    {bytes part : List UInt8} (member : .wrote id other frame part ∈ call.written conn bytes) :
    id = call.id ∧ other = conn ∧ frame = call.frame ∧ part = bytes := by
  unfold written at member
  split at member
  · simpa using member
  · simpa using member

theorem SendCall.failed_not_mem_written {call : SendCall} {conn id : Nat} {bytes : List UInt8}
    {sender : Sender} {other : Option Nat} :
    .sendFailed sender id other ∉ call.written conn bytes := by
  unfold written
  split <;> simp

/-- A live call has something left of its frame or nothing at all, so a call
that has moved no longer has its first buffers. -/
theorem SendCall.Advanced.buffers_ne {call next : SendCall} {bytes : List UInt8}
    (advanced : call.Advanced bytes next)
    (within : ∃ taken, taken ++ call.buffers.flatten = call.frame.bytes) :
    next.buffers ≠ next.frame.buffers := by
  intro whole
  obtain ⟨taken, split⟩ := within
  have lengths := congrArg List.length split
  have moved := congrArg List.length advanced.bytes
  have positive := List.length_pos_iff.mpr advanced.moved
  rw [whole, BusFrame.flatten_buffers, advanced.frame] at moved
  rw [List.length_append] at lengths moved
  omega

/-- What is left of the live call's frame. -/
def CallsWithin (state : BusState) : Prop :=
  ∀ call, state.liveCall = some call → ∃ taken, taken ++ call.buffers.flatten = call.frame.bytes

theorem CallStep.within {before after : BusState} {events : List BusEvent}
    (step : CallStep before after events) (within : CallsWithin before) : CallsWithin after := by
  intro call live
  cases step with
  | quiet liveEq _ _ => exact within call (liveEq ▸ live)
  | begins fd frame _ liveEq =>
      rw [liveEq, Option.some.injEq] at live
      rw [← live]
      exact ⟨[], frame.flatten_buffers⟩
  | @sends earlier next conn bytes liveBefore liveEq _ advanced =>
      rw [liveEq, Option.some.injEq] at live
      obtain ⟨taken, split⟩ := within earlier liveBefore
      rw [← live, advanced.frame, ← split, ← advanced.bytes]
      exact ⟨taken ++ bytes, List.append_assoc ..⟩
  | finishes _ liveEq =>
      rw [liveEq] at live
      cases live
  | fails _ _ liveEq =>
      rw [liveEq] at live
      cases live

theorem not_mem_of_quiet {events : List BusEvent}
    (quiet : ∀ event ∈ events, event.isQuiet = true) {event : BusEvent}
    (loud : event.isQuiet = false) : event ∉ events := by
  intro member
  rw [quiet event member] at loud
  cases loud

theorem BusStep.connections_le {state next : BusState} {label : BusLabel}
    {events : List BusEvent} (step : BusStep state label next events) :
    state.connections ≤ next.connections := by
  rcases step.fds_cases with ⟨same, -⟩ | ⟨more, -⟩
  · exact Nat.le_of_eq same.symm
  · omega

theorem BusStep.callsKnown {state next : BusState} {label : BusLabel}
    {history events : List BusEvent} (step : BusStep state label next events)
    (link : OneLink state) (within : CallsWithin state) (known : CallsKnown state history) :
    CallsKnown next (history ++ events) := by
  have grows := step.connections_le
  refine ⟨step.oneCall known.one, ?_, ?_, ?_, ?_, ?_⟩
  · intro call conn frame bytes member
    rcases List.mem_append.mp member with old | new
    · have earlier := known.wrote call conn frame bytes old
      cases step.callStep known.one with
      | quiet _ callsEq _ | sends _ _ callsEq | finishes _ _ callsEq | fails _ _ _ callsEq =>
          rw [callsEq]
          omega
      | begins fd frame _ _ callsEq =>
          rw [callsEq]
          omega
    · cases step.callStep known.one with
      | quiet _ _ quiet => exact absurd new (not_mem_of_quiet quiet rfl)
      | sends live _ callsEq advanced isOpen eventsEq =>
          rw [eventsEq] at new
          obtain ⟨rfl, rfl, -, -⟩ := SendCall.wrote_mem_written new
          rw [callsEq, advanced.id]
          have isKnown := link.known _ _ isOpen
          exact ⟨known.live _ live, by omega⟩
      | begins _ _ _ _ _ eventsEq | finishes _ _ _ eventsEq | fails _ _ _ _ eventsEq =>
          rw [eventsEq] at new
          simp at new
  · intro sender call conn member
    rcases List.mem_append.mp member with old | new
    · have earlier := known.failed sender call conn old
      cases step.callStep known.one with
      | quiet _ callsEq _ | sends _ _ callsEq | finishes _ _ callsEq | fails _ _ _ callsEq =>
          rw [callsEq]
          exact earlier
      | begins fd frame _ _ callsEq =>
          rw [callsEq]
          omega
    · cases step.callStep known.one with
      | quiet _ _ quiet => exact absurd new (not_mem_of_quiet quiet rfl)
      | sends _ _ _ _ _ eventsEq =>
          rw [eventsEq] at new
          exact absurd new SendCall.failed_not_mem_written
      | fails other live _ callsEq eventsEq =>
          rw [eventsEq, List.mem_singleton, BusEvent.sendFailed.injEq] at new
          rw [callsEq, new.2.1]
          exact known.live _ live
      | begins _ _ _ _ _ eventsEq | finishes _ _ _ eventsEq =>
          rw [eventsEq] at new
          simp at new
  · intro call live
    cases step.callStep known.one with
    | quiet liveEq callsEq _ =>
        rw [liveEq] at live
        rw [callsEq]
        exact known.live call live
    | begins fd frame _ liveEq callsEq =>
        rw [liveEq, Option.some.injEq] at live
        rw [callsEq, ← live]
        exact Nat.lt_succ_self _
    | sends liveBefore liveEq callsEq advanced =>
        rw [liveEq, Option.some.injEq] at live
        rw [callsEq, ← live, advanced.id]
        exact known.live _ liveBefore
    | finishes _ liveEq | fails _ _ liveEq =>
        rw [liveEq] at live
        cases live
  · intro call sender conn live member
    cases step.callStep known.one with
    | quiet liveEq _ quiet =>
        rw [liveEq] at live
        rcases List.mem_append.mp member with old | new
        · exact known.works call sender conn live old
        · exact not_mem_of_quiet quiet rfl new
    | begins fd frame _ liveEq _ eventsEq =>
        rw [liveEq, Option.some.injEq] at live
        rw [eventsEq, List.append_nil, ← live] at member
        exact absurd (known.failed sender _ conn member) (Nat.lt_irrefl _)
    | sends liveBefore liveEq _ advanced _ eventsEq =>
        rw [liveEq, Option.some.injEq] at live
        rw [← live, advanced.id] at member
        rcases List.mem_append.mp member with old | new
        · exact known.works _ sender conn liveBefore old
        · rw [eventsEq] at new
          exact SendCall.failed_not_mem_written new
    | finishes _ liveEq | fails _ _ liveEq =>
        rw [liveEq] at live
        cases live
  · intro call conn frame bytes live whole member
    cases step.callStep known.one with
    | quiet liveEq _ quiet =>
        rw [liveEq] at live
        rcases List.mem_append.mp member with old | new
        · exact known.untouched call conn frame bytes live whole old
        · exact not_mem_of_quiet quiet rfl new
    | begins fd other _ liveEq _ eventsEq =>
        rw [liveEq, Option.some.injEq] at live
        rw [eventsEq, List.append_nil, ← live] at member
        exact absurd (known.wrote _ conn frame bytes member).1 (Nat.lt_irrefl _)
    | sends liveBefore liveEq _ advanced _ _ =>
        rw [liveEq, Option.some.injEq] at live
        rw [← live] at whole
        exact advanced.buffers_ne (within _ liveBefore) whole
    | finishes _ liveEq | fails _ _ liveEq =>
        rw [liveEq] at live
        cases live

/-- `connect` does not return a number that the writer still holds. -/
def ConnectsFresh (state : BusState) (label : BusLabel) : Prop :=
  ∀ fd, label = .connect fd → state.writer.held ≠ some fd

/-- If the descriptor that the writer took is open, it is the published one. -/
def HeldIsCurrent (state : BusState) : Prop :=
  ∀ fd conn, state.writer.held = some fd → state.fds fd = some conn → state.client = some fd

theorem HeldIsCurrent.exposed {state : BusState} (held : HeldIsCurrent state)
    (link : OneLink state) {fd conn : Nat} (holds : state.writer.held = some fd)
    (isOpen : state.fds fd = some conn) : state.connector.isExposed = true := by
  by_contra hidden
  have current := held fd conn holds isOpen
  rw [link.hidden (by simpa using hidden)] at current
  cases current

theorem HeldIsCurrent.congr {before after : BusState} (held : HeldIsCurrent before)
    (writer : after.writer.held = before.writer.held) (fds : after.fds = before.fds)
    (client : after.client = before.client) : HeldIsCurrent after := by
  unfold HeldIsCurrent
  rw [writer, fds, client]
  exact held

theorem heldIsCurrent_of_closed {state : BusState} (closed : ∀ fd, state.fds fd = none) :
    HeldIsCurrent state := by
  intro fd conn _ isOpen
  rw [closed] at isOpen
  cases isOpen

theorem heldIsCurrent_of_idle {state : BusState} (idle : state.writer.held = none) :
    HeldIsCurrent state := by
  intro fd conn holds
  rw [idle] at holds
  cases holds

theorem BusStep.heldIsCurrent {state next : BusState} {label : BusLabel}
    {events : List BusEvent} (step : BusStep state label next events) (link : OneLink state)
    (fresh : ConnectsFresh state label) (held : HeldIsCurrent state) : HeldIsCurrent next := by
  cases step with
  | setSticky =>
      unfold BusState.busSetSticky
      split
      · exact held
      · exact held.congr rfl rfl rfl
  | @connect fd phase isClosed =>
      intro other conn holds isOpen
      have different : other ≠ fd := by
        rintro rfl
        exact fresh other rfl holds
      dsimp only at isOpen
      rw [Function.update_of_ne different] at isOpen
      exact held other conn holds isOpen
  | closeRefused phase => exact heldIsCurrent_of_closed (link.closed (.inr phase))
  | @publish fd phase noClient =>
      intro other conn holds isOpen
      have exposed := held.exposed link holds isOpen
      rw [phase] at exposed
      cases exposed
  | replace phase isCurrent =>
      rw [link.hidden (by rw [phase]; rfl)] at isCurrent
      cases isCurrent
  | dropCurrent phase isCurrent => exact heldIsCurrent_of_closed (link.closed (.inl isCurrent))
  | dequeue idle ringEq isCurrent =>
      intro other conn holds _
      cases holds
      exact isCurrent
  | writerBegins phase isFree => exact held.congr (by rw [phase]; rfl) rfl rfl
  | writerSends phase isOpen advanced =>
      refine held.congr ?_ rfl rfl
      rw [phase]
      exact congrArg some (SendCall.advance_spec advanced).fd
  | writerFails phase notDone => exact held.congr (by rw [phase]; rfl) rfl rfl
  | writerFinishes | writerCloses | writerDrops => exact heldIsCurrent_of_idle rfl
  | rejected => exact held
  | _ => exact held.congr rfl rfl rfl

/-- The descriptor of the live call is held by the writer, or the connector
works on it. -/
theorem BusState.liveCall_fd {state : BusState} {call : SendCall}
    (live : state.liveCall = some call) :
    state.writer.held = some call.fd ∨ ∃ rest, state.connector = .sending call rest := by
  unfold liveCall at live
  split at live
  · rename_i phase
    rw [Option.some.injEq] at live
    subst live
    exact .inr ⟨_, phase⟩
  · split at live
    · rename_i phase
      rw [Option.some.injEq] at live
      subst live
      exact .inl (by rw [phase]; rfl)
    · cases live

/-- A live call is bound to the connection that it has written to. -/
def LiveCallStays (state : BusState) (history : List BusEvent) : Prop :=
  ∀ call conn other frame bytes, state.liveCall = some call →
    .wrote call.id conn frame bytes ∈ history → state.fds call.fd = some other → conn = other

theorem BusStep.keeps_call_open {state next : BusState} {label : BusLabel}
    {events : List BusEvent} (step : BusStep state label next events)
    (fresh : ConnectsFresh state label) {call : SendCall} (live : state.liveCall = some call)
    {conn : Nat} (isOpen : next.fds call.fd = some conn) : state.fds call.fd = some conn := by
  rcases step.fds_cases with ⟨-, closes⟩ | ⟨-, fd, isConnect, opens⟩
  · exact closes call.fd conn isOpen
  · have different : call.fd ≠ fd := by
      rcases BusState.liveCall_fd live with holds | ⟨rest, phase⟩
      · rintro rfl
        exact fresh call.fd isConnect holds
      · subst isConnect
        cases step with
        | connect connecting => rw [connecting] at phase; cases phase
    rwa [opens, Function.update_of_ne different] at isOpen

theorem BusStep.liveCallStays {state next : BusState} {label : BusLabel}
    {history events : List BusEvent} (step : BusStep state label next events)
    (fresh : ConnectsFresh state label) (known : CallsKnown state history)
    (stays : LiveCallStays state history) : LiveCallStays next (history ++ events) := by
  intro call conn other frame bytes live member isOpen
  cases step.callStep known.one with
  | quiet liveEq _ quiet =>
      rw [liveEq] at live
      rcases List.mem_append.mp member with old | new
      · exact stays call conn other frame bytes live old (step.keeps_call_open fresh live isOpen)
      · exact absurd new (not_mem_of_quiet quiet rfl)
  | begins fd sent _ liveEq _ eventsEq =>
      rw [liveEq, Option.some.injEq] at live
      rw [eventsEq, List.append_nil, ← live] at member
      exact absurd (known.wrote _ conn frame bytes member).1 (Nat.lt_irrefl _)
  | sends liveBefore liveEq _ advanced connOpen eventsEq =>
      rw [liveEq, Option.some.injEq] at live
      subst live
      rw [advanced.fd] at isOpen
      have openBefore := step.keeps_call_open fresh liveBefore isOpen
      rcases List.mem_append.mp member with old | new
      · rw [advanced.id] at old
        exact stays _ conn other frame bytes liveBefore old openBefore
      · rw [eventsEq] at new
        rw [(SendCall.wrote_mem_written new).2.1]
        exact Option.some.inj (connOpen.symm.trans openBefore)
  | finishes _ liveEq | fails _ _ liveEq =>
      rw [liveEq] at live
      cases live

/-- A connection that a live call has written to is open under the call's
descriptor only. -/
def LiveCallHome (state : BusState) (history : List BusEvent) : Prop :=
  ∀ call conn fd frame bytes, state.liveCall = some call →
    .wrote call.id conn frame bytes ∈ history → state.fds fd = some conn → fd = call.fd

theorem OneLink.same_fd {state : BusState} (link : OneLink state) {first second conn other : Nat}
    (firstOpen : state.fds first = some conn) (secondOpen : state.fds second = some other) :
    first = second := by
  have firstFd := (link.onlyOpen first conn firstOpen).1
  rw [(link.onlyOpen second other secondOpen).1, Option.some.injEq] at firstFd
  exact firstFd.symm

theorem BusStep.liveCallHome {state next : BusState} {label : BusLabel}
    {history events : List BusEvent} (step : BusStep state label next events)
    (link : OneLink state) (known : CallsKnown state history)
    (home : LiveCallHome state history) : LiveCallHome next (history ++ events) := by
  intro call conn fd frame bytes live member isOpen
  have openBefore : ∀ id, .wrote id conn frame bytes ∈ history → state.fds fd = some conn := by
    intro id old
    rcases step.fds_cases with ⟨-, closes⟩ | ⟨-, opened, -, opens⟩
    · exact closes fd conn isOpen
    · rw [opens] at isOpen
      by_cases same : fd = opened
      · rw [same, Function.update_self, Option.some.injEq] at isOpen
        have isKnown := (known.wrote id conn frame bytes old).2
        omega
      · rwa [Function.update_of_ne same] at isOpen
  cases step.callStep known.one with
  | quiet liveEq _ quiet =>
      rw [liveEq] at live
      rcases List.mem_append.mp member with old | new
      · exact home call conn fd frame bytes live old (openBefore _ old)
      · exact absurd new (not_mem_of_quiet quiet rfl)
  | begins sentFd sent _ liveEq _ eventsEq =>
      rw [liveEq, Option.some.injEq] at live
      rw [eventsEq, List.append_nil, ← live] at member
      exact absurd (known.wrote _ conn frame bytes member).1 (Nat.lt_irrefl _)
  | sends liveBefore liveEq _ advanced connOpen eventsEq =>
      rw [liveEq, Option.some.injEq] at live
      subst live
      rw [advanced.fd]
      rcases List.mem_append.mp member with old | new
      · have sameId := advanced.id
        rw [sameId] at old
        exact home _ conn fd frame bytes liveBefore old (openBefore _ old)
      · rcases step.fds_cases with ⟨-, closes⟩ | ⟨-, opened, isConnect, -⟩
        · exact link.same_fd (closes fd conn isOpen) connOpen
        · subst isConnect
          cases step with
          | connect => exact absurd eventsEq.symm (List.cons_ne_nil _ _)
  | finishes _ liveEq | fails _ _ liveEq =>
      rw [liveEq] at live
      cases live

/-- All bytes of a call go to one connection. -/
def OneConnectionPerCall (history : List BusEvent) : Prop :=
  ∀ call first second frame other bytes part, .wrote call first frame bytes ∈ history →
    .wrote call second other part ∈ history → first = second

theorem BusStep.oneConnectionPerCall {state next : BusState} {label : BusLabel}
    {history events : List BusEvent} (step : BusStep state label next events)
    (known : CallsKnown state history) (stays : LiveCallStays state history)
    (single : OneConnectionPerCall history) : OneConnectionPerCall (history ++ events) := by
  intro call first second frame other bytes part firstMember secondMember
  cases step.callStep known.one with
  | quiet _ _ quiet =>
      rcases List.mem_append.mp firstMember with firstOld | firstNew
      · rcases List.mem_append.mp secondMember with secondOld | secondNew
        · exact single call first second frame other bytes part firstOld secondOld
        · exact absurd secondNew (not_mem_of_quiet quiet rfl)
      · exact absurd firstNew (not_mem_of_quiet quiet rfl)
  | sends live _ _ advanced isOpen eventsEq =>
      rw [eventsEq] at firstMember secondMember
      rcases List.mem_append.mp firstMember with firstOld | firstNew
      · rcases List.mem_append.mp secondMember with secondOld | secondNew
        · exact single call first second frame other bytes part firstOld secondOld
        · obtain ⟨rfl, rfl, -, -⟩ := SendCall.wrote_mem_written secondNew
          rw [advanced.id] at firstOld
          exact stays _ first _ frame bytes live firstOld isOpen
      · obtain ⟨rfl, rfl, -, -⟩ := SendCall.wrote_mem_written firstNew
        rcases List.mem_append.mp secondMember with secondOld | secondNew
        · rw [advanced.id] at secondOld
          exact (stays _ second _ other part live secondOld isOpen).symm
        · exact (SendCall.wrote_mem_written secondNew).2.1.symm
  | begins _ _ _ _ _ eventsEq | finishes _ _ _ eventsEq =>
      rw [eventsEq, List.append_nil] at firstMember secondMember
      exact single call first second frame other bytes part firstMember secondMember
  | fails _ _ _ _ eventsEq =>
      rw [eventsEq] at firstMember secondMember
      have firstOld : .wrote call first frame bytes ∈ history := by simpa using firstMember
      have secondOld : .wrote call second other part ∈ history := by simpa using secondMember
      exact single call first second frame other bytes part firstOld secondOld

end CarplayRgi
