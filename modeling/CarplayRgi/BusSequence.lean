import CarplayRgi.BusStickyDelivery
import CarplayRgi.BusFraming
import Mathlib.Data.List.Chain
import Mathlib.Data.List.Nodup
import Mathlib.Data.List.Perm.Subperm

/-!
# The sequence numbers on the wire

Every frame takes a number from one counter of 32 bits.  A connection carries
the HELLO, the frame that begins the replay, the cached frames with their old
numbers, the frame that ends the replay, and then the frames of the ring.  The
numbers follow each other on a connection exactly because nothing that took
its number before the replay is written after it, so this file counts the
frames that are still to be written against the counter.
-/

namespace CarplayRgi

/-- Ahead by less than half the circle of numbers. -/
def SeqFollows (earlier later : Nat) : Prop :=
  ∃ gap, 0 < gap ∧ gap < 2 ^ 31 ∧ later = (earlier + gap) % 2 ^ 32

def NextSeq (earlier later : Nat) : Prop :=
  later = (earlier + 1) % 2 ^ 32

/-- The frames that are still to be written to a connection have consecutive
numbers up to the counter, and the first of them follows the last frame
written.  Every one of the `slack` frames of the connector may be lost. -/
structure Counted (sent frames : List BusFrame) (slack txSeq : Nat) : Prop where
  consecutive : List.IsChain NextSeq (frames.map BusFrame.seq ++ [txSeq])
  follows : ∀ last, sent.getLast? = some last → ∃ gap, 0 < gap ∧ gap + slack ≤ 3 ∧
    (frames.map BusFrame.seq).headD txSeq = (last.seq + gap) % 2 ^ 32

namespace Counted

variable {sent frames : List BusFrame} {slack txSeq : Nat} {frame : BusFrame}

theorem headD_next (consecutive : List.IsChain NextSeq
    ((frame :: frames).map BusFrame.seq ++ [txSeq])) :
    (frames.map BusFrame.seq).headD txSeq = (frame.seq + 1) % 2 ^ 32 := by
  cases frames with
  | nil =>
      rw [List.map_singleton, List.singleton_append, List.isChain_cons_cons] at consecutive
      exact consecutive.1
  | cons next frames =>
      rw [List.map_cons, List.map_cons, List.cons_append, List.cons_append,
        List.isChain_cons_cons] at consecutive
      exact consecutive.1

theorem tail (consecutive : List.IsChain NextSeq
    ((frame :: frames).map BusFrame.seq ++ [txSeq])) :
    List.IsChain NextSeq (frames.map BusFrame.seq ++ [txSeq]) :=
  consecutive.tail

/-- A frame takes the next number and waits behind the others. -/
theorem queue (counted : Counted sent frames slack txSeq) (takes : frame.seq = txSeq) :
    Counted sent (frames ++ [frame]) slack ((txSeq + 1) % 2 ^ 32) := by
  constructor
  · rw [List.map_append, List.map_singleton, takes, List.isChain_append]
    refine ⟨counted.consecutive, List.isChain_singleton _, ?_⟩
    intro last isLast first isFirst
    rw [List.getLast?_concat] at isLast
    cases isLast
    cases isFirst
    rfl
  · intro last isLast
    obtain ⟨gap, positive, small, headEq⟩ := counted.follows last isLast
    refine ⟨gap, positive, small, ?_⟩
    rw [← headEq, List.map_append, List.map_singleton, takes]
    cases frames <;> rfl

/-- The next frame is written. -/
theorem deliver {later : Nat} (counted : Counted sent (frame :: frames) slack txSeq)
    (short : later ≤ 2) : Counted (sent ++ [frame]) frames later txSeq := by
  refine ⟨tail counted.consecutive, ?_⟩
  intro last isLast
  rw [List.getLast?_concat, Option.some.injEq] at isLast
  rw [← isLast]
  exact ⟨1, by omega, by omega, headD_next counted.consecutive⟩

/-- The next frame, one of the connector's, is lost. -/
theorem lose (counted : Counted sent (frame :: frames) (slack + 1) txSeq) :
    Counted sent frames slack txSeq := by
  refine ⟨tail counted.consecutive, ?_⟩
  intro last isLast
  obtain ⟨gap, positive, small, headEq⟩ := counted.follows last isLast
  refine ⟨gap + 1, by omega, by omega, ?_⟩
  rw [headD_next counted.consecutive]
  change frame.seq = (last.seq + gap) % 2 ^ 32 at headEq
  rw [headEq]
  omega

/-- The frame that is written follows the last one. -/
theorem ordered (counted : Counted sent (frame :: frames) slack txSeq)
    (chain : List.IsChain SeqFollows (sent.map BusFrame.seq)) :
    List.IsChain SeqFollows ((sent ++ [frame]).map BusFrame.seq) := by
  rw [List.map_append, List.isChain_append]
  refine ⟨chain, List.isChain_singleton _, ?_⟩
  intro last isLast first isFirst
  rw [List.getLast?_map, Option.mem_def, Option.map_eq_some_iff] at isLast
  obtain ⟨lastFrame, lastEq, rfl⟩ := isLast
  cases isFirst
  obtain ⟨gap, positive, small, headEq⟩ := counted.follows lastFrame lastEq
  exact ⟨gap, positive, by omega, headEq⟩

/-- The HELLO takes a number on a connection that has carried nothing. -/
theorem greet (takes : frame.seq = txSeq) :
    Counted [] [frame] slack ((txSeq + 1) % 2 ^ 32) := by
  constructor
  · rw [List.map_singleton, List.singleton_append, List.isChain_cons_cons, takes]
    exact ⟨rfl, List.isChain_singleton _⟩
  · intro last isLast
    cases isLast

/-- The replay of an empty cache takes two numbers. -/
theorem replay {first second : BusFrame} (counted : Counted sent [] slack txSeq)
    (takesFirst : first.seq = txSeq) (takesSecond : second.seq = (txSeq + 1) % 2 ^ 32) :
    Counted sent [first, second] slack ((txSeq + 2) % 2 ^ 32) := by
  constructor
  · rw [List.map_cons, List.map_singleton, takesFirst, takesSecond]
    refine .cons_cons rfl (.cons_cons ?_ (.singleton _))
    unfold NextSeq
    omega
  · intro last isLast
    obtain ⟨gap, positive, small, headEq⟩ := counted.follows last isLast
    exact ⟨gap, positive, small, takesFirst.trans headEq⟩

end Counted

namespace SendCall

/-- The frame of a call that has not been written completely. -/
def unsent (call : SendCall) : List BusFrame :=
  if call.buffers = [] then [] else [call.frame]

end SendCall

/-- The frames of the connector that are still to be written. -/
def ConnectorPhase.unsent : ConnectorPhase → List BusFrame
  | .greets _ hello => [hello]
  | .replays _ frames => frames
  | .sending call rest => call.unsent ++ rest.getD []
  | _ => []

/-- The HELLO has not been written. -/
def ConnectorPhase.isUngreeted : ConnectorPhase → Bool
  | .connected _ => true
  | .greets _ _ => true
  | .sending call none => !call.buffers.isEmpty
  | _ => false

/-- How many frames of a replay may still be lost. -/
def ConnectorPhase.slack : ConnectorPhase → Nat
  | .replays _ frames => frames.length
  | .sending call (some rest) => (call.unsent ++ rest).length
  | .watching _ => 0
  | .dropping _ => 0
  | _ => 2

/-- What is still to be written to the connection of a descriptor, oldest
first, while the numbers are consecutive.  Before the replay a frame in the
ring has taken its number too early. -/
def BusState.line (fd : Nat) (state : BusState) : Option (List BusFrame) :=
  match state.connector with
  | .connecting => none
  | .refused _ => none
  | .replays _ frames => some (frames ++ state.ring)
  | .sending call (some rest) => some (call.unsent ++ rest ++ state.ring)
  | .watching _ | .dropping _ =>
      if state.writer = .failed fd then none else some (state.inFlightOn fd ++ state.ring)
  | phase => if state.ring = [] then some phase.unsent else none

/-- The descriptor to which the writer is going to write. -/
def WriterPhase.writesTo : WriterPhase → Option Nat
  | .loaded fd _ => some fd
  | .sending call => if call.buffers = [] then none else some call.fd
  | _ => none

/-- If the descriptor to which the writer is going to write is open, it is the
published one. -/
def WritesCurrent (state : BusState) : Prop :=
  ∀ fd conn, state.writer.writesTo = some fd → state.fds fd = some conn → state.client = some fd

/-- When the cache is copied, nothing is cached and nothing waits in the ring;
`connect` does not return a number to which the writer is going to write. -/
def numbersSafe (state : BusState) : BusLabel → Bool
  | .copySnapshot => state.cachedFrames.isEmpty && state.ring.isEmpty
  | .connect fd => decide (state.writer.writesTo ≠ some fd)
  | _ => true

namespace WritesCurrent

variable {state before after : BusState}

theorem congr (current : WritesCurrent before)
    (writer : ∀ fd, after.writer.writesTo = some fd → before.writer.writesTo = some fd)
    (fds : after.fds = before.fds) (client : after.client = before.client) :
    WritesCurrent after := by
  intro fd conn writes isOpen
  rw [fds] at isOpen
  rw [client]
  exact current fd conn (writer fd writes) isOpen

theorem of_closed (closed : ∀ fd, state.fds fd = none) : WritesCurrent state := by
  intro fd conn _ isOpen
  rw [closed] at isOpen
  cases isOpen

/-- Nothing of the writer goes to a connection that is not published. -/
theorem inFlightOn_of_hidden (current : WritesCurrent state) (link : OneLink state)
    (hidden : state.connector.isExposed = false) {fd conn : Nat}
    (isOpen : state.fds fd = some conn) : state.inFlightOn fd = [] := by
  have notWritten : state.writer.writesTo ≠ some fd := by
    intro writes
    have published := current fd conn writes isOpen
    rw [link.hidden hidden] at published
    cases published
  simp only [BusState.inFlightOn, BusState.inFlight]
  cases writerEq : state.writer with
  | waiting => rfl
  | failed other => rfl
  | loaded other frame =>
      rw [writerEq] at notWritten
      exact if_neg fun same => notWritten (congrArg some same)
  | sending call =>
      rw [writerEq] at notWritten
      dsimp only
      split
      · rename_i same
        split
        · rfl
        · rename_i unfinished
          simp [WriterPhase.writesTo, unfinished, same] at notWritten
      · rfl

end WritesCurrent

theorem writesTo_of_advanced {call next : SendCall} {bytes : List UInt8} {fd : Nat}
    (advanced : call.Advanced bytes next)
    (writes : (WriterPhase.sending next).writesTo = some fd) :
    (WriterPhase.sending call).writesTo = some fd := by
  change (if next.buffers = [] then none else some next.fd) = some fd at writes
  change (if call.buffers = [] then none else some call.fd) = some fd
  split at writes
  · cases writes
  · rw [if_neg advanced.started, ← advanced.fd]
    exact writes

theorem writesTo_of_startCall {state : BusState} {fd other : Nat} {frame : BusFrame}
    (writes : (WriterPhase.sending (state.startCall fd frame)).writesTo = some other) :
    (WriterPhase.loaded fd frame).writesTo = some other := by
  change (if frame.buffers = [] then none else some fd) = some other at writes
  rwa [if_neg frame.buffers_ne_nil] at writes

theorem BusStep.writesCurrent {state next : BusState} {label : BusLabel}
    {events : List BusEvent} (step : BusStep state label next events) (link : OneLink state)
    (safe : numbersSafe state label = true) (current : WritesCurrent state) :
    WritesCurrent next := by
  cases step with
  | setSticky =>
      unfold BusState.busSetSticky
      split
      · exact current
      · exact current.congr (fun _ writes => writes) rfl rfl
  | @connect fd phase isClosed =>
      intro other conn writes isOpen
      have different : other ≠ fd := by
        rintro rfl
        simp only [numbersSafe, decide_eq_true_eq] at safe
        exact safe writes
      dsimp only at isOpen
      rw [Function.update_of_ne different] at isOpen
      exact current other conn writes isOpen
  | closeRefused phase => exact .of_closed (link.closed (.inr phase))
  | @publish fd phase noClient =>
      intro other conn writes isOpen
      have published := current other conn writes isOpen
      rw [noClient] at published
      cases published
  | replace phase isCurrent =>
      rw [link.hidden (by rw [phase]; rfl)] at isCurrent
      cases isCurrent
  | dropCurrent phase isCurrent => exact .of_closed (link.closed (.inl isCurrent))
  | dequeue idle ringEq isCurrent =>
      intro other conn writes _
      cases writes
      exact isCurrent
  | writerBegins phase isFree =>
      refine current.congr ?_ rfl rfl
      intro fd writes
      rw [phase]
      exact writesTo_of_startCall writes
  | writerSends phase isOpen advanced =>
      refine current.congr ?_ rfl rfl
      intro fd writes
      rw [phase]
      exact writesTo_of_advanced (SendCall.advance_spec advanced) writes
  | writerFinishes phase isDone => exact fun _ _ writes => by cases writes
  | writerFails phase notDone => exact fun _ _ writes => by cases writes
  | writerCloses phase isCurrent => exact fun _ _ writes => by cases writes
  | writerDrops phase notCurrent => exact fun _ _ writes => by cases writes
  | rejected => exact current
  | _ => exact current.congr (fun _ writes => writes) rfl rfl

structure LineKept (state : BusState) (history : List BusEvent) : Prop where
  fresh : ∀ conn, state.connections ≤ conn → deliveredOn conn history = []
  ordered : ∀ conn, List.IsChain SeqFollows ((deliveredOn conn history).map BusFrame.seq)
  unwritten : ∀ fd conn, state.connector.isUngreeted = true → state.fds fd = some conn →
    deliveredOn conn history = []
  short : state.connector.slack ≤ 2
  counted : ∀ fd conn frames, state.fds fd = some conn → state.line fd = some frames →
    Counted (deliveredOn conn history) frames state.connector.slack state.txSeq

theorem lineKept_initial : LineKept .initial [] where
  fresh := fun _ _ => rfl
  ordered := fun _ => .nil
  unwritten := fun _ _ ungreeted => by cases ungreeted
  short := Nat.le_refl 2
  counted := fun _ _ _ isOpen => by cases isOpen

theorem deliveredTo_of_quiet {event : BusEvent} (quiet : event.isQuiet = true) (conn : Nat) :
    event.deliveredTo conn = none := by
  cases event with
  | delivered other frame => cases quiet
  | _ => rfl

namespace LineKept

variable {before after : BusState} {history events : List BusEvent}

/-- A step that writes no frame to its end, and neither connects nor closes. -/
theorem keep (kept : LineKept before history)
    (nothing : ∀ conn, ∀ event ∈ events, event.deliveredTo conn = none)
    (connections : after.connections = before.connections) (fds : after.fds = before.fds)
    (ungreeted : after.connector.isUngreeted = true → before.connector.isUngreeted = true)
    (short : after.connector.slack ≤ 2)
    (counted : ∀ fd conn frames, before.fds fd = some conn → after.line fd = some frames →
      Counted (deliveredOn conn history) frames after.connector.slack after.txSeq) :
    LineKept after (history ++ events) := by
  have same : ∀ conn, deliveredOn conn (history ++ events) = deliveredOn conn history :=
    fun conn => deliveredOn_of_none (nothing conn) history
  constructor
  · intro conn isFresh
    rw [same]
    exact kept.fresh conn (connections ▸ isFresh)
  · intro conn
    rw [same]
    exact kept.ordered conn
  · intro fd conn notGreeted isOpen
    rw [same]
    exact kept.unwritten fd conn (ungreeted notGreeted) (fds ▸ isOpen)
  · exact short
  · intro fd conn frames isOpen isLine
    rw [same]
    exact counted fd conn frames (fds ▸ isOpen) isLine

/-- A step that changes nothing that is still to be written. -/
theorem same (kept : LineKept before history)
    (nothing : ∀ conn, ∀ event ∈ events, event.deliveredTo conn = none)
    (connections : after.connections = before.connections) (fds : after.fds = before.fds)
    (ungreeted : after.connector.isUngreeted = true → before.connector.isUngreeted = true)
    (slack : after.connector.slack = before.connector.slack)
    (txSeq : after.txSeq = before.txSeq)
    (line : ∀ fd conn frames, before.fds fd = some conn → after.line fd = some frames →
      before.line fd = some frames) :
    LineKept after (history ++ events) := by
  apply kept.keep nothing connections fds ungreeted
  · rw [slack]
    exact kept.short
  · intro fd conn frames isOpen isLine
    rw [slack, txSeq]
    exact kept.counted fd conn frames isOpen (line fd conn frames isOpen isLine)

/-- A step after which nothing is open. -/
theorem closed (kept : LineKept before history)
    (nothing : ∀ conn, ∀ event ∈ events, event.deliveredTo conn = none)
    (connections : after.connections = before.connections)
    (short : after.connector.slack ≤ 2) (closed : ∀ fd, after.fds fd = none) :
    LineKept after (history ++ events) := by
  have same : ∀ conn, deliveredOn conn (history ++ events) = deliveredOn conn history :=
    fun conn => deliveredOn_of_none (nothing conn) history
  constructor
  · intro conn isFresh
    rw [same]
    exact kept.fresh conn (connections ▸ isFresh)
  · intro conn
    rw [same]
    exact kept.ordered conn
  · intro fd conn _ isOpen
    rw [closed] at isOpen
    cases isOpen
  · exact short
  · intro fd conn frames isOpen
    rw [closed] at isOpen
    cases isOpen

/-- A step that writes the last byte of a frame. -/
theorem writes {call : SendCall} {conn : Nat} {bytes : List UInt8}
    (kept : LineKept before history) (isDone : call.buffers = [])
    (isOpen : before.fds call.fd = some conn)
    (only : ∀ fd other, before.fds fd = some other → fd = call.fd)
    (known : conn < before.connections)
    (connections : after.connections = before.connections) (fds : after.fds = before.fds)
    (greeted : after.connector.isUngreeted = false) (short : after.connector.slack ≤ 2)
    (ordered : List.IsChain SeqFollows
      ((deliveredOn conn history ++ [call.frame]).map BusFrame.seq))
    (counted : ∀ frames, after.line call.fd = some frames →
      Counted (deliveredOn conn history ++ [call.frame]) frames after.connector.slack
        after.txSeq) :
    LineKept after (history ++ call.written conn bytes) := by
  have onConn : deliveredOn conn (history ++ call.written conn bytes) =
      deliveredOn conn history ++ [call.frame] := by
    rw [deliveredOn_written, if_pos isDone]
  have elsewhere : ∀ other, other ≠ conn →
      deliveredOn other (history ++ call.written conn bytes) = deliveredOn other history := by
    intro other different
    apply deliveredOn_of_none
    intro event member
    rw [SendCall.written, if_pos isDone] at member
    simp only [List.mem_cons, List.not_mem_nil, or_false] at member
    rcases member with rfl | rfl
    · rfl
    · exact if_neg different.symm
  constructor
  · intro other isFresh
    rw [elsewhere other (by omega)]
    exact kept.fresh other (connections ▸ isFresh)
  · intro other
    by_cases isConn : other = conn
    · rw [isConn, onConn]
      exact ordered
    · rw [elsewhere other isConn]
      exact kept.ordered other
  · intro fd other notGreeted
    rw [greeted] at notGreeted
    cases notGreeted
  · exact short
  · intro fd other frames isOpenAfter isLine
    rw [fds] at isOpenAfter
    have isFd := only fd other isOpenAfter
    subst isFd
    rw [isOpen] at isOpenAfter
    cases isOpenAfter
    rw [onConn]
    exact counted frames isLine

end LineKept

/-- A frame that takes its number joins the line, or ends it. -/
theorem line_queued {state : BusState} {frame : BusFrame} {types : Nat → TypeSlot}
    {txSeq fd : Nat} {frames : List BusFrame}
    (line : BusState.line fd
      { state with types := types, ring := state.ring ++ [frame], txSeq := txSeq } = some frames) :
    ∃ earlier, state.line fd = some earlier ∧ frames = earlier ++ [frame] := by
  have notEmpty : state.ring ++ [frame] ≠ [] := by simp
  simp only [BusState.line] at line ⊢
  split at line
  · cases line
  · cases line
  · cases line
    exact ⟨_, rfl, (List.append_assoc _ _ _).symm⟩
  · cases line
    exact ⟨_, rfl, (List.append_assoc _ _ _).symm⟩
  · split at line
    · cases line
    · rename_i notFailed
      cases line
      exact ⟨_, if_neg notFailed, (List.append_assoc _ _ _).symm⟩
  · split at line
    · cases line
    · rename_i notFailed
      cases line
      exact ⟨_, if_neg notFailed, (List.append_assoc _ _ _).symm⟩
  · rw [if_neg notEmpty] at line
    cases line

theorem LineKept.queued {state : BusState} {history : List BusEvent} (kept : LineKept state history)
    (type : Nat) (flags : UInt8) (payload : List UInt8) (types : Nat → TypeSlot) :
    LineKept
      { state with
        types := types
        ring := state.ring ++ [⟨type, flags, state.txSeq, payload⟩]
        txSeq := (state.txSeq + 1) % 2 ^ 32 }
      (history ++ [.sendCalled type flags payload true]) := by
  refine kept.keep (by simp [BusEvent.deliveredTo]) rfl rfl (fun notGreeted => notGreeted)
    kept.short ?_
  intro fd conn frames isOpen line
  obtain ⟨earlier, lineBefore, rfl⟩ := line_queued line
  exact (kept.counted fd conn earlier isOpen lineBefore).queue rfl

/-- The connector begins with its next frame. -/
theorem ConnectorPhase.unsent_of_nextFrame {state : BusState} {fd : Nat} {frame : BusFrame}
    {rest : Option (List BusFrame)}
    (isNext : state.connector.nextFrame = some (fd, frame, rest)) (calls other : Nat) :
    BusState.line other
        { state with
          connector := .sending (state.startCall fd frame) rest, calls := calls } =
        state.line other ∧
      (ConnectorPhase.sending (state.startCall fd frame) rest).slack = state.connector.slack ∧
      ((ConnectorPhase.sending (state.startCall fd frame) rest).isUngreeted = true →
        state.connector.isUngreeted = true) := by
  have unsent : (state.startCall fd frame).unsent = [frame] := if_neg frame.buffers_ne_nil
  unfold nextFrame at isNext
  split at isNext
  · rename_i phase
    simp only [Option.some.injEq, Prod.mk.injEq] at isNext
    obtain ⟨rfl, rfl, rfl⟩ := isNext
    simp only [BusState.line, ConnectorPhase.unsent, ConnectorPhase.slack, phase, unsent]
    exact ⟨rfl, trivial, fun _ => rfl⟩
  · rename_i phase
    simp only [Option.some.injEq, Prod.mk.injEq] at isNext
    obtain ⟨rfl, rfl, rfl⟩ := isNext
    simp only [BusState.line, ConnectorPhase.slack, phase, unsent]
    exact ⟨rfl, rfl, fun ungreeted => by cases ungreeted⟩
  · cases isNext

/-- Only the connector's descriptor is open. -/
theorem OneLink.only {state : BusState} (link : OneLink state) {fd : Nat}
    (isFd : state.connector.fd = some fd) (other conn : Nat)
    (isOpen : state.fds other = some conn) : other = fd := by
  have same := (link.onlyOpen other conn isOpen).1
  rw [isFd] at same
  exact (Option.some.inj same).symm

/-- A call that goes on writes no last byte. -/
theorem SendCall.nothing_of_unfinished {call : SendCall} (unfinished : call.buffers ≠ [])
    (conn : Nat) (bytes : List UInt8) (other : Nat) :
    ∀ event ∈ call.written conn bytes, event.deliveredTo other = none := by
  intro event member
  rw [written, if_neg unfinished, List.mem_singleton] at member
  rw [member]
  rfl

/-- The connector sends some bytes of its frame. -/
theorem LineKept.connectorSends {state : BusState} {history : List BusEvent} {call next : SendCall}
    {rest : Option (List BusFrame)} {conn : Nat} {bytes : List UInt8}
    (kept : LineKept state history) (link : OneLink state)
    (phase : state.connector = .sending call rest) (isOpen : state.fds call.fd = some conn)
    (advanced : call.Advanced bytes next) :
    LineKept { state with connector := .sending next rest }
      (history ++ next.written conn bytes) := by
  have unsentBefore : call.unsent = [call.frame] := if_neg advanced.started
  have isFd : state.connector.fd = some call.fd := by rw [phase]; rfl
  have notGreeted : rest = none → state.connector.isUngreeted = true := by
    rintro rfl
    simp [ConnectorPhase.isUngreeted, phase, advanced.started]
  by_cases isDone : next.buffers = []
  · have unsentAfter : next.unsent = [] := if_pos isDone
    refine kept.writes isDone (advanced.fd ▸ isOpen) (advanced.fd ▸ link.only isFd)
      (link.known _ _ isOpen) rfl rfl ?_ ?_ ?_ ?_
    · cases rest <;> simp [ConnectorPhase.isUngreeted, isDone]
    · cases rest with
      | none => exact Nat.le_refl 2
      | some frames =>
          have short := kept.short
          simp only [phase, ConnectorPhase.slack, unsentBefore] at short
          simp only [ConnectorPhase.slack, unsentAfter, List.nil_append]
          rw [List.length_append] at short
          omega
    · rw [advanced.frame]
      cases rest with
      | none =>
          rw [kept.unwritten _ _ (notGreeted rfl) isOpen]
          exact List.isChain_singleton _
      | some frames =>
          have counted := kept.counted call.fd conn _ isOpen (by rw [BusState.line, phase])
          rw [unsentBefore] at counted
          exact counted.ordered (kept.ordered conn)
    · intro after isLine
      rw [advanced.frame]
      cases rest with
      | none =>
          simp only [BusState.line, ConnectorPhase.unsent, unsentAfter] at isLine
          split at isLine
          · rename_i ringEmpty
            cases isLine
            have counted := kept.counted call.fd conn [call.frame] isOpen (by
              simp [BusState.line, phase, ringEmpty, ConnectorPhase.unsent, unsentBefore])
            exact counted.deliver (Nat.le_refl 2)
          · cases isLine
      | some frames =>
          simp only [BusState.line, unsentAfter, List.nil_append] at isLine
          cases isLine
          have counted := kept.counted call.fd conn _ isOpen (by rw [BusState.line, phase])
          rw [unsentBefore] at counted
          refine counted.deliver ?_
          have short := kept.short
          simp only [phase, ConnectorPhase.slack, unsentBefore] at short
          simp only [ConnectorPhase.slack, unsentAfter, List.nil_append]
          rw [List.length_append] at short
          omega
  · have unsentAfter : next.unsent = call.unsent := by
      rw [unsentBefore, SendCall.unsent, if_neg isDone, advanced.frame]
    refine kept.same (SendCall.nothing_of_unfinished isDone conn bytes) rfl rfl ?_ ?_ rfl ?_
    · cases rest with
      | none => exact fun _ => notGreeted rfl
      | some frames => exact fun ungreeted => by cases ungreeted
    · cases rest <;> simp [ConnectorPhase.slack, phase, unsentAfter]
    · intro fd other frames _ isLine
      rw [← isLine]
      cases rest <;> simp [BusState.line, ConnectorPhase.unsent, phase, unsentAfter]

/-- A frame of the replay that fails is lost. -/
theorem LineKept.connectorFails {state : BusState} {history events : List BusEvent}
    {call : SendCall} {rest : Option (List BusFrame)} (kept : LineKept state history)
    (nothing : ∀ conn, ∀ event ∈ events, event.deliveredTo conn = none)
    (phase : state.connector = .sending call rest) (notDone : call.buffers ≠ []) :
    LineKept { state with connector := .afterFailure call.fd rest } (history ++ events) := by
  have unsent : call.unsent = [call.frame] := if_neg notDone
  cases rest with
  | none =>
      refine kept.keep nothing rfl rfl (fun ungreeted => by cases ungreeted) (Nat.le_refl 2) ?_
      intro fd conn frames _ isLine
      cases isLine
  | some frames =>
      have short := kept.short
      simp only [phase, ConnectorPhase.slack, unsent, List.length_append,
        List.length_singleton] at short
      refine kept.keep nothing rfl rfl (fun ungreeted => by cases ungreeted) ?_ ?_
      · change frames.length ≤ 2
        omega
      · intro fd conn after isOpen isLine
        cases isLine
        have counted := kept.counted fd conn _ isOpen (by rw [BusState.line, phase])
        simp only [phase, ConnectorPhase.slack, unsent, List.length_append,
          List.length_singleton, Nat.add_comm 1] at counted
        exact counted.lose

/-- The connector's phases while its descriptor is published. -/
theorem ConnectorPhase.ungreeted_of_exposed {phase : ConnectorPhase}
    (exposed : phase.isExposed = true) : phase.isUngreeted = false ∧ phase.slack = 0 := by
  cases phase <;> first | exact ⟨rfl, rfl⟩ | cases exposed

theorem BusState.line_of_exposed (state : BusState) (exposed : state.connector.isExposed = true)
    (fd : Nat) : state.line fd =
      if state.writer = .failed fd then none else some (state.inFlightOn fd ++ state.ring) := by
  unfold line
  cases phase : state.connector with
  | watching other => rfl
  | dropping other => rfl
  | _ => rw [phase] at exposed; cases exposed

/-- In the other phases the line does not depend on the writer. -/
theorem BusState.line_of_hidden {state : BusState} (hidden : state.connector.isExposed = false)
    (fd calls : Nat) (writer : WriterPhase) :
    BusState.line fd { state with writer := writer, calls := calls } = state.line fd := by
  unfold line
  cases phase : state.connector with
  | watching other => rw [phase] at hidden; cases hidden
  | dropping other => rw [phase] at hidden; cases hidden
  | sending call rest => cases rest <;> rfl
  | _ => rfl

/-- The writer moves on without writing the last byte of a frame. -/
theorem LineKept.writerMoves {state : BusState} {history events : List BusEvent} {calls : Nat}
    {writer : WriterPhase} (kept : LineKept state history) (link : OneLink state)
    (nothing : ∀ conn, ∀ event ∈ events, event.deliveredTo conn = none)
    (inFlight : ∀ fd conn, state.fds fd = some conn → state.client = some fd →
      writer ≠ .failed fd → state.writer ≠ .failed fd ∧
        BusState.inFlightOn fd { state with writer := writer, calls := calls } =
          state.inFlightOn fd) :
    LineKept { state with writer := writer, calls := calls } (history ++ events) := by
  refine kept.same nothing rfl rfl (fun ungreeted => ungreeted) rfl rfl ?_
  intro fd conn frames isOpen isLine
  cases exposed : state.connector.isExposed with
  | false => rwa [BusState.line_of_hidden exposed] at isLine
  | true =>
      rw [BusState.line_of_exposed { state with writer := writer, calls := calls } exposed] at isLine
      split at isLine
      · cases isLine
      · rename_i notFailed
        obtain ⟨wasAlive, same⟩ :=
          inFlight fd conn isOpen ((link.onlyOpen fd conn isOpen).2 exposed) notFailed
        rw [BusState.line_of_exposed state exposed, if_neg wasAlive, ← same]
        exact isLine

/-- The writer sends some bytes of its frame. -/
theorem LineKept.writerSends {state : BusState} {history : List BusEvent} {call next : SendCall}
    {conn : Nat} {bytes : List UInt8} (kept : LineKept state history) (link : OneLink state)
    (current : WritesCurrent state) (phase : state.writer = .sending call)
    (isOpen : state.fds call.fd = some conn) (advanced : call.Advanced bytes next) :
    LineKept { state with writer := .sending next } (history ++ next.written conn bytes) := by
  have published : state.client = some call.fd := by
    refine current call.fd conn ?_ isOpen
    rw [phase]
    exact if_neg advanced.started
  have exposed : state.connector.isExposed = true := by
    by_contra hidden
    rw [link.hidden (by simpa using hidden)] at published
    cases published
  have isFd := link.current call.fd published
  have inFlight : state.inFlightOn call.fd = [call.frame] := by
    simp [BusState.inFlightOn, BusState.inFlight, phase, advanced.started]
  obtain ⟨greeted, noSlack⟩ := ConnectorPhase.ungreeted_of_exposed exposed
  by_cases isDone : next.buffers = []
  · have counted := kept.counted call.fd conn _ isOpen (by
      rw [BusState.line_of_exposed state exposed, if_neg (by rw [phase]; simp), inFlight])
    refine kept.writes isDone (advanced.fd ▸ isOpen) (advanced.fd ▸ link.only isFd)
      (link.known _ _ isOpen) rfl rfl greeted kept.short ?_ ?_
    · rw [advanced.frame]
      exact counted.ordered (kept.ordered conn)
    · intro frames isLine
      rw [BusState.line_of_exposed { state with writer := .sending next } exposed] at isLine
      have nothingLeft : BusState.inFlightOn next.fd { state with writer := .sending next } = [] := by
        simp [BusState.inFlightOn, BusState.inFlight, isDone]
      rw [if_neg (by simp), nothingLeft] at isLine
      cases isLine
      rw [advanced.frame]
      exact counted.deliver kept.short
  · refine kept.writerMoves link (SendCall.nothing_of_unfinished isDone conn bytes) ?_
    intro fd other _ _ _
    rw [phase]
    refine ⟨by simp, ?_⟩
    simp [BusState.inFlightOn, BusState.inFlight, phase, isDone, advanced.started,
      advanced.fd, advanced.frame]

/-- The writer takes the oldest frame of the ring. -/
theorem LineKept.dequeue {state : BusState} {history : List BusEvent} {fd : Nat} {frame : BusFrame}
    {frames : List BusFrame} (kept : LineKept state history) (link : OneLink state)
    (idle : state.writer = .waiting) (ringEq : state.ring = frame :: frames)
    (isCurrent : state.client = some fd) :
    LineKept { state with ring := frames, writer := .loaded fd frame } (history ++ []) := by
  have exposed : state.connector.isExposed = true := by
    by_contra hidden
    rw [link.hidden (by simpa using hidden)] at isCurrent
    cases isCurrent
  refine kept.same (by simp) rfl rfl (fun ungreeted => ungreeted) rfl rfl ?_
  intro other conn line isOpen isLine
  have isFd := link.only (link.current fd isCurrent) other conn isOpen
  subst isFd
  rw [← isLine, BusState.line_of_exposed state exposed,
    BusState.line_of_exposed { state with ring := frames, writer := .loaded other frame } exposed]
  simp [BusState.inFlightOn, BusState.inFlight, idle, ringEq]

theorem nothing_of_quiet {events : List BusEvent}
    (quiet : ∀ event ∈ events, event.isQuiet = true) (conn : Nat) :
    ∀ event ∈ events, event.deliveredTo conn = none :=
  fun event member => deliveredTo_of_quiet (quiet event member) conn

theorem BusStep.lineKept {state next : BusState} {label : BusLabel} {events : List BusEvent}
    {history : List BusEvent} (step : BusStep state label next events) (link : OneLink state)
    (current : WritesCurrent state) (safe : numbersSafe state label = true)
    (kept : LineKept state history) : LineKept next (history ++ events) := by
  cases step with
  | rejected invalid =>
      exact kept.same (by simp) rfl rfl (fun ungreeted => ungreeted) rfl rfl
        fun _ _ _ _ line => line
  | full short known isFull =>
      exact kept.same (by simp [BusEvent.deliveredTo]) rfl rfl (fun ungreeted => ungreeted) rfl rfl
        fun _ _ _ _ line => line
  | queued short known hasRoom => exact kept.queued _ _ _ _
  | setSticky =>
      unfold BusState.busSetSticky
      split <;>
        exact kept.same (by simp) rfl rfl (fun ungreeted => ungreeted) rfl rfl
          fun _ _ _ _ line => line
  | @connect fd phase isClosed =>
      have nothingOpen : ∀ other conn, state.fds other ≠ some conn := by
        intro other conn isOpen
        have only := (link.onlyOpen other conn isOpen).1
        rw [phase] at only
        cases only
      have isNew : ∀ other conn, Function.update state.fds fd (some state.connections) other =
          some conn → conn = state.connections := by
        intro other conn isOpen
        by_cases same : other = fd
        · rw [same, Function.update_self] at isOpen
          exact (Option.some.inj isOpen).symm
        · rw [Function.update_of_ne same] at isOpen
          exact absurd isOpen (nothingOpen other conn)
      rw [List.append_nil]
      refine ⟨fun conn isFresh => kept.fresh conn (Nat.le_of_succ_le isFresh), kept.ordered,
        fun other conn _ isOpen => ?_, Nat.le_refl 2, fun other conn frames isOpen isLine => ?_⟩
      · rw [isNew other conn isOpen]
        exact kept.fresh _ (Nat.le_refl _)
      · rw [isNew other conn isOpen, kept.fresh _ (Nat.le_refl _)]
        simp only [BusState.line] at isLine
        split at isLine
        · cases isLine
          exact ⟨List.isChain_singleton _, fun _ isLast => by cases isLast⟩
        · cases isLine
  | @takeHelloSeq fd phase =>
      refine kept.keep (by simp) rfl rfl (fun _ => by rw [phase]; rfl) (Nat.le_refl 2) ?_
      intro other conn frames isOpen isLine
      rw [kept.unwritten other conn (by rw [phase]; rfl) isOpen]
      simp only [BusState.line] at isLine
      split at isLine
      · cases isLine
        exact .greet rfl
      · cases isLine
  | connectorBegins isNext isFree =>
      have begins := ConnectorPhase.unsent_of_nextFrame isNext (state.calls + 1)
      refine kept.same (by simp) rfl rfl (begins 0).2.2 (begins 0).2.1 rfl ?_
      intro other conn frames _ isLine
      rw [← (begins other).1]
      exact isLine
  | connectorSends phase isOpen advanced =>
      exact kept.connectorSends link phase isOpen (SendCall.advance_spec advanced)
  | @connectorFinishes call rest phase isDone =>
      have unsent : call.unsent = [] := if_pos isDone
      cases rest with
      | none =>
          refine kept.same (by simp) rfl rfl (fun ungreeted => by cases ungreeted) ?_ rfl ?_
          · rw [phase]
            rfl
          · intro other conn frames _ isLine
            rw [← isLine]
            simp [BusState.line, ConnectorPhase.afterSend, ConnectorPhase.unsent, phase, unsent]
      | some frames =>
          refine kept.same (by simp) rfl rfl (fun ungreeted => by cases ungreeted) ?_ rfl ?_
          · simp [ConnectorPhase.slack, ConnectorPhase.afterSend, phase, unsent]
          · intro other conn frames _ isLine
            rw [← isLine]
            simp [BusState.line, ConnectorPhase.afterSend, phase, unsent]
  | connectorFails phase notDone =>
      exact kept.connectorFails (by simp [BusEvent.deliveredTo]) phase notDone
  | closeRefused phase =>
      exact kept.closed (nothing_of_quiet (isQuiet_closed _ _)) rfl (Nat.le_refl 2)
        (link.closed (.inr phase))
  | @copySnapshot fd phase =>
      simp only [numbersSafe, Bool.and_eq_true, List.isEmpty_iff] at safe
      obtain ⟨noneCached, ringEmpty⟩ := safe
      refine kept.keep (by simp [BusEvent.deliveredTo]) rfl rfl
        (fun ungreeted => by cases ungreeted) ?_ ?_
      · simp [ConnectorPhase.slack, BusState.syncFrames, noneCached]
      · intro other conn frames isOpen isLine
        have counted := kept.counted other conn [] isOpen (by
          simp [BusState.line, phase, ringEmpty, ConnectorPhase.unsent])
        simp only [BusState.line, BusState.syncFrames, noneCached, ringEmpty, List.nil_append,
          List.append_nil] at isLine
        cases isLine
        rw [phase] at counted
        simp only [ConnectorPhase.slack, BusState.syncFrames, noneCached, List.nil_append]
        exact counted.replay rfl rfl
  | @publish fd phase noClient =>
      have hidden : state.connector.isExposed = false := by rw [phase]; rfl
      refine kept.same (by simp) rfl rfl (fun ungreeted => by cases ungreeted) ?_ rfl ?_
      · rw [phase]
        rfl
      · intro other conn frames isOpen isLine
        rw [BusState.line_of_exposed
          { state with connector := .watching fd, client := some fd } rfl] at isLine
        split at isLine
        · cases isLine
        · rw [← isLine, BusState.line, phase]
          have nothing := current.inFlightOn_of_hidden link hidden isOpen
          exact congrArg (fun inFlight => some (inFlight ++ state.ring)) nothing.symm
  | replace phase isCurrent =>
      rw [link.hidden (by rw [phase]; rfl)] at isCurrent
      cases isCurrent
  | noticeDrop phase notCurrent =>
      refine kept.keep (by simp) rfl rfl (fun ungreeted => by cases ungreeted) (Nat.le_refl 2) ?_
      intro other conn frames _ isLine
      cases isLine
  | peerClosed phase =>
      refine kept.same (by simp) rfl rfl (fun ungreeted => by cases ungreeted) ?_ rfl ?_
      · rw [phase]
        rfl
      · intro other conn frames _ isLine
        rw [BusState.line_of_exposed state (by rw [phase]; rfl), ← isLine]
        rfl
  | dropCurrent phase isCurrent =>
      exact kept.closed (nothing_of_quiet (isQuiet_closed _ _)) rfl (Nat.le_refl 2)
        (link.closed (.inl isCurrent))
  | dropNothing phase notCurrent =>
      refine kept.keep (by simp) rfl rfl (fun ungreeted => by cases ungreeted) (Nat.le_refl 2) ?_
      intro other conn frames _ isLine
      cases isLine
  | dequeue idle ringEq isCurrent => exact kept.dequeue link idle ringEq isCurrent
  | @writerBegins fd frame phase isFree =>
      refine kept.writerMoves link (by simp) ?_
      intro other conn _ _ _
      rw [phase]
      refine ⟨by simp, ?_⟩
      simp [BusState.inFlightOn, BusState.inFlight, phase, BusState.startCall,
        frame.buffers_ne_nil]
  | writerSends phase isOpen advanced =>
      exact kept.writerSends link current phase isOpen (SendCall.advance_spec advanced)
  | writerFinishes phase isDone =>
      refine kept.writerMoves link (by simp) ?_
      intro other conn _ _ _
      rw [phase]
      refine ⟨by simp, ?_⟩
      simp [BusState.inFlightOn, BusState.inFlight, phase, isDone]
  | @writerFails call phase notDone =>
      refine kept.writerMoves link (by simp [BusEvent.deliveredTo]) ?_
      intro other conn _ _ notFailed
      have different : call.fd ≠ other := by
        rintro rfl
        exact notFailed rfl
      rw [phase]
      refine ⟨by simp, ?_⟩
      simp [BusState.inFlightOn, phase, different]
  | writerCloses phase isCurrent =>
      exact kept.closed (nothing_of_quiet (isQuiet_closed _ _)) rfl kept.short
        (link.closed (.inl isCurrent))
  | @writerDrops fd phase notCurrent =>
      refine kept.writerMoves link (by simp) ?_
      intro other conn _ isCurrent _
      rw [phase]
      refine ⟨?_, ?_⟩
      · rintro same
        cases same
        exact notCurrent isCurrent
      · simp [BusState.inFlightOn, phase]

def BusEvent.deliveredFrame : BusEvent → Option BusFrame
  | .delivered _ frame => some frame
  | _ => none

/-- The frames that have been written completely, to any connection. -/
def writtenFrames (history : List BusEvent) : List BusFrame :=
  history.filterMap BusEvent.deliveredFrame

theorem writtenFrames_append (history events : List BusEvent) :
    writtenFrames (history ++ events) = writtenFrames history ++ writtenFrames events :=
  List.filterMap_append

theorem writtenFrames_written (call : SendCall) (conn : Nat) (bytes : List UInt8) :
    writtenFrames (call.written conn bytes) =
      if call.buffers = [] then [call.frame] else [] := by
  rw [SendCall.written]
  split <;> rfl

/-- The frames have different numbers, all of them below a limit. -/
structure Numbered (frames : List BusFrame) (limit : Nat) : Prop where
  distinct : (frames.map BusFrame.seq).Nodup
  below : ∀ frame ∈ frames, frame.seq < limit

namespace Numbered

variable {frames fewer : List BusFrame} {limit : Nat}

theorem mono (numbered : Numbered frames limit) (subperm : fewer.Subperm frames) :
    Numbered fewer limit := by
  obtain ⟨middle, perm, sublist⟩ := subperm
  constructor
  · rw [← (perm.map BusFrame.seq).nodup_iff]
    exact (sublist.map BusFrame.seq).nodup numbered.distinct
  · intro frame member
    exact numbered.below frame (sublist.subset (perm.mem_iff.mpr member))

/-- A frame takes the next number. -/
theorem take (numbered : Numbered frames limit) (frame : BusFrame) (takes : frame.seq = limit) :
    Numbered (frames ++ [frame]) (limit + 1) := by
  constructor
  · rw [List.map_append, List.map_singleton, takes, List.nodup_append]
    refine ⟨numbered.distinct, List.pairwise_singleton _ _, ?_⟩
    intro number member last isLast
    rw [List.mem_singleton] at isLast
    obtain ⟨other, isOther, same⟩ := List.mem_map.mp member
    have isBelow := numbered.below other isOther
    omega
  · intro other member
    rw [List.mem_append, List.mem_singleton] at member
    rcases member with isOther | rfl
    · have isBelow := numbered.below other isOther
      omega
    · omega

end Numbered

/-- The frames that were written, or are still to be written. -/
def BusState.frames (state : BusState) (history : List BusEvent) : List BusFrame :=
  writtenFrames history ++ (state.inFlight ++ (state.connector.unsent ++ state.ring))

/-- A step that takes no number. -/
theorem BusState.numbered_same {before after : BusState} {history events : List BusEvent}
    (numbered : Numbered (before.frames history) before.txSeq)
    (txSeq : after.txSeq = before.txSeq)
    (subperm : (writtenFrames events ++ (after.inFlight ++ (after.connector.unsent ++
      after.ring))).Subperm (before.inFlight ++ (before.connector.unsent ++ before.ring))) :
    Numbered (after.frames (history ++ events)) after.txSeq := by
  rw [txSeq]
  apply numbered.mono
  rw [frames, frames, writtenFrames_append, List.append_assoc]
  exact (List.subperm_append_left _).mpr subperm

/-- A step that gives the next number to a frame. -/
theorem BusState.numbered_take {before after : BusState} {history events : List BusEvent}
    (numbered : Numbered (before.frames history) before.txSeq) (frame : BusFrame)
    (unwrapped : before.txSeq + 2 < 2 ^ 32) (takes : frame.seq = before.txSeq)
    (txSeq : after.txSeq = (before.txSeq + 1) % 2 ^ 32) (nothing : writtenFrames events = [])
    (subperm : (after.inFlight ++ (after.connector.unsent ++ after.ring)).Subperm
      ((before.inFlight ++ (before.connector.unsent ++ before.ring)) ++ [frame])) :
    Numbered (after.frames (history ++ events)) after.txSeq := by
  have taken := numbered.take frame takes
  rw [txSeq, Nat.mod_eq_of_lt (by omega)]
  apply taken.mono
  rw [frames, frames, writtenFrames_append, nothing, List.append_nil, List.append_assoc]
  exact (List.subperm_append_left _).mpr subperm

/-- The frames of a call that is not finished, or of the next frame. -/
theorem ConnectorPhase.unsent_of_begins {phase : ConnectorPhase} {state : BusState} {fd : Nat}
    {frame : BusFrame} {rest : Option (List BusFrame)}
    (isNext : phase.nextFrame = some (fd, frame, rest)) :
    (ConnectorPhase.sending (state.startCall fd frame) rest).unsent = phase.unsent := by
  have unsent : (state.startCall fd frame).unsent = [frame] := if_neg frame.buffers_ne_nil
  unfold nextFrame at isNext
  split at isNext
  · cases isNext
    simp [ConnectorPhase.unsent, unsent]
  · cases isNext
    simp [ConnectorPhase.unsent, unsent]
  · cases isNext

theorem writtenFrames_closed (sender : Sender) (conn : Option Nat) :
    writtenFrames (conn.map (BusEvent.closed sender)).toList = [] := by
  cases conn <;> rfl

@[simp]
theorem ConnectorPhase.unsent_afterSend (fd : Nat) (rest : Option (List BusFrame)) :
    (afterSend fd rest).unsent = rest.getD [] := by
  cases rest <;> rfl

@[simp]
theorem ConnectorPhase.unsent_afterFailure (fd : Nat) (rest : Option (List BusFrame)) :
    (afterFailure fd rest).unsent = rest.getD [] := by
  cases rest <;> rfl

theorem BusStep.numbered {state next : BusState} {label : BusLabel} {events : List BusEvent}
    {history : List BusEvent} (step : BusStep state label next events)
    (safe : numbersSafe state label = true) (unwrapped : state.txSeq + 2 < 2 ^ 32)
    (numbered : Numbered (state.frames history) state.txSeq) :
    Numbered (next.frames (history ++ events)) next.txSeq := by
  cases step with
  | rejected invalid => exact BusState.numbered_same numbered rfl (.refl _)
  | full short known isFull => exact BusState.numbered_same numbered rfl (.refl _)
  | @queued type flags payload short known hasRoom =>
      refine BusState.numbered_take numbered ⟨type, flags, state.txSeq, payload⟩ unwrapped rfl rfl rfl ?_
      rw [List.append_assoc, List.append_assoc]
      exact .refl _
  | setSticky =>
      unfold BusState.busSetSticky
      split <;> exact BusState.numbered_same numbered rfl (.refl _)
  | connect phase isClosed =>
      exact BusState.numbered_same numbered rfl (by rw [phase]; exact .refl _)
  | takeHelloSeq phase =>
      refine BusState.numbered_take numbered state.helloFrame unwrapped rfl rfl rfl ?_
      rw [phase, List.append_assoc]
      exact (List.subperm_append_left _).mpr (List.perm_append_comm).subperm
  | connectorBegins isNext isFree =>
      refine BusState.numbered_same numbered rfl ?_
      rw [ConnectorPhase.unsent_of_begins isNext]
      exact .refl _
  | @connectorSends count conn call after bytes rest phase isOpen advanced =>
      have spec := SendCall.advance_spec advanced
      have unsentBefore : call.unsent = [call.frame] := if_neg spec.started
      refine BusState.numbered_same numbered rfl ?_
      rw [writtenFrames_written, spec.frame, phase]
      change (_ ++ (state.inFlight ++ (after.unsent ++ rest.getD [] ++ state.ring))).Subperm
        (state.inFlight ++ (call.unsent ++ rest.getD [] ++ state.ring))
      by_cases isDone : after.buffers = []
      · rw [if_pos isDone, SendCall.unsent, if_pos isDone, unsentBefore]
        simp only [List.nil_append, List.cons_append]
        exact List.perm_middle.symm.subperm
      · rw [if_neg isDone, SendCall.unsent, if_neg isDone, unsentBefore, spec.frame]
        exact .refl _
  | connectorFinishes phase isDone =>
      refine BusState.numbered_same numbered rfl ?_
      dsimp only
      rw [ConnectorPhase.unsent_afterSend, phase, ConnectorPhase.unsent, SendCall.unsent,
        if_pos isDone]
      exact .refl _
  | @connectorFails call rest phase notDone =>
      refine BusState.numbered_same numbered rfl ?_
      dsimp only
      rw [ConnectorPhase.unsent_afterFailure, phase, ConnectorPhase.unsent]
      rw [List.append_assoc call.unsent]
      exact ((List.sublist_append_right call.unsent _).append_left state.inFlight).subperm
  | closeRefused phase =>
      refine BusState.numbered_same numbered rfl ?_
      rw [writtenFrames_closed, phase]
      exact .refl _
  | @copySnapshot fd phase =>
      simp only [numbersSafe, Bool.and_eq_true, List.isEmpty_iff] at safe
      have taken := (numbered.take ⟨evtSyncBegin, 0, state.txSeq, []⟩ rfl).take
        ⟨evtSyncEnd, 0, (state.txSeq + 1) % 2 ^ 32, []⟩ (Nat.mod_eq_of_lt (by omega))
      dsimp only
      rw [Nat.mod_eq_of_lt (by omega)]
      apply taken.mono
      rw [BusState.frames, BusState.frames, writtenFrames_append]
      simp only [BusState.syncFrames, safe.1, safe.2, phase, ConnectorPhase.unsent,
        List.nil_append, List.append_nil, List.append_assoc]
      exact .refl _
  | publish phase noClient =>
      exact BusState.numbered_same numbered rfl (by rw [phase]; exact .refl _)
  | replace phase isCurrent =>
      refine BusState.numbered_same numbered rfl ?_
      rw [writtenFrames_closed, phase]
      exact .refl _
  | noticeDrop phase notCurrent =>
      exact BusState.numbered_same numbered rfl (by rw [phase]; exact .refl _)
  | peerClosed phase =>
      exact BusState.numbered_same numbered rfl (by rw [phase]; exact .refl _)
  | dropCurrent phase isCurrent =>
      refine BusState.numbered_same numbered rfl ?_
      rw [writtenFrames_closed, phase]
      exact .refl _
  | dropNothing phase notCurrent =>
      exact BusState.numbered_same numbered rfl (by rw [phase]; exact .refl _)
  | dequeue idle ringEq isCurrent =>
      refine BusState.numbered_same numbered rfl ?_
      simp only [BusState.inFlight, idle, ringEq, writtenFrames, List.filterMap_nil,
        List.nil_append, List.singleton_append]
      exact List.perm_middle.symm.subperm
  | @writerBegins fd frame phase isFree =>
      refine BusState.numbered_same numbered rfl ?_
      have started : (state.startCall fd frame).buffers ≠ [] := frame.buffers_ne_nil
      simp only [BusState.inFlight, phase, if_neg started]
      exact .refl _
  | @writerSends count conn call after bytes phase isOpen advanced =>
      have spec := SendCall.advance_spec advanced
      refine BusState.numbered_same numbered rfl ?_
      rw [writtenFrames_written, spec.frame]
      simp only [BusState.inFlight, phase, if_neg spec.started]
      by_cases isDone : after.buffers = []
      · rw [if_pos isDone, if_pos isDone]
        exact .refl _
      · rw [if_neg isDone, if_neg isDone, spec.frame]
        exact .refl _
  | writerFinishes phase isDone =>
      refine BusState.numbered_same numbered rfl ?_
      simp only [BusState.inFlight, phase, if_pos isDone]
      exact .refl _
  | writerFails phase notDone =>
      refine BusState.numbered_same numbered rfl ?_
      simp only [BusState.inFlight, phase, if_neg notDone]
      exact (List.sublist_cons_self _ _).subperm
  | writerCloses phase isCurrent =>
      refine BusState.numbered_same numbered rfl ?_
      rw [writtenFrames_closed]
      simp only [BusState.inFlight, phase]
      exact .refl _
  | writerDrops phase notCurrent =>
      refine BusState.numbered_same numbered rfl ?_
      simp only [BusState.inFlight, phase]
      exact .refl _

/-- On every connection each frame has a number that follows that of the frame
before it. -/
def NumbersIncrease (history : List BusEvent) : Prop :=
  ∀ conn, List.IsChain SeqFollows ((deliveredOn conn history).map BusFrame.seq)

/-- Frames with the same number have the same payload, on all connections. -/
def OneNumberOnePayload (history : List BusEvent) : Prop :=
  ∀ first second, first ∈ writtenFrames history → second ∈ writtenFrames history →
    first.seq = second.seq → first.payload = second.payload

/-- The counter is not about to wrap. -/
def counterBelowWrap (state : BusState) : Bool :=
  decide (state.txSeq + 2 < 2 ^ 32)

structure SafeNumbers (state : BusState) (history : List BusEvent) : Prop where
  link : OneLink state
  current : WritesCurrent state
  kept : LineKept state history

theorem safeNumbers_initial : SafeNumbers .initial [] where
  link := oneLink_of_nothing_open rfl (fun _ => rfl) (.inl rfl)
  current := .of_closed fun _ => rfl
  kept := lineKept_initial

theorem BusStep.safeNumbers {state next : BusState} {label : BusLabel} {events : List BusEvent}
    {history : List BusEvent} (step : BusStep state label next events)
    (allowed : numbersSafe state label = true) (safe : SafeNumbers state history) :
    SafeNumbers next (history ++ events) where
  link := step.oneLink safe.link
  current := step.writesCurrent safe.link allowed safe.current
  kept := step.lineKept safe.link safe.current allowed safe.kept

theorem one_number_of_numbered {state : BusState} {history : List BusEvent}
    (numbered : Numbered (state.frames history) state.txSeq) : OneNumberOnePayload history := by
  intro first second isFirst isSecond sameNumber
  have distinct := numbered.distinct
  rw [BusState.frames, List.map_append, List.nodup_append] at distinct
  exact congrArg BusFrame.payload
    (List.inj_on_of_nodup_map distinct.1 isFirst isSecond sameNumber)

/-- The numbers on the wire, in runs where nothing takes its number before a
replay and is written after it.  The second part is about runs in which the
counter does not wrap. -/
theorem wire_numbers_increase {state : BusState} {history : List BusEvent} :
    (busThreads.RunWithin (fun state _ label => numbersSafe state label = true) state history →
      NumbersIncrease history) ∧
    (busThreads.RunWithin
        (fun state _ label => (numbersSafe state label && counterBelowWrap state) = true)
        state history →
      OneNumberOnePayload history) := by
  constructor
  · intro run
    refine (run.invariant SafeNumbers safeNumbers_initial ?_).kept.ordered
    intro before after past events label safe allowed stepTo
    exact (busStep_cases stepTo).safeNumbers allowed safe
  · intro run
    refine one_number_of_numbered (run.invariant
      (fun state history => Numbered (state.frames history) state.txSeq) ?_ ?_)
    · exact ⟨List.nodup_nil, fun _ member => by cases member⟩
    · intro before after past events label numbered allowed stepTo
      rw [Bool.and_eq_true] at allowed
      exact (busStep_cases stepTo).numbered allowed.1 (of_decide_eq_true allowed.2) numbered

/-- Connect as descriptor 0 with an empty cache, and write one frame. -/
def emptyReplayLabels : List BusLabel :=
  greetLabels ++ [.connectorBegins, .connectorSends 16, .connectorFinishes,
    .connectorBegins, .connectorSends 16, .connectorFinishes, .publish, .send 32 0 [7]] ++
    writeLabels

theorem wire_numbers_increase_after_empty_replay : ∃ state history,
    busThreads.RunWithin
        (fun state _ label => (numbersSafe state label && counterBelowWrap state) = true)
        state history ∧
      (deliveredOn 0 history).map BusFrame.seq = [1, 2, 3, 4] ∧
      OneNumberOnePayload history := by
  obtain ⟨state, history, run, checked⟩ := busThreads.exists_runWithin_of_replay
    (fun state label => numbersSafe state label && counterBelowWrap state) emptyReplayLabels
    (fun result => decide ((deliveredOn 0 result.2).map BusFrame.seq = [1, 2, 3, 4]))
    (by decide +kernel)
  exact ⟨state, history, run, of_decide_eq_true checked, wire_numbers_increase.2 run⟩

/-- The ring is full when a sticky frame is sent, so the frame is cached with a
number that the next HELLO takes as well; and it is replayed with this number
behind a frame with a later one. -/
theorem replay_breaks_numbers : ∃ state history, busThreads.Run state history ∧
    state.txSeq = 260 ∧ ¬NumbersIncrease history ∧ ¬OneNumberOnePayload history := by
  obtain ⟨state, history, run, checked⟩ := busThreads.exists_run_of_replay
    (List.replicate 256 (.send 32 0 []) ++ [.send 16 busFlagSticky [1]] ++ linkLabels)
    (fun result => decide (result.1.txSeq = 260 ∧
      (deliveredOn 0 result.2).map BusFrame.seq = [257, 258, 257, 259] ∧
      (writtenFrames result.2).map (fun frame => (frame.seq, frame.payload)) =
        [(257, BusState.helloPayload), (258, []), (257, [1]), (259, [])]))
    (by
      rw [List.append_assoc, TracedSystem.replay_append, busThreads_replay_sends (by decide)
        (by decide) (by decide) (by decide) (by decide), Option.bind_some]
      decide +kernel)
  obtain ⟨counter, numbers, frames⟩ := of_decide_eq_true checked
  refine ⟨state, history, run, counter, fun increases => ?_, fun one => ?_⟩
  · have chain := increases 0
    rw [numbers] at chain
    obtain ⟨gap, positive, small, wraps⟩ :=
      (List.isChain_cons_cons.mp (List.isChain_cons_cons.mp chain).2).1
    omega
  · have isHello : (257, BusState.helloPayload) ∈
        (writtenFrames history).map fun frame => (frame.seq, frame.payload) := by
      rw [frames]
      exact List.mem_cons_self
    have isReplayed : (257, [1]) ∈
        (writtenFrames history).map fun frame => (frame.seq, frame.payload) := by
      rw [frames]
      exact List.mem_cons_of_mem _ (List.mem_cons_of_mem _ List.mem_cons_self)
    obtain ⟨hello, helloIn, helloEq⟩ := List.mem_map.mp isHello
    obtain ⟨replayed, replayedIn, replayedEq⟩ := List.mem_map.mp isReplayed
    rw [Prod.mk.injEq] at helloEq replayedEq
    have same := one hello replayed helloIn replayedIn (helloEq.1.trans replayedEq.1.symm)
    rw [helloEq.2, replayedEq.2] at same
    exact absurd same (by decide)

end CarplayRgi
