import CarplayRgi.BusSequence
import CarplayRgi.JavaText
import CarplayRgi.StreamParsers

/-!
# The reader of the bus

The receiver of the bus reads a header of 16 bytes and the payload that it
announces, and hands the frame to the listener of its type.  On every
connection of a safe run it dispatches the frames that have been written to it
completely, in their order, and never gives up because of what it has read.
-/

namespace CarplayRgi

/-- A frame as the receiver has read it. -/
structure DispatchedFrame where
  seq : Int
  type : Nat
  flags : UInt8
  payload : List UInt8
  deriving DecidableEq

namespace BusReader

def headerSize : Nat := 16

/-- `MAX_TYPES` of the receiver. -/
def maxListenerTypes : Nat := 0x0400

def byteAt (buf : List UInt8) (off : Nat) : Nat := (buf.getD off 0).toNat

def getBE16 (buf : List UInt8) (off : Nat) : Nat :=
  byteAt buf off * 2 ^ 8 + byteAt buf (off + 1)

def getBE32 (buf : List UInt8) (off : Nat) : Int :=
  wrapInt (getBE16 buf off * 2 ^ 16 + getBE16 buf (off + 2) : Nat)

/-- The payload that a header announces, out of what is behind the header. -/
def readPayload (hdr behind : List UInt8) : Found UInt8 DispatchedFrame :=
  let len := getBE32 hdr 12
  if getBE32 hdr 0 ≠ busMagic then .refused
  else if len < 0 ∨ (busMaxPayload : Int) < len then .refused
  else if behind.length < len.toNat then .incomplete
  else
    .item ⟨getBE32 hdr 4, getBE16 hdr 8, hdr.getD 10 0, behind.take len.toNat⟩
      (behind.drop len.toNat)

/-- One round of `readerLoop` on what the connection has brought.  `readFully`
waits for the rest of a header or of a payload. -/
def readFrame (stream : List UInt8) : Found UInt8 DispatchedFrame :=
  if stream.length < headerSize then .incomplete
  else readPayload (stream.take headerSize) (stream.drop headerSize)

theorem readFrame_of_le {stream : List UInt8} (whole : headerSize ≤ stream.length) :
    readFrame stream = readPayload (stream.take headerSize) (stream.drop headerSize) :=
  if_neg (Nat.not_lt.mpr whole)

/-- A header is there where something is found. -/
theorem headerSize_le {stream : List UInt8} (found : readFrame stream ≠ .incomplete) :
    headerSize ≤ stream.length :=
  Nat.not_lt.mp fun short => found (if_pos short)

theorem readFrame_append {stream : List UInt8} (whole : headerSize ≤ stream.length)
    (more : List UInt8) :
    readFrame (stream ++ more) =
      readPayload (stream.take headerSize) (stream.drop headerSize ++ more) := by
  rw [readFrame_of_le (by rw [List.length_append]; omega), List.take_append_of_le_length whole,
    List.drop_append_of_le_length whole]

/-- A payload stays what it is when more comes behind it. -/
theorem readPayload_item {hdr behind rest : List UInt8} {frame : DispatchedFrame}
    (found : readPayload hdr behind = .item frame rest) :
    rest.length ≤ behind.length ∧
      ∀ more, readPayload hdr (behind ++ more) = .item frame (rest ++ more) := by
  unfold readPayload at found ⊢
  dsimp only at found ⊢
  generalize getBE32 hdr 12 = len at found ⊢
  by_cases magic : getBE32 hdr 0 ≠ busMagic
  · rw [if_pos magic] at found
    cases found
  simp only [if_neg magic] at found ⊢
  by_cases tooLong : len < 0 ∨ (busMaxPayload : Int) < len
  · rw [if_pos tooLong] at found
    cases found
  simp only [if_neg tooLong] at found ⊢
  by_cases waits : behind.length < len.toNat
  · rw [if_pos waits] at found
    cases found
  rw [if_neg waits] at found
  injection found with frameEq restEq
  rw [← restEq, ← frameEq, List.length_drop]
  refine ⟨Nat.sub_le _ _, fun more => ?_⟩
  rw [if_neg (by rw [List.length_append]; omega),
    List.take_append_of_le_length (Nat.not_lt.mp waits),
    List.drop_append_of_le_length (Nat.not_lt.mp waits)]

/-- Only the header is refused. -/
theorem readPayload_refused {hdr behind : List UInt8}
    (found : readPayload hdr behind = .refused) (other : List UInt8) :
    readPayload hdr other = .refused := by
  unfold readPayload at found ⊢
  dsimp only at found ⊢
  generalize getBE32 hdr 12 = len at found ⊢
  by_cases magic : getBE32 hdr 0 ≠ busMagic
  · rw [if_pos magic]
  rw [if_neg magic] at found ⊢
  by_cases tooLong : len < 0 ∨ (busMaxPayload : Int) < len
  · rw [if_pos tooLong]
  rw [if_neg tooLong] at found
  by_cases waits : behind.length < len.toNat
  · rw [if_pos waits] at found
    cases found
  · rw [if_neg waits] at found
    cases found

/-- `readerLoop`. -/
def readerLoop : StreamParser UInt8 DispatchedFrame where
  next := readFrame
  nothing := rfl
  shorter := by
    intro stream frame rest found
    have whole := headerSize_le fun incomplete => by rw [found] at incomplete; cases incomplete
    rw [readFrame_of_le whole] at found
    have fewer := (readPayload_item found).1
    have positive : 0 < headerSize := by decide
    rw [List.length_drop] at fewer
    omega
  keepsItem := by
    intro stream frame rest found more
    have whole := headerSize_le fun incomplete => by rw [found] at incomplete; cases incomplete
    rw [readFrame_of_le whole] at found
    rw [readFrame_append whole, (readPayload_item found).2 more]
  keepsRefusal := by
    intro stream found more
    have whole := headerSize_le fun incomplete => by rw [found] at incomplete; cases incomplete
    rw [readFrame_of_le whole] at found
    rw [readFrame_append whole, readPayload_refused found]

theorem next_readerLoop (stream : List UInt8) : readerLoop.next stream = readFrame stream := rfl

/-- `dispatch`, with the listeners that are registered: the calls of a
listener, and none for a type without one. -/
def dispatch (listeners : Nat → Bool) (frame : DispatchedFrame) : List DispatchedFrame :=
  if maxListenerTypes ≤ frame.type then []
  else if listeners frame.type then [frame] else []

/-- The calls of the listener of a type. -/
def heard (listeners : Nat → Bool) (type : Nat) (frames : List DispatchedFrame) :
    List DispatchedFrame :=
  (frames.flatMap (dispatch listeners)).filter fun frame => frame.type = type

theorem heard_of_registered {listeners : Nat → Bool} {type : Nat}
    (known : type < maxListenerTypes) (registered : listeners type = true)
    (frames : List DispatchedFrame) :
    heard listeners type frames = frames.filter fun frame => frame.type = type := by
  induction frames with
  | nil => rfl
  | cons frame frames ih =>
      rw [heard, List.flatMap_cons, List.filter_append, List.filter_cons]
      rw [heard] at ih
      rw [ih, dispatch]
      by_cases same : frame.type = type
      · rw [same, if_neg (Nat.not_le.mpr known), if_pos registered]
        simp [same]
      · have other : ∀ found ∈ dispatch listeners frame, found = frame := by
          intro found member
          unfold dispatch at member
          split_ifs at member
          · cases member
          · exact List.mem_singleton.mp member
          · cases member
        have nothing : (dispatch listeners frame).filter (fun frame => frame.type = type) = [] := by
          rw [List.filter_eq_nil_iff]
          intro found member
          rw [other found member]
          simpa using same
        rw [← dispatch, nothing]
        simp [same]

/-- What the receiver makes of a frame. -/
def received (frame : BusFrame) : DispatchedFrame :=
  ⟨wrapInt frame.seq, frame.type, frame.flags, frame.payload⟩

theorem length_header (frame : BusFrame) : frame.header.length = headerSize := rfl

/-- Four bytes in a row are the number that `write_be32` has taken apart. -/
theorem getBE32_of_bytes {buf : List UInt8} {off value : Nat} (fits : value < 2 ^ 32)
    (first : byteAt buf off = value / 2 ^ 16 / 2 ^ 8 % 2 ^ 8)
    (second : byteAt buf (off + 1) = value / 2 ^ 16 % 2 ^ 8)
    (third : byteAt buf (off + 2) = value / 2 ^ 8 % 2 ^ 8)
    (fourth : byteAt buf (off + 3) = value % 2 ^ 8) :
    getBE32 buf off = wrapInt value := by
  have whole : getBE16 buf off * 2 ^ 16 + getBE16 buf (off + 2) = value := by
    rw [getBE16, getBE16, first, second, third, fourth]
    omega
  rw [getBE32, whole]

theorem getBE32_magic (frame : BusFrame) : getBE32 frame.header 0 = busMagic := by
  have bits : getBE32 frame.header 0 = wrapInt busMagic :=
    getBE32_of_bytes (by decide) UInt8.toNat_ofNat' UInt8.toNat_ofNat' UInt8.toNat_ofNat'
      UInt8.toNat_ofNat'
  rw [bits]
  decide

theorem getBE32_seq {frame : BusFrame} (fits : frame.seq < 2 ^ 32) :
    getBE32 frame.header 4 = wrapInt frame.seq :=
  getBE32_of_bytes fits UInt8.toNat_ofNat' UInt8.toNat_ofNat' UInt8.toNat_ofNat'
    UInt8.toNat_ofNat'

theorem getBE16_type {frame : BusFrame} (fits : frame.type < 2 ^ 16) :
    getBE16 frame.header 8 = frame.type := by
  have high : byteAt frame.header 8 = frame.type / 2 ^ 8 % 2 ^ 8 := UInt8.toNat_ofNat'
  have low : byteAt frame.header 9 = frame.type % 2 ^ 8 := UInt8.toNat_ofNat'
  rw [getBE16, high, low]
  omega

theorem getBE32_length {frame : BusFrame} (fits : frame.payload.length ≤ busMaxPayload) :
    getBE32 frame.header 12 = frame.payload.length := by
  have small : frame.payload.length < 2 ^ 31 := Nat.lt_of_le_of_lt fits (by decide)
  have bits : getBE32 frame.header 12 = wrapInt frame.payload.length :=
    getBE32_of_bytes (Nat.lt_trans small (by decide)) UInt8.toNat_ofNat' UInt8.toNat_ofNat'
      UInt8.toNat_ofNat' UInt8.toNat_ofNat'
  rw [bits, wrapInt, Int.bmod_eq_of_le (by omega) (by omega)]

theorem readPayload_header {frame : BusFrame} (fits : frame.WellFormed) (more : List UInt8) :
    readPayload frame.header (frame.payload ++ more) = .item (received frame) more := by
  have sameMagic : ¬ getBE32 frame.header 0 ≠ busMagic := not_not.mpr (getBE32_magic frame)
  have len := getBE32_length fits.payload
  have notLong : ¬ (getBE32 frame.header 12 < 0 ∨
      (busMaxPayload : Int) < getBE32 frame.header 12) := by
    have := fits.payload
    omega
  have whole : ¬ (frame.payload ++ more).length < (getBE32 frame.header 12).toNat := by
    rw [len, List.length_append]
    omega
  have flags : frame.header.getD 10 0 = frame.flags := rfl
  unfold readPayload
  dsimp only
  rw [if_neg sameMagic, if_neg notLong, if_neg whole, len, Int.toNat_natCast, List.take_left,
    List.drop_left, getBE32_seq fits.seq, getBE16_type fits.type, flags, received]

/-- A frame that fits its header is read as it is. -/
theorem reads_bytes {frame : BusFrame} (fits : frame.WellFormed) :
    readerLoop.Reads frame.bytes (received frame) := by
  intro more
  have whole : (frame.header ++ (frame.payload ++ more)).take headerSize = frame.header :=
    List.take_left' (length_header frame)
  have behind : (frame.header ++ (frame.payload ++ more)).drop headerSize =
      frame.payload ++ more := List.drop_left' (length_header frame)
  have long : headerSize ≤ (frame.header ++ (frame.payload ++ more)).length := by
    rw [List.length_append, length_header]
    exact Nat.le_add_right _ _
  rw [BusFrame.bytes, List.append_assoc, next_readerLoop,
    readFrame_of_le long, whole, behind, readPayload_header fits]

end BusReader

theorem BusFrame.header_ne_nil (frame : BusFrame) : frame.header ≠ [] := by
  intro empty
  have length : frame.header.length = 0 := by rw [empty]; rfl
  exact absurd (BusReader.length_header frame ▸ length) (by decide)

theorem BusFrame.buffers_filled (frame : BusFrame) : ∀ buffer ∈ frame.buffers, buffer ≠ [] := by
  intro buffer member
  unfold buffers at member
  split_ifs at member with empty
  · rw [List.mem_singleton.mp member]
    exact frame.header_ne_nil
  · rcases List.mem_cons.mp member with rfl | last
    · exact frame.header_ne_nil
    · rwa [List.mem_singleton.mp last]

theorem SendCall.advance_filled {call next : SendCall} {count : Nat} {bytes : List UInt8}
    (advanced : call.advance count = some (bytes, next))
    (filled : ∀ buffer ∈ call.buffers, buffer ≠ []) : ∀ buffer ∈ next.buffers, buffer ≠ [] := by
  unfold advance at advanced
  split at advanced
  · cases advanced
  · rename_i first others buffersEq
    rw [buffersEq] at filled
    obtain ⟨-, othersFilled⟩ := List.forall_mem_cons.mp filled
    split_ifs at advanced with fits whole
    · rw [← (Prod.mk.inj (Option.some.inj advanced)).2]
      exact othersFilled
    · rw [← (Prod.mk.inj (Option.some.inj advanced)).2]
      refine List.forall_mem_cons.mpr ⟨?_, othersFilled⟩
      rw [← List.length_pos_iff, List.length_drop]
      omega

/-- No buffer of the live call is empty. -/
def CallFilled (state : BusState) : Prop :=
  ∀ call, state.liveCall = some call → ∀ buffer ∈ call.buffers, buffer ≠ []

theorem CallStep.filled {before after : BusState} {events : List BusEvent}
    (step : CallStep before after events) (filled : CallFilled before)
    (silent : ∀ id conn frame bytes, .wrote id conn frame bytes ∉ events) : CallFilled after := by
  intro call live
  cases step with
  | quiet liveEq => exact filled call (liveEq ▸ live)
  | begins fd frame _ liveEq =>
      rw [liveEq, Option.some.injEq] at live
      rw [← live]
      exact frame.buffers_filled
  | @sends _ next conn bytes _ _ _ _ _ eventsEq =>
      refine absurd ?_ (silent next.id conn next.frame bytes)
      rw [eventsEq]
      exact List.mem_cons_self
  | finishes _ noCall | fails _ _ noCall =>
      rw [noCall] at live
      cases live

theorem BusStep.callFilled {state next : BusState} {label : BusLabel} {events : List BusEvent}
    (step : BusStep state label next events) (one : OneCall state) (filled : CallFilled state) :
    CallFilled next := by
  have moved := step.callStep one
  cases step with
  | connectorSends phase isOpen advanced =>
      intro call live
      rw [BusState.liveCall, Option.some.injEq] at live
      rw [← live]
      exact SendCall.advance_filled advanced (filled _ (by rw [BusState.liveCall, phase]))
  | @writerSends _ _ call next _ phase isOpen advanced =>
      intro live isLive
      rw [@BusState.liveCall_of_connector { state with writer := .sending next }
        (one.connector phase)] at isLive
      rw [← Option.some.inj isLive]
      exact SendCall.advance_filled advanced (filled _ (BusState.liveCall_of_writer one phase))
  | _ => exact moved.filled filled (by simp)

/-- The connection that the live call writes to is within its frame. -/
theorem BusState.wirePosition_of_writing {state : BusState} (link : OneLink state)
    (held : HeldIsCurrent state) {call : SendCall} {conn : Nat}
    (live : state.liveCall = some call) (isOpen : state.fds call.fd = some conn) :
    state.wirePosition = .greeting call ∨ state.wirePosition = .within call := by
  rcases BusState.liveCall_fd live with holds | ⟨rest, phase⟩
  · have exposed := held.exposed link holds isOpen
    unfold BusState.liveCall at live
    split at live
    · rename_i phase
      rw [phase] at exposed
      cases exposed
    · split at live
      · rename_i phase
        rw [Option.some.injEq] at live
        rw [BusState.wirePosition_of_exposed exposed (link.onlyOpen call.fd conn isOpen).1, phase,
          live, WriterPhase.position, if_pos rfl]
        exact .inr rfl
      · cases live
  · unfold BusState.wirePosition
    rw [phase]
    cases rest with
    | none => exact .inl rfl
    | some frames => exact .inr rfl

/-- Whole frames and the beginning of the one that is being written. -/
theorem WirePosition.Describes.writing {sent : List UInt8} {call : SendCall}
    {position : WirePosition} (described : position.Describes sent)
    (isWriting : position = .greeting call ∨ position = .within call) :
    ∃ frames taken, (∀ frame ∈ frames, frame.WellFormed) ∧
      taken ++ call.buffers.flatten = call.frame.bytes ∧ sent = streamBytes frames ++ taken := by
  rcases isWriting with rfl | rfl
  · exact ⟨[], sent, by simp, described, rfl⟩
  · obtain ⟨frames, taken, conversation, split, sentEq⟩ := described
    exact ⟨frames, taken, conversation.wellFormed, split, sentEq⟩

/-- The live call writes a frame that fits its header. -/
theorem FramesFit.liveCall {state : BusState} (fit : FramesFit state) {call : SendCall}
    (live : state.liveCall = some call) : call.frame.WellFormed := by
  unfold BusState.liveCall at live
  split at live
  · rename_i phase
    rw [← Option.some.inj live]
    exact fit.connector _ (by rw [phase]; exact List.mem_cons_self)
  · split at live
    · rename_i phase
      rw [← Option.some.inj live]
      exact fit.writer _ (by rw [phase]; exact List.mem_singleton.mpr rfl)
    · cases live

namespace BusReader

theorem drain_streamBytes {frames : List BusFrame} (fit : ∀ frame ∈ frames, frame.WellFormed) :
    readerLoop.drain (streamBytes frames) = (frames.map received, .fresh) := by
  have drained : readerLoop.drain (streamBytes frames ++ []) =
      (frames.map received ++ (readerLoop.drain []).1, (readerLoop.drain []).2) :=
    StreamParser.drain_written (fun frame member => reads_bytes (fit frame member)) []
  rwa [List.append_nil, StreamParser.drain_incomplete readerLoop.nothing, List.append_nil]
    at drained

theorem drain_streamBytes_part {frames : List BusFrame} {frame : BusFrame}
    {part left : List UInt8} (fit : ∀ frame ∈ frames, frame.WellFormed)
    (lastFits : frame.WellFormed) (split : part ++ left = frame.bytes) (isPart : left ≠ []) :
    readerLoop.drain (streamBytes frames ++ part) = (frames.map received, ⟨part, false⟩) :=
  StreamParser.drain_written_part (fun frame member => reads_bytes (fit frame member))
    (reads_bytes lastFits) split isPart

/-- On every connection the receiver has dispatched the frames that are written
completely, and waits for more. -/
def HasReceived (history : List BusEvent) : Prop :=
  ∀ conn, ∃ waiting, readerLoop.drain (bytesOn conn history) =
    ((deliveredOn conn history).map received, ⟨waiting, false⟩)

theorem HasReceived.silent {history events : List BusEvent} (received : HasReceived history)
    (noBytes : ∀ conn, ∀ event ∈ events, event.wroteOn conn = none)
    (noFrames : ∀ conn, ∀ event ∈ events, event.deliveredTo conn = none) :
    HasReceived (history ++ events) := by
  intro conn
  rw [bytesOn_of_none (noBytes conn), deliveredOn_of_none (noFrames conn)]
  exact received conn

/-- A `send` call of the live call. -/
theorem HasReceived.written {history : List BusEvent} {call next : SendCall} {conn : Nat}
    {bytes taken : List UInt8} {frames : List BusFrame} (received : HasReceived history)
    (advanced : call.Advanced bytes next) (filled : ∀ buffer ∈ next.buffers, buffer ≠ [])
    (fit : ∀ frame ∈ frames, frame.WellFormed) (lastFits : call.frame.WellFormed)
    (split : taken ++ call.buffers.flatten = call.frame.bytes)
    (sent : bytesOn conn history = streamBytes frames ++ taken) :
    HasReceived (history ++ next.written conn bytes) := by
  intro other
  by_cases same : other = conn
  · subst same
    have leftBefore : call.buffers.flatten ≠ [] := by
      rw [← advanced.bytes]
      exact fun nothing => advanced.moved (List.append_eq_nil_iff.mp nothing).1
    obtain ⟨waiting, before⟩ := received other
    rw [sent, drain_streamBytes_part fit lastFits split leftBefore, Prod.mk.injEq] at before
    have splitAfter : taken ++ bytes ++ next.buffers.flatten = call.frame.bytes := by
      rw [List.append_assoc, advanced.bytes, split]
    rw [bytesOn_written, sent, List.append_assoc, deliveredOn_written, List.map_append, ← before.1]
    by_cases isDone : next.buffers = []
    · rw [isDone, List.flatten_nil, List.append_nil] at splitAfter
      have whole : streamBytes frames ++ (taken ++ bytes) = streamBytes (frames ++ [call.frame]) := by
        rw [splitAfter, streamBytes_append, streamBytes_singleton]
      have allFit : ∀ frame ∈ frames ++ [call.frame], frame.WellFormed := by
        intro frame member
        rcases List.mem_append.mp member with old | last
        · exact fit frame old
        · exact List.mem_singleton.mp last ▸ lastFits
      rw [whole, drain_streamBytes allFit, if_pos isDone, advanced.frame, List.map_append]
      exact ⟨[], rfl⟩
    · have leftAfter : next.buffers.flatten ≠ [] := by
        obtain ⟨buffer, member⟩ := List.exists_mem_of_ne_nil _ isDone
        exact fun nothing => filled buffer member (List.flatten_eq_nil_iff.mp nothing buffer member)
      rw [drain_streamBytes_part fit lastFits splitAfter leftAfter, if_neg isDone, List.map_nil,
        List.append_nil]
      exact ⟨_, rfl⟩
  · have elsewhere : deliveredOn other (history ++ next.written conn bytes) =
        deliveredOn other history := by
      refine deliveredOn_of_none ?_ history
      intro event member
      unfold SendCall.written at member
      split_ifs at member
      · rcases List.mem_cons.mp member with rfl | last
        · rfl
        · rw [List.mem_singleton.mp last]
          exact if_neg (Ne.symm same)
      · rw [List.mem_singleton.mp member]
        rfl
    rw [bytesOn_written_of_ne (Ne.symm same), elsewhere]
    exact received other

/-- What the steps of a safe run keep. -/
structure Kept (state : BusState) (history : List BusEvent) : Prop where
  wire : SafeWire state history
  filled : CallFilled state
  received : HasReceived history

theorem kept_initial : Kept .initial [] where
  wire := safeWire_initial
  filled := by
    intro call live
    cases live
  received := fun _ => ⟨[], StreamParser.drain_incomplete readerLoop.nothing⟩

theorem Kept.step {state next : BusState} {label : BusLabel} {history events : List BusEvent}
    (kept : Kept state history) (whole : ReplaysWhole state label)
    (fresh : ConnectsFresh state label) (step : BusStep state label next events) :
    Kept next (history ++ events) := by
  have filled := step.callFilled kept.wire.known.one kept.filled
  refine ⟨step.safeWire whole fresh kept.wire, filled, ?_⟩
  cases step.callStep kept.wire.known.one with
  | quiet _ _ quiet =>
      refine kept.received.silent (fun conn event member =>
        wroteOn_of_quiet (quiet event member) conn) fun conn event member => ?_
      have isQuiet := quiet event member
      cases event <;> first | rfl | cases isQuiet
  | begins _ _ _ _ _ noEvents | finishes _ _ _ noEvents =>
      rw [noEvents, List.append_nil]
      exact kept.received
  | fails _ _ _ _ failed =>
      rw [failed]
      refine kept.received.silent ?_ ?_
      · intro conn event member
        rw [List.mem_singleton.mp member]
        rfl
      · intro conn event member
        rw [List.mem_singleton.mp member]
        rfl
  | @sends call after conn bytes live liveAfter _ advanced isOpen written =>
      rw [written]
      obtain ⟨frames, taken, fit, split, sent⟩ :=
        (kept.wire.kept.described call.fd conn isOpen).writing
          (BusState.wirePosition_of_writing kept.wire.link kept.wire.held live isOpen)
      exact kept.received.written advanced (filled after liveAfter) fit
        (kept.wire.fit.liveCall live) split sent

theorem kept_of_run {state : BusState} {history : List BusEvent}
    (run : busThreads.RunWithin (fun state _ label => wireSafe state label = true) state history) :
    Kept state history :=
  run.invariant Kept kept_initial fun kept safe stepTo =>
    kept.step (replaysWhole_of_safe safe) (connectsFresh_of_safe safe) (busStep_cases stepTo)

/-- However the bytes of a connection arrive, the receiver dispatches the
frames that were written to it completely, in their order, and every listener
is called for those of its type. -/
theorem connection_dispatched {state : BusState} {history : List BusEvent}
    (run : busThreads.RunWithin (fun state _ label => wireSafe state label = true) state history)
    (conn : Nat) (pieces : List (List UInt8)) (come : pieces.flatten <+: bytesOn conn history) :
    (readerLoop.receiveAll .fresh pieces).2.stopped = false ∧
      (readerLoop.receiveAll .fresh pieces).1 <+: (deliveredOn conn history).map received ∧
      (pieces.flatten = bytesOn conn history →
        (readerLoop.receiveAll .fresh pieces).1 = (deliveredOn conn history).map received ∧
        ∀ listeners type, type < maxListenerTypes → listeners type = true →
          heard listeners type (readerLoop.receiveAll .fresh pieces).1 =
            ((deliveredOn conn history).filter fun frame => frame.type = type).map received) := by
  obtain ⟨waiting, drained⟩ := (kept_of_run run).received conn
  have goesOn : (readerLoop.drain (bytesOn conn history)).2.stopped = false := by rw [drained]
  obtain ⟨outputs, accepted⟩ := StreamParser.drain_prefix come goesOn
  rw [drained] at outputs
  rw [StreamParser.receiveAll_eq_drain]
  refine ⟨accepted, outputs, fun all => ?_⟩
  rw [all, drained]
  refine ⟨rfl, fun listeners type known registered => ?_⟩
  rw [heard_of_registered known registered, List.filter_map]
  rfl

/-- The bytes of a greeting come in two pieces. -/
theorem greeting_dispatched : ∃ state history,
    busThreads.RunWithin (fun state _ label => wireSafe state label = true) state history ∧
      (deliveredOn 0 history).length = 1 ∧
      (readerLoop.receiveAll .fresh
        [(bytesOn 0 history).take 20, (bytesOn 0 history).drop 20]).1 =
          (deliveredOn 0 history).map received := by
  obtain ⟨state, history, run, checked⟩ := busThreads.exists_runWithin_of_replay wireSafe
    greetLabels (fun result => decide ((deliveredOn 0 result.2).length = 1))
    (by decide +kernel)
  have whole : [(bytesOn 0 history).take 20, (bytesOn 0 history).drop 20].flatten =
      bytesOn 0 history := by simp
  have dispatched := connection_dispatched run 0
    [(bytesOn 0 history).take 20, (bytesOn 0 history).drop 20] ⟨[], (List.append_nil _).trans whole⟩
  exact ⟨state, history, run, of_decide_eq_true checked, (dispatched.2.2 whole).1⟩

end BusReader

end CarplayRgi
