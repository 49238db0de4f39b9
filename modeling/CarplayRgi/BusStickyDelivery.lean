import CarplayRgi.BusThreads

/-!
# Sticky frames reach the published connection

The most recent value of a sticky type is always cached.  A value that the
ring accepted is behind every older one of its type, and so is one that is
replayed while none of its type is waiting.  So once the ring is drained it is
the last value of its type on the connection.  A value that finds the ring
full is cached only.
-/

namespace CarplayRgi

def noteSent (type : Nat) (last : Option (List UInt8 × Bool)) :
    BusEvent → Option (List UInt8 × Bool)
  | .sendCalled other _ payload queued => if other = type then some (payload, queued) else last
  | _ => last

/-- The payload of the most recent `bus_send` of a type, and whether the ring
had room for it. -/
def lastSent (type : Nat) (history : List BusEvent) : Option (List UInt8 × Bool) :=
  history.foldl (noteSent type) none

def noteCopy (type : Nat) (clean : Option Nat) : BusEvent → Option Nat
  | .sendCalled other _ _ _ => if other = type then none else clean
  | .copied conn waiting => if waiting.any (·.type = type) then none else conn
  | _ => clean

/-- The connection for which the cache was copied since the most recent send
of a type, at a time when no frame of the type was waiting. -/
def cleanCopy (type : Nat) (history : List BusEvent) : Option Nat :=
  history.foldl (noteCopy type) none

def BusEvent.deliveredTo (conn : Nat) : BusEvent → Option BusFrame
  | .delivered other frame => if other = conn then some frame else none
  | _ => none

/-- The frames that have been written completely to a connection. -/
def deliveredOn (conn : Nat) (history : List BusEvent) : List BusFrame :=
  history.filterMap (BusEvent.deliveredTo conn)

def BusEvent.sendsUnflagged (type : Nat) : BusEvent → Bool
  | .sendCalled other flags _ _ => other = type && flags &&& busFlagSticky = 0
  | _ => false

/-- Every `bus_send` of the type carries the sticky flag. -/
def AllSticky (type : Nat) (history : List BusEvent) : Prop :=
  ∀ event ∈ history, event.sendsUnflagged type = false
  deriving Decidable

def BusEvent.failsReplayOn (conn : Nat) : BusEvent → Bool
  | .sendFailed .connector _ (some other) => other = conn
  | _ => false

/-- No frame of the connector failed on the connection. -/
def ReplayComplete (conn : Nat) (history : List BusEvent) : Prop :=
  ∀ event ∈ history, event.failsReplayOn conn = false
  deriving Decidable

theorem lastSent_append (type : Nat) (history events : List BusEvent) :
    lastSent type (history ++ events) = events.foldl (noteSent type) (lastSent type history) := by
  rw [lastSent, List.foldl_append]
  rfl

theorem cleanCopy_append (type : Nat) (history events : List BusEvent) :
    cleanCopy type (history ++ events) = events.foldl (noteCopy type) (cleanCopy type history) := by
  rw [cleanCopy, List.foldl_append]
  rfl

theorem deliveredOn_append (conn : Nat) (history events : List BusEvent) :
    deliveredOn conn (history ++ events) =
      deliveredOn conn history ++ deliveredOn conn events := by
  simp [deliveredOn]

def lastOf (type : Nat) (frames : List BusFrame) : Option BusFrame :=
  (frames.filter (·.type = type)).getLast?

@[simp]
theorem lastOf_nil (type : Nat) : lastOf type [] = none := rfl

theorem lastOf_append (type : Nat) (first second : List BusFrame) :
    lastOf type (first ++ second) = (lastOf type second).or (lastOf type first) := by
  simp [lastOf, List.getLast?_append]

@[simp]
theorem lastOf_singleton (type : Nat) (frame : BusFrame) :
    lastOf type [frame] = if frame.type = type then some frame else none := by
  unfold lastOf
  split <;> simp [*]

theorem lastOf_eq_none {type : Nat} {frames : List BusFrame} :
    lastOf type frames = none ↔ ∀ frame ∈ frames, frame.type ≠ type := by
  simp [lastOf]

theorem mem_of_lastOf {type : Nat} {frames : List BusFrame} {frame : BusFrame}
    (isLast : lastOf type frames = some frame) : frame ∈ frames ∧ frame.type = type := by
  have member := List.mem_of_getLast? isLast
  simpa using member

/-- The last frame of the type carries the payload. -/
def Carries (type : Nat) (payload : List UInt8) (frames : List BusFrame) : Prop :=
  ∃ frame, lastOf type frames = some frame ∧ frame.payload = payload

/-- No frame of the type is behind one that carries the payload. -/
def EndsWith (type : Nat) (payload : List UInt8) (frames : List BusFrame) : Prop :=
  ∀ frame, lastOf type frames = some frame → frame.payload = payload

theorem Carries.append {type : Nat} {payload : List UInt8} {first second : List BusFrame}
    (carries : Carries type payload first) (ends : EndsWith type payload second) :
    Carries type payload (first ++ second) := by
  unfold Carries at *
  rw [lastOf_append]
  cases lastEq : lastOf type second with
  | none => exact carries
  | some frame => exact ⟨frame, rfl, ends frame lastEq⟩

theorem EndsWith.append_left {type : Nat} {payload : List UInt8} {first second : List BusFrame}
    (ends : EndsWith type payload (first ++ second)) : EndsWith type payload second := by
  intro frame isLast
  exact ends frame (by rw [lastOf_append, isLast]; rfl)

theorem carries_of_mem {type : Nat} {payload : List UInt8} {frames : List BusFrame}
    {frame : BusFrame} (member : frame ∈ frames) (ofType : frame.type = type)
    (all : ∀ other ∈ frames, other.type = type → other.payload = payload) :
    Carries type payload frames := by
  cases lastEq : lastOf type frames with
  | none => exact absurd ofType (lastOf_eq_none.mp lastEq frame member)
  | some last =>
      obtain ⟨isMember, lastType⟩ := mem_of_lastOf lastEq
      exact ⟨last, lastEq, all last isMember lastType⟩

theorem Carries.prepend {type : Nat} {payload : List UInt8} {second : List BusFrame}
    (carries : Carries type payload second) (first : List BusFrame) :
    Carries type payload (first ++ second) := by
  obtain ⟨frame, isLast, payloadEq⟩ := carries
  refine ⟨frame, ?_, payloadEq⟩
  rw [lastOf_append, isLast]
  rfl

/-- A frame between the others does not hide the payload that it carries. -/
theorem Carries.insert {type : Nat} {payload : List UInt8} {first second : List BusFrame}
    (carries : Carries type payload (first ++ second)) {frame : BusFrame}
    (same : frame.type = type → frame.payload = payload) :
    Carries type payload (first ++ frame :: second) := by
  obtain ⟨last, isLast, payloadEq⟩ := carries
  rw [lastOf_append] at isLast
  have split : first ++ frame :: second = first ++ [frame] ++ second := by simp
  unfold Carries
  rw [split, lastOf_append, lastOf_append, lastOf_singleton]
  cases secondEq : lastOf type second with
  | some other =>
      rw [secondEq] at isLast
      exact ⟨last, isLast, payloadEq⟩
  | none =>
      rw [secondEq] at isLast
      by_cases ofType : frame.type = type
      · exact ⟨frame, by simp [ofType], same ofType⟩
      · exact ⟨last, by simpa [ofType] using isLast, payloadEq⟩

/-- What a connection must carry: the most recent payload, when the ring took
it or when it was copied for the connection with nothing of its type waiting. -/
def Expects (type conn : Nat) (history : List BusEvent) (payload : List UInt8) : Prop :=
  ∃ queued, lastSent type history = some (payload, queued) ∧
    (queued = true ∨ cleanCopy type history = some conn) ∧ ReplayComplete conn history

/-- The most recent payload is behind every waiting frame of its type. -/
def Settled (type : Nat) (history : List BusEvent) (payload : List UInt8) : Prop :=
  ∃ queued, lastSent type history = some (payload, queued) ∧
    (queued = true ∨ cleanCopy type history ≠ none)

theorem Expects.settled {type conn : Nat} {history : List BusEvent} {payload : List UInt8}
    (expects : Expects type conn history payload) : Settled type history payload := by
  obtain ⟨queued, sent, fresh, -⟩ := expects
  refine ⟨queued, sent, fresh.imp_right fun copied => ?_⟩
  rw [copied]
  exact Option.some_ne_none conn

/-- The connection's descriptor and the frames that are still to be replayed
on it. -/
def ConnectorPhase.toReplay : ConnectorPhase → Option (Nat × List BusFrame)
  | .replays fd frames => some (fd, frames)
  | .sending call (some frames) =>
      some (call.fd, if call.buffers = [] then frames else call.frame :: frames)
  | _ => none

theorem ConnectorPhase.hidden_of_toReplay {phase : ConnectorPhase} {fd : Nat}
    {frames : List BusFrame} (replaying : phase.toReplay = some (fd, frames)) :
    phase.isExposed = false ∧ phase.fd = some fd := by
  unfold toReplay at replaying
  split at replaying
  · cases replaying
    exact ⟨rfl, rfl⟩
  · cases replaying
    exact ⟨rfl, rfl⟩
  · cases replaying

theorem ConnectorPhase.toReplay_of_nextFrame {phase : ConnectorPhase} {fd : Nat}
    {frame : BusFrame} {rest : Option (List BusFrame)}
    (isNext : phase.nextFrame = some (fd, frame, rest)) (id : Nat) :
    (ConnectorPhase.sending ⟨id, fd, frame, frame.buffers⟩ rest).toReplay = phase.toReplay := by
  unfold nextFrame at isNext
  split at isNext
  · cases isNext
    rfl
  · cases isNext
    simp [toReplay, frame.buffers_ne_nil]
  · cases isNext

namespace BusState

/-- The frame in flight, when the writer has taken it for the descriptor. -/
def inFlightOn (fd : Nat) (state : BusState) : List BusFrame :=
  match state.writer with
  | .loaded other _ => if other = fd then state.inFlight else []
  | .sending call => if call.fd = fd then state.inFlight else []
  | _ => []

theorem inFlightOn_cases (fd : Nat) (state : BusState) :
    state.inFlightOn fd = [] ∨ state.inFlightOn fd = state.inFlight := by
  unfold inFlightOn
  split
  · split
    · exact .inr rfl
    · exact .inl rfl
  · split
    · exact .inr rfl
    · exact .inl rfl
  · exact .inl rfl

end BusState

structure StickyDelivery (type : Nat) (state : BusState) (history : List BusEvent) : Prop where
  typed : ∀ other frame, (state.types other).last = some frame → frame.type = other
  cached : ∀ payload queued, lastSent type history = some (payload, queued) →
    type < maxTypes ∧ ∃ frame, (state.types type).last = some frame ∧ frame.payload = payload
  ends : ∀ payload, Settled type history payload → EndsWith type payload state.waiting
  replays : ∀ fd frames conn payload, state.connector.toReplay = some (fd, frames) →
    state.fds fd = some conn → Expects type conn history payload → lastOf type state.ring = none →
      Carries type payload (deliveredOn conn history ++ frames)
  published : ∀ fd conn payload, state.client = some fd → state.fds fd = some conn →
    state.writer ≠ .failed fd → Expects type conn history payload →
      lastOf type state.ring = none →
        Carries type payload (deliveredOn conn history ++ state.inFlightOn fd)

/-- An event that says nothing new about the values of a type. -/
def IgnoredFor (type : Nat) : BusEvent → Prop
  | .sendCalled other _ _ _ => other ≠ type
  | .copied _ _ => False
  | .delivered _ _ => False
  | _ => True

theorem lastSent_of_ignored {type : Nat} {events : List BusEvent}
    (ignored : ∀ event ∈ events, IgnoredFor type event) (history : List BusEvent) :
    lastSent type (history ++ events) = lastSent type history := by
  rw [lastSent_append]
  induction events with
  | nil => rfl
  | cons event events ih =>
      have first : noteSent type (lastSent type history) event = lastSent type history := by
        have isIgnored := ignored event List.mem_cons_self
        cases event with
        | sendCalled other flags payload queued => exact if_neg isIgnored
        | _ => rfl
      rw [List.foldl_cons, first]
      exact ih fun later member => ignored later (List.mem_cons_of_mem event member)

theorem cleanCopy_of_ignored {type : Nat} {events : List BusEvent}
    (ignored : ∀ event ∈ events, IgnoredFor type event) (history : List BusEvent) :
    cleanCopy type (history ++ events) = cleanCopy type history := by
  rw [cleanCopy_append]
  induction events with
  | nil => rfl
  | cons event events ih =>
      have first : noteCopy type (cleanCopy type history) event = cleanCopy type history := by
        have isIgnored := ignored event List.mem_cons_self
        cases event with
        | sendCalled other flags payload queued => exact if_neg isIgnored
        | copied conn waiting => exact isIgnored.elim
        | _ => rfl
      rw [List.foldl_cons, first]
      exact ih fun later member => ignored later (List.mem_cons_of_mem event member)

theorem deliveredOn_of_none {conn : Nat} {events : List BusEvent}
    (nothing : ∀ event ∈ events, event.deliveredTo conn = none) (history : List BusEvent) :
    deliveredOn conn (history ++ events) = deliveredOn conn history := by
  have empty : deliveredOn conn events = [] := List.filterMap_eq_nil_iff.mpr nothing
  rw [deliveredOn_append, empty, List.append_nil]

theorem deliveredOn_of_ignored {type : Nat} {events : List BusEvent}
    (ignored : ∀ event ∈ events, IgnoredFor type event) (conn : Nat) (history : List BusEvent) :
    deliveredOn conn (history ++ events) = deliveredOn conn history := by
  refine deliveredOn_of_none (fun event member => ?_) history
  have isIgnored := ignored event member
  cases event with
  | delivered other frame => exact isIgnored.elim
  | _ => rfl

theorem ReplayComplete.before {conn : Nat} {history events : List BusEvent}
    (complete : ReplayComplete conn (history ++ events)) : ReplayComplete conn history :=
  fun event member => complete event (List.mem_append_left events member)

theorem Expects.before_ignored {type conn : Nat} {history events : List BusEvent}
    {payload : List UInt8} (expects : Expects type conn (history ++ events) payload)
    (ignored : ∀ event ∈ events, IgnoredFor type event) : Expects type conn history payload := by
  obtain ⟨queued, sent, fresh, complete⟩ := expects
  rw [lastSent_of_ignored ignored] at sent
  rw [cleanCopy_of_ignored ignored] at fresh
  exact ⟨queued, sent, fresh, complete.before⟩

/-- A step that moves no frame of the type. -/
theorem StickyDelivery.keep {type : Nat} {before after : BusState} {history events : List BusEvent}
    (delivery : StickyDelivery type before history)
    (ignored : ∀ event ∈ events, IgnoredFor type event)
    (typed : ∀ other frame, (after.types other).last = some frame → frame.type = other)
    (last : (after.types type).last = (before.types type).last)
    (ring : lastOf type after.ring = lastOf type before.ring)
    (ends : ∀ payload, EndsWith type payload before.waiting →
      EndsWith type payload after.waiting)
    (replays : ∀ fd frames conn, after.connector.toReplay = some (fd, frames) →
      after.fds fd = some conn → ReplayComplete conn (history ++ events) →
        before.connector.toReplay = some (fd, frames) ∧ before.fds fd = some conn)
    (published : ∀ fd conn, after.client = some fd → after.fds fd = some conn →
      after.writer ≠ .failed fd → before.client = some fd ∧ before.fds fd = some conn ∧
        before.writer ≠ .failed fd ∧ after.inFlightOn fd = before.inFlightOn fd) :
    StickyDelivery type after (history ++ events) := by
  refine ⟨typed, ?_, ?_, ?_, ?_⟩
  · intro payload queued sent
    rw [lastSent_of_ignored ignored] at sent
    rw [last]
    exact delivery.cached payload queued sent
  · rintro payload ⟨queued, sent, fresh⟩
    rw [lastSent_of_ignored ignored] at sent
    rw [cleanCopy_of_ignored ignored] at fresh
    exact ends payload (delivery.ends payload ⟨queued, sent, fresh⟩)
  · intro fd frames conn payload replaying isOpen expects noneQueued
    obtain ⟨queued, -, -, complete⟩ := id expects
    obtain ⟨replayedBefore, openBefore⟩ := replays fd frames conn replaying isOpen complete
    rw [deliveredOn_of_ignored ignored]
    exact delivery.replays fd frames conn payload replayedBefore openBefore
      (expects.before_ignored ignored) (ring ▸ noneQueued)
  · intro fd conn payload isCurrent isOpen notFailed expects noneQueued
    obtain ⟨currentBefore, openBefore, notFailedBefore, inFlight⟩ :=
      published fd conn isCurrent isOpen notFailed
    rw [deliveredOn_of_ignored ignored, inFlight]
    exact delivery.published fd conn payload currentBefore openBefore notFailedBefore
      (expects.before_ignored ignored) (ring ▸ noneQueued)

open BusState in
theorem cacheSticky_typed {state : BusState}
    (typed : ∀ other frame, (state.types other).last = some frame → frame.type = other)
    (sent : BusFrame) (other : Nat) (frame : BusFrame)
    (isLast : (state.cacheSticky sent other).last = some frame) : frame.type = other := by
  unfold cacheSticky at isLast
  split at isLast
  · by_cases same : other = sent.type
    · subst same
      rw [Function.update_self, Option.some.injEq] at isLast
      rw [isLast]
    · rw [Function.update_of_ne same] at isLast
      exact typed other frame isLast
  · exact typed other frame isLast

theorem cacheSticky_last_of_ne {state : BusState} {sent : BusFrame} {type : Nat}
    (other : sent.type ≠ type) :
    (state.cacheSticky sent type).last = (state.types type).last := by
  unfold BusState.cacheSticky
  split
  · rw [Function.update_of_ne other.symm]
  · rfl

theorem cacheSticky_last_self {state : BusState} {sent : BusFrame}
    (sticky : sent.flags &&& busFlagSticky ≠ 0) :
    (state.cacheSticky sent sent.type).last = some sent := by
  unfold BusState.cacheSticky
  rw [if_pos (by simp [BusState.isSticky, sticky]), Function.update_self]

theorem lastOf_append_of_ne {type : Nat} {frame : BusFrame} (other : frame.type ≠ type)
    (frames : List BusFrame) : lastOf type (frames ++ [frame]) = lastOf type frames := by
  rw [lastOf_append, lastOf_singleton, if_neg other]
  rfl

theorem lastOf_append_self {type : Nat} {frame : BusFrame} (ofType : frame.type = type)
    (frames : List BusFrame) : lastOf type (frames ++ [frame]) = some frame := by
  rw [lastOf_append, lastOf_singleton, if_pos ofType]
  rfl

/-- A value of the type that was only cached promises nothing. -/
theorem not_settled_of_dropped {type : Nat} {flags : UInt8} {sent payload : List UInt8}
    {history : List BusEvent} :
    ¬Settled type (history ++ [.sendCalled type flags sent false]) payload := by
  rintro ⟨queued, last, fresh⟩
  simp only [lastSent_append, List.foldl_cons, List.foldl_nil, noteSent, if_true,
    Option.some.injEq, Prod.mk.injEq] at last
  rw [← last.2, cleanCopy_append] at fresh
  simp [noteCopy] at fresh

theorem StickyDelivery.dropped {type : Nat} {state : BusState} {history : List BusEvent}
    {flags : UInt8} {payload : List UInt8} (delivery : StickyDelivery type state history)
    (known : type < maxTypes) (sticky : flags &&& busFlagSticky ≠ 0) :
    StickyDelivery type
      { state with types := state.cacheSticky ⟨type, flags, state.txSeq, payload⟩ }
      (history ++ [.sendCalled type flags payload false]) := by
  refine ⟨cacheSticky_typed delivery.typed _, ?_, ?_, ?_, ?_⟩
  · intro other queued sent
    simp only [lastSent_append, List.foldl_cons, List.foldl_nil, noteSent, if_true,
      Option.some.injEq, Prod.mk.injEq] at sent
    exact ⟨known, _, @cacheSticky_last_self state ⟨type, flags, state.txSeq, payload⟩ sticky,
      sent.1⟩
  · exact fun other settled => absurd settled not_settled_of_dropped
  · exact fun fd frames conn other _ _ expects => absurd expects.settled not_settled_of_dropped
  · exact fun fd conn other _ _ _ expects => absurd expects.settled not_settled_of_dropped

theorem StickyDelivery.accepted {type : Nat} {state : BusState} {history : List BusEvent}
    {flags : UInt8} {payload : List UInt8} {seq : Nat}
    (delivery : StickyDelivery type state history) (known : type < maxTypes)
    (sticky : flags &&& busFlagSticky ≠ 0) :
    StickyDelivery type
      { state with
        types := state.cacheSticky ⟨type, flags, state.txSeq, payload⟩
        ring := state.ring ++ [⟨type, flags, state.txSeq, payload⟩]
        txSeq := seq }
      (history ++ [.sendCalled type flags payload true]) := by
  have lastInRing := @lastOf_append_self type ⟨type, flags, state.txSeq, payload⟩ rfl state.ring
  refine ⟨cacheSticky_typed delivery.typed _, ?_, ?_, ?_, ?_⟩
  · intro other queued sent
    simp only [lastSent_append, List.foldl_cons, List.foldl_nil, noteSent, if_true,
      Option.some.injEq, Prod.mk.injEq] at sent
    exact ⟨known, _, @cacheSticky_last_self state ⟨type, flags, state.txSeq, payload⟩ sticky,
      sent.1⟩
  · rintro other ⟨queued, sent, -⟩ frame isLast
    simp only [lastSent_append, List.foldl_cons, List.foldl_nil, noteSent, if_true,
      Option.some.injEq, Prod.mk.injEq] at sent
    dsimp only [BusState.waiting] at isLast
    rw [lastOf_append, lastInRing, Option.some_or, Option.some.injEq] at isLast
    rw [← isLast, ← sent.1]
  · intro fd frames conn other _ _ _ noneQueued
    dsimp only at noneQueued
    rw [lastInRing] at noneQueued
    cases noneQueued
  · intro fd conn other _ _ _ _ noneQueued
    dsimp only at noneQueued
    rw [lastInRing] at noneQueued
    cases noneQueued

/-- Cached frames of the type, and no other frame of the replay, carry the
most recent payload. -/
theorem StickyDelivery.carries_syncFrames {type : Nat} {state : BusState}
    {history : List BusEvent} (delivery : StickyDelivery type state history)
    (notEnd : type ≠ evtSyncEnd) {payload : List UInt8} {queued : Bool}
    (sent : lastSent type history = some (payload, queued)) (first : List BusFrame) :
    Carries type payload (first ++ state.syncFrames) := by
  obtain ⟨known, frame, cached, payloadEq⟩ := delivery.cached payload queued sent
  have inCache : Carries type payload state.cachedFrames := by
    refine @carries_of_mem type payload _ { frame with flags := frame.flags ||| busFlagReplay }
      ?_ (delivery.typed type frame cached) ?_
    · rw [BusState.cachedFrames, List.mem_filterMap]
      exact ⟨type, List.mem_range.mpr known, by rw [cached]; rfl⟩
    · intro other member ofType
      rw [BusState.cachedFrames, List.mem_filterMap] at member
      obtain ⟨slot, -, replayed⟩ := member
      rw [Option.map_eq_some_iff] at replayed
      obtain ⟨last, isLast, rfl⟩ := replayed
      have sameSlot : slot = type := (delivery.typed slot last isLast).symm.trans ofType
      rw [sameSlot, cached, Option.some.injEq] at isLast
      rw [← isLast]
      exact payloadEq
  have ended : Carries type payload
      (state.cachedFrames ++ [⟨evtSyncEnd, 0, (state.txSeq + 1) % 2 ^ 32, []⟩]) := by
    refine inCache.append ?_
    intro other isLast
    rw [lastOf_singleton, if_neg notEnd.symm] at isLast
    cases isLast
  exact (ended.prepend [⟨evtSyncBegin, 0, state.txSeq, []⟩]).prepend first

theorem StickyDelivery.copySnapshot {type fd seq : Nat} {state : BusState}
    {history : List BusEvent} (delivery : StickyDelivery type state history)
    (link : OneLink state) (notEnd : type ≠ evtSyncEnd) (phase : state.connector = .greeted fd) :
    StickyDelivery type { state with connector := .replays fd state.syncFrames, txSeq := seq }
      (history ++ [.copied (state.fds fd) state.waiting]) := by
  have noClient : state.client = none := link.hidden (by rw [phase]; rfl)
  have sentEq : lastSent type (history ++ [.copied (state.fds fd) state.waiting]) =
      lastSent type history := by
    rw [lastSent_append]
    rfl
  refine ⟨delivery.typed, ?_, ?_, ?_, ?_⟩
  · intro payload queued sent
    rw [sentEq] at sent
    exact delivery.cached payload queued sent
  · rintro payload ⟨queued, sent, fresh⟩
    rw [sentEq] at sent
    rcases fresh with accepted | copied
    · exact delivery.ends payload ⟨queued, sent, .inl accepted⟩
    · -- nothing of the type was waiting
      intro frame isLast
      obtain ⟨member, ofType⟩ := mem_of_lastOf isLast
      rw [cleanCopy_append] at copied
      refine absurd ?_ copied
      simp only [List.foldl_cons, List.foldl_nil, noteCopy]
      exact if_pos (List.any_eq_true.mpr ⟨frame, member, by simpa using ofType⟩)
  · rintro other frames conn payload replaying - ⟨queued, sent, -⟩ -
    cases replaying
    rw [sentEq] at sent
    exact delivery.carries_syncFrames notEnd sent _
  · intro other conn payload isCurrent
    dsimp only at isCurrent
    rw [noClient] at isCurrent
    cases isCurrent

theorem lastSent_written (type : Nat) (call : SendCall) (conn : Nat) (bytes : List UInt8)
    (history : List BusEvent) :
    lastSent type (history ++ call.written conn bytes) = lastSent type history := by
  rw [lastSent_append, SendCall.written]
  split <;> rfl

theorem cleanCopy_written (type : Nat) (call : SendCall) (conn : Nat) (bytes : List UInt8)
    (history : List BusEvent) :
    cleanCopy type (history ++ call.written conn bytes) = cleanCopy type history := by
  rw [cleanCopy_append, SendCall.written]
  split <;> rfl

theorem deliveredOn_written (call : SendCall) (conn : Nat) (bytes : List UInt8)
    (history : List BusEvent) :
    deliveredOn conn (history ++ call.written conn bytes) =
      deliveredOn conn history ++ if call.buffers = [] then [call.frame] else [] := by
  rw [deliveredOn_append, SendCall.written]
  split <;> simp [deliveredOn, List.filterMap_cons, BusEvent.deliveredTo]

theorem Settled.before_written {type conn : Nat} {call : SendCall} {bytes : List UInt8}
    {history : List BusEvent} {payload : List UInt8}
    (settled : Settled type (history ++ call.written conn bytes) payload) :
    Settled type history payload := by
  obtain ⟨queued, sent, fresh⟩ := settled
  rw [lastSent_written] at sent
  rw [cleanCopy_written] at fresh
  exact ⟨queued, sent, fresh⟩

theorem Expects.before_written {type conn other : Nat} {call : SendCall} {bytes : List UInt8}
    {history : List BusEvent} {payload : List UInt8}
    (expects : Expects type other (history ++ call.written conn bytes) payload) :
    Expects type other history payload := by
  obtain ⟨queued, sent, fresh, complete⟩ := expects
  rw [lastSent_written] at sent
  rw [cleanCopy_written] at fresh
  exact ⟨queued, sent, fresh, complete.before⟩

theorem StickyDelivery.connectorSends {type count conn : Nat} {state : BusState}
    {history : List BusEvent} {call next : SendCall} {bytes : List UInt8}
    {rest : Option (List BusFrame)} (delivery : StickyDelivery type state history)
    (link : OneLink state) (phase : state.connector = .sending call rest)
    (isOpen : state.fds call.fd = some conn) (advanced : call.advance count = some (bytes, next)) :
    StickyDelivery type { state with connector := .sending next rest }
      (history ++ next.written conn bytes) := by
  have moved := SendCall.advance_spec advanced
  have noClient : state.client = none := link.hidden (by rw [phase]; rfl)
  refine ⟨delivery.typed, ?_, ?_, ?_, ?_⟩
  · intro payload queued sent
    rw [lastSent_written] at sent
    exact delivery.cached payload queued sent
  · exact fun payload settled => delivery.ends payload settled.before_written
  · intro fd frames other payload replaying otherOpen expects noneQueued
    cases rest with
    | none => cases replaying
    | some later =>
        simp only [ConnectorPhase.toReplay, Option.some.injEq, Prod.mk.injEq] at replaying
        obtain ⟨rfl, rfl⟩ := replaying
        dsimp only at otherOpen
        rw [moved.fd, isOpen, Option.some.injEq] at otherOpen
        subst otherOpen
        have before : state.connector.toReplay = some (call.fd, call.frame :: later) := by
          rw [phase]
          simp [ConnectorPhase.toReplay, moved.started]
        have carried := delivery.replays _ _ _ payload before isOpen expects.before_written
          noneQueued
        rw [deliveredOn_written, List.append_assoc]
        by_cases isDone : next.buffers = []
        · simpa [isDone, moved.frame] using carried
        · simpa [isDone, moved.frame] using carried
  · intro fd other payload isCurrent
    dsimp only at isCurrent
    rw [noClient] at isCurrent
    cases isCurrent

theorem StickyDelivery.publish {type fd : Nat} {state : BusState} {history : List BusEvent}
    (delivery : StickyDelivery type state history) (phase : state.connector = .replays fd []) :
    StickyDelivery type { state with connector := .watching fd, client := some fd } history := by
  refine ⟨delivery.typed, delivery.cached, delivery.ends, ?_, ?_⟩
  · intro other frames conn payload replaying
    cases replaying
  · intro other conn payload isCurrent isOpen _ expects noneQueued
    cases isCurrent
    have replayed : state.connector.toReplay = some (fd, []) := by
      rw [phase]
      rfl
    have carried := delivery.replays fd [] conn payload replayed isOpen expects noneQueued
    rw [List.append_nil] at carried
    refine carried.append ?_
    have settled := delivery.ends payload expects.settled
    change EndsWith type payload (state.inFlightOn fd)
    rcases state.inFlightOn_cases fd with noFrame | oneFrame
    · rw [noFrame]
      intro frame isLast
      cases isLast
    · rw [oneFrame]
      intro frame isLast
      refine settled frame ?_
      rw [BusState.waiting, lastOf_append, noneQueued, isLast]
      rfl

theorem StickyDelivery.dequeue {type fd : Nat} {state : BusState} {history : List BusEvent}
    {frame : BusFrame} {frames : List BusFrame} (delivery : StickyDelivery type state history)
    (link : OneLink state) (idle : state.writer = .waiting) (ringEq : state.ring = frame :: frames)
    (isCurrent : state.client = some fd) :
    StickyDelivery type { state with ring := frames, writer := .loaded fd frame } history := by
  have waitingEq : state.waiting = [frame] ++ frames := by
    rw [BusState.waiting, BusState.inFlight, idle, ringEq]
    rfl
  refine ⟨delivery.typed, delivery.cached, ?_, ?_, ?_⟩
  · intro payload settled
    have ends := delivery.ends payload settled
    rw [waitingEq] at ends
    exact ends
  · intro other later conn payload replaying
    rw [link.hidden (ConnectorPhase.hidden_of_toReplay replaying).1] at isCurrent
    cases isCurrent
  · intro other conn payload otherCurrent isOpen _ expects noneQueued
    dsimp only at otherCurrent noneQueued
    rw [isCurrent, Option.some.injEq] at otherCurrent
    subst otherCurrent
    have loaded : BusState.inFlightOn fd
        { state with ring := frames, writer := .loaded fd frame } = [frame] := by
      simp [BusState.inFlightOn, BusState.inFlight]
    rw [loaded]
    by_cases ofType : frame.type = type
    · refine ⟨frame, lastOf_append_self ofType _, ?_⟩
      refine delivery.ends payload expects.settled frame ?_
      rw [waitingEq, lastOf_append, noneQueued, lastOf_singleton, if_pos ofType]
      rfl
    · have noneBefore : lastOf type state.ring = none := by
        rw [ringEq, ← List.singleton_append, lastOf_append, noneQueued, lastOf_singleton,
          if_neg ofType]
        rfl
      have carried := delivery.published fd conn payload isCurrent isOpen
        (by rw [idle]; exact WriterPhase.noConfusion) expects noneBefore
      have nothing : state.inFlightOn fd = [] := by
        rw [BusState.inFlightOn, idle]
      rw [nothing, List.append_nil] at carried
      refine carried.append ?_
      intro last isLast
      rw [lastOf_singleton, if_neg ofType] at isLast
      cases isLast

theorem StickyDelivery.writerSends {type count conn : Nat} {state : BusState}
    {history : List BusEvent} {call next : SendCall} {bytes : List UInt8}
    (delivery : StickyDelivery type state history) (link : OneLink state)
    (phase : state.writer = .sending call) (isOpen : state.fds call.fd = some conn)
    (advanced : call.advance count = some (bytes, next)) :
    StickyDelivery type { state with writer := .sending next }
      (history ++ next.written conn bytes) := by
  have moved := SendCall.advance_spec advanced
  have flying : state.inFlight = [call.frame] := by
    rw [BusState.inFlight, phase]
    exact if_neg moved.started
  have flyingAfter : BusState.inFlight { state with writer := .sending next } =
      if next.buffers = [] then [] else [call.frame] := by
    rw [← moved.frame]
    rfl
  refine ⟨delivery.typed, ?_, ?_, ?_, ?_⟩
  · intro payload queued sent
    rw [lastSent_written] at sent
    exact delivery.cached payload queued sent
  · intro payload settled
    have ends := delivery.ends payload settled.before_written
    rw [BusState.waiting, flying] at ends
    rw [BusState.waiting, flyingAfter]
    split
    · exact ends.append_left
    · exact ends
  · -- a frame that the writer held back can end up behind the replayed ones
    intro fd frames other payload replaying otherOpen expects noneQueued
    have carried := delivery.replays fd frames other payload replaying otherOpen
      expects.before_written noneQueued
    have only := (link.onlyOpen call.fd conn isOpen).1
    rw [(link.onlyOpen fd other otherOpen).1, Option.some.injEq] at only
    subst only
    dsimp only at otherOpen
    rw [isOpen, Option.some.injEq] at otherOpen
    subst otherOpen
    rw [deliveredOn_written, List.append_assoc]
    by_cases isDone : next.buffers = []
    · rw [if_pos isDone, moved.frame, List.singleton_append]
      refine carried.insert ?_
      intro ofType
      refine delivery.ends payload expects.before_written.settled call.frame ?_
      rw [BusState.waiting, flying, lastOf_append, noneQueued, lastOf_singleton, if_pos ofType]
      rfl
    · simpa [isDone] using carried
  · intro fd other payload isCurrent otherOpen _ expects noneQueued
    have only := link.current fd isCurrent
    rw [(link.onlyOpen call.fd conn isOpen).1, Option.some.injEq] at only
    subst only
    dsimp only at otherOpen
    rw [isOpen, Option.some.injEq] at otherOpen
    subst otherOpen
    have carried := delivery.published call.fd conn payload isCurrent isOpen
      (by rw [phase]; exact WriterPhase.noConfusion) expects.before_written noneQueued
    have onBefore : state.inFlightOn call.fd = [call.frame] := by
      rw [BusState.inFlightOn, phase]
      simpa using flying
    have onAfter : BusState.inFlightOn call.fd { state with writer := .sending next } =
        if next.buffers = [] then [] else [call.frame] := by
      rw [← flyingAfter, BusState.inFlightOn]
      exact if_pos moved.fd
    rw [onBefore] at carried
    rw [deliveredOn_written, onAfter, moved.frame, List.append_assoc]
    by_cases isDone : next.buffers = []
    · simpa [isDone] using carried
    · simpa [isDone] using carried

theorem ignored_closed (type : Nat) (sender : Sender) (conn : Option Nat) :
    ∀ event ∈ (conn.map (BusEvent.closed sender)).toList, IgnoredFor type event := by
  intro event member
  cases conn with
  | none => cases member
  | some conn =>
      rw [Option.map_some, Option.toList_some, List.mem_singleton] at member
      rw [member]
      trivial

theorem busSetSticky_last (type : Nat) (sticky : Bool) (state : BusState) (other : Nat) :
    ((BusState.busSetSticky type sticky state).types other).last = (state.types other).last := by
  unfold BusState.busSetSticky
  split
  · rfl
  · by_cases same : other = type
    · subst same
      dsimp only
      rw [Function.update_self]
    · dsimp only
      rw [Function.update_of_ne same]

/-- A step that leaves the cache, the ring and the writer alone, and after
which no connection is published. -/
theorem StickyDelivery.keep_hidden {type : Nat} {before after : BusState}
    {history events : List BusEvent} (delivery : StickyDelivery type before history)
    (ignored : ∀ event ∈ events, IgnoredFor type event) (types : after.types = before.types)
    (ring : after.ring = before.ring) (inFlight : after.inFlight = before.inFlight)
    (hidden : after.client = none)
    (replays : ∀ fd frames conn, after.connector.toReplay = some (fd, frames) →
      after.fds fd = some conn → ReplayComplete conn (history ++ events) →
        before.connector.toReplay = some (fd, frames) ∧ before.fds fd = some conn) :
    StickyDelivery type after (history ++ events) := by
  refine delivery.keep ignored ?_ (by rw [types]) (by rw [ring]) ?_ replays ?_
  · rw [types]
    exact delivery.typed
  · intro payload ends
    rwa [BusState.waiting, inFlight, ring]
  · intro fd conn isCurrent
    rw [hidden] at isCurrent
    cases isCurrent

theorem BusStep.stickyDelivery {type : Nat} {state next : BusState} {label : BusLabel}
    {history events : List BusEvent} (step : BusStep state label next events)
    (link : OneLink state) (notEnd : type ≠ evtSyncEnd)
    (sticky : AllSticky type (history ++ events)) (delivery : StickyDelivery type state history) :
    StickyDelivery type next (history ++ events) := by
  have nothing : ∀ event ∈ ([] : List BusEvent), IgnoredFor type event := by simp
  cases step with
  | rejected invalid => rwa [List.append_nil]
  | @full sent flags payload short known isFull =>
      by_cases ofType : sent = type
      · subst ofType
        have isSticky := sticky (.sendCalled sent flags payload false) (by simp)
        exact delivery.dropped known (by simpa [BusEvent.sendsUnflagged] using isSticky)
      · exact delivery.keep (by simpa [IgnoredFor] using ofType) (cacheSticky_typed delivery.typed _)
          (cacheSticky_last_of_ne ofType) rfl (fun _ ends => ends)
          (fun _ _ _ replaying isOpen _ => ⟨replaying, isOpen⟩)
          (fun _ _ isCurrent isOpen notFailed => ⟨isCurrent, isOpen, notFailed, rfl⟩)
  | @queued sent flags payload short known hasRoom =>
      by_cases ofType : sent = type
      · subst ofType
        have isSticky := sticky (.sendCalled sent flags payload true) (by simp)
        exact delivery.accepted known (by simpa [BusEvent.sendsUnflagged] using isSticky)
      · refine delivery.keep (by simpa [IgnoredFor] using ofType)
          (cacheSticky_typed delivery.typed _) (cacheSticky_last_of_ne ofType)
          (lastOf_append_of_ne ofType _) ?_
          (fun _ _ _ replaying isOpen _ => ⟨replaying, isOpen⟩)
          (fun _ _ isCurrent isOpen notFailed => ⟨isCurrent, isOpen, notFailed, rfl⟩)
        intro other ends
        change EndsWith type other (state.inFlight ++ (state.ring ++ [_]))
        rw [← List.append_assoc]
        intro frame isLast
        rw [lastOf_append_of_ne ofType] at isLast
        exact ends frame isLast
  | @setSticky configured isSticky =>
      refine delivery.keep nothing ?_ (busSetSticky_last ..) ?_ ?_ ?_ ?_
      · intro other frame isLast
        rw [busSetSticky_last] at isLast
        exact delivery.typed other frame isLast
      all_goals
        unfold BusState.busSetSticky
        split
      · rfl
      · rfl
      · exact fun _ ends => ends
      · exact fun _ ends => ends
      · exact fun _ _ _ replaying isOpen _ => ⟨replaying, isOpen⟩
      · exact fun _ _ _ replaying isOpen _ => ⟨replaying, isOpen⟩
      · exact fun _ _ isCurrent isOpen notFailed => ⟨isCurrent, isOpen, notFailed, rfl⟩
      · exact fun _ _ isCurrent isOpen notFailed => ⟨isCurrent, isOpen, notFailed, rfl⟩
  | connect phase isClosed =>
      refine delivery.keep_hidden nothing rfl rfl rfl (link.hidden (by rw [phase]; rfl)) ?_
      intro fd frames conn replaying
      cases replaying
  | takeHelloSeq phase =>
      refine delivery.keep_hidden nothing rfl rfl rfl (link.hidden (by rw [phase]; rfl)) ?_
      intro fd frames conn replaying
      cases replaying
  | @connectorBegins fd frame rest isNext isFree =>
      refine delivery.keep_hidden nothing rfl rfl rfl
        (link.hidden (ConnectorPhase.fd_of_nextFrame isNext).2) ?_
      intro other frames conn replaying isOpen _
      refine ⟨?_, isOpen⟩
      rw [← replaying]
      exact (ConnectorPhase.toReplay_of_nextFrame isNext state.calls).symm
  | connectorSends phase isOpen advanced => exact delivery.connectorSends link phase isOpen advanced
  | @connectorFinishes call rest phase isDone =>
      refine delivery.keep_hidden nothing rfl rfl rfl (link.hidden (by rw [phase]; rfl)) ?_
      intro fd frames conn replaying isOpen _
      refine ⟨?_, isOpen⟩
      rw [← replaying, phase]
      cases rest with
      | none => rfl
      | some later => simp [ConnectorPhase.toReplay, ConnectorPhase.afterSend, isDone]
  | @connectorFails call rest phase notDone =>
      refine delivery.keep_hidden (by simp [IgnoredFor]) rfl rfl rfl
        (link.hidden (by rw [phase]; rfl)) ?_
      intro fd frames conn replaying isOpen complete
      cases rest with
      | none => cases replaying
      | some later =>
          cases replaying
          dsimp only at isOpen
          rw [isOpen] at complete
          have noFailure := complete (.sendFailed .connector call.id (some conn)) (by simp)
          simp [BusEvent.failsReplayOn] at noFailure
  | closeRefused phase =>
      refine delivery.keep_hidden (ignored_closed type _ _) rfl rfl rfl
        (link.hidden (by rw [phase]; rfl)) ?_
      intro fd frames conn replaying
      cases replaying
  | copySnapshot phase => exact delivery.copySnapshot link notEnd phase
  | publish phase noClient =>
      rw [List.append_nil]
      exact delivery.publish phase
  | replace phase isCurrent =>
      rw [link.hidden (by rw [phase]; rfl)] at isCurrent
      cases isCurrent
  | noticeDrop phase notCurrent =>
      refine delivery.keep_hidden nothing rfl rfl rfl
        (link.nothing_open (by rw [phase]; rfl) (by rw [phase]; rfl) notCurrent).1 ?_
      intro fd frames conn replaying
      cases replaying
  | peerClosed phase =>
      refine delivery.keep nothing delivery.typed rfl rfl (fun _ ends => ends) ?_
        (fun _ _ isCurrent isOpen notFailed => ⟨isCurrent, isOpen, notFailed, rfl⟩)
      intro fd frames conn replaying
      cases replaying
  | dropCurrent phase isCurrent =>
      refine delivery.keep_hidden (ignored_closed type _ _) rfl rfl rfl rfl ?_
      intro fd frames conn replaying
      cases replaying
  | dropNothing phase notCurrent =>
      refine delivery.keep_hidden nothing rfl rfl rfl
        (link.nothing_open (by rw [phase]; rfl) (by rw [phase]; rfl) notCurrent).1 ?_
      intro fd frames conn replaying
      cases replaying
  | dequeue idle ringEq isCurrent =>
      rw [List.append_nil]
      exact delivery.dequeue link idle ringEq isCurrent
  | @writerBegins fd frame phase isFree =>
      refine delivery.keep nothing delivery.typed rfl rfl ?_
        (fun _ _ _ replaying isOpen _ => ⟨replaying, isOpen⟩) ?_
      · intro payload ends
        simpa [BusState.waiting, BusState.inFlight, BusState.startCall, frame.buffers_ne_nil,
          phase] using ends
      · intro other conn isCurrent isOpen _
        refine ⟨isCurrent, isOpen, by rw [phase]; exact WriterPhase.noConfusion, ?_⟩
        simp [BusState.inFlightOn, BusState.inFlight, BusState.startCall, frame.buffers_ne_nil,
          phase]
  | writerSends phase isOpen advanced => exact delivery.writerSends link phase isOpen advanced
  | @writerFinishes call phase isDone =>
      refine delivery.keep nothing delivery.typed rfl rfl ?_
        (fun _ _ _ replaying isOpen _ => ⟨replaying, isOpen⟩) ?_
      · intro payload ends
        simpa [BusState.waiting, BusState.inFlight, isDone, phase] using ends
      · intro other conn isCurrent isOpen _
        refine ⟨isCurrent, isOpen, by rw [phase]; exact WriterPhase.noConfusion, ?_⟩
        simp [BusState.inFlightOn, BusState.inFlight, isDone, phase]
  | @writerFails call phase notDone =>
      refine delivery.keep (by simp [IgnoredFor]) delivery.typed rfl rfl ?_
        (fun _ _ _ replaying isOpen _ => ⟨replaying, isOpen⟩) ?_
      · exact fun payload ends => ends.append_left
      · intro other conn isCurrent isOpen notFailed
        refine ⟨isCurrent, isOpen, by rw [phase]; exact WriterPhase.noConfusion, ?_⟩
        have elsewhere : call.fd ≠ other := by
          intro same
          exact notFailed (congrArg WriterPhase.failed same)
        simp [BusState.inFlightOn, phase, elsewhere]
  | @writerCloses fd phase isCurrent =>
      refine delivery.keep_hidden (ignored_closed type _ _) rfl rfl ?_ rfl ?_
      · simp [BusState.inFlight, phase]
      · intro other frames conn replaying
        rw [link.hidden (ConnectorPhase.hidden_of_toReplay replaying).1] at isCurrent
        cases isCurrent
  | @writerDrops fd phase notCurrent =>
      refine delivery.keep nothing delivery.typed rfl rfl ?_
        (fun _ _ _ replaying isOpen _ => ⟨replaying, isOpen⟩) ?_
      · intro payload ends
        simpa [BusState.waiting, BusState.inFlight, phase] using ends
      · intro other conn isCurrent isOpen _
        refine ⟨isCurrent, isOpen, ?_, ?_⟩
        · rw [phase]
          intro same
          cases same
          exact notCurrent isCurrent
        · simp [BusState.inFlightOn, phase]

theorem stickyDelivery_initial (type : Nat) : StickyDelivery type .initial [] := by
  constructor
  · intro other frame isLast
    cases isLast
  · intro payload queued sent
    cases sent
  · rintro payload ⟨queued, sent, -⟩
    cases sent
  · intro fd frames conn payload replaying
    cases replaying
  · intro fd conn payload isCurrent
    cases isCurrent

theorem busThreads_stickyDelivery {type : Nat} {state : BusState} {history : List BusEvent}
    (run : busThreads.Run state history) (notEnd : type ≠ evtSyncEnd)
    (sticky : AllSticky type history) : StickyDelivery type state history := by
  induction run with
  | start => exact stickyDelivery_initial type
  | next before _ stepTo ih =>
      have stickyBefore := fun event member => sticky event (List.mem_append_left _ member)
      exact (busStep_cases stepTo).stickyDelivery (busThreads_oneLink before) notEnd sticky
        (ih stickyBefore)

/-- A connection is published, and no frame waits for it. -/
structure Drained (state : BusState) (fd conn : Nat) : Prop where
  current : state.client = some fd
  isOpen : state.fds fd = some conn
  ring : state.ring = []
  writer : state.inFlight = []
  working : state.writer ≠ .failed fd

instance (state : BusState) (fd conn : Nat) : Decidable (Drained state fd conn) :=
  decidable_of_iff (state.client = some fd ∧ state.fds fd = some conn ∧ state.ring = [] ∧
      state.inFlight = [] ∧ state.writer ≠ .failed fd)
    ⟨fun ⟨current, isOpen, ring, writer, working⟩ => ⟨current, isOpen, ring, writer, working⟩,
      fun ⟨current, isOpen, ring, writer, working⟩ => ⟨current, isOpen, ring, writer, working⟩⟩

/-- The cache holds the most recent payload of a sticky type.  It is also the
last of its type on a drained connection, if the ring had room for it or it was
replayed there with nothing of its type waiting, and no replayed frame failed. -/
theorem sticky_value_delivered {type fd conn : Nat} {state : BusState} {history : List BusEvent}
    {payload : List UInt8} {queued : Bool} (run : busThreads.Run state history)
    (notEnd : type ≠ evtSyncEnd) (sticky : AllSticky type history)
    (drained : Drained state fd conn) (sent : lastSent type history = some (payload, queued)) :
    (∃ frame, (state.types type).last = some frame ∧ frame.payload = payload) ∧
      ((queued = true ∨ cleanCopy type history = some conn) → ReplayComplete conn history →
        Carries type payload (deliveredOn conn history)) := by
  have delivery := busThreads_stickyDelivery run notEnd sticky
  refine ⟨(delivery.cached payload queued sent).2, fun fresh complete => ?_⟩
  have noneQueued : lastOf type state.ring = none := by
    rw [drained.ring]
    rfl
  have carried := delivery.published fd conn payload drained.current drained.isOpen
    drained.working ⟨queued, sent, fresh, complete⟩ noneQueued
  have nothing : state.inFlightOn fd = [] := by
    rcases state.inFlightOn_cases fd with noFrame | sameFrame
    · exact noFrame
    · rw [sameFrame]
      exact drained.writer
  rwa [nothing, List.append_nil] at carried

/-- The connector connects, greets, replays one cached frame with a payload of
one byte, and publishes its descriptor. -/
def linkLabels : List BusLabel :=
  [.connect 0, .takeHelloSeq, .connectorBegins, .connectorSends 16, .connectorSends 28,
    .connectorFinishes, .copySnapshot,
    .connectorBegins, .connectorSends 16, .connectorFinishes,
    .connectorBegins, .connectorSends 16, .connectorSends 1, .connectorFinishes,
    .connectorBegins, .connectorSends 16, .connectorFinishes, .publish]

/-- The writer sends a frame with a payload of one byte. -/
def writeLabels : List BusLabel :=
  [.dequeue, .writerBegins, .writerSends 16, .writerSends 1, .writerFinishes]

theorem sticky_value_delivered_after_replay : ∃ state history, busThreads.Run state history ∧
    AllSticky 16 history ∧ Drained state 0 0 ∧ lastSent 16 history = some ([1], true) ∧
    Carries 16 [1] (deliveredOn 0 history) := by
  obtain ⟨state, history, run, checked⟩ := busThreads.exists_run_of_replay
    ([.send 16 busFlagSticky [0]] ++ linkLabels ++ [.send 16 busFlagSticky [1]] ++
      writeLabels ++ writeLabels)
    (fun (state, history) => decide (AllSticky 16 history ∧ Drained state 0 0 ∧
      lastSent 16 history = some ([1], true) ∧ ReplayComplete 0 history))
    (by decide +kernel)
  obtain ⟨sticky, drained, sent, complete⟩ := of_decide_eq_true checked
  exact ⟨state, history, run, sticky, drained, sent,
    (sticky_value_delivered run (by decide) sticky drained sent).2 (.inl rfl) complete⟩

/-- The ring is filled while nothing is connected, so a newer value is only
cached.  It is replayed, and the older one follows it from the ring. -/
def overflowLabels : List BusLabel :=
  [.send 16 busFlagSticky [0]] ++ List.replicate 255 (.send 32 0 []) ++
    [.send 16 busFlagSticky [1]] ++ linkLabels ++ writeLabels ++
    (List.replicate 255 [.dequeue, .writerBegins, .writerSends 16, .writerFinishes]).flatten

theorem overflow_delivers_stale_value : ∃ state history, busThreads.Run state history ∧
    AllSticky 16 history ∧ Drained state 0 0 ∧ state.writer = .waiting ∧
    lastSent 16 history = some ([1], false) ∧ ReplayComplete 0 history ∧
    ¬Carries 16 [1] (deliveredOn 0 history) := by
  obtain ⟨state, history, run, checked⟩ := busThreads.exists_run_of_replay overflowLabels
    (fun (state, history) => decide (AllSticky 16 history ∧ Drained state 0 0 ∧
      state.writer = .waiting ∧ lastSent 16 history = some ([1], false) ∧
      ReplayComplete 0 history ∧
      (lastOf 16 (deliveredOn 0 history)).map BusFrame.payload = some [0]))
    (by
      have first : busThreads.replay (fun _ _ => true) busThreads.init
          [.send 16 busFlagSticky [0]] = some (BusState.busSend 16 busFlagSticky [0] .initial) :=
        rfl
      -- The frames behind the first one fill the ring, whatever they are.
      rw [overflowLabels, List.append_assoc, List.append_assoc, List.append_assoc,
        List.append_assoc, TracedSystem.replay_append, first, Option.bind_some,
        TracedSystem.replay_append, busThreads_replay_sends (by decide) (by decide) (by decide)
          (by decide) (by decide), Option.bind_some]
      decide +kernel)
  obtain ⟨sticky, drained, idle, sent, complete, stale⟩ := of_decide_eq_true checked
  refine ⟨state, history, run, sticky, drained, idle, sent, complete, ?_⟩
  rintro ⟨frame, isLast, payload⟩
  rw [isLast, Option.map_some, payload] at stale
  exact absurd stale (by decide)

end CarplayRgi
