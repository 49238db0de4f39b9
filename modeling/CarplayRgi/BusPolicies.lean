import CarplayRgi.BusStickyDelivery
import CarplayRgi.RingBuffer
import CarplayRgi.TracedPairs

/-!
# The ring of the bus and the policies of a full ring

The frames wait in a ring buffer of 256 slots, and every type has a policy for
the case that the ring is full.  The threads with this ring step as they do
with a list of frames in its place.  `bus_send` never reads the policy.
-/

namespace CarplayRgi

/-- `bus_policy_t`. -/
inductive BusPolicy where
  | reliable | lossy | dropOld
  deriving DecidableEq

/-- The values of `hook_result_t` that `bus_send` returns when memory suffices. -/
inductive SendResult where
  | ok | errParam | errBusy
  deriving DecidableEq

/-- The state of the threads with the ring that holds their frames. -/
structure QueuedBus where
  bus : BusState
  /-- `g_ring` with its indices. -/
  queue : RingBuffer BusFrame sendQueueCapacity
  policy : Nat → BusPolicy
  ring_eq : bus.ring = queue.toList

inductive QueueLabel where
  | setPolicy (type : Nat) (policy : BusPolicy)
  | thread (label : BusLabel)

inductive QueueEvent where
  | bus (event : BusEvent)
  | accepted (frame : BusFrame)
  | taken (frame : BusFrame)

namespace QueuedBus

def initial : QueuedBus where
  bus := .initial
  queue := .empty ⟨0, 0, 0, []⟩ (by decide)
  policy := fun _ => .reliable
  ring_eq := rfl

/-- `bus_set_policy`. -/
def busSetPolicy (type : Nat) (policy : BusPolicy) (state : QueuedBus) : QueuedBus :=
  if maxTypes ≤ type then state
  else { state with policy := Function.update state.policy type policy }

/-- `bus_send` with `q_enqueue_nolock`. -/
def busSend (type : Nat) (flags : UInt8) (payload : List UInt8) (state : QueuedBus) :
    QueuedBus × SendResult :=
  if busMaxPayload < payload.length ∨ maxTypes ≤ type then (state, .errParam)
  else
    let frame : BusFrame := ⟨type, flags, state.bus.txSeq, payload⟩
    let types := state.bus.cacheSticky frame
    match state.queue.enqueue frame with
    | none =>
        ({ bus := { state.bus with types := types }
           queue := state.queue
           policy := state.policy
           ring_eq := state.ring_eq }, .errBusy)
    | some queue =>
        ({ bus :=
             { state.bus with
               types := types
               ring := queue.toList
               txSeq := (state.bus.txSeq + 1) % 2 ^ 32 }
           queue := queue
           policy := state.policy
           ring_eq := rfl }, .ok)

/-- What a call of `bus_send` emits. -/
def sendEvents (type : Nat) (flags : UInt8) (payload : List UInt8) (state : QueuedBus) :
    List QueueEvent :=
  match (busSend type flags payload state).2 with
  | .errParam => []
  | .errBusy => [.bus (.sendCalled type flags payload false)]
  | .ok =>
      [.bus (.sendCalled type flags payload true),
        .accepted ⟨type, flags, state.bus.txSeq, payload⟩]

/-- `q_dequeue_nolock` in the writer. -/
def dequeue (state : QueuedBus) : Option (QueuedBus × List QueueEvent) :=
  match state.bus.writer, state.queue.dequeue, state.bus.client with
  | .waiting, some (frame, queue), some fd =>
      some
        ({ bus := { state.bus with ring := queue.toList, writer := .loaded fd frame }
           queue := queue
           policy := state.policy
           ring_eq := rfl }, [.taken frame])
  | _, _, _ => none

/-- A step of a thread that leaves the ring alone. -/
def keepQueue (label : BusLabel) (state : QueuedBus) : Option (QueuedBus × List QueueEvent) :=
  (busStep state.bus label).map fun (bus, events) =>
    ({ bus := { bus with ring := state.queue.toList }
       queue := state.queue
       policy := state.policy
       ring_eq := rfl }, events.map .bus)

def step (state : QueuedBus) : QueueLabel → Option (QueuedBus × List QueueEvent)
  | .setPolicy type policy => some (busSetPolicy type policy state, [])
  | .thread (.send type flags payload) =>
      some ((busSend type flags payload state).1, sendEvents type flags payload state)
  | .thread .dequeue => dequeue state
  | .thread label => keepQueue label state

end QueuedBus

def queuedBus : TracedSystem QueuedBus QueueLabel QueueEvent where
  init := .initial
  step := QueuedBus.step

def QueueEvent.onBus : QueueEvent → Option BusEvent
  | .bus event => some event
  | _ => none

def QueueEvent.acceptedFrame : QueueEvent → Option BusFrame
  | .accepted frame => some frame
  | _ => none

def QueueEvent.takenFrame : QueueEvent → Option BusFrame
  | .taken frame => some frame
  | _ => none

namespace QueuedBus

/-- The outcomes of `bus_send` by case. -/
inductive SendCase (type : Nat) (flags : UInt8) (payload : List UInt8) (state : QueuedBus) :
    QueuedBus × SendResult → Prop
  | rejected (invalid : busMaxPayload < payload.length ∨ maxTypes ≤ type) :
      SendCase type flags payload state (state, .errParam)
  | full (short : payload.length ≤ busMaxPayload) (known : type < maxTypes)
      (isFull : state.queue.isFull = true) (after : QueuedBus)
      (bus : after.bus =
        { state.bus with types := state.bus.cacheSticky ⟨type, flags, state.bus.txSeq, payload⟩ })
      (queue : after.queue = state.queue) (policy : after.policy = state.policy) :
      SendCase type flags payload state (after, .errBusy)
  | queued (short : payload.length ≤ busMaxPayload) (known : type < maxTypes)
      (hasRoom : state.queue.isFull = false) (after : QueuedBus)
      (bus : after.bus =
        { state.bus with
          types := state.bus.cacheSticky ⟨type, flags, state.bus.txSeq, payload⟩
          ring := state.bus.ring ++ [⟨type, flags, state.bus.txSeq, payload⟩]
          txSeq := (state.bus.txSeq + 1) % 2 ^ 32 })
      (queue : after.queue.toList =
        state.queue.toList ++ [⟨type, flags, state.bus.txSeq, payload⟩])
      (policy : after.policy = state.policy) :
      SendCase type flags payload state (after, .ok)

theorem busSend_case (type : Nat) (flags : UInt8) (payload : List UInt8) (state : QueuedBus) :
    SendCase type flags payload state (busSend type flags payload state) := by
  unfold busSend
  split
  · rename_i invalid
    exact .rejected invalid
  · rename_i valid
    rw [not_or, Nat.not_lt, Nat.not_le] at valid
    dsimp only
    split
    · rename_i refused
      have isFull := (RingBuffer.enqueue_eq_none_iff _ _).mp refused
      exact .full valid.1 valid.2 isFull _ rfl rfl rfl
    · rename_i queue enqueued
      have pushed := RingBuffer.toList_enqueue enqueued
      have hasRoom : state.queue.isFull = false := by
        by_contra isFull
        rw [Bool.not_eq_false] at isFull
        have refused := (RingBuffer.enqueue_eq_none_iff
          (⟨type, flags, state.bus.txSeq, payload⟩ : BusFrame) state.queue).mpr isFull
        rw [refused] at enqueued
        cases enqueued
      refine .queued valid.1 valid.2 hasRoom _ ?_ pushed rfl
      rw [state.ring_eq, ← pushed]

/-- A full ring refuses every send. -/
theorem busSend_of_full {state : QueuedBus} (isFull : state.queue.isFull = true) (type : Nat)
    (flags : UInt8) (payload : List UInt8) :
    (busSend type flags payload state).2 ≠ .ok ∧
      (busSend type flags payload state).1.queue = state.queue := by
  have sent := busSend_case type flags payload state
  generalize busSend type flags payload state = outcome at sent
  cases sent with
  | rejected invalid => exact ⟨by simp, rfl⟩
  | full short known isFull after bus queue policy => exact ⟨by simp, queue⟩
  | queued short known hasRoom after bus queue policy =>
      rw [isFull] at hasRoom
      cases hasRoom

end QueuedBus

/-- Only a send and the writer's dequeue touch the ring. -/
theorem BusStep.ring_of_other {state next : BusState} {label : BusLabel}
    {events : List BusEvent} (step : BusStep state label next events)
    (notSend : ∀ type flags payload, label ≠ .send type flags payload)
    (notDequeue : label ≠ .dequeue) : next.ring = state.ring := by
  cases step with
  | rejected invalid => rfl
  | full short known isFull => rfl
  | queued short known hasRoom => exact absurd rfl (notSend _ _ _)
  | setSticky =>
      unfold BusState.busSetSticky
      split <;> rfl
  | dequeue idle ringEq isCurrent => exact absurd rfl notDequeue
  | _ => rfl

theorem QueuedBus.keepQueue_spec {state next : QueuedBus} {label : BusLabel}
    {events : List QueueEvent}
    (notSend : ∀ type flags payload, label ≠ .send type flags payload)
    (notDequeue : label ≠ .dequeue)
    (stepTo : state.keepQueue label = some (next, events)) :
    next.queue = state.queue ∧ next.policy = state.policy ∧
      ∃ busEvents, events = busEvents.map .bus ∧
        busThreads.step state.bus label = some (next.bus, busEvents) := by
  unfold keepQueue at stepTo
  rw [Option.map_eq_some_iff] at stepTo
  obtain ⟨⟨bus, busEvents⟩, busTo, result⟩ := stepTo
  simp only [Prod.mk.injEq] at result
  obtain ⟨rfl, rfl⟩ := result
  refine ⟨rfl, rfl, busEvents, rfl, ?_⟩
  have same := (busStep_cases busTo).ring_of_other notSend notDequeue
  rw [state.ring_eq] at same
  change busStep state.bus label = some ({ bus with ring := state.queue.toList }, busEvents)
  rw [← same]
  exact busTo

/-- The threads step as with a list for the ring, and frames enter it at one
end and leave it at the other. -/
structure QueueStep (state next : QueuedBus) (events : List QueueEvent) : Prop where
  bus : (next.bus = state.bus ∧ events.filterMap QueueEvent.onBus = []) ∨
    ∃ label, busThreads.step state.bus label =
      some (next.bus, events.filterMap QueueEvent.onBus)
  order : state.queue.toList ++ events.filterMap QueueEvent.acceptedFrame =
    events.filterMap QueueEvent.takenFrame ++ next.queue.toList

namespace QueuedBus

theorem filterMap_bus (events : List BusEvent) :
    (events.map QueueEvent.bus).filterMap QueueEvent.onBus = events ∧
      (events.map QueueEvent.bus).filterMap QueueEvent.acceptedFrame = [] ∧
      (events.map QueueEvent.bus).filterMap QueueEvent.takenFrame = [] := by
  simp [List.filterMap_map, Function.comp_def, QueueEvent.onBus, QueueEvent.acceptedFrame,
    QueueEvent.takenFrame]

theorem queueStep_send (type : Nat) (flags : UInt8) (payload : List UInt8)
    (state : QueuedBus) :
    QueueStep state (busSend type flags payload state).1
      (sendEvents type flags payload state) := by
  have sent := busSend_case type flags payload state
  unfold sendEvents
  generalize busSend type flags payload state = outcome at sent
  cases sent with
  | rejected invalid => exact ⟨.inl ⟨rfl, rfl⟩, by simp⟩
  | full short known isFull after bus queue policy =>
      refine ⟨.inr ⟨.send type flags payload, ?_⟩, by rw [queue]; exact List.append_nil _⟩
      have ringFull : state.bus.ring.length = sendQueueCapacity := by
        rw [state.ring_eq]
        exact state.queue.isFull_iff.mp isFull
      have valid : ¬(busMaxPayload < payload.length ∨ maxTypes ≤ type) := by omega
      simp only [busThreads, busStep, BusState.busSend, if_neg valid, if_pos ringFull, bus]
      rfl
  | queued short known hasRoom after bus queue policy =>
      refine ⟨.inr ⟨.send type flags payload, ?_⟩, by rw [queue]; rfl⟩
      have ringNotFull : state.bus.ring.length ≠ sendQueueCapacity := by
        intro ringFull
        rw [state.ring_eq] at ringFull
        rw [state.queue.isFull_iff.mpr ringFull] at hasRoom
        cases hasRoom
      have valid : ¬(busMaxPayload < payload.length ∨ maxTypes ≤ type) := by omega
      simp only [busThreads, busStep, BusState.busSend, if_neg valid, if_neg ringNotFull, bus]
      rfl

theorem queueStep_dequeue {state next : QueuedBus} {events : List QueueEvent}
    (stepTo : state.dequeue = some (next, events)) : QueueStep state next events := by
  unfold dequeue at stepTo
  split at stepTo
  · rename_i frame queue fd idle dequeued isCurrent
    have popped := RingBuffer.toList_dequeue dequeued
    have ringEq : state.bus.ring = frame :: queue.toList := by rw [state.ring_eq, popped]
    simp only [Option.some.injEq, Prod.mk.injEq] at stepTo
    obtain ⟨rfl, rfl⟩ := stepTo
    refine ⟨.inr ⟨.dequeue, ?_⟩, by rw [popped]; exact List.append_nil _⟩
    simp only [busThreads, busStep, idle, ringEq, isCurrent]
    rfl
  · cases stepTo

theorem queueStep_keep {state next : QueuedBus} {label : BusLabel} {events : List QueueEvent}
    (notSend : ∀ type flags payload, label ≠ .send type flags payload)
    (notDequeue : label ≠ .dequeue)
    (stepTo : state.keepQueue label = some (next, events)) : QueueStep state next events := by
  obtain ⟨queue, _, busEvents, rfl, busTo⟩ := keepQueue_spec notSend notDequeue stepTo
  obtain ⟨onBus, noneAccepted, noneTaken⟩ := filterMap_bus busEvents
  constructor
  · rw [onBus]
    exact .inr ⟨label, busTo⟩
  · rw [noneAccepted, noneTaken, queue]
    simp

theorem step_spec {state next : QueuedBus} {label : QueueLabel} {events : List QueueEvent}
    (stepTo : queuedBus.step state label = some (next, events)) :
    QueueStep state next events := by
  change step state label = some (next, events) at stepTo
  cases label with
  | setPolicy type policy =>
      simp only [step, Option.some.injEq, Prod.mk.injEq] at stepTo
      obtain ⟨rfl, rfl⟩ := stepTo
      unfold busSetPolicy
      split <;> exact ⟨.inl ⟨rfl, rfl⟩, by simp⟩
  | thread label =>
      cases label with
      | send type flags payload =>
          simp only [step, Option.some.injEq, Prod.mk.injEq] at stepTo
          obtain ⟨rfl, rfl⟩ := stepTo
          exact queueStep_send type flags payload state
      | dequeue => exact queueStep_dequeue stepTo
      | _ => exact queueStep_keep (fun _ _ _ => by simp) (by simp) stepTo

end QueuedBus

/-- The threads with the ring buffer run as the threads with a list. -/
theorem queuedBus_refines {state : QueuedBus} {history : List QueueEvent}
    (run : queuedBus.Run state history) :
    busThreads.Run state.bus (history.filterMap QueueEvent.onBus) := by
  refine (@TracedSystem.RunWithin.refines _ _ _ _ _ _ queuedBus busThreads _ QueuedBus.bus
    QueueEvent.onBus (fun _ => True) trivial rfl ?_ state history run).2
  intro state next history events label _ _ stepTo
  exact ⟨trivial, (QueuedBus.step_spec stepTo).bus⟩

/-- What has been taken from the ring, followed by what waits in it, is what
was accepted. -/
theorem queuedBus_order {state : QueuedBus} {history : List QueueEvent}
    (run : queuedBus.Run state history) :
    history.filterMap QueueEvent.acceptedFrame =
      history.filterMap QueueEvent.takenFrame ++ state.queue.toList := by
  refine run.invariant (fun state history => history.filterMap QueueEvent.acceptedFrame =
    history.filterMap QueueEvent.takenFrame ++ state.queue.toList) rfl ?_
  intro state next history events label before _ stepTo
  have order := (QueuedBus.step_spec stepTo).order
  rw [List.filterMap_append, List.filterMap_append, before, List.append_assoc, order,
    List.append_assoc]

/-- Replace the payload of the newest frame of a type. -/
def overwriteLast (type : Nat) (payload : List UInt8) : List BusFrame → List BusFrame
  | [] => []
  | frame :: frames =>
      if frame.type = type ∧ lastOf type frames = none then
        { frame with payload := payload } :: frames
      else frame :: overwriteLast type payload frames

theorem lastOf_cons (type : Nat) (frame : BusFrame) (frames : List BusFrame) :
    lastOf type (frame :: frames) =
      (lastOf type frames).or (if frame.type = type then some frame else none) := by
  rw [← List.singleton_append, lastOf_append, lastOf_singleton]

/-- Nothing changes exactly if the newest frame of the type, if any, has the
payload already. -/
theorem overwriteLast_eq_self_iff (type : Nat) (payload : List UInt8) (frames : List BusFrame) :
    overwriteLast type payload frames = frames ↔
      ∀ frame, lastOf type frames = some frame → frame.payload = payload := by
  induction frames with
  | nil => simp [overwriteLast]
  | cons frame frames ih =>
      unfold overwriteLast
      rw [lastOf_cons]
      split
      · rename_i isNewest
        obtain ⟨ofType, noneLater⟩ := isNewest
        rw [noneLater, Option.none_or, if_pos ofType]
        constructor
        · intro same newest newestEq
          cases newestEq
          exact (congrArg BusFrame.payload (List.cons.inj same).1).symm
        · intro carries
          rw [← carries frame rfl]
      · rename_i notNewest
        have laterOnly : (lastOf type frames).or (if frame.type = type then some frame else none) =
            lastOf type frames := by
          by_cases ofType : frame.type = type
          · obtain ⟨newest, newestEq⟩ := Option.ne_none_iff_exists'.mp
              (fun noneLater => notNewest ⟨ofType, noneLater⟩)
            rw [newestEq, Option.some_or]
          · rw [if_neg ofType, Option.or_none]
        rw [laterOnly, ← ih, List.cons.injEq]
        exact ⟨fun both => both.2, fun same => ⟨rfl, same⟩⟩

/-- What a send does to a full ring by the declared policy of its type; the
frames that were taken and those that wait stay in the order in which they were
accepted. -/
structure EnqueuesByPolicy (type : Nat) (flags : UInt8) (payload : List UInt8)
    (state : QueuedBus) (history : List QueueEvent) : Prop where
  policy :
    match state.policy type with
    | .reliable =>
        (state.busSend type flags payload).2 ≠ .ok ∧
          (state.busSend type flags payload).1.queue.toList = state.queue.toList
    | .lossy =>
        (state.busSend type flags payload).1.queue.toList =
          overwriteLast type payload state.queue.toList
    | .dropOld =>
        (state.busSend type flags payload).2 = .ok ∧
          (state.busSend type flags payload).1.queue.toList =
            state.queue.toList.tail ++ [⟨type, flags, state.bus.txSeq, payload⟩]
  order :
    (((history ++ state.sendEvents type flags payload).filterMap QueueEvent.takenFrame ++
      (state.busSend type flags payload).1.queue.toList).map BusFrame.seq).Sublist
        (((history ++ state.sendEvents type flags payload).filterMap
          QueueEvent.acceptedFrame).map BusFrame.seq)
  bounded : (state.busSend type flags payload).1.queue.toList.length ≤ sendQueueCapacity

/-- The type is reliable, or it is lossy and its newest frame in the ring, if
any, carries the payload already. -/
def PolicyKept (type : Nat) (payload : List UInt8) (state : QueuedBus) : Prop :=
  match state.policy type with
  | .reliable => True
  | .lossy => ∀ frame, lastOf type state.queue.toList = some frame → frame.payload = payload
  | .dropOld => False

theorem EnqueuesByPolicy.kept {type : Nat} {flags : UInt8} {payload : List UInt8}
    {state : QueuedBus} {history : List QueueEvent}
    (byPolicy : EnqueuesByPolicy type flags payload state history)
    (isFull : state.queue.isFull = true) : PolicyKept type payload state := by
  obtain ⟨refused, unchanged⟩ := QueuedBus.busSend_of_full isFull type flags payload
  have policy := byPolicy.policy
  unfold PolicyKept
  cases policyEq : state.policy type with
  | reliable => trivial
  | lossy =>
      simp only [policyEq, unchanged] at policy ⊢
      exact (overwriteLast_eq_self_iff _ _ _).mp policy.symm
  | dropOld =>
      simp only [policyEq] at policy
      exact absurd policy.1 refused

theorem full_ring_enqueues_by_policy_iff {state : QueuedBus} {history : List QueueEvent}
    (run : queuedBus.Run state history) (isFull : state.queue.isFull = true) (type : Nat)
    (flags : UInt8) (payload : List UInt8) :
    EnqueuesByPolicy type flags payload state history ↔ PolicyKept type payload state := by
  refine ⟨fun byPolicy => byPolicy.kept isFull, fun kept => ?_⟩
  obtain ⟨refused, unchanged⟩ := QueuedBus.busSend_of_full isFull type flags payload
  refine ⟨?_, ?_, RingBuffer.length_toList_le _⟩
  · unfold PolicyKept at kept
    cases policyEq : state.policy type with
    | reliable => exact ⟨refused, by rw [unchanged]⟩
    | lossy =>
        simp only [policyEq, unchanged] at kept ⊢
        exact ((overwriteLast_eq_self_iff _ _ _).mpr kept).symm
    | dropOld => simp only [policyEq] at kept
  · have sent : queuedBus.step state (.thread (.send type flags payload)) =
        some ((state.busSend type flags payload).1, state.sendEvents type flags payload) := rfl
    exact (queuedBus_order (.next run trivial sent)) ▸ List.Sublist.refl _

/-- A full ring of one lossy type, and a second type that evicts. -/
def fullLabels : List QueueLabel :=
  [.setPolicy 32 .lossy, .setPolicy 16 .dropOld] ++
    List.replicate 256 (.thread (.send 32 0 [0]))

theorem exists_full_ring : ∃ state history, queuedBus.Run state history ∧
    state.queue.isFull = true ∧ state.policy 32 = .lossy ∧ state.policy 16 = .dropOld ∧
      (lastOf 32 state.queue.toList).map BusFrame.payload = some [0] := by
  obtain ⟨state, history, run, checked⟩ := queuedBus.exists_run_of_replay fullLabels
    (fun (state, _) => decide (state.queue.isFull = true ∧ state.policy 32 = .lossy ∧
      state.policy 16 = .dropOld ∧
      (lastOf 32 state.queue.toList).map BusFrame.payload = some [0]))
    (by decide +kernel)
  exact ⟨state, history, run, of_decide_eq_true checked⟩

theorem full_ring_enqueues_by_policy_iff_same_value : ∃ state history,
    queuedBus.Run state history ∧ state.queue.isFull = true ∧ state.policy 32 = .lossy ∧
      (EnqueuesByPolicy 32 0 [0] state history ↔ PolicyKept 32 [0] state) := by
  obtain ⟨state, history, run, isFull, lossy, -⟩ := exists_full_ring
  exact ⟨state, history, run, isFull, lossy,
    full_ring_enqueues_by_policy_iff run isFull 32 0 [0]⟩

theorem full_ring_ignores_policies : ∃ state history, queuedBus.Run state history ∧
    state.queue.isFull = true ∧ state.policy 32 = .lossy ∧ state.policy 16 = .dropOld ∧
      ¬EnqueuesByPolicy 32 0 [1] state history ∧ ¬EnqueuesByPolicy 16 0 [1] state history := by
  obtain ⟨state, history, run, isFull, lossy, dropOld, newest⟩ := exists_full_ring
  refine ⟨state, history, run, isFull, lossy, dropOld, fun byPolicy => ?_, fun byPolicy => ?_⟩
  · have kept := byPolicy.kept isFull
    unfold PolicyKept at kept
    simp only [lossy] at kept
    obtain ⟨frame, isLast, payload⟩ := Option.map_eq_some_iff.mp newest
    rw [kept frame isLast] at payload
    exact absurd payload (by decide)
  · have kept := byPolicy.kept isFull
    unfold PolicyKept at kept
    simp only [dropOld] at kept

end CarplayRgi
