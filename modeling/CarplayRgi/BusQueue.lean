import CarplayRgi.BoundedQueue
import CarplayRgi.BusPolicies
import CarplayRgi.HookRegistry

/-!
# The send queue of the bus in memory

The frames of `g_ring` hold pointers to their payloads.  An enqueue copies the
payload into a block of its own, which may fail; a dequeue hands the block over
to its caller.  As long as the rest of the program leaves the blocks of the ring
alone, the ring answers as a queue of 256 frames does.
-/

namespace CarplayRgi

open BoundedQueue

abbrev Address := Nat

/-- The blocks that are allocated, with their contents. -/
abbrev Heap := Address → Option (List UInt8)

/-- `free`. -/
def Heap.free (payload : Option Address) (heap : Heap) : Heap :=
  match payload with
  | some address => Function.update heap address none
  | none => heap

/-- `frame_t` with the pointer to its payload. -/
structure HeapFrame where
  type : UInt16
  flags : UInt8
  seq : UInt32
  len : UInt32
  payload : Option Address

namespace HeapFrame

def zero : HeapFrame := ⟨0, 0, 0, 0, none⟩

/-- The payload that the pointer and the length stand for. -/
def bytes (heap : Heap) (frame : HeapFrame) : List UInt8 :=
  ((frame.payload.bind heap).getD []).take frame.len.toNat

def value (heap : Heap) (frame : HeapFrame) : BusFrame :=
  ⟨frame.type.toNat, frame.flags, frame.seq.toNat, frame.bytes heap⟩

/-- The whole payload lies in an allocated block. -/
def Readable (heap : Heap) (frame : HeapFrame) : Prop :=
  frame.len = 0 ∨ ∃ address block, frame.payload = some address ∧ heap address = some block ∧
    frame.len.toNat ≤ block.length

/-- The payload is a block of its length, or nothing if it is empty. -/
inductive Holds (heap : Heap) (frame : HeapFrame) : Prop
  | nothing (noLength : frame.len = 0) (null : frame.payload = none)
  | block {address : Address} {block : List UInt8} (pointsTo : frame.payload = some address)
      (allocated : heap address = some block) (length : block.length = frame.len.toNat)

/-- `frame_dispose`. -/
def dispose (heap : Heap) (frame : HeapFrame) : HeapFrame × Heap :=
  (zero, heap.free frame.payload)

/-- `frame_dup`, where `malloc` is the answer of the allocator if it is asked:
what is written to `dst`, and the heap after it. -/
def dup (malloc : Option Address) (heap : Heap) (src : HeapFrame) :
    HeapFrame × Heap × HookResult :=
  if 0 < src.len then
    match malloc with
    | none => ({ src with payload := none }, heap, .errMemory)
    | some address =>
        ({ src with payload := some address },
          Function.update heap address (some (src.bytes heap)), .ok)
  else ({ src with payload := none }, heap, .ok)

/-- A copy of the frame can be made. -/
def copies (malloc : Option Address) (frame : HeapFrame) : Bool :=
  decide (frame.len = 0) || malloc.isSome

end HeapFrame

theorem sendQueueCapacity_pos : 0 < sendQueueCapacity := by
  decide

/-- `g_ring` with its indices, and the heap. -/
structure SendQueue where
  heap : Heap
  ring : Fin sendQueueCapacity → HeapFrame
  head : Fin sendQueueCapacity
  tail : Fin sendQueueCapacity
  count : Nat

namespace SendQueue

def initial : SendQueue where
  heap := fun _ => none
  ring := fun _ => .zero
  head := ⟨0, sendQueueCapacity_pos⟩
  tail := ⟨0, sendQueueCapacity_pos⟩
  count := 0

def nextIndex (index : Fin sendQueueCapacity) : Fin sendQueueCapacity :=
  ⟨(index + 1) % sendQueueCapacity, Nat.mod_lt _ sendQueueCapacity_pos⟩

def qIsFull (state : SendQueue) : Bool := state.count == sendQueueCapacity

def qIsEmpty (state : SendQueue) : Bool := state.count == 0

/-- `q_enqueue_nolock`.  A failed copy has written to the slot already. -/
def qEnqueueNolock (malloc : Option Address) (frame : HeapFrame) (state : SendQueue) :
    SendQueue × HookResult :=
  if state.qIsFull then (state, .errBusy)
  else
    let (copy, heap, result) := frame.dup malloc state.heap
    let written :=
      { state with
        heap := heap
        ring := Function.update state.ring state.tail copy }
    if result = .ok then
      ({ written with
          tail := nextIndex state.tail
          count := state.count + 1 }, .ok)
    else (written, result)

/-- `q_dequeue_nolock`: the frame that is handed out, if any. -/
def qDequeueNolock (state : SendQueue) : SendQueue × Option HeapFrame :=
  if state.qIsEmpty then (state, none)
  else
    let out := state.ring state.head
    ({ state with
        ring := Function.update state.ring state.head { out with payload := none }
        head := nextIndex state.head
        count := state.count - 1 }, some out)

/-- The frames that wait, oldest first. -/
def waiting (state : SendQueue) : List HeapFrame :=
  (List.range state.count).map fun offset =>
    state.ring ⟨(state.head + offset) % sendQueueCapacity, Nat.mod_lt _ sendQueueCapacity_pos⟩

/-- What the waiting frames stand for. -/
def contents (state : SendQueue) : List BusFrame :=
  state.waiting.map (HeapFrame.value state.heap)

/-- The block belongs to a waiting frame. -/
def Owns (state : SendQueue) (address : Address) : Prop :=
  ∃ frame ∈ state.waiting, frame.payload = some address

end SendQueue

/-- The calls of the queue, and what the rest of the program does to the heap
between them. -/
inductive SendQueueLabel where
  | enqueue (frame : HeapFrame) (malloc : Option Address)
  | dequeue
  | others (heap : Heap)

namespace SendQueue

/-- The values that `q_enqueue_nolock` returns, as answers of a queue. -/
def enqueueAnswer : HookResult → Answer BusFrame
  | .ok => .accepted
  | .errBusy => .full
  | _ => .notCopied

def dequeueAnswer (heap : Heap) : Option HeapFrame → Answer BusFrame
  | none => .empty
  | some out => .taken (out.value heap)

def step : SendQueueLabel → TracedOp SendQueue (Call BusFrame × Answer BusFrame)
  | .enqueue frame malloc => fun state =>
      let result := qEnqueueNolock malloc frame state
      (result.1,
        [(.enqueue (frame.value state.heap) (frame.copies malloc), enqueueAnswer result.2)])
  | .dequeue => fun state =>
      let result := qDequeueNolock state
      (result.1, [(.dequeue, dequeueAnswer result.1.heap result.2)])
  | .others heap => fun state => ({ state with heap := heap }, [])

/-- A frame to enqueue can be read, `malloc` answers with a block that is not
in use, and the rest of the program leaves the blocks of the ring alone. -/
def Allowed (state : SendQueue) (_ : List (Call BusFrame × Answer BusFrame)) :
    SendQueueLabel → Prop
  | .enqueue frame malloc =>
      frame.Readable state.heap ∧ ∀ address, malloc = some address → state.heap address = none
  | .dequeue => True
  | .others heap => ∀ address, state.Owns address → heap address = state.heap address

end SendQueue

def sendQueue : TracedSystem SendQueue SendQueueLabel (Call BusFrame × Answer BusFrame) where
  init := .initial
  step := fun state label => some (SendQueue.step label state)

namespace HeapFrame

theorem bytes_congr {heap after : Heap} {frame : HeapFrame}
    (same : ∀ address, frame.payload = some address → after address = heap address) :
    frame.bytes after = frame.bytes heap := by
  unfold bytes
  cases pointsTo : frame.payload with
  | none => rfl
  | some address => rw [Option.bind_some, Option.bind_some, same address pointsTo]

theorem value_congr {heap after : Heap} {frame : HeapFrame}
    (same : ∀ address, frame.payload = some address → after address = heap address) :
    frame.value after = frame.value heap := by
  rw [value, value, bytes_congr same]

theorem Holds.congr {heap after : Heap} {frame : HeapFrame} (holds : frame.Holds heap)
    (same : ∀ address, frame.payload = some address → after address = heap address) :
    frame.Holds after := by
  cases holds with
  | nothing noLength null => exact .nothing noLength null
  | block pointsTo allocated length =>
      exact .block pointsTo ((same _ pointsTo).trans allocated) length

/-- The block of a frame is in use. -/
theorem Holds.allocated {heap : Heap} {frame : HeapFrame} {address : Address}
    (holds : frame.Holds heap) (pointsTo : frame.payload = some address) :
    heap address ≠ none := by
  cases holds with
  | nothing _ null => simp [null] at pointsTo
  | block isBlock allocated _ =>
      cases isBlock.symm.trans pointsTo
      simp [allocated]

theorem Holds.readable {heap : Heap} {frame : HeapFrame} (holds : frame.Holds heap) :
    frame.Readable heap := by
  cases holds with
  | nothing noLength _ => exact .inl noLength
  | block pointsTo allocated length => exact .inr ⟨_, _, pointsTo, allocated, length.ge⟩

theorem length_bytes {heap : Heap} {frame : HeapFrame} (readable : frame.Readable heap) :
    (frame.bytes heap).length = frame.len.toNat := by
  rcases readable with noLength | ⟨address, block, pointsTo, allocated, fits⟩
  · simp [bytes, noLength]
  · simp only [bytes, pointsTo, Option.bind_some, allocated, Option.getD_some, List.length_take]
    omega

/-- The copy stands for the same frame, in a block that was not in use. -/
structure CopyOf (heap : Heap) (src copy : HeapFrame) (after : Heap) : Prop where
  holds : copy.Holds after
  value : copy.value after = src.value heap
  fresh : ∀ address, copy.payload = some address → heap address = none
  kept : ∀ address, heap address ≠ none → after address = heap address

/-- A copy is made, or there is no memory for it. -/
theorem dup_cases {malloc : Option Address} {heap : Heap} {src : HeapFrame}
    (readable : src.Readable heap)
    (unused : ∀ address, malloc = some address → heap address = none) :
    (∃ copy after, src.dup malloc heap = (copy, after, .ok) ∧ src.copies malloc = true ∧
        CopyOf heap src copy after) ∨
      (∃ copy, src.dup malloc heap = (copy, heap, .errMemory) ∧ src.copies malloc = false) := by
  by_cases noLength : src.len = 0
  · left
    refine ⟨{ src with payload := none }, heap, ?_, ?_, ?_⟩
    · exact if_neg (by simp [noLength])
    · simp [copies, noLength]
    · exact {
        holds := .nothing noLength rfl
        value := by simp [HeapFrame.value, bytes, noLength]
        fresh := by simp
        kept := fun _ _ => rfl }
  · have positive : 0 < src.len := by
      rw [UInt32.lt_iff_toNat_lt, UInt32.toNat_zero]
      exact Nat.pos_of_ne_zero fun zero => noLength (UInt32.toNat_inj.mp zero)
    cases asked : malloc with
    | none =>
        right
        refine ⟨{ src with payload := none }, ?_, ?_⟩
        · rw [dup, if_pos positive]
        · simp [copies, noLength]
    | some address =>
        left
        have length := length_bytes readable
        refine ⟨{ src with payload := some address },
          Function.update heap address (some (src.bytes heap)), ?_, ?_, ?_⟩
        · rw [dup, if_pos positive]
        · simp [copies]
        · exact {
            holds := .block rfl (Function.update_self ..) length
            value := by
              simp only [HeapFrame.value, BusFrame.mk.injEq, true_and]
              rw [bytes]
              simp only [Option.bind_some, Function.update_self, Option.getD_some]
              rw [← length, List.take_length]
            fresh := by
              intro other isOther
              cases isOther
              exact unused address asked
            kept := by
              intro other inUse
              apply Function.update_of_ne
              rintro rfl
              exact inUse (unused other asked) }

end HeapFrame

namespace SendQueue

/-- The tail is where the next frame goes, and the count is in range. -/
structure Consistent (state : SendQueue) : Prop where
  count_le : state.count ≤ sendQueueCapacity
  tail_eq : (state.tail : Nat) = (state.head + state.count) % sendQueueCapacity

def Consistent.toBuffer {state : SendQueue} (consistent : state.Consistent) :
    RingBuffer HeapFrame sendQueueCapacity where
  slots := state.ring
  head := state.head
  tail := state.tail
  count := state.count
  head_lt := state.head.isLt
  count_le := consistent.count_le
  tail_eq := consistent.tail_eq

theorem Consistent.toList {state : SendQueue} (consistent : state.Consistent) :
    consistent.toBuffer.toList = state.waiting := rfl

theorem length_waiting (state : SendQueue) : state.waiting.length = state.count := by
  simp [waiting]

/-- A frame in the slot at the tail is not waiting yet. -/
theorem Consistent.write {state : SendQueue} (consistent : state.Consistent)
    (room : state.count ≠ sendQueueCapacity) (copy : HeapFrame) (heap : Heap) :
    ({ state with heap := heap, ring := Function.update state.ring state.tail copy } :
        SendQueue).Consistent ∧
      ({ state with heap := heap, ring := Function.update state.ring state.tail copy } :
        SendQueue).waiting = state.waiting := by
  have hasRoom : state.count < sendQueueCapacity := lt_of_le_of_ne consistent.count_le room
  have written : ({ state with heap := heap, ring := Function.update state.ring state.tail copy } :
      SendQueue).Consistent := ⟨consistent.count_le, consistent.tail_eq⟩
  refine ⟨written, ?_⟩
  rw [← written.toList, ← consistent.toList]
  refine RingBuffer.toList_congr rfl rfl fun offset live => ?_
  exact @RingBuffer.update_tailSlot_slotAt _ _ consistent.toBuffer offset hasRoom live copy

/-- With the tail and the count moved on, it waits behind the others. -/
theorem Consistent.push {state : SendQueue} (consistent : state.Consistent)
    (room : state.count ≠ sendQueueCapacity) (copy : HeapFrame) (heap : Heap) :
    ({ state with
        heap := heap
        ring := Function.update state.ring state.tail copy
        tail := nextIndex state.tail
        count := state.count + 1 } : SendQueue).Consistent ∧
      ({ state with
        heap := heap
        ring := Function.update state.ring state.tail copy
        tail := nextIndex state.tail
        count := state.count + 1 } : SendQueue).waiting = state.waiting ++ [copy] := by
  have hasRoom : state.count < sendQueueCapacity := lt_of_le_of_ne consistent.count_le room
  have pushed : ({ state with
      heap := heap
      ring := Function.update state.ring state.tail copy
      tail := nextIndex state.tail
      count := state.count + 1 } : SendQueue).Consistent := by
    refine ⟨hasRoom, ?_⟩
    dsimp only [nextIndex]
    rw [consistent.tail_eq, Nat.mod_add_mod, Nat.add_assoc]
  have enqueued : consistent.toBuffer.enqueue copy = some pushed.toBuffer := dif_pos hasRoom
  exact ⟨pushed, RingBuffer.toList_enqueue enqueued⟩

/-- The oldest frame leaves, and its slot keeps no pointer. -/
theorem Consistent.pop {state : SendQueue} (consistent : state.Consistent)
    (notEmpty : state.count ≠ 0) (left : HeapFrame) :
    ({ state with
        ring := Function.update state.ring state.head left
        head := nextIndex state.head
        count := state.count - 1 } : SendQueue).Consistent ∧
      state.waiting = state.ring state.head ::
        ({ state with
          ring := Function.update state.ring state.head left
          head := nextIndex state.head
          count := state.count - 1 } : SendQueue).waiting := by
  have positive : 0 < state.count := Nat.pos_of_ne_zero notEmpty
  have moved : ({ state with
      head := nextIndex state.head
      count := state.count - 1 } : SendQueue).Consistent := by
    refine ⟨(Nat.sub_le _ _).trans consistent.count_le, ?_⟩
    dsimp only [nextIndex]
    rw [consistent.tail_eq, Nat.mod_add_mod]
    congr 1
    omega
  have dequeued : consistent.toBuffer.dequeue = some (state.ring state.head, moved.toBuffer) :=
    dif_pos positive
  refine ⟨⟨moved.count_le, moved.tail_eq⟩, ?_⟩
  rw [← consistent.toList, RingBuffer.toList_dequeue dequeued]
  exact congrArg _ (RingBuffer.toList_overwrite dequeued left).symm

/-- Every waiting frame holds a block of its own. -/
structure Sound (state : SendQueue) : Prop where
  consistent : state.Consistent
  held : ∀ frame ∈ state.waiting, frame.Holds state.heap
  apart : state.waiting.Pairwise fun first second =>
    ∀ address, first.payload = some address → second.payload ≠ some address

theorem sound_initial : initial.Sound :=
  ⟨⟨Nat.zero_le _, rfl⟩, nofun, List.Pairwise.nil⟩

theorem Sound.allocated {state : SendQueue} (sound : state.Sound) {address : Address}
    (owns : state.Owns address) : state.heap address ≠ none := by
  obtain ⟨frame, waits, pointsTo⟩ := owns
  exact (sound.held frame waits).allocated pointsTo

theorem length_contents (state : SendQueue) : state.contents.length = state.count := by
  rw [contents, List.length_map, length_waiting]

/-- The contents last as long as the blocks of the ring do. -/
theorem values_congr {state : SendQueue} {after : Heap}
    (same : ∀ address, state.Owns address → after address = state.heap address) :
    state.waiting.map (HeapFrame.value after) = state.contents := by
  apply List.map_congr_left
  intro frame waits
  exact HeapFrame.value_congr fun address pointsTo => same address ⟨frame, waits, pointsTo⟩

theorem Sound.others {state : SendQueue} (sound : state.Sound) {after : Heap}
    (same : ∀ address, state.Owns address → after address = state.heap address) :
    ({ state with heap := after } : SendQueue).Sound where
  consistent := ⟨sound.consistent.count_le, sound.consistent.tail_eq⟩
  held := fun frame waits => (sound.held frame waits).congr fun address pointsTo =>
    same address ⟨frame, waits, pointsTo⟩
  apart := sound.apart

/-- What an enqueue does, by its result. -/
inductive Enqueued (malloc : Option Address) (frame : HeapFrame) (state next : SendQueue) :
    HookResult → Prop
  | full (isFull : state.count = sendQueueCapacity) (same : next = state) :
      Enqueued malloc frame state next .errBusy
  | failed (room : state.count ≠ sendQueueCapacity) (noCopy : frame.copies malloc = false)
      (sameHeap : next.heap = state.heap) (unchanged : next.waiting = state.waiting) :
      Enqueued malloc frame state next .errMemory
  | accepted {copy : HeapFrame} (room : state.count ≠ sendQueueCapacity)
      (copied : frame.copies malloc = true)
      (isCopy : HeapFrame.CopyOf state.heap frame copy next.heap)
      (pushed : next.waiting = state.waiting ++ [copy]) :
      Enqueued malloc frame state next .ok

theorem Sound.qEnqueueNolock {state : SendQueue} (sound : state.Sound) {malloc : Option Address}
    {frame : HeapFrame} (readable : frame.Readable state.heap)
    (unused : ∀ address, malloc = some address → state.heap address = none) :
    (qEnqueueNolock malloc frame state).1.Sound ∧
      Enqueued malloc frame state (qEnqueueNolock malloc frame state).1
        (qEnqueueNolock malloc frame state).2 := by
  by_cases isFull : state.count = sendQueueCapacity
  · have result : SendQueue.qEnqueueNolock malloc frame state = (state, .errBusy) :=
      if_pos (beq_iff_eq.mpr isFull)
    rw [result]
    exact ⟨sound, .full isFull rfl⟩
  have notFull : ¬ state.qIsFull = true := fun full => isFull (beq_iff_eq.mp full)
  rcases HeapFrame.dup_cases readable unused with
    ⟨copy, after, dupEq, copied, isCopy⟩ | ⟨copy, dupEq, noCopy⟩
  · have result : SendQueue.qEnqueueNolock malloc frame state =
        ({ state with
            heap := after
            ring := Function.update state.ring state.tail copy
            tail := nextIndex state.tail
            count := state.count + 1 }, .ok) := by
      rw [SendQueue.qEnqueueNolock, if_neg notFull, dupEq]
      rfl
    obtain ⟨consistent, waits⟩ := sound.consistent.push isFull copy after
    rw [result]
    have kept : ∀ address, state.Owns address → after address = state.heap address :=
      fun address owns => isCopy.kept address (sound.allocated owns)
    refine ⟨⟨consistent, ?_, ?_⟩, .accepted isFull copied isCopy waits⟩
    · intro other member
      rw [waits] at member
      rcases List.mem_append.mp member with before | last
      · exact (sound.others kept).held other before
      · rw [List.mem_singleton.mp last]
        exact isCopy.holds
    · rw [waits, List.pairwise_append]
      refine ⟨sound.apart, List.pairwise_singleton _ _, ?_⟩
      intro other before last isLast address pointsTo sameBlock
      rw [List.mem_singleton.mp isLast] at sameBlock
      exact sound.allocated ⟨other, before, pointsTo⟩ (isCopy.fresh address sameBlock)
  · have result : SendQueue.qEnqueueNolock malloc frame state =
        ({ state with ring := Function.update state.ring state.tail copy }, .errMemory) := by
      rw [SendQueue.qEnqueueNolock, if_neg notFull, dupEq]
      rfl
    obtain ⟨consistent, waits⟩ := sound.consistent.write isFull copy state.heap
    rw [result]
    refine ⟨⟨consistent, ?_, ?_⟩, .failed isFull noCopy rfl waits⟩
    · rw [waits]
      exact sound.held
    · rw [waits]
      exact sound.apart

/-- The contents grow by the frame exactly if it is accepted. -/
theorem Enqueued.contents {malloc : Option Address} {frame : HeapFrame} {state next : SendQueue}
    {result : HookResult} (enqueued : Enqueued malloc frame state next result)
    (sound : state.Sound) :
    next.contents =
      if result = .ok then state.contents ++ [frame.value state.heap] else state.contents := by
  cases enqueued with
  | full isFull same => rw [same, if_neg (by decide)]
  | failed room noCopy sameHeap unchanged =>
      rw [if_neg (by decide), SendQueue.contents, unchanged, sameHeap]
      rfl
  | accepted room copied isCopy pushed =>
      have kept := values_congr fun address owns => isCopy.kept address (sound.allocated owns)
      rw [if_pos rfl, SendQueue.contents, pushed, List.map_append, kept, List.map_singleton,
        isCopy.value]

/-- What a dequeue hands out. -/
inductive Dequeued (state next : SendQueue) : Option HeapFrame → Prop
  | empty (isEmpty : state.contents = []) (same : next = state) : Dequeued state next none
  | oldest {out : HeapFrame} (sameHeap : next.heap = state.heap)
      (popped : state.waiting = out :: next.waiting) : Dequeued state next (some out)

theorem Sound.qDequeueNolock {state : SendQueue} (sound : state.Sound) :
    state.qDequeueNolock.1.Sound ∧ Dequeued state state.qDequeueNolock.1 state.qDequeueNolock.2 := by
  by_cases isEmpty : state.count = 0
  · have result : state.qDequeueNolock = (state, none) := if_pos (beq_iff_eq.mpr isEmpty)
    rw [result]
    refine ⟨sound, .empty (List.length_eq_zero_iff.mp ?_) rfl⟩
    rw [length_contents, isEmpty]
  have notEmpty : ¬ state.qIsEmpty = true := fun empty => isEmpty (beq_iff_eq.mp empty)
  obtain ⟨consistent, popped⟩ :=
    sound.consistent.pop isEmpty { state.ring state.head with payload := none }
  have result : state.qDequeueNolock = _ := if_neg notEmpty
  rw [result]
  have held := sound.held
  have apart := sound.apart
  rw [popped] at held apart
  refine ⟨⟨consistent, fun frame waits => held frame (List.mem_cons_of_mem _ waits), ?_⟩,
    .oldest rfl popped⟩
  exact (List.pairwise_cons.mp apart).2

theorem Dequeued.contents {state next : SendQueue} {handed : Option HeapFrame}
    (dequeued : Dequeued state next handed) :
    state.contents = (handed.map (HeapFrame.value state.heap)).toList ++ next.contents := by
  cases dequeued with
  | empty isEmpty same =>
      rw [same, isEmpty]
      rfl
  | oldest sameHeap popped =>
      rw [SendQueue.contents, popped, SendQueue.contents, sameHeap]
      rfl

/-- Every call gets the answer of a queue of 256 frames. -/
theorem Sound.step {state next : SendQueue} {trace events : List (Call BusFrame × Answer BusFrame)}
    {label : SendQueueLabel} (sound : state.Sound) (allowed : Allowed state trace label)
    (stepTo : SendQueue.step label state = (next, events)) :
    next.Sound ∧ ((next.contents = state.contents ∧ events = []) ∨
      ∃ call, BoundedQueue.step sendQueueCapacity call state.contents =
        (next.contents, events)) := by
  cases label with
  | enqueue frame malloc =>
      obtain ⟨nextSound, enqueued⟩ := sound.qEnqueueNolock allowed.1 allowed.2
      have contents := enqueued.contents sound
      have length := length_contents state
      cases stepTo
      refine ⟨nextSound, .inr ⟨.enqueue (frame.value state.heap) (frame.copies malloc), ?_⟩⟩
      generalize SendQueue.qEnqueueNolock malloc frame state = result at enqueued contents
      obtain ⟨next, answer⟩ := result
      rw [contents]
      cases enqueued with
      | full isFull _ =>
          rw [step_full (length.trans isFull)]
          rfl
      | failed room noCopy _ _ =>
          rw [noCopy, step_notCopied (length ▸ room)]
          rfl
      | accepted room copied _ _ =>
          rw [copied, step_accepted (length ▸ room)]
          rfl
  | dequeue =>
      obtain ⟨nextSound, dequeued⟩ := sound.qDequeueNolock
      have popped := dequeued.contents
      cases stepTo
      refine ⟨nextSound, .inr ⟨.dequeue, ?_⟩⟩
      rw [popped]
      generalize state.qDequeueNolock = result at dequeued
      obtain ⟨next, handed⟩ := result
      cases dequeued with
      | empty isEmpty same =>
          rw [same, isEmpty]
          rfl
      | oldest sameHeap _ =>
          dsimp only at sameHeap
          rw [dequeueAnswer, sameHeap]
          rfl
  | others after =>
      cases stepTo
      exact ⟨sound.others allowed, .inl ⟨values_congr allowed, rfl⟩⟩

/-- Every run is a run of the queue on what the frames stand for. -/
theorem run_refines {state : SendQueue} {trace : List (Call BusFrame × Answer BusFrame)}
    (run : sendQueue.RunWithin Allowed state trace) :
    state.Sound ∧ (boundedQueue BusFrame sendQueueCapacity).Run state.contents trace := by
  have refines := @TracedSystem.RunWithin.refines _ _ _ _ _ _ _
    (boundedQueue BusFrame sendQueueCapacity) _ contents some Sound sound_initial rfl ?_ _ _ run
  · rwa [List.filterMap_some] at refines
  · intro state next trace events label sound allowed stepTo
    rw [List.filterMap_some]
    obtain ⟨nextSound, matched⟩ := sound.step allowed (Option.some.inj stepTo)
    exact ⟨nextSound, matched.imp_right fun ⟨call, callTo⟩ => ⟨call, congrArg some callTo⟩⟩

/-- A block that is in use elsewhere never becomes one of the ring. -/
theorem Sound.not_owns_step {state : SendQueue} (sound : state.Sound)
    {trace : List (Call BusFrame × Answer BusFrame)} {label : SendQueueLabel}
    (allowed : Allowed state trace label) {address : Address} (inUse : state.heap address ≠ none)
    (foreign : ¬ state.Owns address) : ¬ (SendQueue.step label state).1.Owns address := by
  rintro ⟨frame, waits, pointsTo⟩
  cases label with
  | enqueue enqueued malloc =>
      have result := (sound.qEnqueueNolock allowed.1 allowed.2).2
      change frame ∈ (SendQueue.qEnqueueNolock malloc enqueued state).1.waiting at waits
      generalize SendQueue.qEnqueueNolock malloc enqueued state = next at result waits
      obtain ⟨next, answer⟩ := next
      cases result with
      | full _ same => exact foreign ⟨frame, same ▸ waits, pointsTo⟩
      | failed _ _ _ unchanged => exact foreign ⟨frame, unchanged ▸ waits, pointsTo⟩
      | accepted _ _ isCopy pushed =>
          rw [pushed] at waits
          rcases List.mem_append.mp waits with before | last
          · exact foreign ⟨frame, before, pointsTo⟩
          · rw [List.mem_singleton.mp last] at pointsTo
            exact inUse (isCopy.fresh address pointsTo)
  | dequeue =>
      have dequeued := sound.qDequeueNolock.2
      change frame ∈ state.qDequeueNolock.1.waiting at waits
      generalize state.qDequeueNolock = result at dequeued waits
      obtain ⟨next, handed⟩ := result
      cases dequeued with
      | empty _ same => exact foreign ⟨frame, same ▸ waits, pointsTo⟩
      | oldest _ popped =>
          exact foreign ⟨frame, popped ▸ List.mem_cons_of_mem _ waits, pointsTo⟩
  | others after => exact foreign ⟨frame, waits, pointsTo⟩

/-- The block of a frame that was handed out is not one of the ring. -/
theorem Sound.handed_over {state : SendQueue} (sound : state.Sound) {out : HeapFrame}
    (handed : state.qDequeueNolock.2 = some out) {address : Address}
    (pointsTo : out.payload = some address) : ¬ state.qDequeueNolock.1.Owns address := by
  have dequeued := sound.qDequeueNolock.2
  have apart := sound.apart
  rw [handed] at dequeued
  cases dequeued with
  | oldest _ popped =>
      rw [popped] at apart
      rintro ⟨frame, waits, sameBlock⟩
      exact (List.pairwise_cons.mp apart).1 frame waits address pointsTo sameBlock

/-- The whole payload of a frame that was handed out can be sent. -/
theorem Sound.handed_readable {state : SendQueue} (sound : state.Sound) {out : HeapFrame}
    (handed : state.qDequeueNolock.2 = some out) : out.Readable state.qDequeueNolock.1.heap := by
  have dequeued := sound.qDequeueNolock.2
  rw [handed] at dequeued
  cases dequeued with
  | oldest sameHeap popped =>
      have held := sound.held
      rw [popped] at held
      rw [sameHeap]
      exact (held out List.mem_cons_self).readable

/-- Blocks that are not of the ring may be freed. -/
theorem allowed_free {state : SendQueue} {payload : Option Address}
    (foreign : ∀ address, payload = some address → ¬ state.Owns address)
    (trace : List (Call BusFrame × Answer BusFrame)) :
    Allowed state trace (.others (state.heap.free payload)) := by
  intro address owns
  cases payload with
  | none => rfl
  | some freed =>
      apply Function.update_of_ne
      rintro rfl
      exact foreign address rfl owns

end SendQueue

/-- Where copies succeed, an enqueue answers as that of a ring buffer of frames. -/
theorem SendQueue.Sound.enqueue_buffer {state : SendQueue} (sound : state.Sound)
    {buffer : RingBuffer BusFrame sendQueueCapacity} (same : buffer.toList = state.contents)
    {malloc : Option Address} {frame : HeapFrame} (readable : frame.Readable state.heap)
    (unused : ∀ address, malloc = some address → state.heap address = none)
    (copied : frame.copies malloc = true) :
    (buffer.enqueue (frame.value state.heap)).map RingBuffer.toList =
      if (SendQueue.qEnqueueNolock malloc frame state).2 = .ok then
        some (SendQueue.qEnqueueNolock malloc frame state).1.contents
      else none := by
  have enqueued := (sound.qEnqueueNolock readable unused).2
  have contents := enqueued.contents sound
  have refused := buffer.enqueue_eq_none_iff (frame.value state.heap)
  rw [buffer.isFull_iff, same, length_contents] at refused
  rw [contents]
  generalize (SendQueue.qEnqueueNolock malloc frame state).1 = next at enqueued
  generalize (SendQueue.qEnqueueNolock malloc frame state).2 = result at enqueued
  cases enqueued with
  | full isFull _ => rw [refused.mpr isFull, if_neg (by decide), Option.map_none]
  | failed _ noCopy _ _ => exact absurd (noCopy.symm.trans copied) Bool.false_ne_true
  | accepted room _ _ _ =>
      obtain ⟨after, pushed⟩ := Option.ne_none_iff_exists'.mp fun none => room (refused.mp none)
      rw [pushed, if_pos rfl, if_pos rfl, Option.map_some, RingBuffer.toList_enqueue pushed, same]

/-- A dequeue hands out what one of the ring buffer does. -/
theorem SendQueue.Sound.dequeue_buffer {state : SendQueue} (sound : state.Sound)
    {buffer : RingBuffer BusFrame sendQueueCapacity} (same : buffer.toList = state.contents) :
    (buffer.dequeue.map fun taken => (taken.1, taken.2.toList)) =
      state.qDequeueNolock.2.map fun out =>
        (out.value state.heap, state.qDequeueNolock.1.contents) := by
  have dequeued := sound.qDequeueNolock.2
  have contents := dequeued.contents
  rw [← same] at contents
  generalize state.qDequeueNolock = result at dequeued contents
  obtain ⟨next, handed⟩ := result
  cases dequeued with
  | empty isEmpty _ =>
      rw [buffer.dequeue_eq_none_iff.mpr (same.trans isEmpty)]
      rfl
  | @oldest out sameHeap popped =>
      obtain ⟨⟨item, after⟩, taken⟩ := Option.ne_none_iff_exists'.mp fun none =>
        List.cons_ne_nil _ _ (contents.symm.trans (buffer.dequeue_eq_none_iff.mp none))
      have front := (RingBuffer.toList_dequeue taken).symm.trans contents
      obtain ⟨sameItem, sameRest⟩ := List.cons.inj front
      rw [taken, Option.map_some, sameItem, sameRest]
      rfl

namespace SendQueue

/-- What `writer_main` and `bus_shutdown` do with a frame: it is taken, and
disposed of when it has been sent. -/
def takeAndDispose (state : SendQueue) : SendQueue :=
  match state.qDequeueNolock with
  | (next, none) => next
  | (next, some out) => { next with heap := (out.dispose next.heap).2 }

/-- What `bus_send` does with the queue: the frame is built with a block of its
own, the queue gets a copy, and the block is freed again. -/
def busSend (type : UInt16) (flags : UInt8) (seq : UInt32) (payload : List UInt8)
    (own copy : Option Address) (state : SendQueue) : SendQueue × HookResult :=
  let frame : HeapFrame := ⟨type, flags, seq, UInt32.ofNat payload.length, none⟩
  if payload = [] then qEnqueueNolock copy frame state
  else
    match own with
    | none => (state, .errMemory)
    | some address =>
        let built := Function.update state.heap address (some payload)
        let sent := qEnqueueNolock copy { frame with payload := some address }
          { state with heap := built }
        ({ sent.1 with heap := sent.1.heap.free (some address) }, sent.2)

/-- The consumers keep the rules. -/
theorem takeAndDispose_run {state : SendQueue} {trace : List (Call BusFrame × Answer BusFrame)}
    (run : sendQueue.RunWithin Allowed state trace) :
    ∃ events, sendQueue.RunWithin Allowed state.takeAndDispose (trace ++ events) := by
  have sound := (run_refines run).1
  have dequeues : Allowed state trace .dequeue := trivial
  have taken : sendQueue.RunWithin Allowed state.qDequeueNolock.1 _ := run.next dequeues rfl
  have foreign := fun out handed address => @Sound.handed_over state sound out handed address
  unfold takeAndDispose
  generalize state.qDequeueNolock = result at taken foreign
  obtain ⟨next, handed⟩ := result
  cases handed with
  | none => exact ⟨_, taken⟩
  | some out =>
      have freed := taken.next (allowed_free (foreign out rfl) _) rfl
      rw [List.append_assoc] at freed
      exact ⟨_, freed⟩

/-- The producer keeps the rules. -/
theorem busSend_run {state : SendQueue} {trace : List (Call BusFrame × Answer BusFrame)}
    (run : sendQueue.RunWithin Allowed state trace) (type : UInt16) (flags : UInt8) (seq : UInt32)
    {payload : List UInt8} (short : payload.length ≤ busMaxPayload) {own copy : Option Address}
    (ownUnused : ∀ address, own = some address → state.heap address = none)
    (copyUnused : ∀ address, copy = some address →
      state.heap address = none ∧ own ≠ some address) :
    ∃ events, sendQueue.RunWithin Allowed (busSend type flags seq payload own copy state).1
      (trace ++ events) := by
  have sound := (run_refines run).1
  unfold busSend
  by_cases noPayload : payload = []
  · rw [if_pos noPayload]
    have allowed : Allowed state trace
        (.enqueue ⟨type, flags, seq, UInt32.ofNat payload.length, none⟩ copy) :=
      ⟨.inl (by simp [noPayload]), fun address isCopy => (copyUnused address isCopy).1⟩
    exact ⟨_, run.next allowed rfl⟩
  rw [if_neg noPayload]
  cases own with
  | none => exact ⟨[], by rwa [List.append_nil]⟩
  | some address =>
      dsimp only
      have foreign : ¬ state.Owns address := fun owns =>
        sound.allocated owns (ownUnused address rfl)
      have builds : Allowed state trace
          (.others (Function.update state.heap address (some payload))) := by
        intro other owns
        apply Function.update_of_ne
        rintro rfl
        exact foreign owns
      have built := run.next builds rfl
      have length : (UInt32.ofNat payload.length).toNat = payload.length := by
        rw [UInt32.toNat_ofNat']
        exact Nat.mod_eq_of_lt (lt_of_le_of_lt short (by decide))
      have sends : Allowed { state with heap := Function.update state.heap address (some payload) }
          (trace ++ []) (.enqueue ⟨type, flags, seq, UInt32.ofNat payload.length, some address⟩
            copy) := by
        refine ⟨.inr ⟨address, payload, rfl, Function.update_self .., length.le⟩, ?_⟩
        intro other isCopy
        obtain ⟨unused, other_ne⟩ := copyUnused other isCopy
        rw [← unused]
        apply Function.update_of_ne
        rintro rfl
        exact other_ne rfl
      have sent := built.next sends rfl
      have inUse : Function.update state.heap address (some payload) address ≠ none := by
        simp
      have stillForeign := (run_refines built).1.not_owns_step sends inUse foreign
      have freed := sent.next
        (allowed_free (fun other (isOwn : some address = some other) =>
          Option.some.inj isOwn ▸ stillForeign) _) rfl
      rw [List.append_assoc, List.append_assoc] at freed
      exact ⟨_, freed⟩

/-- The ring after a run, against the calls of the run and their answers. -/
structure ActsAsQueue (state : SendQueue) (trace : List (Call BusFrame × Answer BusFrame)) :
    Prop where
  /-- What was accepted and not taken yet waits, in its order. -/
  order : trace.filterMap acceptedItem = trace.filterMap takenItem ++ state.contents
  oldest : state.qDequeueNolock.2.map (HeapFrame.value state.heap) =
    (trace.filterMap acceptedItem)[(trace.filterMap takenItem).length]?
  unchanged : ∀ frame malloc, Allowed state trace (.enqueue frame malloc) →
    state.count = sendQueueCapacity ∨ frame.copies malloc = false →
      (qEnqueueNolock malloc frame state).1.contents = state.contents
  consistent : state.Consistent
  count_eq : state.contents.length = state.count
  /-- The payloads of the waiting frames are blocks of their lengths. -/
  held : ∀ frame ∈ state.waiting, frame.Holds state.heap

/-- After any calls, the ring answered as a queue of 256 frames does, and it
holds what such a queue would. -/
theorem refines_fifo {state : SendQueue} {trace : List (Call BusFrame × Answer BusFrame)}
    (run : sendQueue.RunWithin Allowed state trace) :
    (boundedQueue BusFrame sendQueueCapacity).Run state.contents trace ∧
      state.ActsAsQueue trace := by
  obtain ⟨sound, queueRun⟩ := run_refines run
  refine ⟨queueRun, (run_order queueRun).1, ?_, ?_, sound.consistent, length_contents state, sound.held⟩
  · have popped := sound.qDequeueNolock.2.contents
    have dequeued := sound.qDequeueNolock.2
    rw [oldest_of_run queueRun]
    generalize state.qDequeueNolock = result at popped dequeued
    obtain ⟨next, handed⟩ := result
    cases dequeued with
    | empty isEmpty _ =>
        rw [isEmpty]
        rfl
    | oldest _ _ =>
        rw [popped]
        rfl
  · intro frame malloc allowed refused
    have enqueued := (sound.qEnqueueNolock allowed.1 allowed.2).2
    rw [enqueued.contents sound]
    generalize (SendQueue.qEnqueueNolock malloc frame state).1 = next at enqueued
    generalize (SendQueue.qEnqueueNolock malloc frame state).2 = result at enqueued
    cases enqueued with
    | full _ _ => rfl
    | failed _ _ _ _ => rfl
    | accepted room copied _ _ =>
        rcases refused with isFull | noCopy
        · exact absurd isFull room
        · exact absurd (noCopy.symm.trans copied) Bool.false_ne_true

/-- A frame of two bytes in the block 1. -/
def sentFrame : HeapFrame := ⟨0x10, 1, 1, 2, some 1⟩

/-- There is no memory for the copy of the frame at first. -/
def sentLabels : List SendQueueLabel :=
  [.others (Function.update (fun _ => none) 1 (some [7, 8])), .enqueue sentFrame none,
    .enqueue sentFrame (some 2)]

theorem sent_copy_waits : ∃ (state : SendQueue) (trace : List (Call BusFrame × Answer BusFrame)),
    trace.filterMap acceptedItem = [⟨0x10, 1, 1, [7, 8]⟩] ∧ state.count = 1 ∧
      (boundedQueue BusFrame sendQueueCapacity).Run state.contents trace ∧
        state.ActsAsQueue trace := by
  have allowed : AllowedAll step Allowed sentLabels initial [] := by
    refine ⟨?_, ⟨.inr ⟨1, [7, 8], rfl, rfl, le_rfl⟩, nofun⟩,
      ⟨.inr ⟨1, [7, 8], rfl, rfl, le_rfl⟩, ?_⟩, trivial⟩
    · rintro address ⟨frame, waits, -⟩
      cases waits
    · intro address isBlock
      cases isBlock
      rfl
  obtain ⟨queueRun, acts⟩ := refines_fifo (runWithin_performAll_start allowed)
  exact ⟨(performAll step sentLabels initial).1, (performAll step sentLabels initial).2,
    by decide +kernel, rfl, queueRun, acts⟩

end SendQueue

end CarplayRgi
