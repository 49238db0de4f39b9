import CarplayRgi.TracedPairs

/-!
# Queues of bounded capacity

A call puts an item behind the waiting ones or takes the oldest of them.  An
item is turned away when the queue is full, and when no copy of it can be made.
The trace keeps every call with its answer, so the items that were taken,
followed by those that wait, are the ones that were accepted.
-/

namespace CarplayRgi

namespace BoundedQueue

variable {Item : Type*} {capacity : Nat}

inductive Call (Item : Type*) where
  | enqueue (item : Item) (copied : Bool)
  | dequeue

inductive Answer (Item : Type*) where
  | accepted
  | full
  | notCopied
  | taken (item : Item)
  | empty

def step (capacity : Nat) : Call Item → TracedOp (List Item) (Call Item × Answer Item)
  | .enqueue item copied => fun waiting =>
      if waiting.length = capacity then (waiting, [(.enqueue item copied, .full)])
      else if copied then (waiting ++ [item], [(.enqueue item copied, .accepted)])
      else (waiting, [(.enqueue item copied, .notCopied)])
  | .dequeue => fun
      | [] => ([], [(.dequeue, .empty)])
      | first :: rest => (rest, [(.dequeue, .taken first)])

def acceptedItem : Call Item × Answer Item → Option Item
  | (.enqueue item _, .accepted) => some item
  | _ => none

def takenItem : Call Item × Answer Item → Option Item
  | (_, .taken item) => some item
  | _ => none

end BoundedQueue

open BoundedQueue in
/-- The queue as a system that starts empty. -/
def boundedQueue (Item : Type*) (capacity : Nat) :
    TracedSystem (List Item) (Call Item) (Call Item × Answer Item) where
  init := []
  step := fun waiting call => some (BoundedQueue.step capacity call waiting)

namespace BoundedQueue

variable {Item : Type*} {capacity : Nat}

theorem step_full {waiting : List Item} (full : waiting.length = capacity) (item : Item)
    (copied : Bool) :
    step capacity (.enqueue item copied) waiting = (waiting, [(.enqueue item copied, .full)]) :=
  if_pos full

theorem step_accepted {waiting : List Item} (room : waiting.length ≠ capacity) (item : Item) :
    step capacity (.enqueue item true) waiting =
      (waiting ++ [item], [(.enqueue item true, .accepted)]) :=
  (if_neg room).trans (if_pos rfl)

theorem step_notCopied {waiting : List Item} (room : waiting.length ≠ capacity) (item : Item) :
    step capacity (.enqueue item false) waiting =
      (waiting, [(.enqueue item false, .notCopied)]) :=
  (if_neg room).trans (if_neg Bool.false_ne_true)

/-- One call keeps the order of the items and the bound. -/
theorem step_order (call : Call Item) (waiting : List Item) (short : waiting.length ≤ capacity) :
    waiting ++ (step capacity call waiting).2.filterMap acceptedItem =
        (step capacity call waiting).2.filterMap takenItem ++ (step capacity call waiting).1 ∧
      (step capacity call waiting).1.length ≤ capacity := by
  cases call with
  | enqueue item copied =>
      by_cases full : waiting.length = capacity
      · rw [step_full full]
        exact ⟨List.append_nil waiting, short⟩
      · cases copied with
        | false =>
            rw [step_notCopied full]
            exact ⟨List.append_nil waiting, short⟩
        | true =>
            rw [step_accepted full]
            refine ⟨rfl, ?_⟩
            rw [List.length_append, List.length_singleton]
            omega
  | dequeue =>
      cases waiting with
      | nil => exact ⟨rfl, Nat.zero_le capacity⟩
      | cons first rest =>
          exact ⟨List.append_nil (first :: rest), Nat.le_of_succ_le short⟩

/-- The items taken, followed by those that wait, are the items accepted, and
no more than the capacity wait. -/
theorem run_order {waiting : List Item} {trace : List (Call Item × Answer Item)}
    (run : (boundedQueue Item capacity).Run waiting trace) :
    trace.filterMap acceptedItem = trace.filterMap takenItem ++ waiting ∧
      waiting.length ≤ capacity := by
  refine run.invariant (fun waiting trace =>
    trace.filterMap acceptedItem = trace.filterMap takenItem ++ waiting ∧
      waiting.length ≤ capacity) ⟨rfl, Nat.zero_le _⟩ ?_
  intro waiting next trace events call before _ stepTo
  obtain ⟨order, short⟩ := before
  have stepEq : step capacity call waiting = (next, events) := Option.some.inj stepTo
  have kept := step_order call waiting short
  rw [stepEq] at kept
  refine ⟨?_, kept.2⟩
  rw [List.filterMap_append, List.filterMap_append, order, List.append_assoc, kept.1,
    List.append_assoc]

/-- The item at the front is the oldest one that was accepted and not taken. -/
theorem oldest_of_run {waiting : List Item} {trace : List (Call Item × Answer Item)}
    (run : (boundedQueue Item capacity).Run waiting trace) :
    (trace.filterMap acceptedItem)[(trace.filterMap takenItem).length]? = waiting.head? := by
  rw [(run_order run).1, List.getElem?_append_right (Nat.le_refl _), Nat.sub_self,
    List.head?_eq_getElem?]

end BoundedQueue

end CarplayRgi
