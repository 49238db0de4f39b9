import CarplayRgi.TracedSystems
import Mathlib.Data.List.Perm.Basic

/-!
# A box that keeps the latest item

Items are put into a box of one place, and an item that still lies there is
dropped for a newer one.  A worker takes an item out, works on it and finishes
it.  Every item that has been put in is dropped or finished once, unless it
still lies in the box or is worked on; the worker takes items in the order in
which they came, and the last one is never dropped before the box is closed.
-/

namespace CarplayRgi

structure LatestBox (Item : Type*) where
  slot : Option Item
  inWork : Option Item
  closed : Bool

namespace LatestBox

variable {Item : Type*}

inductive Call (Item : Type*) where
  | put (item : Item)
  | take
  | finish
  | close

inductive Event (Item : Type*) where
  | given (item : Item)
  | dropped (item : Item)
  | taken (item : Item)
  | finished (item : Item)

def empty : LatestBox Item := ⟨none, none, false⟩

def step (box : LatestBox Item) : Call Item → Option (LatestBox Item × List (Event Item))
  | .put item => some ({ box with slot := some item },
      box.slot.toList.map .dropped ++ [.given item])
  | .take =>
      match box.slot, box.inWork with
      | some item, none => some ({ box with slot := none, inWork := some item }, [.taken item])
      | _, _ => none
  | .finish =>
      match box.inWork with
      | some item => some ({ box with inWork := none }, [.finished item])
      | none => none
  | .close => some ({ box with slot := none, closed := true }, box.slot.toList.map .dropped)

def system (Item : Type*) : TracedSystem (LatestBox Item) (Call Item) (Event Item) where
  init := empty
  step := step

def givenItem : Event Item → Option Item
  | .given item => some item
  | _ => none

def droppedItem : Event Item → Option Item
  | .dropped item => some item
  | _ => none

def takenItem : Event Item → Option Item
  | .taken item => some item
  | _ => none

def finishedItem : Event Item → Option Item
  | .finished item => some item
  | _ => none

/-- The items of the events of one kind. -/
def given (history : List (Event Item)) : List Item := history.filterMap givenItem

def dropped (history : List (Event Item)) : List Item := history.filterMap droppedItem

def taken (history : List (Event Item)) : List Item := history.filterMap takenItem

def finished (history : List (Event Item)) : List Item := history.filterMap finishedItem

@[simp]
theorem given_append (history events : List (Event Item)) :
    given (history ++ events) = given history ++ given events :=
  List.filterMap_append

@[simp]
theorem dropped_append (history events : List (Event Item)) :
    dropped (history ++ events) = dropped history ++ dropped events :=
  List.filterMap_append

@[simp]
theorem taken_append (history events : List (Event Item)) :
    taken (history ++ events) = taken history ++ taken events :=
  List.filterMap_append

@[simp]
theorem finished_append (history events : List (Event Item)) :
    finished (history ++ events) = finished history ++ finished events :=
  List.filterMap_append

/-- Dropping what lies in the box is no other event. -/
theorem drops_slot (slot : Option Item) :
    given (slot.toList.map Event.dropped) = [] ∧
      dropped (slot.toList.map Event.dropped) = slot.toList ∧
      taken (slot.toList.map Event.dropped) = [] ∧
      finished (slot.toList.map Event.dropped) = [] := by
  cases slot with
  | none | some item => exact ⟨rfl, rfl, rfl, rfl⟩

/-- What the history of a box says about what is in it. -/
structure Balanced (box : LatestBox Item) (history : List (Event Item)) : Prop where
  order : (taken history ++ box.slot.toList).Sublist (given history)
  latest : box.closed = false → (taken history ++ box.slot.toList).getLast? = (given history).getLast?
  work : taken history = finished history ++ box.inWork.toList
  conserved : (given history).Perm (dropped history ++ (taken history ++ box.slot.toList))

theorem balanced_empty : Balanced (empty : LatestBox Item) [] :=
  ⟨.slnil, fun _ => rfl, rfl, .refl _⟩

section Steps

variable {box next : LatestBox Item} {history events : List (Event Item)}

theorem Balanced.put (balanced : Balanced box history) (item : Item) :
    Balanced { box with slot := some item }
      (history ++ (box.slot.toList.map .dropped ++ [.given item])) := by
  obtain ⟨noneGiven, oldDropped, noneTaken, noneFinished⟩ := drops_slot box.slot
  have itemGiven : given [Event.given item] = [item] := rfl
  have itemDropped : dropped [Event.given item] = [] := rfl
  have itemTaken : taken [Event.given item] = [] := rfl
  have itemFinished : finished [Event.given item] = [] := rfl
  have front : (taken history).Sublist (given history) :=
    (List.sublist_append_left _ _).trans balanced.order
  have swapped : (given history ++ [item]).Perm
      (dropped history ++ (box.slot.toList ++ taken history) ++ [item]) :=
    (balanced.conserved.trans (List.Perm.append_left _ List.perm_append_comm)).append_right _
  constructor
  · simpa [noneGiven, noneTaken, itemGiven, itemTaken] using front.append (.refl [item])
  · intro _
    simp [noneGiven, noneTaken, itemGiven, itemTaken]
  · simpa [noneTaken, noneFinished, itemTaken, itemFinished] using balanced.work
  · simpa [noneGiven, oldDropped, noneTaken, itemGiven, itemDropped, itemTaken] using swapped

theorem Balanced.close (balanced : Balanced box history) :
    Balanced { box with slot := none, closed := true }
      (history ++ box.slot.toList.map .dropped) := by
  obtain ⟨noneGiven, oldDropped, noneTaken, noneFinished⟩ := drops_slot box.slot
  have front : (taken history).Sublist (given history) :=
    (List.sublist_append_left _ _).trans balanced.order
  have swapped := balanced.conserved.trans
    (List.Perm.append_left (dropped history) List.perm_append_comm)
  constructor
  · simpa [noneGiven, noneTaken] using front
  · intro isOpen
    cases isOpen
  · simpa [noneTaken, noneFinished] using balanced.work
  · simpa [noneGiven, oldDropped, noneTaken] using swapped

theorem Balanced.take (balanced : Balanced box history) {item : Item} (lies : box.slot = some item)
    (idle : box.inWork = none) :
    Balanced { box with slot := none, inWork := some item } (history ++ [.taken item]) := by
  have order := balanced.order
  have latest := balanced.latest
  have work := balanced.work
  have conserved := balanced.conserved
  rw [lies] at order latest conserved
  rw [idle] at work
  have itemGiven : given [Event.taken item] = [] := rfl
  have itemDropped : dropped [Event.taken item] = [] := rfl
  have itemTaken : taken [Event.taken item] = [item] := rfl
  have itemFinished : finished [Event.taken item] = [] := rfl
  constructor
  · simpa [itemGiven, itemTaken] using order
  · intro isOpen
    simpa [itemGiven, itemTaken] using latest isOpen
  · simpa [itemTaken, itemFinished] using work
  · simpa [itemGiven, itemDropped, itemTaken] using conserved

theorem Balanced.finish (balanced : Balanced box history) {item : Item}
    (busy : box.inWork = some item) :
    Balanced { box with inWork := none } (history ++ [.finished item]) := by
  have work := balanced.work
  rw [busy] at work
  have itemGiven : given [Event.finished item] = [] := rfl
  have itemDropped : dropped [Event.finished item] = [] := rfl
  have itemTaken : taken [Event.finished item] = [] := rfl
  have itemFinished : finished [Event.finished item] = [item] := rfl
  constructor
  · simpa [itemGiven, itemTaken] using balanced.order
  · intro isOpen
    simpa [itemGiven, itemTaken] using balanced.latest isOpen
  · simpa [itemTaken, itemFinished] using work
  · simpa [itemGiven, itemDropped, itemTaken] using balanced.conserved

theorem Balanced.step (balanced : Balanced box history) {call : Call Item}
    (stepTo : box.step call = some (next, events)) : Balanced next (history ++ events) := by
  cases call with
  | put item =>
      cases stepTo
      exact balanced.put item
  | take =>
      unfold LatestBox.step at stepTo
      dsimp only at stepTo
      split at stepTo
      · rename_i item lies idle
        cases stepTo
        exact balanced.take lies idle
      · cases stepTo
  | finish =>
      unfold LatestBox.step at stepTo
      dsimp only at stepTo
      split at stepTo
      · rename_i item busy
        cases stepTo
        exact balanced.finish busy
      · cases stepTo
  | close =>
      cases stepTo
      exact balanced.close

end Steps

theorem balanced_of_run {box : LatestBox Item} {history : List (Event Item)}
    (run : (system Item).Run box history) : Balanced box history :=
  run.invariant Balanced balanced_empty fun before _ stepTo => before.step stepTo

/-- When nothing lies in the box and nothing is worked on, the last item that
has been put in has been finished, unless the box has been closed. -/
theorem finished_latest {box : LatestBox Item} {history : List (Event Item)}
    (run : (system Item).Run box history) (isOpen : box.closed = false) (nothing : box.slot = none)
    (idle : box.inWork = none) :
    (finished history).getLast? = (given history).getLast? := by
  have balanced := balanced_of_run run
  have latest := balanced.latest isOpen
  have work := balanced.work
  rw [idle, Option.toList_none, List.append_nil] at work
  rw [nothing, Option.toList_none, List.append_nil, work] at latest
  exact latest

end LatestBox

end CarplayRgi
