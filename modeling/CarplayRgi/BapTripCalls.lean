import CarplayRgi.BapBridge
import CarplayRgi.RouteGuidanceTrip
import Mathlib.Data.Fintype.Defs

/-!
# The trip in the calls of the bridge

An update sends the destination, the distance to it and the time of arrival
under their dirty flags, and a start sends none of them.  Flags are dropped
with every frame, also while guidance is inactive, so that a session begins
without the values that its first frame does not change.
-/

namespace CarplayRgi

/-- The functions of BAP that tell about the trip. -/
inductive TripCall where
  | destinationInfo | distanceToDestination | timeToDestination
  deriving DecidableEq

instance : Fintype TripCall :=
  ⟨{.destinationInfo, .distanceToDestination, .timeToDestination},
    fun call => by cases call <;> decide⟩

namespace TripCall

open RouteGuidance

/-- There is a value to tell. -/
def IsSet (route : RouteFields) : TripCall → Prop
  | .destinationInfo => route.destination ≠ none
  | .distanceToDestination => route.distDestM ≠ -1
  | .timeToDestination => 0 ≤ route.etaSeconds

/-- The call that carries the value. -/
def event (car : CarFunctions) (route : RouteFields) : TripCall → BapEvent
  | .destinationInfo => BapBridge.sendDestinationInfo route
  | .distanceToDestination => BapBridge.sendDistanceToDestinationRaw car route.distDestM
  | .timeToDestination =>
      .updateTimeToDestination 1 car.timeFormat (BapBridge.localSeconds car route.etaSeconds)

def isCall : TripCall → BapEvent → Bool
  | .destinationInfo, .updateDestinationInfo _ => true
  | .distanceToDestination, .updateDistanceToDestination .. => true
  | .timeToDestination, .updateTimeToDestination .. => true
  | _, _ => false

def flags : TripCall → Finset DirtyFlag
  | .destinationInfo => {.destination}
  | .distanceToDestination => {.distDest}
  | .timeToDestination => {.timeRemaining, .eta}

/-- The frame brings a new value for the call. -/
def Changes (data : BusData) (route : RouteFields) : TripCall → Prop
  | .destinationInfo => ∃ new ∈ data.strField (.route .destination), new ≠ route.destination
  | .distanceToDestination => ∃ new ∈ data.numField (.route .distDestM) (-1), new ≠ route.distDestM
  | .timeToDestination =>
      (∃ new ∈ data.numField (.route .etaSeconds) (-1), new ≠ route.etaSeconds) ∨
        ∃ new ∈ data.num64Field (.route .timeRemainingSeconds) (-1),
          new ≠ route.timeRemainingSeconds

instance (route : RouteFields) (call : TripCall) : Decidable (call.IsSet route) :=
  match call with
  | .destinationInfo => inferInstanceAs (Decidable (route.destination ≠ none))
  | .distanceToDestination => inferInstanceAs (Decidable (route.distDestM ≠ -1))
  | .timeToDestination => inferInstanceAs (Decidable (0 ≤ route.etaSeconds))

instance (data : BusData) (route : RouteFields) (call : TripCall) :
    Decidable (call.Changes data route) :=
  match call with
  | .destinationInfo => inferInstanceAs (Decidable
      (∃ new ∈ data.strField (.route .destination), new ≠ route.destination))
  | .distanceToDestination => inferInstanceAs (Decidable
      (∃ new ∈ data.numField (.route .distDestM) (-1), new ≠ route.distDestM))
  | .timeToDestination => inferInstanceAs (Decidable
      ((∃ new ∈ data.numField (.route .etaSeconds) (-1), new ≠ route.etaSeconds) ∨
        ∃ new ∈ data.num64Field (.route .timeRemainingSeconds) (-1),
          new ≠ route.timeRemainingSeconds))

end TripCall

/-- The event is the last call of its function since the latest start. -/
def LastSinceStart (call : TripCall) (event : BapEvent) (history : List BapEvent) : Prop :=
  ∃ before since later,
    history = before ++ .called .onStart :: (since ++ event :: later) ∧
      .called .onStart ∉ since ++ event :: later ∧ ∀ other ∈ later, call.isCall other = false

/-- The events contain neither a start nor a call of the function. -/
def Unrelated (call : TripCall) (events : List BapEvent) : Prop :=
  .called .onStart ∉ events ∧ ∀ other ∈ events, call.isCall other = false

theorem LastSinceStart.append {call : TripCall} {event : BapEvent}
    {history events : List BapEvent} (last : LastSinceStart call event history)
    (unrelated : Unrelated call events) : LastSinceStart call event (history ++ events) := by
  obtain ⟨before, since, later, rfl, noStart, noCall⟩ := last
  refine ⟨before, since, later ++ events, by simp, ?_, ?_⟩
  · rw [← List.cons_append, ← List.append_assoc]
    exact fun started => (List.mem_append.mp started).elim noStart unrelated.1
  · exact fun other member =>
      (List.mem_append.mp member).elim (noCall other) (unrelated.2 other)

theorem lastSinceStart_of_mem {call : TripCall} {event : BapEvent}
    {history since later : List BapEvent} (started : .called .onStart ∈ history)
    (noStart : .called .onStart ∉ since ++ event :: later)
    (noCall : ∀ other ∈ later, call.isCall other = false) :
    LastSinceStart call event (history ++ (since ++ event :: later)) := by
  obtain ⟨later', before', split, fresh⟩ :=
    List.eq_append_cons_of_mem (List.mem_reverse.mpr started)
  have historyEq : history = before'.reverse ++ .called .onStart :: later'.reverse := by
    rw [← List.reverse_reverse history, split]
    simp
  refine ⟨before'.reverse, later'.reverse ++ since, later, by simp [historyEq], ?_, noCall⟩
  rw [List.append_assoc]
  exact fun member => (List.mem_append.mp member).elim
    (fun earlier => fresh (List.mem_reverse.mp earlier)) noStart

namespace BapBridge

open TripCall

theorem onStart_not_mem_destinationCalls (car : CarFunctions) (utcMillis : Int)
    (state : RouteGuidance.State) :
    .called .onStart ∉ destinationCalls car utcMillis state := by
  intro member
  simp only [destinationCalls, sendDistanceToDestinationRaw, sendTimeToDestination,
    sendDestinationInfo, List.mem_append, List.mem_ite_nil_right, List.mem_singleton,
    reduceCtorEq, and_false, or_self] at member

/-- An update sends a value that is set under its flags. -/
theorem destinationCalls_sends (car : CarFunctions) (utcMillis : Int)
    {state : RouteGuidance.State} {call : TripCall} (isSet : call.IsSet state.route)
    (dirty : ¬ Disjoint call.flags state.dirtyMask) :
    ∃ since later, destinationCalls car utcMillis state =
        since ++ call.event car state.route :: later ∧
      ∀ other ∈ later, call.isCall other = false := by
  obtain ⟨flag, isFlag, isDirty⟩ := Finset.not_disjoint_iff.mp dirty
  cases call with
  | destinationInfo =>
      obtain rfl : flag = .destination := by simpa [flags] using isFlag
      rw [destinationCalls, if_pos isDirty]
      exact ⟨_, [], rfl, by simp⟩
  | distanceToDestination =>
      obtain rfl : flag = .distDest := by simpa [flags] using isFlag
      rw [destinationCalls, if_pos isDirty, List.append_assoc, List.singleton_append]
      refine ⟨[], _, rfl, ?_⟩
      intro other member
      simp only [List.mem_append, List.mem_ite_nil_right, List.mem_singleton] at member
      rcases member with ⟨-, rfl⟩ | ⟨-, rfl⟩ <;> rfl
  | timeToDestination =>
      have timed : .timeRemaining ∈ state.dirtyMask ∨ .eta ∈ state.dirtyMask := by
        have either : flag = .timeRemaining ∨ flag = .eta := by simpa [flags] using isFlag
        rcases either with rfl | rfl
        · exact .inl isDirty
        · exact .inr isDirty
      have arrival : arrivalSeconds utcMillis state.route = state.route.etaSeconds := if_pos isSet
      rw [destinationCalls, if_pos timed, sendTimeToDestination, arrival, List.append_assoc,
        List.singleton_append]
      refine ⟨_, _, rfl, ?_⟩
      intro other member
      simp only [List.mem_ite_nil_right, List.mem_singleton] at member
      obtain ⟨-, rfl⟩ := member
      rfl

theorem destinationCalls_unrelated (car : CarFunctions) (utcMillis : Int)
    {state : RouteGuidance.State} {call : TripCall} (clean : Disjoint call.flags state.dirtyMask) :
    Unrelated call (destinationCalls car utcMillis state) := by
  refine ⟨onStart_not_mem_destinationCalls car utcMillis state, fun other member => ?_⟩
  have notDirty : ∀ flag ∈ call.flags, flag ∉ state.dirtyMask :=
    fun _ isFlag => Finset.disjoint_left.mp clean isFlag
  simp only [destinationCalls, List.mem_append, List.mem_ite_nil_right,
    List.mem_singleton] at member
  rcases member with (⟨distance, rfl⟩ | ⟨time, rfl⟩) | ⟨destination, rfl⟩
  · cases call with
    | distanceToDestination => exact absurd distance (notDirty .distDest (by decide))
    | _ => rfl
  · cases call with
    | timeToDestination =>
        rcases time with remaining | eta
        · exact absurd remaining (notDirty .timeRemaining (by decide))
        · exact absurd eta (notDirty .eta (by decide))
    | _ => rfl
  · cases call with
    | destinationInfo => exact absurd destination (notDirty .destination (by decide))
    | _ => rfl

end BapBridge

namespace RouteGuidance

theorem owns_destination : Owns {.destination} RouteFields.destination := by
  constructor
  case destination => exact .inl (Finset.mem_singleton_self _)
  case laneGuidance => exact .inr fun _ _ _ _ _ => rfl
  all_goals exact .inr fun _ _ => rfl

theorem owns_distDestM : Owns {.distDest} RouteFields.distDestM := by
  constructor
  case distDestM => exact .inl (Finset.mem_singleton_self _)
  case laneGuidance => exact .inr fun _ _ _ _ _ => rfl
  all_goals exact .inr fun _ _ => rfl

theorem owns_etaSeconds : Owns {.eta} RouteFields.etaSeconds := by
  constructor
  case etaSeconds => exact .inl (Finset.mem_singleton_self _)
  case laneGuidance => exact .inr fun _ _ _ _ _ => rfl
  all_goals exact .inr fun _ _ => rfl

theorem owns_timeRemainingSeconds : Owns {.timeRemaining} RouteFields.timeRemainingSeconds := by
  constructor
  case timeRemainingSeconds => exact .inl (Finset.mem_singleton_self _)
  case laneGuidance => exact .inr fun _ _ _ _ _ => rfl
  all_goals exact .inr fun _ _ => rfl

theorem absorb_trip (payload : List UInt8) (rg : RouteGuidance) :
    (absorb payload rg).state.route.trip = rg.state.route.trip.read (parseText payload) :=
  parse_trip _ _ _

variable {payload : List UInt8} {rg : RouteGuidance} {call : TripCall}

/-- Where its flags are clean, a frame has left the value of a call alone. -/
theorem absorb_unchanged (clean : Disjoint call.flags (absorb payload rg).state.dirtyMask) :
    (call.IsSet (absorb payload rg).state.route ↔ call.IsSet rg.state.route) ∧
      ∀ car, call.event car (absorb payload rg).state.route = call.event car rg.state.route := by
  have notDirty : ∀ flag ∈ call.flags, flag ∉ (absorb payload rg).state.dirtyMask :=
    fun _ isFlag => Finset.disjoint_left.mp clean isFlag
  cases call with
  | destinationInfo =>
      have same := owns_destination.absorb_eq (.inr fun _ _ => rfl)
        (notDirty .destination (by decide))
      simp [TripCall.IsSet, TripCall.event, BapBridge.sendDestinationInfo, same]
  | distanceToDestination =>
      have same := owns_distDestM.absorb_eq (.inr fun _ _ => rfl) (notDirty .distDest (by decide))
      simp [TripCall.IsSet, TripCall.event, same]
  | timeToDestination =>
      have same := owns_etaSeconds.absorb_eq (.inr fun _ _ => rfl) (notDirty .eta (by decide))
      simp [TripCall.IsSet, TripCall.event, same]

/-- A new value leaves a flag. -/
theorem absorb_changed (changes : call.Changes (parseText payload) rg.state.route) :
    ¬ Disjoint call.flags (absorb payload rg).state.dirtyMask := by
  intro clean
  have notDirty : ∀ flag ∈ call.flags, flag ∉ (absorb payload rg).state.dirtyMask :=
    fun _ isFlag => Finset.disjoint_left.mp clean isFlag
  have trip := absorb_trip payload rg
  cases call with
  | destinationInfo =>
      obtain ⟨new, field, differs⟩ := changes
      have same := owns_destination.absorb_eq (.inr fun _ _ => rfl)
        (notDirty .destination (by decide))
      have read := congrArg TripFields.destination trip
      simp only [RouteFields.trip, TripFields.read, Option.mem_def.mp field,
        Option.getD_some] at read
      exact differs (read.symm.trans same)
  | distanceToDestination =>
      obtain ⟨new, field, differs⟩ := changes
      have same := owns_distDestM.absorb_eq (.inr fun _ _ => rfl) (notDirty .distDest (by decide))
      have read := congrArg TripFields.distDestM trip
      simp only [RouteFields.trip, TripFields.read, Option.mem_def.mp field,
        Option.getD_some] at read
      exact differs (read.symm.trans same)
  | timeToDestination =>
      rcases changes with ⟨new, field, differs⟩ | ⟨new, field, differs⟩
      · have same := owns_etaSeconds.absorb_eq (.inr fun _ _ => rfl) (notDirty .eta (by decide))
        have read := congrArg TripFields.etaSeconds trip
        simp only [RouteFields.trip, TripFields.read, Option.mem_def.mp field,
          Option.getD_some] at read
        exact differs (read.symm.trans same)
      · have same := owns_timeRemainingSeconds.absorb_eq (.inr fun _ _ => rfl)
          (notDirty .timeRemaining (by decide))
        have read := congrArg TripFields.timeRemainingSeconds trip
        simp only [RouteFields.trip, TripFields.read, Option.mem_def.mp field,
          Option.getD_some] at read
        exact differs (read.symm.trans same)

/-- The frame starts a session. -/
structure Activates (rg : RouteGuidance) (type : Nat) (payload : List UInt8) : Prop where
  taken : rg.running = true ∧ type = evtRgdUpdate
  inactive : rg.rgActive = false
  noReason : (absorb payload rg).state.route.disconnectReason = none
  delta : hasActivationDelta (absorb payload rg).state = true
  wants : wantActive (absorb payload rg).state = true

instance (rg : RouteGuidance) (type : Nat) (payload : List UInt8) :
    Decidable (Activates rg type payload) :=
  decidable_of_iff
    ((rg.running = true ∧ type = evtRgdUpdate) ∧ rg.rgActive = false ∧
      (absorb payload rg).state.route.disconnectReason = none ∧
      hasActivationDelta (absorb payload rg).state = true ∧
      wantActive (absorb payload rg).state = true)
    ⟨fun ⟨taken, inactive, noReason, delta, wants⟩ => ⟨taken, inactive, noReason, delta, wants⟩,
      fun ⟨taken, inactive, noReason, delta, wants⟩ => ⟨taken, inactive, noReason, delta, wants⟩⟩

end RouteGuidance

end CarplayRgi
