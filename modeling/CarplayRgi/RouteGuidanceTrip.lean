import CarplayRgi.RouteGuidanceFrames

/-!
# The trip fields of the receiver

The destination, the current road, the distances and the times follow their
own records only: neither a route state of zero nor a source without guidance
clears them, and a missing key keeps the old value.
-/

namespace CarplayRgi

namespace Noted

variable {Record Value Field : Type} [DecidableEq Value] {observed : Record → Field}

/-- The step does not touch what is observed of the record. -/
def Keeps (observed : Record → Field) (step : Noted Record → Noted Record) : Prop :=
  ∀ noted, observed (step noted).record = observed noted.record

theorem Keeps.comp {first second : Noted Record → Noted Record} (secondKeeps : Keeps observed second)
    (firstKeeps : Keeps observed first) : Keeps observed fun noted => second (first noted) :=
  fun noted => (secondKeeps _).trans (firstKeeps noted)

theorem keeps_mark {put : Record → Record} {flags : Finset DirtyFlag}
    (frame : ∀ record, observed (put record) = observed record) :
    Keeps observed (mark put flags) :=
  fun noted => frame noted.record

theorem keeps_store {field : Record → Value} {put : Value → Record → Record}
    {flags : Finset DirtyFlag} {value : Option Value}
    (frame : ∀ value record, observed (put value record) = observed record) :
    Keeps observed (store field put flags value) := by
  intro noted
  unfold store
  cases value with
  | none => rfl
  | some value =>
      dsimp only
      split_ifs
      · rfl
      · exact frame value noted.record

end Noted

namespace RouteGuidance

open Noted

structure TripFields where
  distDestM : Int
  distManeuverM : Int
  etaSeconds : Int
  timeRemainingSeconds : Int
  currentRoad : Option (List Char)
  destination : Option (List Char)
  deriving DecidableEq

namespace RouteFields

def trip (route : RouteFields) : TripFields where
  distDestM := route.distDestM
  distManeuverM := route.distManeuverM
  etaSeconds := route.etaSeconds
  timeRemainingSeconds := route.timeRemainingSeconds
  currentRoad := route.currentRoad
  destination := route.destination

end RouteFields

/-- The trip fields after a frame. -/
def TripFields.read (data : BusData) (trip : TripFields) : TripFields where
  distDestM := (data.numField (.route .distDestM) (-1)).getD trip.distDestM
  distManeuverM := (data.numField (.route .distManeuverM) (-1)).getD trip.distManeuverM
  etaSeconds := (data.numField (.route .etaSeconds) (-1)).getD trip.etaSeconds
  timeRemainingSeconds :=
    (data.num64Field (.route .timeRemainingSeconds) (-1)).getD trip.timeRemainingSeconds
  currentRoad := (data.strField (.route .currentRoad)).getD trip.currentRoad
  destination := (data.strField (.route .destination)).getD trip.destination

theorem noRoute_trip : Keeps RouteFields.trip noRoute := by
  unfold noRoute
  refine (keeps_mark ?_).comp ((keeps_mark ?_).comp ((keeps_store ?_).comp (keeps_store ?_)))
  · exact fun _ => rfl
  · exact fun _ => rfl
  · exact fun _ _ => rfl
  · exact fun _ _ => rfl

theorem parseDisconnectReason_trip (data : BusData) :
    Keeps RouteFields.trip (parseDisconnectReason data) := by
  intro noted
  unfold parseDisconnectReason
  split_ifs
  · refine keeps_store ?_ noted
    exact fun _ _ => rfl
  · rfl
  · rfl

theorem parseRouteState_trip (data : BusData) :
    Keeps RouteFields.trip (parseRouteState data) := by
  intro noted
  unfold parseRouteState
  split
  · rfl
  · split
    · exact noRoute_trip noted
    · refine keeps_store ?_ noted
      exact fun _ _ => rfl

theorem parseManeuverState_trip (data : BusData) :
    Keeps RouteFields.trip (parseManeuverState data) := by
  unfold parseManeuverState
  refine keeps_store ?_
  exact fun _ _ => rfl

theorem parseManeuverCount_trip (data : BusData) :
    Keeps RouteFields.trip (parseManeuverCount data) := by
  intro noted
  unfold parseManeuverCount
  split
  · rfl
  · dsimp only
    split_ifs <;> rfl

theorem parseSourceSupportsRg_trip (data : BusData) (state : State) :
    (parseSourceSupportsRg data state).route.trip = state.route.trip := by
  unfold parseSourceSupportsRg
  split
  · rfl
  · dsimp only
    split_ifs
    · rfl
    · exact noRoute_trip _
    · rfl

theorem parseRouteRecords_trip (data : BusData) (noted : Noted RouteFields) :
    (parseRouteRecords data noted).record.trip = noted.record.trip.read data := by
  simp [parseRouteRecords, store_record, RouteFields.trip, TripFields.read]

theorem State.onRoute_route (update : Noted RouteFields → Noted RouteFields) (state : State) :
    (state.onRoute update).route = (update ⟨state.route, state.dirtyMask⟩).record := rfl

@[simp]
theorem State.onLane_route (slot : Slot) (update : Noted LaneFields → Noted LaneFields)
    (state : State) : (state.onLane slot update).route = state.route := rfl

@[simp]
theorem State.onManeuver_route (slot : Slot)
    (update : Noted ManeuverFields → Noted ManeuverFields) (state : State) :
    (state.onManeuver slot update).route = state.route := rfl

theorem foldl_route {step : State → Slot → State}
    (keeps : ∀ state slot, (step state slot).route = state.route) (slots : List Slot)
    (state : State) : (slots.foldl step state).route = state.route := by
  induction slots generalizing state with
  | nil => rfl
  | cons slot slots ih => exact (ih _).trans (keeps state slot)

theorem parseLanes_route (data : BusData) (state : State) :
    (parseLanes data state).route = state.route := by
  unfold parseLanes
  refine foldl_route ?_ _ state
  exact fun _ _ => rfl

theorem parseManeuvers_route (data : BusData) (hasRouteUpdate : Bool) (state : State) :
    (parseManeuvers data hasRouteUpdate state).route = state.route := by
  unfold parseManeuvers
  refine foldl_route (fun state slot => ?_) _ state
  dsimp only [parseGatedManeuver]
  split_ifs <;> rfl

theorem parse_trip (data : BusData) (hasRouteUpdate : Bool) (state : State) :
    (parse data hasRouteUpdate state).1.route.trip = state.route.trip.read data := by
  rw [parse_eq_parseRest, parseRest, parseManeuvers_route, parseLanes_route, State.onRoute_route,
    parseRouteRecords_trip, State.onRoute_route, parseManeuverCount_trip, State.onRoute_route,
    parseManeuverState_trip, State.onRoute_route, parseRouteState_trip,
    parseSourceSupportsRg_trip, State.onRoute_route, parseDisconnectReason_trip]
  rfl

end RouteGuidance

end CarplayRgi
