import CarplayRgi.BusData
import CarplayRgi.GuidanceKeys
import Mathlib.Data.Finset.Basic

/-!
# The guidance state of the receiver

`RouteGuidance.State` is updated by one record at a time.  A missing key keeps
the old value, and a value that differs from the old one is stored and leaves
a dirty flag.
-/

namespace CarplayRgi

inductive DirtyFlag where
  | routeState | maneuverState | maneuverCount | maneuverList | distDest | distMan | eta
  | timeRemaining | currentRoad | destination | disconnect | maneuverIcon | maneuverText
  | visibleInApp | sourceSupportsRg | laneGuidance
  deriving DecidableEq

namespace BusData

variable (data : BusData) (key : RgdKey)

/-- `num` of a key that is there. -/
def numField (default : Int) : Option Int :=
  if data.has key.text then some (data.num key.text default) else none

def num64Field (default : Int) : Option Int :=
  if data.has key.text then some (data.num64 key.text default) else none

def strField : Option (Option (List Char)) :=
  if data.has key.text then some (data.str key.text) else none

def intListField : Option (Option (List Int)) :=
  if data.has key.text then some (data.intList key.text) else none

def laneAnglesField : Option (Option (List (Option (List Int)))) :=
  if data.has key.text then some ((data.str key.text).bind parseLaneAnglesMatrix) else none

theorem numField_eq_map (default : Int) :
    data.numField key default =
      (data.str key.text).map fun value => (parseInt value).getD default := by
  unfold numField num
  cases found : data.str key.text with
  | none =>
      have absent : ¬ data.has key.text = true := by simp [has_iff, found]
      rw [if_neg absent]
      rfl
  | some value =>
      have present : data.has key.text = true := by simp [has_iff, found]
      rw [if_pos present]
      rfl

/-- A number of a frame fits into an `int`. -/
theorem numField_fits {default number : Int} (defaultFits : DecimalText.Fits 32 default)
    (read : data.numField key default = some number) : DecimalText.Fits 32 number := by
  rw [numField_eq_map, Option.map_eq_some_iff] at read
  obtain ⟨value, -, rfl⟩ := read
  cases parsed : parseInt value with
  | none => exact defaultFits
  | some parsedNumber => exact DecimalText.parseSigned_fits parsed

end BusData

/-- A record with the dirty flags that have been set so far. -/
structure Noted (Record : Type) where
  record : Record
  dirty : Finset DirtyFlag

namespace Noted

variable {Record Value : Type} [DecidableEq Value]

/-- Store a value that differs from the field, and set the flags. -/
def store (field : Record → Value) (put : Value → Record → Record) (flags : Finset DirtyFlag)
    (value : Option Value) (noted : Noted Record) : Noted Record :=
  match value with
  | none => noted
  | some value =>
      if value = field noted.record then noted
      else ⟨put value noted.record, noted.dirty ∪ flags⟩

/-- Change the record whatever it held, and set the flags. -/
def mark (put : Record → Record) (flags : Finset DirtyFlag) (noted : Noted Record) :
    Noted Record :=
  ⟨put noted.record, noted.dirty ∪ flags⟩

/-- The flags guard the field: where none of them is set after a step, none
was set before, and the field is as before. -/
def Guards {Field : Type} (own : Finset DirtyFlag) (field : Record → Field)
    (step : Noted Record → Noted Record) : Prop :=
  ∀ noted, Disjoint own (step noted).dirty →
    Disjoint own noted.dirty ∧ field (step noted).record = field noted.record

variable {Field : Type} {own : Finset DirtyFlag} {guarded : Record → Field}

theorem Guards.id : Guards own guarded id := fun _ clean => ⟨clean, rfl⟩

theorem Guards.comp {first second : Noted Record → Noted Record}
    (secondGuards : Guards own guarded second) (firstGuards : Guards own guarded first) :
    Guards own guarded fun noted => second (first noted) := by
  intro noted clean
  obtain ⟨cleanBetween, sameLater⟩ := secondGuards _ clean
  obtain ⟨cleanBefore, sameFirst⟩ := firstGuards noted cleanBetween
  exact ⟨cleanBefore, sameLater.trans sameFirst⟩

theorem guards_marks {put : Record → Record} {flags : Finset DirtyFlag} (flag : DirtyFlag)
    (isFlag : flag ∈ flags)
    (owned : flag ∈ own ∨ ∀ record, guarded (put record) = guarded record) :
    Guards own guarded (mark put flags) := by
  intro noted clean
  obtain ⟨cleanBefore, cleanFlags⟩ := Finset.disjoint_union_right.mp clean
  rcases owned with isOwn | frame
  · exact absurd isFlag (Finset.disjoint_left.mp cleanFlags isOwn)
  · exact ⟨cleanBefore, frame _⟩

theorem guards_mark {put : Record → Record} {flag : DirtyFlag}
    (owned : flag ∈ own ∨ ∀ record, guarded (put record) = guarded record) :
    Guards own guarded (mark put {flag}) :=
  guards_marks flag (Finset.mem_singleton_self flag) owned

theorem guards_stores {field : Record → Value} {put : Value → Record → Record}
    {flags : Finset DirtyFlag} {value : Option Value} (flag : DirtyFlag) (isFlag : flag ∈ flags)
    (owned : flag ∈ own ∨ ∀ value record, guarded (put value record) = guarded record) :
    Guards own guarded (store field put flags value) := by
  intro noted clean
  unfold store at clean ⊢
  cases value with
  | none => exact ⟨clean, rfl⟩
  | some value =>
      dsimp only at clean ⊢
      split_ifs at clean ⊢ with same
      · exact ⟨clean, rfl⟩
      · exact guards_marks flag isFlag (owned.imp_right fun frame => frame value) noted clean

theorem guards_store {field : Record → Value} {put : Value → Record → Record} {flag : DirtyFlag}
    {value : Option Value}
    (owned : flag ∈ own ∨ ∀ value record, guarded (put value record) = guarded record) :
    Guards own guarded (store field put {flag} value) :=
  guards_stores flag (Finset.mem_singleton_self flag) owned

/-- Storing into one field of a record puts the value there if there is one. -/
theorem store_record {field : Record → Value} {put : Value → Record → Record}
    (lens : ∀ record, put (field record) record = record) (flags : Finset DirtyFlag)
    (value : Option Value) (noted : Noted Record) :
    (store field put flags value noted).record =
      put (value.getD (field noted.record)) noted.record := by
  unfold store
  cases value with
  | none => exact (lens _).symm
  | some value =>
      dsimp only
      split_ifs with same
      · subst same
        exact (lens _).symm
      · rfl

end Noted

namespace RouteGuidance

/-- The fields of a route. -/
structure RouteFields where
  routeState : Int := -1
  maneuverState : Int := -1
  maneuverCount : Int := 0
  maneuverOrder : Option (List Int) := none
  visibleInApp : Int := -1
  sourceSupportsRg : Int := -1
  laneGuidanceShowing : Int := -1
  laneGuidanceTotal : Int := -1
  laneGuidanceIndex : Int := -1
  laneGuidanceSlot : Int := -1
  distDestM : Int := -1
  distManeuverM : Int := -1
  etaSeconds : Int := -1
  timeRemainingSeconds : Int := -1
  currentRoad : Option (List Char) := none
  destination : Option (List Char) := none
  disconnectReason : Option (List Char) := none
  deriving DecidableEq

/-- The fields of a maneuver slot: one place of each `m` array. -/
structure ManeuverFields where
  type : Int := -1
  turnAngle : Int := -1
  zLevel : Int := -1
  junctionType : Int := -1
  drivingSide : Int := -1
  distance : Int := -1
  name : Option (List Char) := none
  afterRoad : Option (List Char) := none
  exitInfo : Option (List Char) := none
  junctionAngles : Option (List Int) := none
  exitAngle : Int := 1000
  linkedLaneGuidanceIndex : Int := -1
  linkedLaneGuidanceSlot : Int := -1
  ver : Int := -1
  lanePositions : Option (List Int) := none
  laneCount : Int := -1
  laneDirections : Option (List Int) := none
  laneStatus : Option (List Int) := none
  laneAngles : Option (List (Option (List Int))) := none
  deriving DecidableEq

/-- The fields of a lane-guidance slot: one place of each `lg` array. -/
structure LaneFields where
  index : Int := -1
  lanePositions : Option (List Int) := none
  laneCount : Int := -1
  laneDirections : Option (List Int) := none
  laneStatus : Option (List Int) := none
  laneAngles : Option (List (Option (List Int))) := none
  deriving DecidableEq

structure State where
  route : RouteFields
  maneuver : Slot → ManeuverFields
  lane : Slot → LaneFields
  dirtyMask : Finset DirtyFlag

namespace State

/-- `reset`. -/
def initial : State := ⟨{}, fun _ => {}, fun _ => {}, ∅⟩

def clearAllManeuverSlots (state : State) : State :=
  { state with maneuver := fun _ => {}, lane := fun _ => {} }

def clearDirty (state : State) : State := { state with dirtyMask := ∅ }

def onRoute (update : Noted RouteFields → Noted RouteFields) (state : State) : State :=
  let noted := update ⟨state.route, state.dirtyMask⟩
  { state with route := noted.record, dirtyMask := noted.dirty }

def onManeuver (slot : Slot) (update : Noted ManeuverFields → Noted ManeuverFields)
    (state : State) : State :=
  let noted := update ⟨state.maneuver slot, state.dirtyMask⟩
  { state with
    maneuver := Function.update state.maneuver slot noted.record, dirtyMask := noted.dirty }

def onLane (slot : Slot) (update : Noted LaneFields → Noted LaneFields) (state : State) : State :=
  let noted := update ⟨state.lane slot, state.dirtyMask⟩
  { state with lane := Function.update state.lane slot noted.record, dirtyMask := noted.dirty }

end State

end RouteGuidance

end CarplayRgi
