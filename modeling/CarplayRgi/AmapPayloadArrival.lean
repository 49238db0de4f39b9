import CarplayRgi.AmapPayloadSlots

/-!
# When the slots of a snapshot arrive

The receiver shows what the snapshot holds for a listed maneuver exactly where
every field of the slot is carried unchanged, or is not carried and was in the
slot before.  A negative angle is not carried, nor is what lies past the first
512 lines.
-/

namespace CarplayRgi

open DecimalText RouteGuidance Utf8Text

namespace AmapSnapshot

/-- A slot as it is to be read.  A snapshot has 1000 for an unknown turn angle. -/
def wanted (unknownAngle : Int) (man : ManeuverFields) : ManeuverFields :=
  { man with turnAngle := if man.turnAngle = 1000 then unknownAngle else man.turnAngle }

/-- The text has no control characters that a line cannot carry. -/
def OneLine (text : Option (List Char)) : Prop :=
  ∀ chars, text = some chars → '\n' ∉ chars ∧ '\r' ∉ chars

/-- Every row has a list, and the rows are not one row without angles. -/
def RowsListed (matrix : Option (List (Option (List Int)))) : Prop :=
  ∀ rows, matrix = some rows → rows ≠ [some []] ∧ none ∉ rows

/-- Every field is carried unchanged, or is not carried and was in the slot. -/
@[mk_iff]
structure SlotArrives (carried : ManeuverKey → Bool) (unknownAngle : Int)
    (kept man : ManeuverFields) : Prop where
  type : carried .type = true ∨ kept.type = man.type
  turnAngle :
    (if carried .turnAngle = true then man.turnAngle else kept.turnAngle) =
      if man.turnAngle = 1000 then unknownAngle else man.turnAngle
  zLevel : carried .zLevel = true ∨ kept.zLevel = man.zLevel
  junctionType : carried .junctionType = true ∨ kept.junctionType = man.junctionType
  drivingSide : carried .drivingSide = true ∨ kept.drivingSide = man.drivingSide
  distance : carried .distance = true ∨ kept.distance = man.distance
  name : if carried .name = true then OneLine man.name else kept.name = man.name
  afterRoad :
    if carried .afterRoad = true then OneLine man.afterRoad else kept.afterRoad = man.afterRoad
  exitInfo :
    if carried .exitInfo = true then OneLine man.exitInfo else kept.exitInfo = man.exitInfo
  junctionAngles : carried .junctionAngles = true ∨ kept.junctionAngles = man.junctionAngles
  exitAngle :
    carried .exitAngle = true ∨
      (if carried .turnAngle = true ∧ man.turnAngle ≠ kept.turnAngle then man.turnAngle
        else kept.exitAngle) = man.exitAngle
  linkedLaneGuidanceIndex :
    carried .linkedLaneGuidanceIndex = true ∨
      kept.linkedLaneGuidanceIndex = man.linkedLaneGuidanceIndex
  linkedLaneGuidanceSlot :
    carried .linkedLaneGuidanceSlot = true ∨
      kept.linkedLaneGuidanceSlot = man.linkedLaneGuidanceSlot
  ver : carried .ver = true ∨ kept.ver = man.ver
  lanePositions : carried .lanePositions = true ∨ kept.lanePositions = man.lanePositions
  laneCount : carried .laneCount = true ∨ kept.laneCount = man.laneCount
  laneDirections : carried .laneDirections = true ∨ kept.laneDirections = man.laneDirections
  laneStatus : carried .laneStatus = true ∨ kept.laneStatus = man.laneStatus
  laneAngles :
    if carried .laneAngles = true then RowsListed man.laneAngles
    else kept.laneAngles = man.laneAngles

theorem carried_or_iff {Value : Type*} (carried : Bool) (kept value : Value) :
    (if carried = true then value else kept) = value ↔ carried = true ∨ kept = value := by
  cases carried with
  | false => simp
  | true => simp

theorem map_eq_self {Item : Type*} {change : Item → Item} {items : List Item} :
    items.map change = items ↔ ∀ item ∈ items, change item = item := by
  simpa using List.map_inj_left (g := id)

theorem map_clean_eq_iff (text : Option (List Char)) : text.map clean = text ↔ OneLine text := by
  cases text with
  | none => simp [OneLine]
  | some chars =>
      rw [Option.map_some, Option.some_inj, clean, map_eq_self]
      constructor
      · intro fixed other isText
        cases isText
        constructor
        · intro newline
          exact absurd (fixed _ newline) (by decide)
        · intro carriageReturn
          exact absurd (fixed _ carriageReturn) (by decide)
      · intro oneLine char member
        rw [if_neg]
        rintro (rfl | rfl)
        · exact (oneLine chars rfl).1 member
        · exact (oneLine chars rfl).2 member

theorem map_csv_eq_blank_iff {rows : List (Option (List Int))} (listed : none ∉ rows) :
    rows.map csv = [[]] ↔ rows = [some []] := by
  constructor
  · intro blank
    obtain ⟨row, rfl, isBlank⟩ := List.map_eq_singleton_iff.mp blank
    cases row with
    | none => exact absurd List.mem_cons_self listed
    | some numbers => exact congrArg (fun list => [some list]) (commaList_eq_nil.mp isBlank)
  · rintro rfl
    rfl

theorem sentAngles_eq_iff (rows : List (Option (List Int))) :
    sentAngles rows = some rows ↔ rows ≠ [some []] ∧ none ∉ rows := by
  have same : (rows.map fun row => some (row.getD [])) = rows ↔ none ∉ rows := by
    rw [map_eq_self]
    constructor
    · intro fixed member
      cases fixed none member
    · intro listed row member
      cases row with
      | none => exact absurd member listed
      | some numbers => rfl
  unfold sentAngles
  split_ifs with blank
  · constructor
    · intro missing
      cases missing
    · rintro ⟨notBlank, listed⟩
      exact absurd ((map_csv_eq_blank_iff listed).mp blank) notBlank
  · rw [Option.some_inj, same]
    constructor
    · intro listed
      exact ⟨fun isBlank => blank ((map_csv_eq_blank_iff listed).mpr isBlank), listed⟩
    · exact And.right

theorem bind_sentAngles_eq_iff (matrix : Option (List (Option (List Int)))) :
    matrix.bind sentAngles = matrix ↔ RowsListed matrix := by
  cases matrix with
  | none => simp [RowsListed]
  | some rows =>
      refine (sentAngles_eq_iff rows).trans ⟨fun listed other isMatrix => ?_, fun listed => ?_⟩
      · cases isMatrix
        exact listed
      · exact listed rows rfl

theorem ite_eq_iff_ite {Value : Type*} {carried : Bool} {sent kept value : Value} {Sent : Prop}
    (isSent : sent = value ↔ Sent) :
    (if carried = true then sent else kept) = value ↔
      if carried = true then Sent else kept = value := by
  split_ifs
  · exact isSent
  · exact Iff.rfl

theorem turned_exitAngle (carried : Bool) (sent kept exitAngle : Int) :
    (if (if carried = true then sent else kept) = kept then exitAngle
      else if carried = true then sent else kept) =
        if carried = true ∧ sent ≠ kept then sent else exitAngle := by
  cases carried with
  | false => simp
  | true =>
      by_cases same : sent = kept
      · simp [same]
      · simp [same]

theorem arrived_eq_iff (carried : ManeuverKey → Bool) (unknownAngle : Int)
    (kept man : ManeuverFields) :
    arrived carried kept man = wanted unknownAngle man ↔
      SlotArrives carried unknownAngle kept man := by
  unfold arrived wanted
  dsimp only
  rw [ManeuverFields.mk.injEq, slotArrives_iff]
  simp only [carried_or_iff, ite_eq_iff_ite (map_clean_eq_iff _),
    ite_eq_iff_ite (bind_sentAngles_eq_iff _), turned_exitAngle]

/-- The slots that the maneuver list of a snapshot names. -/
def Listed (fields : AmapFields) (slot : Slot) : Prop :=
  (slot.val : Int) ∈ fields.maneuverList.getD []

instance (fields : AmapFields) (slot : Slot) : Decidable (Listed fields slot) :=
  inferInstanceAs (Decidable (_ ∈ _))

/-- What a payload finds in a slot: a source that ceases to support guidance
clears the slots of a route. -/
def keptIn (fields : AmapFields) (state : State) (slot : Slot) : ManeuverFields :=
  if fields.sourceSupportsRg = 0 ∧ state.route.sourceSupportsRg ≠ 0 ∧ state.route.routeState ≠ 0
  then {} else state.maneuver slot

/-- Whether a payload leaves every listed slot as the snapshot has it. -/
def ListedSlotsArrive (snapshot : AmapSnapshot) (unknownAngle : Int) (state : State) : Prop :=
  ∀ slot, Listed snapshot.toAmapFields slot →
    SlotArrives (fun key => carries snapshot.toAmapFields (.maneuver slot key)) unknownAngle
      (keptIn snapshot.toAmapFields state slot) (snapshot.maneuver slot)

theorem supports_toPayload (snapshot : AmapSnapshot) :
    (parseText snapshot.toPayload).numField (.route .sourceSupportsRg) (-1) =
      if carries snapshot.toAmapFields (.route .sourceSupportsRg) then
        some ((parseInt (decimal snapshot.sourceSupportsRg)).getD (-1))
      else none := by
  rw [BusData.numField_eq_map, str_toPayload fun _ member isKey => value_of_routeKey member isKey]
  split_ifs
  · rfl
  · rfl

theorem foundIn_toPayload (snapshot : AmapSnapshot) (state : State) (slot : Slot) :
    foundIn (parseText snapshot.toPayload) state slot =
      keptIn snapshot.toAmapFields state slot := by
  have clears : clearsSlots (parseText snapshot.toPayload) state = true ↔
      snapshot.sourceSupportsRg = 0 ∧ state.route.sourceSupportsRg ≠ 0 ∧
        state.route.routeState ≠ 0 := by
    unfold clearsSlots
    rw [supports_toPayload]
    by_cases carried : carries snapshot.toAmapFields (.route .sourceSupportsRg) = true
    · rw [if_pos carried, Option.any_some, decide_eq_true_eq, parseInt_decimal_eq_zero_iff]
      constructor
      · rintro ⟨differs, isZero, onRoute⟩
        rw [(parseInt_decimal_eq_zero_iff _).mpr isZero] at differs
        exact ⟨isZero, differs.symm, onRoute⟩
      · rintro ⟨isZero, differs, onRoute⟩
        rw [(parseInt_decimal_eq_zero_iff _).mpr isZero]
        exact ⟨differs.symm, isZero, onRoute⟩
    · rw [if_neg carried]
      constructor
      · intro impossible
        cases impossible
      · rintro ⟨isZero, -, -⟩
        exact absurd (carries_supports isZero.ge) carried
  unfold foundIn keptIn
  exact if_congr clears rfl rfl

theorem maneuverListField_toPayload {snapshot : AmapSnapshot}
    (listed : snapshot.maneuverList.getD [] ≠ []) :
    ∃ list, maneuverListField (parseText snapshot.toPayload) = some (some list) ∧ list ≠ [] := by
  have text : (parseText snapshot.toPayload).str (RgdKey.route .maneuverList).text =
      some (csv snapshot.maneuverList) := by
    rw [str_toPayload fun _ member isKey => value_of_routeKey member isKey,
      if_pos (carries_maneuverList _)]
    rfl
  have nonempty : csv snapshot.maneuverList ≠ [] := commaList_ne_nil listed
  refine ⟨((csv snapshot.maneuverList).splitOn ',').map fun part => (parseInt part).getD 0, ?_, ?_⟩
  · unfold maneuverListField BusData.intList
    rw [has_toPayload, if_pos (carries_maneuverList _), text]
    obtain ⟨first, rest, isText⟩ := List.exists_cons_of_ne_nil nonempty
    rw [isText]
    rfl
  · intro none
    exact List.splitOn_ne_nil _ _ (List.map_eq_nil_iff.mp none)

theorem isRouteUpdateDelta_toPayload (snapshot : AmapSnapshot) :
    isRouteUpdateDelta (parseText snapshot.toPayload) = true := by
  refine List.any_eq_true.mpr ⟨.maneuverList, by decide, ?_⟩
  exact (has_toPayload snapshot (.route .maneuverList)).trans (carries_maneuverList _)

theorem takesSlot_toPayload {snapshot : AmapSnapshot} {slot : Slot}
    (listed : Listed snapshot.toAmapFields slot) (hasRouteUpdate : Bool) (state : State) :
    takesSlot (parseText snapshot.toPayload)
      (hasRouteUpdate || isRouteUpdateDelta (parseText snapshot.toPayload))
      (parse (parseText snapshot.toPayload) hasRouteUpdate state).1.route slot = true := by
  obtain ⟨list, isList, nonempty⟩ :=
    maneuverListField_toPayload (List.ne_nil_of_mem listed)
  exact takesSlot_of_list isList nonempty (isRouteUpdateDelta_toPayload snapshot) _ _ slot

/-- A listed slot after a payload. -/
theorem parse_toPayload {snapshot : AmapSnapshot} (built : snapshot.Built) {slot : Slot}
    (listed : Listed snapshot.toAmapFields slot) (hasRouteUpdate : Bool) (state : State) :
    (parse (parseText snapshot.toPayload) hasRouteUpdate state).1.maneuver slot =
      arrived (fun key => carries snapshot.toAmapFields (.maneuver slot key))
        (keptIn snapshot.toAmapFields state slot) (snapshot.maneuver slot) := by
  rw [parse_maneuver, if_pos (takesSlot_toPayload listed hasRouteUpdate state),
    foundIn_toPayload, read_toPayload (built.typed slot)]

theorem parse_turnAngle {snapshot : AmapSnapshot} (built : snapshot.Built) {slot : Slot}
    (listed : Listed snapshot.toAmapFields slot) (hasRouteUpdate : Bool) (state : State) :
    ((parse (parseText snapshot.toPayload) hasRouteUpdate state).1.maneuver slot).turnAngle =
      if carries snapshot.toAmapFields (.maneuver slot .turnAngle) = true then
        (snapshot.maneuver slot).turnAngle
      else (keptIn snapshot.toAmapFields state slot).turnAngle := by
  rw [parse_toPayload built listed, arrived]

/-- A negative angle is not carried, so that the slot keeps what it had. -/
theorem not_carries_turnAngle {fields : AmapFields} {slot : Slot}
    (negative : (fields.maneuver slot).turnAngle < 0) :
    carries fields (.maneuver slot .turnAngle) = false := by
  rw [Bool.eq_false_iff]
  intro carried
  have written := of_decide_eq_true (present_of_carries carried)
  omega

/-- Every listed slot holds what the snapshot has for it, if and only if every field
of it is carried unchanged, or is not carried and was in the slot. -/
theorem listed_slots_arrive_iff {snapshot : AmapSnapshot} (built : snapshot.Built)
    (unknownAngle : Int) (hasRouteUpdate : Bool) (state : State) :
    (∀ slot, Listed snapshot.toAmapFields slot →
      (parse (parseText snapshot.toPayload) hasRouteUpdate state).1.maneuver slot =
        wanted unknownAngle (snapshot.maneuver slot)) ↔
      snapshot.ListedSlotsArrive unknownAngle state := by
  refine forall₂_congr fun slot listed => ?_
  rw [parse_toPayload built listed, arrived_eq_iff]

def turnFrame (angle : Int) : BusData where
  records :=
    [("maneuver_list".toList, "0".toList), ("m0_type".toList, "1".toList),
      ("m0_ver".toList, "3".toList), ("m0_name".toList, "Main".toList),
      ("m0_turn_angle".toList, decimal angle)]
  bounded := (by decide : 5 ≤ dataMax)

def turnSnapshot (angle : Int) : AmapSnapshot := fromRaw (({} : AmapRaw).observe (turnFrame angle))

theorem turnSnapshot_built (angle : Int) : (turnSnapshot angle).Built :=
  .fromRaw (.observe (turnFrame angle) .reset) rfl

def turnFields : ManeuverFields :=
  { type := 1, ver := 3, turnAngle := 90, exitAngle := 90, name := some "Main".toList }

theorem turnSnapshot_slots :
    (∀ slot, Listed (turnSnapshot 90).toAmapFields slot → slot = 0) ∧
      (turnSnapshot 90).maneuver 0 = turnFields ∧
      keptIn (turnSnapshot 90).toAmapFields State.initial 0 = {} ∧
      ∀ key ∈ [ManeuverKey.type, .ver, .turnAngle, .exitAngle, .name],
        carries (turnSnapshot 90).toAmapFields (.maneuver 0 key) = true := by
  decide +kernel

/-- Into an empty slot, it is enough that what there is is carried. -/
theorem slotArrives_turnFields {carried : ManeuverKey → Bool}
    (all : ∀ key ∈ [ManeuverKey.type, .ver, .turnAngle, .exitAngle, .name],
      carried key = true) : SlotArrives carried 1000 {} turnFields := by
  constructor
  case type => exact .inl (all .type (by decide))
  case ver => exact .inl (all .ver (by decide))
  case turnAngle => exact if_pos (all .turnAngle (by decide))
  case exitAngle => exact .inl (all .exitAngle (by decide))
  case name =>
    rw [if_pos (all .name (by decide))]
    intro chars isName
    cases isName
    decide
  case laneAngles =>
    split_ifs
    · intro rows isMatrix
      cases isMatrix
    · rfl
  case afterRoad | exitInfo =>
    split_ifs
    · intro chars isText
      cases isText
    · rfl
  all_goals exact .inr rfl

theorem turn_arrives : Listed (turnSnapshot 90).toAmapFields 0 ∧
    (parse (parseText (turnSnapshot 90).toPayload) false State.initial).1.maneuver 0 =
      wanted 1000 ((turnSnapshot 90).maneuver 0) := by
  obtain ⟨only, isMan, isKept, carried⟩ := turnSnapshot_slots
  have isListed : Listed (turnSnapshot 90).toAmapFields 0 := by decide +kernel
  refine ⟨isListed, (listed_slots_arrive_iff (turnSnapshot_built 90) 1000 false State.initial).mpr
    (fun slot listed => ?_) 0 isListed⟩
  cases only slot listed
  rw [isMan, isKept]
  exact slotArrives_turnFields carried

/-- A negative angle is not written: after a turn to the right, a turn to the left
leaves the angle of the first. -/
theorem left_turn_keeps_right_angle :
    (turnSnapshot (-90)).Built ∧ Listed (turnSnapshot (-90)).toAmapFields 0 ∧
      ((turnSnapshot (-90)).maneuver 0).turnAngle = -90 ∧
      ((parse (parseText (turnSnapshot (-90)).toPayload) true
        (parse (parseText (turnSnapshot 90).toPayload) false State.initial).1).1.maneuver
          0).turnAngle = 90 := by
  obtain ⟨listed, angle, noSource⟩ : Listed (turnSnapshot (-90)).toAmapFields 0 ∧
      ((turnSnapshot (-90)).maneuver 0).turnAngle = -90 ∧
        (turnSnapshot (-90)).sourceSupportsRg ≠ 0 := by
    decide +kernel
  obtain ⟨rightListed, rightAngle, written⟩ : Listed (turnSnapshot 90).toAmapFields 0 ∧
      ((turnSnapshot 90).maneuver 0).turnAngle = 90 ∧
        carries (turnSnapshot 90).toAmapFields (.maneuver 0 .turnAngle) = true := by
    decide +kernel
  have dropped : carries (turnSnapshot (-90)).toAmapFields (.maneuver 0 .turnAngle) = false :=
    not_carries_turnAngle (by rw [angle]; decide)
  refine ⟨turnSnapshot_built (-90), listed, angle, ?_⟩
  rw [parse_turnAngle (turnSnapshot_built (-90)) listed, dropped, if_neg Bool.false_ne_true,
    keptIn, if_neg fun clears => noSource clears.1,
    parse_turnAngle (turnSnapshot_built 90) rightListed, written, if_pos rfl, rightAngle]

end AmapSnapshot

end CarplayRgi
