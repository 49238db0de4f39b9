import CarplayRgi.AmapPayload
import CarplayRgi.AmapV38Compat
import CarplayRgi.RouteGuidanceSlots

/-!
# Maneuver slots through a payload

The slots of a snapshot come back as they are where every field of them is
carried unchanged, or is not carried and has been in the slot before.
-/

namespace CarplayRgi

open DecimalText RouteGuidance Utf8Text

/-- The list is none that is printed as an empty text, and of ints. -/
def ListTyped (list : Option (List Int)) : Prop :=
  ∀ numbers, list = some numbers → numbers ≠ [] ∧ ∀ number ∈ numbers, Fits 32 number

def MatrixTyped (matrix : Option (List (Option (List Int)))) : Prop :=
  ∀ rows, matrix = some rows → rows ≠ [] ∧
    ∀ row ∈ rows, ∀ numbers, row = some numbers → ∀ number ∈ numbers, Fits 32 number

/-- The numbers of a slot are ints. -/
structure ManeuverTyped (man : ManeuverFields) : Prop where
  type : Fits 32 man.type
  turnAngle : Fits 32 man.turnAngle
  zLevel : Fits 32 man.zLevel
  junctionType : Fits 32 man.junctionType
  drivingSide : Fits 32 man.drivingSide
  distance : Fits 32 man.distance
  junctionAngles : ListTyped man.junctionAngles
  exitAngle : Fits 32 man.exitAngle
  linkedLaneGuidanceIndex : Fits 32 man.linkedLaneGuidanceIndex
  linkedLaneGuidanceSlot : Fits 32 man.linkedLaneGuidanceSlot
  ver : Fits 32 man.ver
  lanePositions : ListTyped man.lanePositions
  laneCount : Fits 32 man.laneCount
  laneDirections : ListTyped man.laneDirections
  laneStatus : ListTyped man.laneStatus
  laneAngles : MatrixTyped man.laneAngles

theorem listTyped_none : ListTyped none := fun _ none => by cases none

theorem matrixTyped_none : MatrixTyped none := fun _ none => by cases none

theorem maneuverTyped_unset : ManeuverTyped { turnAngle := 1000 } := by
  constructor
  all_goals
    first
    | exact listTyped_none
    | exact matrixTyped_none
    | decide

theorem listTyped_intListOf (text : List Char) : ListTyped (intListOf text) := by
  intro numbers isList
  unfold intListOf at isList
  split_ifs at isList with empty
  cases isList
  constructor
  · intro none
    exact List.splitOn_ne_nil _ _ (List.map_eq_nil_iff.mp none)
  · intro number member
    obtain ⟨part, -, rfl⟩ := List.mem_map.mp member
    cases parsed : parseInt part with
    | none => decide
    | some value => exact parseSigned_fits parsed

theorem mapM_parseInt_fits {parts : List (List Char)} {numbers : List Int}
    (parsed : parts.mapM parseInt = some numbers) : ∀ number ∈ numbers, Fits 32 number := by
  induction parts generalizing numbers with
  | nil =>
      cases parsed
      exact fun _ member => absurd member List.not_mem_nil
  | cons part parts ih =>
      rw [List.mapM_cons] at parsed
      obtain ⟨first, isFirst, rest⟩ := Option.bind_eq_some_iff.mp parsed
      obtain ⟨later, isLater, both⟩ := Option.bind_eq_some_iff.mp rest
      cases both
      intro number member
      rcases List.mem_cons.mp member with rfl | inLater
      · exact parseSigned_fits isFirst
      · exact ih isLater number inLater

theorem matrixTyped_parseMatrix (text : List Char) :
    MatrixTyped (some (AmapRaw.parseMatrix text)) := by
  intro rows isMatrix
  cases isMatrix
  constructor
  · intro none
    exact List.splitOn_ne_nil _ _ (List.map_eq_nil_iff.mp none)
  · intro row member numbers isRow number inRow
    obtain ⟨part, -, isPart⟩ := List.mem_map.mp member
    rw [isRow, parseCsvIntList] at isPart
    split_ifs at isPart with empty
    · cases isPart
      cases inRow
    · exact mapM_parseInt_fits isPart number inRow

section Observe

variable {data : BusData} {key : RgdKey}

theorem fits_observed {kept default : Int} (keptFits : Fits 32 kept)
    (defaultFits : Fits 32 default) : Fits 32 ((data.numField key default).getD kept) := by
  cases read : data.numField key default with
  | none => exact keptFits
  | some number => exact data.numField_fits key defaultFits read

theorem listTyped_observed {kept : Option (List Int)} (keptTyped : ListTyped kept) :
    ListTyped ((data.intListField key).getD kept) := by
  unfold BusData.intListField BusData.intList
  split_ifs
  · cases data.str key.text with
    | none => exact listTyped_none
    | some text => exact listTyped_intListOf text
  · exact keptTyped

theorem matrixTyped_observed {kept : Option (List (Option (List Int)))}
    (keptTyped : MatrixTyped kept) : MatrixTyped ((AmapRaw.matrixField data key).getD kept) := by
  unfold AmapRaw.matrixField
  split_ifs
  · cases data.str key.text with
    | none => exact matrixTyped_none
    | some text => exact matrixTyped_parseMatrix text
  · exact keptTyped

theorem ManeuverTyped.observe {man : ManeuverFields} (typed : ManeuverTyped man) (slot : Slot) :
    ManeuverTyped (AmapRaw.observeManeuver data slot man) where
  type := fits_observed typed.type (by decide)
  turnAngle := fits_observed typed.turnAngle (by decide)
  zLevel := fits_observed (fits_observed typed.zLevel (by decide)) (by decide)
  junctionType := fits_observed typed.junctionType (by decide)
  drivingSide := fits_observed typed.drivingSide (by decide)
  distance := fits_observed typed.distance (by decide)
  junctionAngles := listTyped_observed typed.junctionAngles
  exitAngle := fits_observed (fits_observed typed.exitAngle (by decide)) (by decide)
  linkedLaneGuidanceIndex := fits_observed typed.linkedLaneGuidanceIndex (by decide)
  linkedLaneGuidanceSlot := fits_observed typed.linkedLaneGuidanceSlot (by decide)
  ver := fits_observed typed.ver (by decide)
  lanePositions := listTyped_observed typed.lanePositions
  laneCount := fits_observed typed.laneCount (by decide)
  laneDirections := listTyped_observed typed.laneDirections
  laneStatus := listTyped_observed typed.laneStatus
  laneAngles := matrixTyped_observed typed.laneAngles

end Observe

namespace AmapRaw

/-- The raw caches that frames lead to. -/
inductive Reachable : AmapRaw → Prop
  | reset : Reachable {}
  | observe (data : BusData) {raw : AmapRaw} : Reachable raw → Reachable (raw.observe data)

theorem Reachable.typed {raw : AmapRaw} (reachable : raw.Reachable) (slot : Slot) :
    ManeuverTyped (raw.maneuver slot) := by
  induction reachable with
  | reset => exact maneuverTyped_unset
  | observe data _ ih => exact ih.observe slot

end AmapRaw

namespace AmapSnapshot

/-- The snapshots that are made of raw caches: the raw cache itself, and a snapshot
with live fields of the route, with live texts, distance and lanes at its head,
or with a tracked distance. -/
inductive Built : AmapSnapshot → Prop
  | fromRaw {raw : AmapRaw} {snapshot : AmapSnapshot} : raw.Reachable →
      snapshot.toAmapFields = raw.toAmapFields → Built snapshot
  | topLevel {raw : AmapRaw} {snapshot : AmapSnapshot} : raw.Reachable → Built snapshot →
      Built (AmapV38Compat.copyLiveTopLevel raw.toAmapFields snapshot)
  | primary {raw : AmapRaw} {snapshot : AmapSnapshot} (head : Int) : raw.Reachable →
      Built snapshot →
      Built (AmapV38Compat.copyNonVisualPrimary raw.toAmapFields head snapshot)
  | tracked {snapshot : AmapSnapshot} (progress : AmapProgressTracker) : Built snapshot →
      Built (AmapV38Compat.applyTrackedDistance progress snapshot)

theorem maneuverTyped_copyNonVisual {live kept : ManeuverFields} (liveTyped : ManeuverTyped live)
    (keptTyped : ManeuverTyped kept) :
    ManeuverTyped (AmapV38Compat.copyNonVisual live kept) where
  type := keptTyped.type
  turnAngle := keptTyped.turnAngle
  zLevel := keptTyped.zLevel
  junctionType := keptTyped.junctionType
  drivingSide := keptTyped.drivingSide
  distance := liveTyped.distance
  junctionAngles := keptTyped.junctionAngles
  exitAngle := keptTyped.exitAngle
  linkedLaneGuidanceIndex := keptTyped.linkedLaneGuidanceIndex
  linkedLaneGuidanceSlot := keptTyped.linkedLaneGuidanceSlot
  ver := keptTyped.ver
  lanePositions := liveTyped.lanePositions
  laneCount := liveTyped.laneCount
  laneDirections := liveTyped.laneDirections
  laneStatus := liveTyped.laneStatus
  laneAngles := liveTyped.laneAngles

theorem Built.typed {snapshot : AmapSnapshot} (built : snapshot.Built) (slot : Slot) :
    ManeuverTyped (snapshot.maneuver slot) := by
  induction built generalizing slot with
  | fromRaw reachable same =>
      rw [same]
      exact reachable.typed slot
  | topLevel _ _ ih => exact ih slot
  | primary head reachable _ ih =>
      unfold AmapV38Compat.copyNonVisualPrimary
      split
      · rename_i liveSlot outHead _ _
        by_cases isHead : slot = outHead
        · subst isHead
          dsimp only
          rw [Function.update_self]
          exact maneuverTyped_copyNonVisual (reachable.typed liveSlot) (ih slot)
        · dsimp only
          rw [Function.update_of_ne isHead]
          exact ih slot
      · exact ih slot
  | tracked progress _ ih =>
      unfold AmapV38Compat.applyTrackedDistance
      split_ifs
      · exact ih slot
      · exact ih slot

/-- The lane angles that come of a text: none of an empty one, and a list of every
row. -/
def sentAngles (rows : List (Option (List Int))) : Option (List (Option (List Int))) :=
  if rows.map csv = [[]] then none else some (rows.map fun row => some (row.getD []))

/-- A slot after a payload that has the fields for which `carried` holds. -/
def arrived (carried : ManeuverKey → Bool) (kept man : ManeuverFields) : ManeuverFields :=
  let turnAngle := if carried .turnAngle then man.turnAngle else kept.turnAngle
  { type := if carried .type then man.type else kept.type
    turnAngle
    zLevel := if carried .zLevel then man.zLevel else kept.zLevel
    junctionType := if carried .junctionType then man.junctionType else kept.junctionType
    drivingSide := if carried .drivingSide then man.drivingSide else kept.drivingSide
    distance := if carried .distance then man.distance else kept.distance
    name := if carried .name then man.name.map clean else kept.name
    afterRoad := if carried .afterRoad then man.afterRoad.map clean else kept.afterRoad
    exitInfo := if carried .exitInfo then man.exitInfo.map clean else kept.exitInfo
    junctionAngles := if carried .junctionAngles then man.junctionAngles else kept.junctionAngles
    exitAngle :=
      if carried .exitAngle then man.exitAngle
      else if turnAngle = kept.turnAngle then kept.exitAngle
      else turnAngle
    linkedLaneGuidanceIndex :=
      if carried .linkedLaneGuidanceIndex then man.linkedLaneGuidanceIndex
      else kept.linkedLaneGuidanceIndex
    linkedLaneGuidanceSlot :=
      if carried .linkedLaneGuidanceSlot then man.linkedLaneGuidanceSlot
      else kept.linkedLaneGuidanceSlot
    ver := if carried .ver then man.ver else kept.ver
    lanePositions := if carried .lanePositions then man.lanePositions else kept.lanePositions
    laneCount := if carried .laneCount then man.laneCount else kept.laneCount
    laneDirections := if carried .laneDirections then man.laneDirections else kept.laneDirections
    laneStatus := if carried .laneStatus then man.laneStatus else kept.laneStatus
    laneAngles := if carried .laneAngles then man.laneAngles.bind sentAngles else kept.laneAngles }

theorem getD_ite {Value : Type*} (condition : Bool) (value kept : Value) :
    (if condition = true then some value else none).getD kept =
      if condition = true then value else kept := by
  split_ifs
  · rfl
  · rfl

theorem parseLaneAnglesMatrix_sent {rows : List (Option (List Int))} (nonempty : rows ≠ [])
    (fits : ∀ row ∈ rows, ∀ numbers, row = some numbers → ∀ number ∈ numbers, Fits 32 number) :
    parseLaneAnglesMatrix (joinWith '|' (rows.map csv)) = sentAngles rows := by
  have texts : rows.map csv ≠ [] := fun noRows => nonempty (List.map_eq_nil_iff.mp noRows)
  have free : ∀ text ∈ rows.map csv, '|' ∉ text := by
    intro text member
    obtain ⟨row, -, rfl⟩ := List.mem_map.mp member
    exact not_mem_commaList (by decide) (by decide) (by decide)
  have read : ∀ row ∈ rows, parseCsvIntList (csv row) = some (row.getD []) := by
    intro row member
    refine parseCsvIntList_commaList fun number inRow => ?_
    cases row with
    | none => cases inRow
    | some numbers => exact fits _ member numbers rfl number inRow
  unfold parseLaneAnglesMatrix sentAngles
  by_cases blank : rows.map csv = [[]]
  · rw [if_pos blank, if_pos (joinWith_eq_nil.mpr (.inr blank))]
  · rw [if_neg blank, if_neg fun printed => (joinWith_eq_nil.mp printed).elim texts blank,
      splitOn_joinWith free texts, List.map_map]
    exact congrArg some (List.map_congr_left read)

section Read

variable {snapshot : AmapSnapshot} {slot : Slot} (key : ManeuverKey)

theorem only_slot {key : ManeuverKey} {text : List Char}
    (isText : fieldText (snapshot.maneuver slot) key = text) :
    ∀ line ∈ payloadLines snapshot.toAmapFields, line.key = .maneuver slot key →
      line.value = text :=
  fun _ member isKey => (value_of_maneuverKey member isKey).1.trans isText

theorem number_toPayload {number : Int}
    (isText : fieldText (snapshot.maneuver slot) key = decimal number) (fits : Fits 32 number)
    (default kept : Int) :
    ((parseText snapshot.toPayload).numField (.maneuver slot key) default).getD kept =
      if carries snapshot.toAmapFields (.maneuver slot key) then number else kept := by
  rw [numField_toPayload (only_slot isText) fits, getD_ite]

theorem text_toPayload {text : Option (List Char)}
    (isText : fieldText (snapshot.maneuver slot) key = clean (text.getD []))
    (isPresent : present (snapshot.maneuver slot) key = text.isSome)
    (kept : Option (List Char)) :
    ((parseText snapshot.toPayload).strField (.maneuver slot key)).getD kept =
      if carries snapshot.toAmapFields (.maneuver slot key) then text.map clean else kept := by
  rw [strField_toPayload (only_slot isText), getD_ite]
  split_ifs with carried
  · have some := isPresent.symm.trans (present_of_carries carried)
    obtain ⟨chars, rfl⟩ := Option.isSome_iff_exists.mp some
    rfl
  · rfl

theorem list_toPayload {list : Option (List Int)}
    (isText : fieldText (snapshot.maneuver slot) key = csv list)
    (isPresent : present (snapshot.maneuver slot) key = list.isSome)
    (typed : ListTyped list) (kept : Option (List Int)) :
    ((parseText snapshot.toPayload).intListField (.maneuver slot key)).getD kept =
      if carries snapshot.toAmapFields (.maneuver slot key) then list else kept := by
  rw [intListField_toPayload (only_slot isText), getD_ite]
  split_ifs with carried
  · have some := isPresent.symm.trans (present_of_carries carried)
    obtain ⟨numbers, rfl⟩ := Option.isSome_iff_exists.mp some
    obtain ⟨nonempty, fits⟩ := typed numbers rfl
    exact intListOf_commaList nonempty fits
  · rfl

theorem angles_toPayload (typed : MatrixTyped (snapshot.maneuver slot).laneAngles)
    (kept : Option (List (Option (List Int)))) :
    ((parseText snapshot.toPayload).laneAnglesField (.maneuver slot .laneAngles)).getD kept =
      if carries snapshot.toAmapFields (.maneuver slot .laneAngles) then
        (snapshot.maneuver slot).laneAngles.bind sentAngles
      else kept := by
  rw [laneAnglesField_toPayload (only_slot rfl), getD_ite]
  split_ifs with carried
  · obtain ⟨rows, isMatrix⟩ := Option.isSome_iff_exists.mp (present_of_carries carried)
    obtain ⟨nonempty, fits⟩ := typed rows isMatrix
    rw [fieldText, isMatrix]
    exact parseLaneAnglesMatrix_sent nonempty fits
  · rfl

/-- The payload has the level of a maneuver under one of its two keys. -/
theorem zlevel_toPayload (default : Int) :
    (parseText snapshot.toPayload).numField (.maneuver slot .zlevel) default = none := by
  have absent : (parseText snapshot.toPayload).has (RgdKey.maneuver slot .zlevel).text = false := by
    rw [has_toPayload, Bool.eq_false_iff]
    intro carried
    cases present_of_carries carried
  unfold BusData.numField
  rw [absent]
  rfl

theorem read_toPayload (typed : ManeuverTyped (snapshot.maneuver slot)) (kept : ManeuverFields) :
    kept.read (parseText snapshot.toPayload) slot =
      arrived (fun key => carries snapshot.toAmapFields (.maneuver slot key)) kept
        (snapshot.maneuver slot) := by
  unfold ManeuverFields.read arrived
  dsimp only
  rw [zlevel_toPayload, number_toPayload .type rfl typed.type,
    number_toPayload .turnAngle rfl typed.turnAngle, number_toPayload .zLevel rfl typed.zLevel,
    number_toPayload .junctionType rfl typed.junctionType,
    number_toPayload .drivingSide rfl typed.drivingSide,
    number_toPayload .distance rfl typed.distance, text_toPayload .name rfl rfl,
    text_toPayload .afterRoad rfl rfl, text_toPayload .exitInfo rfl rfl,
    list_toPayload .junctionAngles rfl rfl typed.junctionAngles,
    number_toPayload .exitAngle rfl typed.exitAngle,
    number_toPayload .linkedLaneGuidanceIndex rfl typed.linkedLaneGuidanceIndex,
    number_toPayload .linkedLaneGuidanceSlot rfl typed.linkedLaneGuidanceSlot,
    number_toPayload .ver rfl typed.ver,
    list_toPayload .lanePositions rfl rfl typed.lanePositions,
    number_toPayload .laneCount rfl typed.laneCount,
    list_toPayload .laneDirections rfl rfl typed.laneDirections,
    list_toPayload .laneStatus rfl rfl typed.laneStatus, angles_toPayload typed.laneAngles,
    Option.getD_none]

end Read

end AmapSnapshot

end CarplayRgi
