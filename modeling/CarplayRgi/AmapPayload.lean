import CarplayRgi.AmapSnapshot
import CarplayRgi.RgdAngleCodec
import Mathlib.Tactic.CasesM

/-!
# Reading the payload of a snapshot

The lines of a snapshot come back as records, the first 512 of them.  What the
receiver finds under a key of a maneuver slot is what the snapshot holds for
it, if the line is among these.
-/

namespace CarplayRgi

open DecimalText RouteGuidance Utf8Text

namespace AmapSnapshot

/-- A line that is read back as a record. -/
structure PayloadLine.Sound (line : PayloadLine) : Prop where
  type : line.type ≠ ':' ∧ line.type ≠ '\n'
  value : '\n' ∉ line.value

section Lines

variable {Holds : PayloadLine → Prop} {key : RgdKey}

theorem forall_appendNum {v : Int}
    (number : 0 ≤ v ∨ key = .route .visibleInApp → Holds ⟨key, 'n', decimal v⟩) :
    ∀ line ∈ appendNum key v, Holds line := by
  intro line member
  unfold appendNum at member
  split_ifs at member with written
  · rw [List.mem_singleton.mp member]
    exact number written
  · cases member

theorem forall_appendStr {text : Option (List Char)}
    (present : ∀ chars, text = some chars → Holds ⟨key, 's', clean chars⟩) :
    ∀ line ∈ appendStr key text, Holds line := by
  intro line member
  cases text with
  | none => cases member
  | some chars =>
      rw [List.mem_singleton.mp member]
      exact present chars rfl

theorem forall_appendListAlways {list : Option (List Int)}
    (always : Holds ⟨key, 's', csv list⟩) : ∀ line ∈ appendListAlways key list, Holds line := by
  intro line member
  rw [List.mem_singleton.mp member]
  exact always

theorem forall_appendList {list : Option (List Int)}
    (present : ∀ numbers, list = some numbers → Holds ⟨key, 's', commaList numbers⟩) :
    ∀ line ∈ appendList key list, Holds line := by
  intro line member
  cases list with
  | none => cases member
  | some numbers =>
      rw [List.mem_singleton.mp member]
      exact present numbers rfl

theorem forall_appendMatrix {matrix : Option (List (Option (List Int)))}
    (present : ∀ rows, matrix = some rows → Holds ⟨key, 's', joinWith '|' (rows.map csv)⟩) :
    ∀ line ∈ appendMatrix key matrix, Holds line := by
  intro line member
  cases matrix with
  | none => cases member
  | some rows =>
      rw [List.mem_singleton.mp member]
      exact present rows rfl

end Lines

theorem sound_number (key : RgdKey) (v : Int) : PayloadLine.Sound ⟨key, 'n', decimal v⟩ where
  type := (by decide : 'n' ≠ ':' ∧ 'n' ≠ '\n')
  value := not_mem_decimal (by decide) (by decide)

theorem sound_str (key : RgdKey) (text : List Char) :
    PayloadLine.Sound ⟨key, 's', clean text⟩ where
  type := (by decide : 's' ≠ ':' ∧ 's' ≠ '\n')
  value newline := by
    obtain ⟨char, -, isNewline⟩ := List.mem_map.mp newline
    split_ifs at isNewline with control
    · exact absurd isNewline (by decide)
    · exact control (.inl isNewline)

theorem sound_list (key : RgdKey) (numbers : List Int) :
    PayloadLine.Sound ⟨key, 's', commaList numbers⟩ where
  type := (by decide : 's' ≠ ':' ∧ 's' ≠ '\n')
  value := not_mem_commaList (by decide) (by decide) (by decide)

theorem sound_matrix (key : RgdKey) (rows : List (Option (List Int))) :
    PayloadLine.Sound ⟨key, 's', joinWith '|' (rows.map csv)⟩ where
  type := (by decide : 's' ≠ ':' ∧ 's' ≠ '\n')
  value newline := by
    rcases mem_joinWith newline with isBar | ⟨text, member, inText⟩
    · exact absurd isBar (by decide)
    · obtain ⟨row, -, rfl⟩ := List.mem_map.mp member
      exact not_mem_commaList (by decide) (by decide) (by decide) inText

theorem sound_routeLines (fields : AmapFields) : ∀ line ∈ routeLines fields, line.Sound := by
  unfold routeLines
  simp only [List.forall_mem_append]
  constructorm* _ ∧ _
  all_goals
    first
    | exact forall_appendNum fun _ => sound_number _ _
    | exact forall_appendStr fun _ _ => sound_str _ _
    | exact forall_appendListAlways (sound_list _ _)

theorem sound_maneuverLines (slot : Slot) (man : ManeuverFields) :
    ∀ line ∈ maneuverLines slot man, line.Sound := by
  unfold maneuverLines
  simp only [List.forall_mem_append]
  constructorm* _ ∧ _
  all_goals
    first
    | exact forall_appendNum fun _ => sound_number _ _
    | exact forall_appendStr fun _ _ => sound_str _ _
    | exact forall_appendList fun _ _ => sound_list _ _
    | exact forall_appendMatrix fun _ _ => sound_matrix _ _

theorem sound_laneLines (slot : Slot) (lane : LaneFields) :
    ∀ line ∈ laneLines slot lane, line.Sound := by
  unfold laneLines
  simp only [List.forall_mem_append]
  constructorm* _ ∧ _
  all_goals
    first
    | exact forall_appendNum fun _ => sound_number _ _
    | exact forall_appendList fun _ _ => sound_list _ _
    | exact forall_appendMatrix fun _ _ => sound_matrix _ _

theorem sound_payloadLines (fields : AmapFields) :
    ∀ line ∈ payloadLines fields, line.Sound := by
  unfold payloadLines
  simp only [List.forall_mem_append]
  refine ⟨⟨sound_routeLines fields, ?_⟩, ?_⟩
  · intro line member
    obtain ⟨slot, -, inSlot⟩ := List.mem_flatMap.mp member
    exact sound_maneuverLines slot _ line inSlot
  · intro line member
    obtain ⟨slot, -, inSlot⟩ := List.mem_flatMap.mp member
    exact sound_laneLines slot _ line inSlot

theorem newline_not_mem_key (key : RgdKey) : '\n' ∉ key.text := fun member => by
  have plain := key.text_plain _ member
  cases plain

theorem newline_not_mem_text {line : PayloadLine} (sound : line.Sound) : '\n' ∉ line.text := by
  unfold PayloadLine.text
  simp only [List.mem_append, List.mem_cons, not_or]
  exact ⟨newline_not_mem_key line.key, by decide, fun same => sound.type.2 same.symm, by decide,
    sound.value⟩

theorem lineRecord_text {line : PayloadLine} (sound : line.Sound) :
    lineRecord line.text = some (line.key.text, line.value) := by
  refine lineRecord_typed line.key.text_ne_nil ?_ ?_ sound.type.1 line.value
  · intro isHeader
    have plain := line.key.text_plain _ (List.mem_of_mem_head? isHeader)
    cases plain
  · intro member
    have plain := line.key.text_plain _ member
    cases plain

theorem filterMap_lineRecord {lines : List PayloadLine} (sound : ∀ line ∈ lines, line.Sound) :
    (lines.map PayloadLine.text).filterMap lineRecord =
      lines.map fun line => (line.key.text, line.value) := by
  induction lines with
  | nil => rfl
  | cons line lines ih =>
      rw [List.map_cons, List.filterMap_cons_some (lineRecord_text (sound line List.mem_cons_self)),
        ih fun other member => sound other (List.mem_cons_of_mem line member), List.map_cons]

/-- The receiver keeps the records of the first 512 lines. -/
theorem parseText_toPayload (snapshot : AmapSnapshot) :
    (parseText snapshot.toPayload).records =
      ((payloadLines snapshot.toAmapFields).take dataMax).map fun line =>
        (line.key.text, line.value) := by
  have sound := sound_payloadLines snapshot.toAmapFields
  have text : "@routeguidance\n".toList ++
      (payloadLines snapshot.toAmapFields).flatMap (fun line => line.text ++ ['\n']) =
        ("@routeguidance".toList :: (payloadLines snapshot.toAmapFields).map
          PayloadLine.text).flatMap fun line => line ++ ['\n'] := by
    rw [List.flatMap_cons, List.flatMap_map]
    rfl
  have free : ∀ line ∈ "@routeguidance".toList ::
      (payloadLines snapshot.toAmapFields).map PayloadLine.text, '\n' ∉ line := by
    intro line member
    rcases List.mem_cons.mp member with rfl | inLines
    · decide
    · obtain ⟨original, inPayload, rfl⟩ := List.mem_map.mp inLines
      exact newline_not_mem_text (sound original inPayload)
  rw [parseText_records, toPayload, decode_encode, text, splitOn_lines free, List.cons_append,
    List.filterMap_cons_none (by decide), List.filterMap_append, filterMap_lineRecord sound,
    List.map_take]
  have last : [([] : List Char)].filterMap lineRecord = [] := rfl
  rw [last, List.append_nil]

/-- Whether the receiver has room for the line with a key. -/
def carries (fields : AmapFields) (key : RgdKey) : Bool :=
  ((payloadLines fields).take dataMax).any fun line => decide (line.key = key)

theorem sameTest_key (key : RgdKey) :
    ((fun record : List Char × List Char => decide (record.1 = key.text)) ∘
      fun line : PayloadLine => (line.key.text, line.value)) =
        fun line => decide (line.key = key) := by
  funext line
  simp [RgdKey.text_injective.eq_iff]

theorem has_toPayload (snapshot : AmapSnapshot) (key : RgdKey) :
    (parseText snapshot.toPayload).has key.text = carries snapshot.toAmapFields key := by
  rw [BusData.has, parseText_toPayload, List.any_map, sameTest_key, carries]

section Lookups

variable {snapshot : AmapSnapshot} {key : RgdKey}

/-- A lookup, where all lines with the key have one value. -/
theorem str_toPayload {value : List Char}
    (only : ∀ line ∈ payloadLines snapshot.toAmapFields, line.key = key → line.value = value) :
    (parseText snapshot.toPayload).str key.text =
      if carries snapshot.toAmapFields key then some value else none := by
  rw [BusData.str, parseText_toPayload, List.find?_map, Option.map_map, sameTest_key, carries]
  cases found : ((payloadLines snapshot.toAmapFields).take dataMax).find?
      fun line => decide (line.key = key) with
  | none =>
      rw [if_neg]
      · rfl
      · rw [List.any_eq_true]
        rintro ⟨line, member, isKey⟩
        exact List.find?_eq_none.mp found line member isKey
  | some line =>
      have member := List.mem_of_find?_eq_some found
      have isKey := List.find?_some found
      rw [if_pos (List.any_eq_true.mpr ⟨line, member, isKey⟩)]
      exact congrArg some (only line (List.mem_of_mem_take member) (by simpa using isKey))

theorem numField_toPayload {number : Int}
    (only : ∀ line ∈ payloadLines snapshot.toAmapFields, line.key = key →
      line.value = decimal number) (fits : Fits 32 number) (default : Int) :
    (parseText snapshot.toPayload).numField key default =
      if carries snapshot.toAmapFields key then some number else none := by
  rw [BusData.numField_eq_map, str_toPayload only]
  split_ifs
  · rw [Option.map_some, parseInt_decimal fits, Option.getD_some]
  · rfl

variable {text : List Char}
  (only : ∀ line ∈ payloadLines snapshot.toAmapFields, line.key = key → line.value = text)

include only

theorem strField_toPayload :
    (parseText snapshot.toPayload).strField key =
      if carries snapshot.toAmapFields key then some (some text) else none := by
  unfold BusData.strField
  rw [has_toPayload, str_toPayload only]
  split_ifs
  · rfl
  · rfl

theorem intListField_toPayload :
    (parseText snapshot.toPayload).intListField key =
      if carries snapshot.toAmapFields key then some (intListOf text) else none := by
  unfold BusData.intListField BusData.intList
  rw [has_toPayload, str_toPayload only]
  split_ifs
  · rfl
  · rfl

theorem laneAnglesField_toPayload :
    (parseText snapshot.toPayload).laneAnglesField key =
      if carries snapshot.toAmapFields key then some (parseLaneAnglesMatrix text) else none := by
  unfold BusData.laneAnglesField
  rw [has_toPayload, str_toPayload only]
  split_ifs
  · rfl
  · rfl

end Lookups

/-- The text of a field of a maneuver, where it is written. -/
def fieldText (man : ManeuverFields) : ManeuverKey → List Char
  | .type => decimal man.type
  | .ver => decimal man.ver
  | .turnAngle => decimal man.turnAngle
  | .exitAngle => decimal man.exitAngle
  | .zLevel => decimal man.zLevel
  | .junctionType => decimal man.junctionType
  | .drivingSide => decimal man.drivingSide
  | .distance => decimal man.distance
  | .name => clean (man.name.getD [])
  | .afterRoad => clean (man.afterRoad.getD [])
  | .exitInfo => clean (man.exitInfo.getD [])
  | .junctionAngles => csv man.junctionAngles
  | .laneCount => decimal man.laneCount
  | .linkedLaneGuidanceIndex => decimal man.linkedLaneGuidanceIndex
  | .linkedLaneGuidanceSlot => decimal man.linkedLaneGuidanceSlot
  | .lanePositions => csv man.lanePositions
  | .laneDirections => csv man.laneDirections
  | .laneStatus => csv man.laneStatus
  | .laneAngles => joinWith '|' ((man.laneAngles.getD []).map csv)
  | .zlevel | .distanceStr | .distanceUnits | .laneGuidanceLen | .laneDesc | .exitInfoLen => []

/-- Whether the snapshot has something to write for a key: a number that is not
negative, a text or a list. -/
def present (man : ManeuverFields) : ManeuverKey → Bool
  | .type => decide (0 ≤ man.type)
  | .ver => decide (0 ≤ man.ver)
  | .turnAngle => decide (0 ≤ man.turnAngle)
  | .exitAngle => decide (0 ≤ man.exitAngle)
  | .zLevel => decide (0 ≤ man.zLevel)
  | .junctionType => decide (0 ≤ man.junctionType)
  | .drivingSide => decide (0 ≤ man.drivingSide)
  | .distance => decide (0 ≤ man.distance)
  | .name => man.name.isSome
  | .afterRoad => man.afterRoad.isSome
  | .exitInfo => man.exitInfo.isSome
  | .junctionAngles => man.junctionAngles.isSome
  | .laneCount => decide (0 ≤ man.laneCount)
  | .linkedLaneGuidanceIndex => decide (0 ≤ man.linkedLaneGuidanceIndex)
  | .linkedLaneGuidanceSlot => decide (0 ≤ man.linkedLaneGuidanceSlot)
  | .lanePositions => man.lanePositions.isSome
  | .laneDirections => man.laneDirections.isSome
  | .laneStatus => man.laneStatus.isSome
  | .laneAngles => man.laneAngles.isSome
  | .zlevel | .distanceStr | .distanceUnits | .laneGuidanceLen | .laneDesc | .exitInfoLen => false

/-- A line of a slot. -/
def OfSlot (slot : Slot) (man : ManeuverFields) (line : PayloadLine) : Prop :=
  ∃ key, line.key = .maneuver slot key ∧ line.value = fieldText man key ∧
    present man key = true

theorem ofSlot_appendNum {slot : Slot} {man : ManeuverFields} {key : ManeuverKey} {v : Int}
    (isText : fieldText man key = decimal v) (isPresent : present man key = decide (0 ≤ v)) :
    ∀ line ∈ appendNum (.maneuver slot key) v, OfSlot slot man line := by
  refine forall_appendNum fun number => ⟨key, rfl, isText.symm, ?_⟩
  rcases number with nonnegative | isRoute
  · rw [isPresent, decide_eq_true nonnegative]
  · cases isRoute

theorem ofSlot_maneuverLines (slot : Slot) (man : ManeuverFields) :
    ∀ line ∈ maneuverLines slot man, OfSlot slot man line := by
  unfold maneuverLines
  simp only [List.forall_mem_append]
  constructorm* _ ∧ _
  all_goals
    first
    | exact ofSlot_appendNum rfl rfl
    | exact forall_appendStr fun _ isText => ⟨_, rfl, by simp [fieldText, isText],
        by simp [present, isText]⟩
    | exact forall_appendList fun _ isList => ⟨_, rfl, by simp [fieldText, csv, isList],
        by simp [present, isList]⟩
    | exact forall_appendMatrix fun _ isMatrix => ⟨_, rfl, by simp [fieldText, isMatrix],
        by simp [present, isMatrix]⟩

/-- The text of a field of the route, where it is written. -/
def routeText (fields : AmapFields) : RouteKey → List Char
  | .routeState => decimal fields.routeState
  | .maneuverState => decimal fields.maneuverState
  | .maneuverCount => decimal fields.maneuverCount
  | .maneuverList => csv fields.maneuverList
  | .visibleInApp => decimal fields.visibleInApp
  | .sourceSupportsRg => decimal fields.sourceSupportsRg
  | .distDestM => decimal fields.distDestM
  | .distManeuverM => decimal fields.distManeuverM
  | .etaSeconds => decimal fields.etaSeconds
  | .timeRemainingSeconds => decimal fields.timeRemainingSeconds
  | .currentRoad => clean (fields.currentRoad.getD [])
  | .destination => clean (fields.destination.getD [])
  | .laneGuidanceShowing => decimal fields.laneGuidanceShowing
  | .laneGuidanceTotal => decimal fields.laneGuidanceTotal
  | .laneGuidanceIndex => decimal fields.laneGuidanceIndex
  | .laneGuidanceSlot => decimal fields.laneGuidanceSlot
  | _ => []

theorem ofRoute_routeLines (fields : AmapFields) :
    ∀ line ∈ routeLines fields, ∃ key, line.key = .route key ∧
      line.value = routeText fields key := by
  unfold routeLines
  simp only [List.forall_mem_append]
  constructorm* _ ∧ _
  all_goals
    first
    | exact forall_appendNum fun _ => ⟨_, rfl, rfl⟩
    | exact forall_appendStr fun _ isText => ⟨_, rfl, by simp [routeText, isText]⟩
    | exact forall_appendListAlways ⟨_, rfl, rfl⟩

theorem laneKey_laneLines (slot : Slot) (lane : LaneFields) :
    ∀ line ∈ laneLines slot lane, ∃ key, line.key = .lane slot key := by
  unfold laneLines
  simp only [List.forall_mem_append]
  constructorm* _ ∧ _
  all_goals
    first
    | exact forall_appendNum fun _ => ⟨_, rfl⟩
    | exact forall_appendList fun _ _ => ⟨_, rfl⟩
    | exact forall_appendMatrix fun _ _ => ⟨_, rfl⟩

theorem value_of_maneuverKey {fields : AmapFields} {slot : Slot} {key : ManeuverKey}
    {line : PayloadLine} (member : line ∈ payloadLines fields)
    (isKey : line.key = .maneuver slot key) :
    line.value = fieldText (fields.maneuver slot) key ∧
      present (fields.maneuver slot) key = true := by
  unfold payloadLines at member
  rcases List.mem_append.mp member with inFront | inLanes
  · rcases List.mem_append.mp inFront with inRoute | inSlots
    · obtain ⟨other, otherKey, -⟩ := ofRoute_routeLines fields line inRoute
      cases otherKey.symm.trans isKey
    · obtain ⟨other, -, inSlot⟩ := List.mem_flatMap.mp inSlots
      obtain ⟨otherKey, keyEq, value, isPresent⟩ := ofSlot_maneuverLines other _ line inSlot
      cases keyEq.symm.trans isKey
      exact ⟨value, isPresent⟩
  · obtain ⟨other, -, inLane⟩ := List.mem_flatMap.mp inLanes
    obtain ⟨otherKey, keyEq⟩ := laneKey_laneLines other _ line inLane
    cases keyEq.symm.trans isKey

/-- What is carried is there. -/
theorem present_of_carries {fields : AmapFields} {slot : Slot} {key : ManeuverKey}
    (carried : carries fields (.maneuver slot key) = true) :
    present (fields.maneuver slot) key = true := by
  obtain ⟨line, member, isKey⟩ := List.any_eq_true.mp carried
  exact (value_of_maneuverKey (List.mem_of_mem_take member) (by simpa using isKey)).2

theorem value_of_routeKey {fields : AmapFields} {key : RouteKey} {line : PayloadLine}
    (member : line ∈ payloadLines fields) (isKey : line.key = .route key) :
    line.value = routeText fields key := by
  unfold payloadLines at member
  rcases List.mem_append.mp member with inFront | inLanes
  · rcases List.mem_append.mp inFront with inRoute | inSlots
    · obtain ⟨other, otherKey, value⟩ := ofRoute_routeLines fields line inRoute
      cases otherKey.symm.trans isKey
      exact value
    · obtain ⟨other, -, inSlot⟩ := List.mem_flatMap.mp inSlots
      obtain ⟨otherKey, keyEq, -⟩ := ofSlot_maneuverLines other _ line inSlot
      cases keyEq.symm.trans isKey
  · obtain ⟨other, -, inLane⟩ := List.mem_flatMap.mp inLanes
    obtain ⟨otherKey, keyEq⟩ := laneKey_laneLines other _ line inLane
    cases keyEq.symm.trans isKey

theorem appendNum_length_le (key : RgdKey) (v : Int) : (appendNum key v).length ≤ 1 := by
  unfold appendNum
  split_ifs
  · exact le_rfl
  · exact Nat.zero_le _

theorem appendStr_length_le (key : RgdKey) (text : Option (List Char)) :
    (appendStr key text).length ≤ 1 := by
  cases text with
  | none => exact Nat.zero_le _
  | some text => exact le_rfl

theorem routeLines_length_le (fields : AmapFields) : (routeLines fields).length ≤ 16 := by
  calc
    (routeLines fields).length ≤ 1 + 1 + 1 + 1 + 1 + 1 + 1 + 1 + 1 + 1 + 1 + 1 + 1 + 1 + 1 + 1 := by
      unfold routeLines
      simp only [List.length_append]
      gcongr
      all_goals
        first
        | exact appendNum_length_le _ _
        | exact appendStr_length_le _ _
        | exact le_rfl
    _ = 16 := rfl

/-- The lines of the route are the first ones, and all of them are carried. -/
theorem carries_of_routeLine {fields : AmapFields} {key : RgdKey} {line : PayloadLine}
    (member : line ∈ routeLines fields) (isKey : line.key = key) : carries fields key = true := by
  have front : routeLines fields <+: (payloadLines fields).take dataMax := by
    rw [List.prefix_take_iff, payloadLines, List.append_assoc]
    exact ⟨List.prefix_append _ _, (routeLines_length_le fields).trans (by decide)⟩
  exact List.any_eq_true.mpr ⟨line, front.mem member, decide_eq_true isKey⟩

theorem mem_maneuverList (fields : AmapFields) :
    ⟨.route .maneuverList, 's', csv fields.maneuverList⟩ ∈ routeLines fields := by
  unfold routeLines appendListAlways
  simp only [List.mem_append, List.mem_singleton, true_or, or_true]

theorem mem_supports {fields : AmapFields} (known : 0 ≤ fields.sourceSupportsRg) :
    ⟨.route .sourceSupportsRg, 'n', decimal fields.sourceSupportsRg⟩ ∈ routeLines fields := by
  have written : appendNum (.route .sourceSupportsRg) fields.sourceSupportsRg =
      [⟨.route .sourceSupportsRg, 'n', decimal fields.sourceSupportsRg⟩] := if_pos (.inl known)
  unfold routeLines
  simp only [written, List.mem_append, List.mem_singleton, true_or, or_true]

theorem carries_maneuverList (fields : AmapFields) :
    carries fields (.route .maneuverList) = true :=
  carries_of_routeLine (mem_maneuverList fields) rfl

theorem carries_supports {fields : AmapFields} (known : 0 ≤ fields.sourceSupportsRg) :
    carries fields (.route .sourceSupportsRg) = true :=
  carries_of_routeLine (mem_supports known) rfl

end AmapSnapshot

end CarplayRgi
