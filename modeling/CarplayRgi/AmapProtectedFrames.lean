import CarplayRgi.AmapModes

/-!
# The records of protected frames

The router rewrites a frame line by line.  A line keeps its record, loses it,
or hides a visibility, so a protected frame is described by what becomes of the
records of the frame.
-/

namespace CarplayRgi

open RouteGuidance Utf8Text

theorem not_mem_of_mem_splitOn {separator : Char} {text line : List Char}
    (member : line ∈ text.splitOn separator) : separator ∉ line := by
  induction text generalizing line with
  | nil =>
      rw [List.splitOn_nil, List.mem_singleton] at member
      subst member
      exact List.not_mem_nil
  | cons char text ih =>
      rw [List.splitOn_cons_eq_if_modifyHead] at member
      split_ifs at member with isSeparator
      · rcases List.mem_cons.mp member with rfl | inRest
        · exact List.not_mem_nil
        · exact ih inRest
      · cases pieces : text.splitOn separator with
        | nil => exact absurd pieces (List.splitOn_ne_nil _ _)
        | cons first rest =>
            rw [pieces] at member ih
            rw [List.modifyHead_cons] at member
            rcases List.mem_cons.mp member with rfl | inRest
            · intro inside
              rcases List.mem_cons.mp inside with rfl | inFirst
              · simp at isSeparator
              · exact ih List.mem_cons_self inFirst
            · exact ih (List.mem_cons_of_mem _ inRest)

/-- Lines, and what stands after the last newline. -/
theorem splitOn_lines_append {lines : List (List Char)} (free : ∀ line ∈ lines, '\n' ∉ line)
    {rest : List Char} (restFree : '\n' ∉ rest) :
    ((lines.flatMap fun line => line ++ ['\n']) ++ rest).splitOn '\n' = lines ++ [rest] := by
  induction lines with
  | nil => exact List.splitOn_eq_singleton restFree
  | cons line lines ih =>
      have shape : ((line :: lines).flatMap fun line => line ++ ['\n']) ++ rest =
          line ++ '\n' :: ((lines.flatMap fun line => line ++ ['\n']) ++ rest) := by
        simp
      rw [shape, List.splitOn_append_cons_self_of_not_mem (free line List.mem_cons_self),
        ih fun other member => free other (List.mem_cons_of_mem _ member), List.cons_append]

/-- All records of a frame, also those that the table has no room for. -/
def frameRecords (text : List Char) : List (List Char × List Char) :=
  (text.splitOn '\n').filterMap lineRecord

theorem parseText_frameRecords (payload : List UInt8) :
    (parseText payload).records = (frameRecords (decode payload)).take dataMax :=
  parseText_records payload

/-- The last line of a rewritten text. -/
def rewriteLast (rewrite : List Char → Option (List Char)) (last : List Char) : List Char :=
  if last = [] then [] else (rewrite last).getD []

theorem rewriteLines_eq (rewrite : List Char → Option (List Char)) {text : List Char}
    {initial : List (List Char)} {last : List Char}
    (split : text.splitOn '\n' = initial ++ [last]) :
    rewriteLines rewrite text =
      ((initial.filterMap rewrite).flatMap fun line => line ++ ['\n']) ++
        rewriteLast rewrite last := by
  have kept : ∀ lines : List (List Char),
      (lines.flatMap fun line => ((rewrite line).map (· ++ ['\n'])).getD []) =
        (lines.filterMap rewrite).flatMap fun line => line ++ ['\n'] := by
    intro lines
    induction lines with
    | nil => rfl
    | cons line lines ih =>
        rw [List.flatMap_cons, ih]
        cases rewritten : rewrite line with
        | none => rw [List.filterMap_cons_none rewritten]; rfl
        | some result => rw [List.filterMap_cons_some rewritten]; rfl
  unfold rewriteLines
  rw [split]
  dsimp only
  rw [List.dropLast_concat, List.getLast?_concat, kept]
  cases last with
  | nil => rfl
  | cons char last => rfl

/-- A rewriting of lines acts on the records when it makes no new lines and
does to every record what `change` says. -/
theorem frameRecords_rewriteLines {rewrite : List Char → Option (List Char)}
    {change : List Char × List Char → Option (List Char × List Char)}
    (free : ∀ line rewritten, '\n' ∉ line → rewrite line = some rewritten → '\n' ∉ rewritten)
    (changes : ∀ line, (rewrite line).bind lineRecord = (lineRecord line).bind change)
    (text : List Char) :
    frameRecords (rewriteLines rewrite text) = (frameRecords text).filterMap change := by
  have pieces : ∀ line ∈ text.splitOn '\n', '\n' ∉ line := fun _ => not_mem_of_mem_splitOn
  obtain ⟨initial, last, split⟩ : ∃ initial last, text.splitOn '\n' = initial ++ [last] := by
    rcases List.eq_nil_or_concat (text.splitOn '\n') with none | ⟨initial, last, split⟩
    · exact absurd none (List.splitOn_ne_nil _ _)
    · exact ⟨initial, last, by rw [split, List.concat_eq_append]⟩
  rw [split] at pieces
  have initialFree : ∀ line ∈ initial.filterMap rewrite, '\n' ∉ line := by
    intro line member
    obtain ⟨original, originalMem, rewritten⟩ := List.mem_filterMap.mp member
    exact free original line (pieces original (by simp [originalMem])) rewritten
  have lastFree : '\n' ∉ rewriteLast rewrite last := by
    unfold rewriteLast
    split_ifs
    · exact List.not_mem_nil
    · cases rewritten : rewrite last with
      | none => exact List.not_mem_nil
      | some result => exact free last result (pieces last (by simp)) rewritten
  have lastRecord : lineRecord (rewriteLast rewrite last) = (lineRecord last).bind change := by
    unfold rewriteLast
    split_ifs with isEmpty
    · rw [isEmpty]
      rfl
    · rw [← changes]
      cases rewrite last with
      | none => rfl
      | some result => rfl
  have initialRecords : (initial.filterMap rewrite).filterMap lineRecord =
      (initial.filterMap lineRecord).filterMap change := by
    rw [List.filterMap_filterMap, List.filterMap_filterMap]
    exact congrArg (fun record => initial.filterMap record) (funext changes)
  have lastRecords : [rewriteLast rewrite last].filterMap lineRecord =
      ([last].filterMap lineRecord).filterMap change := by
    rw [List.filterMap_filterMap]
    simp only [List.filterMap_cons, List.filterMap_nil, lastRecord]
  unfold frameRecords
  rw [rewriteLines_eq rewrite split, splitOn_lines_append initialFree lastFree, split,
    List.filterMap_append, List.filterMap_append, List.filterMap_append, initialRecords, lastRecords]

/-- Whether a line begins with a key is seen without its carriage return. -/
theorem isPrefixOf_stripReturn (key line : List Char) :
    (key ++ [':']).isPrefixOf (stripReturn line) = (key ++ [':']).isPrefixOf line := by
  rw [Bool.eq_iff_iff, List.isPrefixOf_iff_prefix, List.isPrefixOf_iff_prefix]
  unfold stripReturn
  split_ifs with returns
  · constructor
    · exact fun starts => starts.trans (List.dropLast_prefix line)
    · rintro ⟨rest, rfl⟩
      rcases List.eq_nil_or_concat rest with rfl | ⟨initial, last, rfl⟩
      · simp at returns
      · rw [List.concat_eq_append, ← List.append_assoc, List.dropLast_concat]
        exact List.prefix_append _ _
  · exact Iff.rfl

/-- A line begins with a key if and only if it has a record under the key. -/
theorem isPrefixOf_iff_lineRecord {key : List Char} (nonempty : key ≠ [])
    (notHeader : key.head? ≠ some '@') (free : ':' ∉ key) (line : List Char) :
    (key ++ [':']).isPrefixOf line = true ↔ ∃ value, lineRecord line = some (key, value) := by
  rw [List.isPrefixOf_iff_prefix]
  constructor
  · rintro ⟨rest, rfl⟩
    obtain ⟨taken, dropped⟩ := takeWhile_dropWhile_separator free rest
    have shape : key ++ [':'] ++ rest = key ++ ':' :: rest := by simp
    have notSkipped : ¬ (key ++ ':' :: rest = [] ∨ (key ++ ':' :: rest).head? = some '@') := by
      cases key with
      | nil => exact absurd rfl nonempty
      | cons char key => simpa using notHeader
    rw [shape, lineRecord, if_neg notSkipped, dropped, taken]
    exact ⟨_, rfl⟩
  · rintro ⟨value, recordEq⟩
    unfold lineRecord at recordEq
    split_ifs at recordEq
    cases dropped : line.dropWhile (· ≠ ':') with
    | nil =>
        rw [dropped] at recordEq
        cases recordEq
    | cons char typed =>
        rw [dropped] at recordEq
        simp only [Option.some.injEq, Prod.mk.injEq] at recordEq
        have isColon : char = ':' := by
          have stops := List.head?_dropWhile_not (p := fun char => decide (char ≠ ':')) line
          rw [dropped] at stops
          simpa using stops
        have whole := List.takeWhile_append_dropWhile (p := fun char => decide (char ≠ ':'))
          (l := line)
        rw [recordEq.1, dropped, isColon] at whole
        exact ⟨typed, by rw [← whole]; simp⟩

namespace AmapSnapshot.PayloadLine

/-- The line is one record of the frame. -/
structure Plain (line : PayloadLine) : Prop where
  type : line.type ≠ ':' ∧ line.type ≠ '\n'
  value : '\n' ∉ line.value

def record (line : PayloadLine) : List Char × List Char := (line.key.text, line.value)

theorem text_record {line : PayloadLine} (plain : line.Plain) :
    lineRecord line.text = some line.record := by
  have keyPlain := RgdKey.text_plain line.key
  have nonempty := RgdKey.text_ne_nil line.key
  have colonFree : ':' ∉ line.key.text := fun inside => absurd (keyPlain ':' inside) (by decide)
  refine lineRecord_typed nonempty ?_ colonFree plain.type.1 line.value
  intro isHeader
  have header : '@' ∈ line.key.text := List.mem_of_mem_head? (by rw [isHeader]; rfl)
  exact absurd (keyPlain '@' header) (by decide)

theorem newline_not_mem_text {line : PayloadLine} (plain : line.Plain) : '\n' ∉ line.text := by
  have keyFree : '\n' ∉ line.key.text := fun inside =>
    absurd (RgdKey.text_plain line.key _ inside) (by decide)
  simp [PayloadLine.text, keyFree, plain.value, plain.type.2.symm]

end AmapSnapshot.PayloadLine

open AmapSnapshot in
/-- A frame of plain lines has their records. -/
theorem frameRecords_lines {lines : List PayloadLine} (plain : ∀ line ∈ lines, line.Plain) :
    frameRecords ("@routeguidance\n".toList ++ lines.flatMap fun line => line.text ++ ['\n']) =
      lines.map PayloadLine.record := by
  have whole : "@routeguidance\n".toList ++ (lines.flatMap fun line => line.text ++ ['\n']) =
      ("@routeguidance".toList :: lines.map PayloadLine.text).flatMap
        fun line => line ++ ['\n'] := by
    rw [List.flatMap_cons, List.flatMap_map]
    rfl
  have free : ∀ line ∈ "@routeguidance".toList :: lines.map PayloadLine.text, '\n' ∉ line := by
    intro line member
    rcases List.mem_cons.mp member with rfl | inLines
    · decide
    · obtain ⟨payloadLine, inside, rfl⟩ := List.mem_map.mp inLines
      exact PayloadLine.newline_not_mem_text (plain payloadLine inside)
  have header : lineRecord "@routeguidance".toList = none := by decide
  have records : (lines.map PayloadLine.text).filterMap lineRecord =
      lines.map PayloadLine.record := by
    rw [List.filterMap_map, ← List.filterMap_eq_map]
    exact List.filterMap_congr fun line member => PayloadLine.text_record (plain line member)
  rw [frameRecords, whole, splitOn_lines free, List.filterMap_append,
    List.filterMap_cons_none header, records]
  exact List.append_nil _

open AmapSnapshot in
/-- A key is looked up among the keys of the lines. -/
theorem str_of_lines {data : BusData} {lines : List PayloadLine}
    (records : data.records = lines.map PayloadLine.record) (key : RgdKey) :
    data.str key.text =
      (lines.find? fun line => decide (line.key = key)).map PayloadLine.value := by
  have sameKey : ((fun record : List Char × List Char => decide (record.1 = key.text)) ∘
      PayloadLine.record) = fun line => decide (line.key = key) := by
    funext line
    exact decide_eq_decide.mpr RgdKey.text_injective.eq_iff
  rw [BusData.str, records, List.find?_map, sameKey, Option.map_map]
  rfl

namespace AmapV38Compat

open AmapSnapshot

/-- The lines of an inactive frame after its header. -/
def inactiveLines (routeState : Option Int) (sourceSupportsRg : Int) : List PayloadLine :=
  (routeState.toList.map fun number => ⟨.route .routeState, 'n', DecimalText.decimal number⟩) ++
    [⟨.route .maneuverCount, 'n', ['0']⟩, ⟨.route .maneuverList, 's', []⟩,
      ⟨.route .visibleInApp, 'n', ['0']⟩] ++
    if 0 ≤ sourceSupportsRg then
      [⟨.route .sourceSupportsRg, 'n', DecimalText.decimal sourceSupportsRg⟩]
    else []

theorem inactiveText_lines (routeState : Option Int) (sourceSupportsRg : Int) :
    inactiveText routeState sourceSupportsRg =
      "@routeguidance\n".toList ++
        (inactiveLines routeState sourceSupportsRg).flatMap fun line => line.text ++ ['\n'] := by
  have fixed : "maneuver_count:n:0\nmaneuver_list:s:\nvisible_in_app:n:0\n".toList =
      ([⟨.route .maneuverCount, 'n', ['0']⟩, ⟨.route .maneuverList, 's', []⟩,
        ⟨.route .visibleInApp, 'n', ['0']⟩] : List PayloadLine).flatMap
          fun line => line.text ++ ['\n'] := by decide
  unfold inactiveText inactiveLines
  dsimp only
  rw [fixed]
  cases routeState <;> split_ifs <;>
    simp [PayloadLine.text, RgdKey.text, -String.toList_append]

theorem inactiveLines_plain (routeState : Option Int) (sourceSupportsRg : Int) :
    ∀ line ∈ inactiveLines routeState sourceSupportsRg, line.Plain := by
  have number : ∀ key value, PayloadLine.Plain ⟨.route key, 'n', DecimalText.decimal value⟩ :=
    fun _ _ => ⟨(by decide : 'n' ≠ ':' ∧ 'n' ≠ '\n'),
      DecimalText.not_mem_decimal (by decide) (by decide)⟩
  intro line member
  simp only [inactiveLines, List.mem_append, List.mem_cons, List.mem_map, Option.mem_toList,
    List.not_mem_nil, or_false] at member
  rcases member with ((⟨value, -, rfl⟩ | rfl | rfl | rfl) | supports)
  · exact number _ _
  · exact ⟨by decide, by decide⟩
  · exact ⟨by decide, by decide⟩
  · exact ⟨by decide, by decide⟩
  · split_ifs at supports
    · rw [List.mem_singleton.mp supports]
      exact number _ _
    · cases supports

theorem parseText_inactiveText (routeState : Option Int) (sourceSupportsRg : Int) :
    (parseText (encode (inactiveText routeState sourceSupportsRg))).records =
      (inactiveLines routeState sourceSupportsRg).map PayloadLine.record := by
  rw [parseText_frameRecords, decode_encode, inactiveText_lines,
    frameRecords_lines (inactiveLines_plain _ _)]
  refine List.take_of_length_le ?_
  rw [List.length_map]
  unfold inactiveLines
  cases routeState <;> split_ifs <;> simp [dataMax]

theorem inactiveText_str (routeState : Option Int) (sourceSupportsRg : Int) (key : RgdKey) :
    (parseText (encode (inactiveText routeState sourceSupportsRg))).str key.text =
      ((inactiveLines routeState sourceSupportsRg).find? fun line => decide (line.key = key)).map
        PayloadLine.value :=
  str_of_lines (parseText_inactiveText _ _) key

theorem inactiveText_noDisconnect (routeState : Option Int) (sourceSupportsRg : Int) :
    (parseText (encode (inactiveText routeState sourceSupportsRg))).has
      (RgdKey.route .disconnectReason).text = false := by
  rw [Bool.eq_false_iff, Ne, BusData.has_iff, inactiveText_str]
  unfold inactiveLines
  cases routeState <;> split_ifs <;> simp

theorem inactiveText_routeState {routeState : Option Int}
    (fits : ∀ number ∈ routeState, DecimalText.Fits 32 number) (sourceSupportsRg : Int) :
    (parseText (encode (inactiveText routeState sourceSupportsRg))).numField
      (.route .routeState) (-1) = routeState := by
  rw [BusData.numField_eq_map, inactiveText_str]
  unfold inactiveLines
  cases routeState with
  | none => split_ifs <;> simp
  | some number => simp [parseInt_decimal (fits number rfl)]

theorem inactiveText_sourceSupportsRg (routeState : Option Int) {sourceSupportsRg : Int}
    (fits : DecimalText.Fits 32 sourceSupportsRg) :
    (parseText (encode (inactiveText routeState sourceSupportsRg))).numField
      (.route .sourceSupportsRg) (-1) =
        if 0 ≤ sourceSupportsRg then some sourceSupportsRg else none := by
  rw [BusData.numField_eq_map, inactiveText_str]
  unfold inactiveLines
  cases routeState <;> split_ifs <;> simp [parseInt_decimal fits]

end AmapV38Compat

/-- What the protection of a probed frame does to a record. -/
def protectRecord (removeCount removeList hide : Bool) (record : List Char × List Char) :
    Option (List Char × List Char) :=
  if (removeCount && decide (record.1 = (RgdKey.route .maneuverCount).text)) ||
      (removeList && decide (record.1 = (RgdKey.route .maneuverList).text)) then none
  else if hide && decide (record.1 = (RgdKey.route .visibleInApp).text) then
    some (record.1, "-1".toList)
  else some record

theorem protectRecord_key {removeCount removeList hide : Bool}
    {record changed : List Char × List Char}
    (isChanged : protectRecord removeCount removeList hide record = some changed) :
    changed.1 = record.1 := by
  unfold protectRecord at isChanged
  split_ifs at isChanged
  · exact (Option.some.inj isChanged) ▸ rfl
  · exact (Option.some.inj isChanged) ▸ rfl

/-- The keys that the protection of a frame acts on. -/
def protectedKeys : List RouteKey := [.maneuverCount, .maneuverList, .visibleInApp]

theorem protectRecord_of_other {removeCount removeList hide : Bool} {key : RouteKey}
    (other : key ∉ protectedKeys) {record : List Char × List Char}
    (isKey : record.1 = (RgdKey.route key).text) :
    protectRecord removeCount removeList hide record = some record := by
  have differs : ∀ kept ∈ protectedKeys, record.1 ≠ (RgdKey.route kept).text := by
    intro kept inside same
    have keys : RgdKey.route key = .route kept := RgdKey.text_injective (isKey.symm.trans same)
    cases keys
    exact other inside
  unfold protectRecord
  rw [if_neg, if_neg]
  · simp [differs .visibleInApp (by decide)]
  · simp [differs .maneuverCount (by decide), differs .maneuverList (by decide)]

theorem keyOfLine_eq (key : RouteKey) (line : List Char) :
    (RgdKey.text (.route key) ++ [':']).isPrefixOf (stripReturn line) =
      (lineRecord line).any fun record => decide (record.1 = RgdKey.text (.route key)) := by
  have plain := RgdKey.text_plain (.route key)
  have nonempty := RgdKey.text_ne_nil (.route key)
  generalize RgdKey.text (.route key) = text at plain nonempty
  have colonFree : ':' ∉ text := fun inside => absurd (plain ':' inside) (by decide)
  have notHeader : text.head? ≠ some '@' := by
    cases text with
    | nil => simp
    | cons char rest =>
        intro isHeader
        rw [List.head?_cons, Option.some.injEq] at isHeader
        exact absurd (plain char List.mem_cons_self) (by rw [isHeader]; decide)
  rw [isPrefixOf_stripReturn, Bool.eq_iff_iff, isPrefixOf_iff_lineRecord nonempty notHeader colonFree]
  cases lineRecord line with
  | none => simp
  | some record =>
      obtain ⟨own, value⟩ := record
      simp

namespace AmapRouteGuidance

/-- The count is left out of the protected frame. -/
def removesCount (data : BusData) (router : AmapRouteGuidance) : Bool :=
  data.has (RgdKey.route .maneuverCount).text && decide (router.rawManeuverCount = 0)

def removesList (data : BusData) : Bool :=
  data.has (RgdKey.route .maneuverList).text &&
    !(data.intList (RgdKey.route .maneuverList).text).any (· ≠ [])

theorem frameRecords_protectProbeFrame (payload : List UInt8) (data : BusData)
    (router : AmapRouteGuidance) :
    frameRecords (decode (router.protectProbeFrame payload data)) =
      (frameRecords (decode payload)).filterMap
        (protectRecord (router.removesCount data) (removesList data)
          (decide (router.rawVisibleInApp = 0))) := by
  have countKey : "maneuver_count:".toList = RgdKey.text (.route .maneuverCount) ++ [':'] := by
    decide
  have listKey : "maneuver_list:".toList = RgdKey.text (.route .maneuverList) ++ [':'] := by
    decide
  have visibleKey : "visible_in_app:".toList = RgdKey.text (.route .visibleInApp) ++ [':'] := by
    decide
  have unknown : lineRecord visibleUnknown =
      some (RgdKey.text (.route .visibleInApp), "-1".toList) := by decide
  unfold protectProbeFrame
  dsimp only
  rw [decode_encode]
  refine frameRecords_rewriteLines ?_ ?_ _
  · intro line rewritten lineFree rewrites
    split_ifs at rewrites
    · unfold hideVisibility at rewrites
      split_ifs at rewrites
      · rw [← Option.some.inj rewrites]
        decide
      · rw [← Option.some.inj rewrites]
        exact lineFree
    · rw [← Option.some.inj rewrites]
      exact lineFree
  · intro line
    rw [countKey, listKey, keyOfLine_eq, keyOfLine_eq]
    unfold hideVisibility
    rw [visibleKey, keyOfLine_eq]
    cases read : lineRecord line with
    | none => simp [read]
    | some record =>
        simp only [Option.any_some, Option.bind_some, protectRecord, removesCount, removesList]
        -- a line is dropped, its visibility is hidden, or it stays
        split_ifs <;> simp_all

end AmapRouteGuidance

end CarplayRgi
