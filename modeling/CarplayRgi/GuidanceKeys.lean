import CarplayRgi.DecimalText
import Mathlib.Data.List.Nodup
import Mathlib.Tactic.NormNum

/-!
# Keys of a route-guidance frame

A frame is a list of records `key:type:value`.  Its keys are those of the
route, and those of one maneuver slot or one lane-guidance slot.  Different
keys have different texts, and no text holds a delimiter of the record syntax,
so a record is found by its key.
-/

namespace CarplayRgi

def maneuverCacheSize : Nat := 32

instance : NeZero maneuverCacheSize := ⟨by decide⟩

/-- A slot of the maneuver cache or of the lane-guidance cache. -/
abbrev Slot := Fin maneuverCacheSize

inductive RouteKey where
  | routeState | maneuverState | distDestM | distManeuverM | etaSeconds
  | timeRemainingSeconds | currentRoad | destination | distDestUnits
  | distManeuverUnits | distDestStr | distManeuverStr | laneGuidanceIndex
  | laneGuidanceSlot | laneGuidanceTotal | laneGuidanceShowing | sourceName
  | sourceSupportsRg | visibleInApp | componentCount | componentIds
  | maneuverCount | maneuverList | disconnectReason | amapRouteGeneration
  | amapRouteUpdateSeq | amapHeadIapIndex | amapHeadAligned | amapDistanceFresh
  deriving DecidableEq

inductive ManeuverKey where
  | type | turnAngle | exitAngle | zLevel | zlevel | junctionType | drivingSide
  | distance | distanceStr | distanceUnits | name | afterRoad | junctionAngles
  | ver | laneGuidanceLen | linkedLaneGuidanceIndex | linkedLaneGuidanceSlot
  | laneCount | lanePositions | laneDirections | laneStatus | laneDesc
  | laneAngles | exitInfoLen | exitInfo
  deriving DecidableEq

inductive LaneKey where
  | index | laneCount | lanePositions | laneDirections | laneStatus | laneDesc
  | laneAngles
  deriving DecidableEq

inductive RgdKey where
  | route (key : RouteKey)
  | maneuver (slot : Slot) (key : ManeuverKey)
  | lane (slot : Slot) (key : LaneKey)
  deriving DecidableEq

def RouteKey.text : RouteKey → List Char
  | .routeState => "route_state".toList
  | .maneuverState => "maneuver_state".toList
  | .distDestM => "dist_dest_m".toList
  | .distManeuverM => "dist_maneuver_m".toList
  | .etaSeconds => "eta_seconds".toList
  | .timeRemainingSeconds => "time_remaining_seconds".toList
  | .currentRoad => "current_road".toList
  | .destination => "destination".toList
  | .distDestUnits => "dist_dest_units".toList
  | .distManeuverUnits => "dist_maneuver_units".toList
  | .distDestStr => "dist_dest_str".toList
  | .distManeuverStr => "dist_maneuver_str".toList
  | .laneGuidanceIndex => "lane_guidance_index".toList
  | .laneGuidanceSlot => "lane_guidance_slot".toList
  | .laneGuidanceTotal => "lane_guidance_total".toList
  | .laneGuidanceShowing => "lane_guidance_showing".toList
  | .sourceName => "source_name".toList
  | .sourceSupportsRg => "source_supports_rg".toList
  | .visibleInApp => "visible_in_app".toList
  | .componentCount => "component_count".toList
  | .componentIds => "component_ids".toList
  | .maneuverCount => "maneuver_count".toList
  | .maneuverList => "maneuver_list".toList
  | .disconnectReason => "disconnect_reason".toList
  | .amapRouteGeneration => "amap_route_generation".toList
  | .amapRouteUpdateSeq => "amap_route_update_seq".toList
  | .amapHeadIapIndex => "amap_head_iap_index".toList
  | .amapHeadAligned => "amap_head_aligned".toList
  | .amapDistanceFresh => "amap_distance_fresh".toList

def ManeuverKey.text : ManeuverKey → List Char
  | .type => "type".toList
  | .turnAngle => "turn_angle".toList
  | .exitAngle => "exit_angle".toList
  | .zLevel => "z_level".toList
  | .zlevel => "zlevel".toList
  | .junctionType => "junction_type".toList
  | .drivingSide => "driving_side".toList
  | .distance => "distance".toList
  | .distanceStr => "distance_str".toList
  | .distanceUnits => "distance_units".toList
  | .name => "name".toList
  | .afterRoad => "after_road".toList
  | .junctionAngles => "junction_angles".toList
  | .ver => "ver".toList
  | .laneGuidanceLen => "lane_guidance_len".toList
  | .linkedLaneGuidanceIndex => "linked_lane_guidance_index".toList
  | .linkedLaneGuidanceSlot => "linked_lane_guidance_slot".toList
  | .laneCount => "lane_count".toList
  | .lanePositions => "lane_positions".toList
  | .laneDirections => "lane_directions".toList
  | .laneStatus => "lane_status".toList
  | .laneDesc => "lane_desc".toList
  | .laneAngles => "lane_angles".toList
  | .exitInfoLen => "exit_info_len".toList
  | .exitInfo => "exit_info".toList

def LaneKey.text : LaneKey → List Char
  | .index => "index".toList
  | .laneCount => "lane_count".toList
  | .lanePositions => "lane_positions".toList
  | .laneDirections => "lane_directions".toList
  | .laneStatus => "lane_status".toList
  | .laneDesc => "lane_desc".toList
  | .laneAngles => "lane_angles".toList

def RouteKey.all : List RouteKey :=
  [.routeState, .maneuverState, .distDestM, .distManeuverM, .etaSeconds,
   .timeRemainingSeconds, .currentRoad, .destination, .distDestUnits, .distManeuverUnits,
   .distDestStr, .distManeuverStr, .laneGuidanceIndex, .laneGuidanceSlot,
   .laneGuidanceTotal, .laneGuidanceShowing, .sourceName, .sourceSupportsRg,
   .visibleInApp, .componentCount, .componentIds, .maneuverCount, .maneuverList,
   .disconnectReason, .amapRouteGeneration, .amapRouteUpdateSeq, .amapHeadIapIndex,
   .amapHeadAligned, .amapDistanceFresh]

def ManeuverKey.all : List ManeuverKey :=
  [.type, .turnAngle, .exitAngle, .zLevel, .zlevel, .junctionType, .drivingSide,
   .distance, .distanceStr, .distanceUnits, .name, .afterRoad, .junctionAngles, .ver,
   .laneGuidanceLen, .linkedLaneGuidanceIndex, .linkedLaneGuidanceSlot, .laneCount,
   .lanePositions, .laneDirections, .laneStatus, .laneDesc, .laneAngles, .exitInfoLen,
   .exitInfo]

def LaneKey.all : List LaneKey :=
  [.index, .laneCount, .lanePositions, .laneDirections, .laneStatus, .laneDesc,
   .laneAngles]

def slotText (slot : Slot) : List Char :=
  DecimalText.decimal slot.val

/-- The text of a key: `m3_type` and `lg3_index` for slot 3. -/
def RgdKey.text : RgdKey → List Char
  | .route key => key.text
  | .maneuver slot key => 'm' :: (slotText slot ++ '_' :: key.text)
  | .lane slot key => 'l' :: 'g' :: (slotText slot ++ '_' :: key.text)

namespace RgdKey

open DecimalText

theorem slotText_injective : Function.Injective slotText := by
  intro first second same
  have fits : ∀ slot : Slot, Fits 32 (slot.val : Int) := by
    intro slot
    have bound := slot.isLt
    simp only [maneuverCacheSize] at bound
    constructor <;> norm_num
    omega
  have parsed := congrArg (parseSigned 32) same
  simp only [slotText, parseSigned_decimal, checkWidth_of_fits (fits _),
    Option.some.injEq] at parsed
  exact Fin.ext (by exact_mod_cast parsed)

theorem isDigit_of_mem_slotText {slot : Slot} {char : Char} (member : char ∈ slotText slot) :
    char.isDigit = true := by
  unfold slotText decimal at member
  rw [if_neg (by omega)] at member
  exact isDigit_of_mem_toDigits member

theorem slotText_cons (slot : Slot) :
    ∃ digit digits, slotText slot = digit :: digits ∧ digit.isDigit = true := by
  cases text : slotText slot with
  | nil => exact absurd text (decimal_ne_nil _)
  | cons digit digits =>
      exact ⟨digit, digits, rfl, isDigit_of_mem_slotText (by rw [text]; exact List.mem_cons_self)⟩

theorem slotText_append_inj {first second : Slot} {left right : List Char}
    (same : slotText first ++ '_' :: left = slotText second ++ '_' :: right) :
    first = second ∧ left = right := by
  have noUnderscore : ∀ slot : Slot, '_' ∉ slotText slot := by
    intro slot member
    exact absurd (isDigit_of_mem_slotText member) (by decide)
  -- The slot is what stands before the first underscore.
  have prefixes : ∀ (slot : Slot) (rest : List Char),
      (slotText slot ++ '_' :: rest).takeWhile (· != '_') = slotText slot := by
    intro slot rest
    have noStop : ∀ char ∈ slotText slot, (char != '_') = true := by
      intro char member
      simpa using fun equal : char = '_' => noUnderscore slot (equal ▸ member)
    rw [List.takeWhile_append_of_pos noStop]
    simp
  have slots : first = second := by
    apply slotText_injective
    rw [← prefixes first left, same, prefixes]
  subst slots
  exact ⟨rfl, by simpa using same⟩

/-- How the text of a route key begins: never like that of a slot key. -/
theorem routeKey_text_cons (key : RouteKey) :
    ∃ first second rest, key.text = first :: second :: rest ∧ second.isDigit = false ∧
      ¬ (first = 'l' ∧ second = 'g') := by
  cases key <;> exact ⟨_, _, _, rfl, by decide, by decide⟩

theorem mem_all_routeKeys (key : RouteKey) : key ∈ RouteKey.all := by
  cases key <;> decide

theorem mem_all_maneuverKeys (key : ManeuverKey) : key ∈ ManeuverKey.all := by
  cases key <;> decide

theorem mem_all_laneKeys (key : LaneKey) : key ∈ LaneKey.all := by
  cases key <;> decide

theorem routeKey_text_injective : Function.Injective RouteKey.text := by
  intro first second same
  have distinct : (RouteKey.all.map RouteKey.text).Nodup := by decide +kernel
  exact List.inj_on_of_nodup_map distinct (mem_all_routeKeys first) (mem_all_routeKeys second) same

theorem maneuverKey_text_injective : Function.Injective ManeuverKey.text := by
  intro first second same
  have distinct : (ManeuverKey.all.map ManeuverKey.text).Nodup := by decide +kernel
  exact List.inj_on_of_nodup_map distinct (mem_all_maneuverKeys first)
    (mem_all_maneuverKeys second) same

theorem laneKey_text_injective : Function.Injective LaneKey.text := by
  intro first second same
  have distinct : (LaneKey.all.map LaneKey.text).Nodup := by decide +kernel
  exact List.inj_on_of_nodup_map distinct (mem_all_laneKeys first) (mem_all_laneKeys second) same

/-- Different keys have different texts. -/
theorem text_injective : Function.Injective text := by
  intro first second same
  cases first with
  | route key =>
      obtain ⟨a, b, rest, keyText, notDigit, notLane⟩ := routeKey_text_cons key
      cases second with
      | route other => exact congrArg route (routeKey_text_injective same)
      | maneuver slot other =>
          obtain ⟨digit, digits, slotEq, isDigit⟩ := slotText_cons slot
          simp only [text, keyText, slotEq, List.cons_append, List.cons.injEq] at same
          simp [same.2.1, isDigit] at notDigit
      | lane slot other =>
          simp only [text, keyText, List.cons.injEq] at same
          exact absurd ⟨same.1, same.2.1⟩ notLane
  | maneuver slot key =>
      obtain ⟨digit, digits, slotEq, isDigit⟩ := slotText_cons slot
      cases second with
      | route other =>
          obtain ⟨a, b, rest, keyText, notDigit, -⟩ := routeKey_text_cons other
          simp only [text, keyText, slotEq, List.cons_append, List.cons.injEq] at same
          simp [← same.2.1, isDigit] at notDigit
      | maneuver other otherKey =>
          simp only [text, List.cons.injEq, true_and] at same
          obtain ⟨rfl, keys⟩ := slotText_append_inj same
          rw [maneuverKey_text_injective keys]
      | lane other otherKey => simp [text] at same
  | lane slot key =>
      cases second with
      | route other =>
          obtain ⟨a, b, rest, keyText, -, notLane⟩ := routeKey_text_cons other
          simp only [text, keyText, List.cons.injEq] at same
          exact absurd ⟨same.1.symm, same.2.1.symm⟩ notLane
      | maneuver other otherKey => simp [text] at same
      | lane other otherKey =>
          simp only [text, List.cons.injEq, true_and] at same
          obtain ⟨rfl, keys⟩ := slotText_append_inj same
          rw [laneKey_text_injective keys]

/-- The characters of a key: letters, digits and underscores below `0x80`. -/
def plainChar (char : Char) : Bool :=
  char.isAlphanum || char == '_'

theorem text_plain (key : RgdKey) : ∀ char ∈ key.text, plainChar char = true := by
  have slots : ∀ slot : Slot, ∀ char ∈ slotText slot, plainChar char = true := by
    intro slot char member
    simp [plainChar, Char.isAlphanum, isDigit_of_mem_slotText member]
  have maneuverKeys (key : ManeuverKey) : ∀ char ∈ key.text, plainChar char = true :=
    List.all_eq_true.mp (by cases key <;> rfl)
  have laneKeys (key : LaneKey) : ∀ char ∈ key.text, plainChar char = true :=
    List.all_eq_true.mp (by cases key <;> rfl)
  have routeKeys (key : RouteKey) : ∀ char ∈ key.text, plainChar char = true :=
    List.all_eq_true.mp (by cases key <;> rfl)
  intro char member
  cases key with
  | route key => exact routeKeys key char member
  | maneuver slot key =>
      simp only [text, List.mem_cons, List.mem_append] at member
      rcases member with rfl | inSlot | rfl | inKey
      · rfl
      · exact slots slot char inSlot
      · rfl
      · exact maneuverKeys key char inKey
  | lane slot key =>
      simp only [text, List.mem_cons, List.mem_append] at member
      rcases member with rfl | rfl | inSlot | rfl | inKey
      · rfl
      · rfl
      · exact slots slot char inSlot
      · rfl
      · exact laneKeys key char inKey

theorem text_ne_nil (key : RgdKey) : key.text ≠ [] := by
  cases key with
  | route key =>
      obtain ⟨_, _, _, keyText, _⟩ := routeKey_text_cons key
      simp [text, keyText]
  | maneuver slot key => simp [text]
  | lane slot key => simp [text]

end RgdKey

end CarplayRgi
