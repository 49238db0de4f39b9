import CarplayRgi.PublishedFrames
import CarplayRgi.RgdSlotReading

/-!
# The slots of the receiver mirror the cache

The hook writes a key of a slot only if the cache has a value for it, and the
receiver keeps what it has for a key that is missing.  So a listed slot mirrors
the cached maneuver exactly when whatever the cache lacks is unset in the slot,
and what the cache has comes through the frame.
-/

namespace CarplayRgi

open DecimalText RouteGuidance Utf8Text

namespace RgdState

theorem sanitizeByte_visible (byte : UInt8) :
    0x20 ≤ (BusTextBuilder.sanitizeByte byte).toNat := by
  unfold BusTextBuilder.sanitizeByte
  split_ifs with control
  · decide
  · omega

/-- A text is received unchanged exactly when it has no control characters. -/
theorem receivedText_eq_decode_iff (text : List UInt8) :
    receivedText text = decode text ↔ ∀ byte ∈ text, 0x20 ≤ byte.toNat := by
  constructor
  · intro same byte member
    by_contra control
    have ascii : byte.toNat < 0x80 := by omega
    obtain ⟨before, after, split⟩ := List.append_of_mem member
    have inText : Char.ofNat byte.toNat ∈ decode text := by
      rw [split, decode_append_ascii before after ascii]
      simp
    rw [← same] at inText
    refine TextLine.not_mem_decode ascii ?_ inText
    intro sanitized
    obtain ⟨source, -, isByte⟩ := List.mem_map.mp sanitized
    have visible := sanitizeByte_visible source
    rw [isByte] at visible
    exact control visible
  · intro visible
    have kept : text.map BusTextBuilder.sanitizeByte = text :=
      (List.map_congr_left fun byte member => sanitizeByte_of_le (visible byte member)).trans
        (List.map_id text)
    rw [receivedText, kept]

/-- The number of lanes: none of a linked lane item without lanes. -/
def cachedLaneCount (man : RgdManeuver) : Int :=
  match man.laneGuidance, man.laneGuidanceRawLen with
  | some lanes, _ => lanes.length
  | none, some _ => 0
  | none, none => -1

/-- The fields of a slot of the receiver that are equal to those of the cached
maneuver, and unset where the cache has none. -/
def mirrored (shown : RgdState) (slot : Slot) : ManeuverFields :=
  let man := shown.maneuvers.slotCache slot
  { type := (man.maneuverType.map cachedInt).getD (-1)
    turnAngle := man.exitAngle.getD (-1)
    zLevel := -1
    junctionType := (man.junctionType.map cachedInt).getD (-1)
    drivingSide := (man.drivingSide.map cachedInt).getD (-1)
    distance := (man.distanceBetween.map cachedInt).getD (-1)
    name := man.description.map decode
    afterRoad := man.afterRoadName.map decode
    exitInfo := man.exitInfoStr.map decode
    junctionAngles := man.junctionAngles
    exitAngle := man.exitAngle.getD 1000
    linkedLaneGuidanceIndex := (man.linkedLaneGuidanceIndex.map cachedInt).getD (-1)
    linkedLaneGuidanceSlot :=
      ((man.linkedLaneGuidanceIndex.bind shown.lanes.table.find?).map fun found : Slot =>
        (found.val : Int)).getD (-1)
    ver := shown.publishedVer slot
    lanePositions := man.laneGuidance.map fun lanes => lanes.map fun lane => (lane.position : Int)
    laneCount := cachedLaneCount man
    laneDirections := man.laneGuidance.map fun lanes => lanes.map RgdLane.direction
    laneStatus := man.laneGuidance.map fun lanes => lanes.map fun lane => (lane.status : Int)
    laneAngles := man.laneGuidance.map fun lanes => lanes.map fun lane => some lane.angles }

/-- What the cache lacks is unset in the slot, and what the cache has is
received unchanged: a distance that is an `int`, texts without control
characters, and a list of junction angles that is not empty. -/
@[mk_iff]
structure SlotMirrors (shown : RgdState) (slot : Slot) (kept : ManeuverFields) : Prop where
  type : (shown.maneuvers.slotCache slot).maneuverType = none → kept.type = -1
  turnAngle : (shown.maneuvers.slotCache slot).exitAngle = none → kept.turnAngle = -1
  zLevel : kept.zLevel = -1
  junctionType : (shown.maneuvers.slotCache slot).junctionType = none → kept.junctionType = -1
  drivingSide : (shown.maneuvers.slotCache slot).drivingSide = none → kept.drivingSide = -1
  distance :
    (∀ value ∈ (shown.maneuvers.slotCache slot).distanceBetween, value < 2 ^ 31) ∧
      ((shown.maneuvers.slotCache slot).distanceBetween = none → kept.distance = -1)
  name :
    (∀ text ∈ (shown.maneuvers.slotCache slot).description, ∀ byte ∈ text, 0x20 ≤ byte.toNat) ∧
      ((shown.maneuvers.slotCache slot).description = none → kept.name = none)
  afterRoad :
    (∀ text ∈ (shown.maneuvers.slotCache slot).afterRoadName, ∀ byte ∈ text, 0x20 ≤ byte.toNat) ∧
      ((shown.maneuvers.slotCache slot).afterRoadName = none → kept.afterRoad = none)
  exitInfo :
    (∀ text ∈ (shown.maneuvers.slotCache slot).exitInfoStr, ∀ byte ∈ text, 0x20 ≤ byte.toNat) ∧
      ((shown.maneuvers.slotCache slot).exitInfoStr = none → kept.exitInfo = none)
  junctionAngles :
    (shown.maneuvers.slotCache slot).junctionAngles ≠ some [] ∧
      ((shown.maneuvers.slotCache slot).junctionAngles = none → kept.junctionAngles = none)
  exitAngle : (shown.maneuvers.slotCache slot).exitAngle = none → kept.exitAngle = 1000
  linkedLaneGuidanceIndex :
    (shown.maneuvers.slotCache slot).linkedLaneGuidanceIndex = none →
      kept.linkedLaneGuidanceIndex = -1
  linkedLaneGuidanceSlot :
    (shown.maneuvers.slotCache slot).linkedLaneGuidanceIndex.bind shown.lanes.table.find? = none →
      kept.linkedLaneGuidanceSlot = -1
  lanePositions :
    (shown.maneuvers.slotCache slot).laneGuidanceRawLen = none → kept.lanePositions = none
  laneCount : (shown.maneuvers.slotCache slot).laneGuidanceRawLen = none → kept.laneCount = -1
  laneDirections :
    (shown.maneuvers.slotCache slot).laneGuidanceRawLen = none → kept.laneDirections = none
  laneStatus :
    (shown.maneuvers.slotCache slot).laneGuidanceRawLen = none → kept.laneStatus = none
  laneAngles :
    (shown.maneuvers.slotCache slot).laneGuidanceRawLen = none → kept.laneAngles = none

section Fields

variable {Value : Type*}

theorem getD_mirrors_iff {field : Option Value} {kept default : Value} :
    field.getD kept = field.getD default ↔ (field = none → kept = default) := by
  cases field with
  | none => simp
  | some value => simp

theorem text_mirrors_iff {field : Option (List UInt8)} {kept : Option (List Char)} :
    (field.map fun text => some (receivedText text)).getD kept = field.map decode ↔
      (∀ text ∈ field, ∀ byte ∈ text, 0x20 ≤ byte.toNat) ∧ (field = none → kept = none) := by
  cases field with
  | none => simp
  | some text =>
      rw [Option.map_some, Option.getD_some, Option.map_some, Option.some_inj,
        receivedText_eq_decode_iff]
      simp

theorem readDistance_eq_iff (number : Nat) :
    readDistance number = cachedInt number ↔ number < 2 ^ 31 := by
  unfold readDistance cachedInt
  have fitsIff : Fits 32 (number : Int) ↔ number < 2 ^ 31 := by
    unfold Fits
    norm_num
  rw [← fitsIff]
  constructor
  · intro read
    by_contra large
    rw [parseInt, javaTrim_eq_self (decimal_visible _), parseSigned_decimal, checkWidth,
      if_neg large, Option.getD_none] at read
    omega
  · intro fits
    rw [parseInt_decimal fits, Option.getD_some]

theorem distance_mirrors_iff {field : Option Nat} {kept : Int} :
    (field.map readDistance).getD kept = (field.map cachedInt).getD (-1) ↔
      (∀ value ∈ field, value < 2 ^ 31) ∧ (field = none → kept = -1) := by
  cases field with
  | none => simp
  | some number =>
      rw [Option.map_some, Option.getD_some, Option.map_some, Option.getD_some,
        readDistance_eq_iff]
      simp

theorem intListOf_ne_nil (text : List Char) : intListOf text ≠ some [] := by
  unfold intListOf
  split_ifs
  · intro missing
    cases missing
  · intro empty
    exact List.splitOn_ne_nil _ _ (List.map_eq_nil_iff.mp (Option.some.inj empty))

theorem angles_mirror_iff {field : Option (List Int)} {uninitialised : List UInt8}
    (bounded : ∀ angles ∈ field, AnglesBounded maxManeuverList angles)
    {kept : Option (List Int)} :
    (field.map fun angles => intListOf (receivedText
      (junctionAnglesText uninitialised angles))).getD kept = field ↔
      field ≠ some [] ∧ (field = none → kept = none) := by
  cases field with
  | none => simp
  | some angles =>
      rw [Option.map_some, Option.getD_some]
      by_cases empty : angles = []
      · subst empty
        simp [intListOf_ne_nil]
      · have text : receivedText (commaBytes angles) = commaList angles :=
          receivedText_encode fun char member => Nat.le_of_lt (commaList_visible angles char member)
        rw [junctionAnglesText, if_neg empty, text,
          intListOf_commaList empty (bounded angles rfl).fits]
        simp [empty]

theorem lanes_mirror_iff {field : Option Nat} {kept : Option Value} :
    (field.map fun _ => none).getD kept = none ↔ (field = none → kept = none) := by
  cases field with
  | none => simp
  | some length => simp

theorem exitAngle_mirrors_iff {field : Option Int} {keptTurn keptExit : Int} :
    field.getD (if field.getD keptTurn = keptTurn then keptExit else field.getD keptTurn) =
      field.getD 1000 ↔ (field = none → keptExit = 1000) := by
  cases field with
  | none => simp
  | some angle => simp

end Fields

theorem told_eq_mirrored_iff {stack : RgdKey → List UInt8} {shown : RgdState} {slot : Slot}
    (cached : ManeuverCached (shown.maneuvers.slotCache slot))
    (bounded : JunctionBounded (shown.maneuvers.slotCache slot)) (kept : ManeuverFields) :
    told stack shown slot (shown.maneuvers.slotCache slot) kept = mirrored shown slot ↔
      SlotMirrors shown slot kept := by
  unfold told mirrored cachedLaneCount
  dsimp only
  rw [cached.noLanes, ManeuverFields.mk.injEq, slotMirrors_iff]
  have laneCount : (match (none : Option (List RgdLane)),
      (shown.maneuvers.slotCache slot).laneGuidanceRawLen with
    | some lanes, _ => (lanes.length : Int)
    | none, some _ => 0
    | none, none => -1) =
      ((shown.maneuvers.slotCache slot).laneGuidanceRawLen.map fun _ => (0 : Int)).getD (-1) := by
    cases (shown.maneuvers.slotCache slot).laneGuidanceRawLen with
    | none => rfl
    | some length => rfl
  rw [laneCount, exitAngle_mirrors_iff]
  simp only [Option.map_none, getD_mirrors_iff, text_mirrors_iff,
    Option.map_eq_none_iff, distance_mirrors_iff, angles_mirror_iff bounded, lanes_mirror_iff,
    true_and]

end RgdState

namespace RouteGuidance

/-- A frame without a disconnect reason is read into the slots. -/
theorem onFrame_maneuver {rg : RouteGuidance} {payload : List UInt8} (receives : Receives rg)
    (noKey : (parseText payload).has (RgdKey.route .disconnectReason).text = false) :
    (onFrame evtRgdUpdate payload rg).1.state.maneuver =
      (parse (parseText payload) rg.hasRouteUpdate rg.state).1.maneuver := by
  have noReason := absorb_noReason receives.noReason noKey
  have read : (absorb payload rg).state.maneuver =
      (parse (parseText payload) rg.hasRouteUpdate rg.state).1.maneuver := rfl
  rw [onFrame_of_running receives.running]
  have outcome := dispatch_case (absorb payload rg)
  generalize dispatch (absorb payload rg) = result at outcome
  obtain ⟨after, calls⟩ := result
  cases outcome with
  | disconnected reason => exact absurd noReason reason
  | unchanged | activated | deactivated | updated | silent => exact read

end RouteGuidance

open RgdState

theorem PublishedForm.receives {overlay : Bool} {records : List RgdRecord}
    (form : PublishedForm overlay records) {rg : RouteGuidance} (receives : Receives rg) :
    Receives (onFrame evtRgdUpdate (frameText records) rg).1 := by
  cases form with
  | snapshot shown records built => exact (onFrame_read receives built.no_reason).1
  | ended => exact (receive_end receives).1
  | cleared reason => exact (receive_clear receives reason).1

theorem receives_foldl {overlay : Bool} {events : List HookEvent}
    (forms : PublishesForms overlay events) {rg : RouteGuidance} (receives : Receives rg) :
    Receives (events.foldl receive rg) := by
  induction events generalizing rg with
  | nil => exact receives
  | cons event events ih =>
      refine ih (fun other member => forms other (List.mem_cons_of_mem event member)) ?_
      unfold receive
      cases published : event.published with
      | none => exact receives
      | some records => exact (forms event List.mem_cons_self records published).receives receives

/-- The receiver after the frames of a history, which has been started before. -/
def javaAfter (history : List HookEvent) : RouteGuidance :=
  history.foldl receive (RouteGuidance.start .fresh).1

variable {overlay : Bool} {state : RgdState} {history : List HookEvent}

theorem receives_javaAfter (run : (rgdHook overlay).Run state history) (position : Nat) :
    Receives (javaAfter (history.take position)) :=
  receives_foldl
    (fun event member => publishesForms_of_run run event (List.mem_of_mem_take member)) ⟨rfl, rfl⟩

theorem javaAfter_snapshot {position : Nat} {shown : RgdState} {records : List RgdRecord}
    (published : history[position]? = some (.snapshot shown records)) :
    javaAfter (history.take (position + 1)) =
      (onFrame evtRgdUpdate (frameText records) (javaAfter (history.take position))).1 := by
  unfold javaAfter
  rw [List.take_add_one, published, List.foldl_append]
  rfl

/-- A listed slot of the receiver after a snapshot of a run. -/
theorem javaAfter_slot (run : (rgdHook overlay).Run state history) {position : Nat}
    {shown : RgdState} {records : List RgdRecord}
    (published : history[position]? = some (.snapshot shown records)) {slot : Slot}
    (lists : ListsSlot records slot) :
    ∃ stack, (javaAfter (history.take (position + 1))).state.maneuver slot =
      told stack shown slot (shown.maneuvers.slotCache slot)
        (keptFor shown (javaAfter (history.take position)).state slot) := by
  obtain ⟨shownRun, built⟩ := snapshot_run_at run published
  have cached := ((rgdHook_cachesHold maneuverRules shownRun).maneuver slot).1
  obtain ⟨stack, parsed⟩ := built.parse_slot (rgdHook_listShort shownRun) lists cached
  refine ⟨stack, ?_⟩
  rw [javaAfter_snapshot published,
    onFrame_maneuver (receives_javaAfter run position) built.no_reason, parsed]

/-- Along a run, every listed slot mirrors the cache after every snapshot, if and only
if before every snapshot what the cache lacks is unset in the slot, and what it
has is received unchanged. -/
theorem slots_mirror_cache_iff (run : (rgdHook overlay).Run state history) :
    (∀ position shown records, history[position]? = some (.snapshot shown records) →
      ∀ slot, ListsSlot records slot →
        (javaAfter (history.take (position + 1))).state.maneuver slot = mirrored shown slot) ↔
    ∀ position shown records, history[position]? = some (.snapshot shown records) →
      ∀ slot, ListsSlot records slot →
        SlotMirrors shown slot (keptFor shown (javaAfter (history.take position)).state slot) := by
  refine forall₄_congr fun position shown records published =>
    forall₂_congr fun slot lists => ?_
  obtain ⟨shownRun, -⟩ := snapshot_run_at run published
  obtain ⟨cached, bounded⟩ := (rgdHook_cachesHold maneuverRules shownRun).maneuver slot
  obtain ⟨stack, isTold⟩ := javaAfter_slot run published lists
  rw [isTold, told_eq_mirrored_iff cached bounded]

theorem javaAfter_quiet {position : Nat} {event : HookEvent}
    (found : history[position]? = some event) (quiet : event.published = none) :
    javaAfter (history.take (position + 1)) = javaAfter (history.take position) := by
  unfold javaAfter
  rw [List.take_add_one, found, List.foldl_append]
  exact receive_unpublished quiet _

theorem javaAfter_clear (run : (rgdHook overlay).Run state history) {position : Nat}
    {event : HookEvent} {reason : ClearReason} (found : history[position]? = some event)
    (clears : event.published = some (clearRecords reason)) :
    (javaAfter (history.take (position + 1))).state = .initial := by
  have asEnd (rg : RouteGuidance) :
      receive rg event = receive rg (.endFrame (clearRecords reason)) := by
    rw [receive, clears]
    rfl
  have cleared := (receive_clear (receives_javaAfter run position) reason).2
  unfold javaAfter at cleared ⊢
  rw [List.take_add_one, found, List.foldl_append, Option.toList_some, List.foldl_cons, asEnd]
  exact cleared

/-- A slot that is not listed is left alone. -/
theorem javaAfter_unlisted (run : (rgdHook overlay).Run state history) {position : Nat}
    {shown : RgdState} {records : List RgdRecord}
    (published : history[position]? = some (.snapshot shown records)) {slot : Slot}
    (unlisted : slot ∉ shown.listedSlots) :
    (javaAfter (history.take (position + 1))).state.maneuver slot =
      keptFor shown (javaAfter (history.take position)).state slot := by
  obtain ⟨shownRun, built⟩ := snapshot_run_at run published
  rw [javaAfter_snapshot published,
    onFrame_maneuver (receives_javaAfter run position) built.no_reason,
    built.parse_unlisted (rgdHook_listShort shownRun) unlisted]

/-- Unless the source turns its support off, a slot keeps what it has. -/
theorem keptFor_of_unknown {shown : RgdState}
    (unknown : shown.updateCache.sourceSupportsRouteGuidance = none) (java : State) (slot : Slot) :
    keptFor shown java slot = java.maneuver slot := by
  unfold keptFor
  rw [unknown, if_neg (fun turnsOff => by cases turnsOff.1)]

/-- A 0x5202 with the index 5, a type and a name. -/
def namedFrame (letter : UInt8) : List UInt8 :=
  [0x40, 0x40, 0, 22, 0x52, 0x02, 0, 6, 0, 1, 0, 5, 0, 5, 0, 3, 1, 0, 5, 0, 2, letter]

/-- A list with the maneuver, and the maneuver with its name. -/
def namedLabels : List HookLabel :=
  [.message 0x5201 (listFrame 1 0 5) 1 fun _ => [], .message 0x5202 (namedFrame 65) 2 fun _ => []]

/-- A snapshot that lists slot 0 only, which holds the maneuver with this name. -/
def showsNamed (name : Option (List UInt8)) (shown : RgdState) (records : List RgdRecord) : Bool :=
  listsFirstSlot records && decide (shown.listedSlots = [0]) &&
    decide (shown.updateCache.sourceSupportsRouteGuidance = none) &&
    decide (shown.maneuvers.slotCache 0 =
      { index := some 5, maneuverType := some 1, exitAngle := some 1000, description := name })

/-- A snapshot that lists no slot. -/
def showsNothing (shown : RgdState) (_ : List RgdRecord) : Bool :=
  decide (shown.listedSlots = []) &&
    decide (shown.updateCache.sourceSupportsRouteGuidance = none)

/-- The list is shown before the maneuver, which is shown in slot 0. -/
def namedHistory (history : List HookEvent) : Bool :=
  ([3, 4, 6].all fun position : Nat =>
    (history[position]?).any fun event : HookEvent => decide (event.published = none)) &&
  (history[2]?).any (fun event : HookEvent =>
    decide (event.published = some (clearRecords .init))) &&
  (history[5]?).any (HookEvent.snapshotPasses showsNothing) &&
  (history[7]?).any (HookEvent.snapshotPasses (showsNamed (some [65])))

/-- Into an empty slot, a named maneuver is received unchanged. -/
theorem slotMirrors_named {shown : RgdState} {name : Option (List UInt8)}
    (visible : ∀ text ∈ name, ∀ byte ∈ text, 0x20 ≤ byte.toNat)
    (isNamed : shown.maneuvers.slotCache 0 =
      { index := some 5, maneuverType := some 1, exitAngle := some 1000, description := name }) :
    SlotMirrors shown 0 {} := by
  rw [slotMirrors_iff, isNamed]
  simpa using visible

/-- Before the maneuver arrives, its slot is empty. -/
theorem javaAfter_namedHistory (run : (rgdHook overlay).Run state history)
    (named : namedHistory history = true) :
    (javaAfter (history.take 7)).state.maneuver 0 = {} := by
  simp only [namedHistory, Bool.and_eq_true, List.all_eq_true] at named
  obtain ⟨⟨⟨quiet, clears⟩, nothing⟩, -⟩ := named
  have same (position : Nat) (isQuiet : position ∈ [3, 4, 6]) :
      javaAfter (history.take (position + 1)) = javaAfter (history.take position) := by
    obtain ⟨event, found, unpublished⟩ := Option.any_eq_true _ _ |>.mp (quiet position isQuiet)
    exact javaAfter_quiet found (of_decide_eq_true unpublished)
  obtain ⟨event, found, published⟩ := Option.any_eq_true _ _ |>.mp clears
  have cleared := javaAfter_clear run found (of_decide_eq_true published)
  obtain ⟨shown, records, snapshot, shows⟩ := exists_snapshot_of_passes nothing
  simp only [showsNothing, Bool.and_eq_true, decide_eq_true_eq] at shows
  have unlisted := javaAfter_unlisted run snapshot
    (show (0 : Slot) ∉ shown.listedSlots by rw [shows.1]; exact List.not_mem_nil)
  rw [same 6 (by decide), unlisted, keptFor_of_unknown shows.2, same 4 (by decide),
    same 3 (by decide), cleared]
  rfl

theorem named_maneuver_mirrors : ∃ state history, (rgdHook false).Run state history ∧
    (∃ shown records, history[7]? = some (.snapshot shown records) ∧ ListsSlot records 0) ∧
    ∀ position shown records, history[position]? = some (.snapshot shown records) →
      ∀ slot, ListsSlot records slot →
        (javaAfter (history.take (position + 1))).state.maneuver slot = mirrored shown slot := by
  obtain ⟨state, history, run, checked⟩ := (rgdHook false).exists_run_of_replay namedLabels
    (fun result => namedHistory result.2 && decide (result.2.length = 8) &&
      ((List.range 8).all fun position => decide (position = 5 ∨ position = 7) ||
        !(result.2[position]?).any (HookEvent.snapshotPasses fun _ _ => true)))
    (by decide +kernel)
  simp only [Bool.and_eq_true, decide_eq_true_eq, List.all_eq_true] at checked
  obtain ⟨⟨named, length⟩, onlyTwo⟩ := checked
  have empty := javaAfter_namedHistory run named
  simp only [namedHistory, Bool.and_eq_true] at named
  obtain ⟨⟨-, nothing⟩, isShown⟩ := named
  obtain ⟨early, earlyRecords, earlyFound, earlyShows⟩ := exists_snapshot_of_passes nothing
  obtain ⟨late, lateRecords, lateFound, lateShows⟩ := exists_snapshot_of_passes isShown
  simp only [showsNothing, Bool.and_eq_true, decide_eq_true_eq] at earlyShows
  simp only [showsNamed, Bool.and_eq_true, decide_eq_true_eq] at lateShows
  obtain ⟨⟨⟨lists, listed⟩, unknown⟩, isNamed⟩ := lateShows
  refine ⟨state, history, run, ⟨late, lateRecords, lateFound, listsSlot_of_listsFirstSlot lists⟩,
    (slots_mirror_cache_iff run).mpr fun position shown records found slot listsIt => ?_⟩
  have inShown := (snapshot_run_at run found).2.listsSlot listsIt
  have below : position ∈ List.range 8 := by
    rw [List.mem_range, ← length]
    exact (List.getElem?_eq_some_iff.mp found).1
  have isOne := onlyTwo position below
  rw [found] at isOne
  simp only [Option.any_some, HookEvent.snapshotPasses, Bool.not_true, Bool.or_false,
    decide_eq_true_eq] at isOne
  rcases isOne with rfl | rfl
  · obtain ⟨rfl, rfl⟩ : early = shown ∧ earlyRecords = records := by
      simpa [earlyFound] using found
    rw [earlyShows.1] at inShown
    cases inShown
  · obtain ⟨rfl, rfl⟩ : late = shown ∧ lateRecords = records := by
      simpa [lateFound] using found
    rw [listed, List.mem_singleton] at inShown
    rw [inShown, keptFor_of_unknown unknown, empty]
    have visible : ∀ byte ∈ [(65 : UInt8)], 0x20 ≤ byte.toNat := by simp
    exact slotMirrors_named (fun text isName => Option.mem_some_iff.mp isName ▸ visible) isNamed

/-- A name that is missing when the maneuver is sent again stays in the slot. -/
theorem missing_name_stays :
    ¬ ∀ (state : RgdState) (history : List HookEvent), (rgdHook false).Run state history →
      ∀ position shown records, history[position]? = some (.snapshot shown records) →
        ∀ slot, ListsSlot records slot →
          (javaAfter (history.take (position + 1))).state.maneuver slot = mirrored shown slot := by
  intro mirrors
  obtain ⟨state, history, run, checked⟩ := (rgdHook false).exists_run_of_replay
    (namedLabels ++ [.message 0x5202 (maneuverFrame 0 5 1) 3 fun _ => []])
    (fun result => (result.2[7]?).any (HookEvent.snapshotPasses (showsNamed (some [65]))) &&
      (result.2[8]?).any (HookEvent.snapshotPasses (showsNamed none)))
    (by decide +kernel)
  rw [Bool.and_eq_true] at checked
  obtain ⟨first, firstRecords, firstFound, firstShows⟩ := exists_snapshot_of_passes checked.1
  obtain ⟨last, lastRecords, lastFound, lastShows⟩ := exists_snapshot_of_passes checked.2
  simp only [showsNamed, Bool.and_eq_true, decide_eq_true_eq] at firstShows lastShows
  obtain ⟨⟨⟨firstLists, -⟩, -⟩, firstNamed⟩ := firstShows
  obtain ⟨⟨⟨lastLists, -⟩, unknown⟩, lastUnnamed⟩ := lastShows
  have firstMirrors := mirrors state history run 7 first firstRecords firstFound 0
    (listsSlot_of_listsFirstSlot firstLists)
  have lastMirrors := mirrors state history run 8 last lastRecords lastFound 0
    (listsSlot_of_listsFirstSlot lastLists)
  obtain ⟨stack, isTold⟩ := javaAfter_slot run lastFound (listsSlot_of_listsFirstSlot lastLists)
  have named : (mirrored first 0).name = some (decode [65]) := by
    unfold mirrored
    rw [firstNamed]
    rfl
  have kept : (told stack last 0 (last.maneuvers.slotCache 0) (mirrored first 0)).name =
      (mirrored first 0).name := by
    unfold told
    rw [lastUnnamed]
    rfl
  have unset : (mirrored last 0).name = none := by
    unfold mirrored
    rw [lastUnnamed]
    rfl
  rw [keptFor_of_unknown unknown, firstMirrors, lastMirrors] at isTold
  rw [isTold, kept, named] at unset
  cases unset

end CarplayRgi
