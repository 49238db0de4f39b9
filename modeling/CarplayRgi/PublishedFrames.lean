import CarplayRgi.AmapReceiver

/-!
# The route in published frames

A frame of the hook is a snapshot, the end of a route, or a clear.  In each of
them the records of the route stand where the table of the receiver has room,
so a frame that is protected by a probe says the same about the route.
-/

namespace CarplayRgi

open RgdState RouteGuidance

/-- What the hook publishes. -/
inductive PublishedForm (overlay : Bool) : List RgdRecord → Prop
  | snapshot (shown : RgdState) (records : List RgdRecord) : BuiltFrom overlay shown records →
      PublishedForm overlay records
  | ended : PublishedForm overlay endRecords
  | cleared (reason : ClearReason) : PublishedForm overlay (clearRecords reason)

/-- The events publish frames of the hook only. -/
def PublishesForms (overlay : Bool) (events : List HookEvent) : Prop :=
  ∀ event ∈ events, ∀ records, event.published = some records → PublishedForm overlay records

variable {overlay : Bool}

theorem PublishesForms.append {events later : List HookEvent}
    (first : PublishesForms overlay events) (second : PublishesForms overlay later) :
    PublishesForms overlay (events ++ later) := by
  intro event member
  rcases List.mem_append.mp member with inFirst | inSecond
  · exact first event inFirst
  · exact second event inSecond

theorem publishesForms_of_quiet {events : List HookEvent}
    (quiet : ∀ event ∈ events, event.published = none) : PublishesForms overlay events := by
  intro event member records published
  rw [quiet event member] at published
  cases published

theorem publishesForms_nil : PublishesForms overlay [] :=
  publishesForms_of_quiet fun _ member => absurd member List.not_mem_nil

theorem publishesForms_snapshot (stack : RgdKey → List UInt8) (extraMan : Option RgdManeuver)
    (currentUpd : Option RgdUpdate) (state : RgdState) :
    PublishesForms overlay
      (writeBusSnapshotFromCache overlay stack extraMan currentUpd state).2 := by
  intro event member records published
  rcases mem_writeBusSnapshotFromCache member with rfl | snapshot
  · cases published
  · rw [snapshot] at member published
    exact Option.some.inj published ▸ .snapshot _ _ (builtFrom_of_mem member).1

theorem publishesForms_clear (reason : ClearReason) (state : RgdState) :
    PublishesForms overlay (rgdClearState overlay reason state).2 := by
  intro event member records published
  simp only [rgdClearState, List.mem_cons, List.not_mem_nil, or_false] at member
  rcases member with rfl | rfl | rfl
  · cases published
  · cases published
  · exact Option.some.inj published ▸ .cleared reason

theorem publishesForms_handleUpdate (stack : RgdKey → List UInt8) (now : Nat) (upd : RgdUpdate)
    (state : RgdState) : PublishesForms overlay (handleUpdate overlay stack now upd state).2 := by
  obtain ⟨debounced, events, held, -, outcome, result⟩ :=
    handleUpdate_cases overlay stack now upd state
  have quiet : PublishesForms overlay (.routeUpdate upd :: events) := by
    refine publishesForms_of_quiet fun event member => ?_
    rcases List.mem_cons.mp member with rfl | reset
    · rfl
    · obtain ⟨suppressed, rfl⟩ := outcome.events_eq reset
      rfl
  have accepted : PublishesForms overlay [acceptedEvent overlay upd debounced] := by
    refine publishesForms_of_quiet fun event member => ?_
    rw [List.mem_singleton.mp member]
    rfl
  rcases result with ⟨-, result⟩ | ⟨-, result⟩
  · rw [result]
    exact quiet
  · rw [result, ← List.cons_append]
    refine quiet.append ?_
    rcases acceptUpdate_cases overlay stack upd debounced with ⟨-, skipped⟩ | ⟨-, written⟩
    · rw [skipped]
      exact accepted
    · rw [written, ← List.singleton_append]
      exact accepted.append (publishesForms_snapshot _ _ _ _)

theorem publishesForms_rgdHookStep (label : HookLabel) (state : RgdState) :
    PublishesForms overlay (rgdHookStep overlay label state).2 := by
  cases label with
  | message msgid raw now stack =>
      refine PublishesForms.append ?_ ?_
      · unfold rgdLazyInit
        split
        · exact publishesForms_nil
        · exact publishesForms_clear _ _
      refine @handleFrame_cases (fun result => PublishesForms overlay result.2) overlay msgid raw
        now stack _ (publishesForms_handleUpdate _ _ _ _) ?_ ?_ publishesForms_nil
      · rcases handleManeuver_cases overlay stack (rgdParseManeuver raw) (rgdLazyInit overlay state).1
          with skipped | ⟨idx, extraMan, -, -, written⟩
        · rw [skipped]
          exact publishesForms_nil
        · rw [written]
          refine PublishesForms.append ?_ (publishesForms_snapshot _ _ _ _)
          refine publishesForms_of_quiet fun event member => ?_
          rw [slotAssigned_of_mem_rgdSlotForIapIndex member]
          rfl
      · rcases handleLane_cases overlay stack (rgdParseLaneGuidance raw)
            (rgdLazyInit overlay state).1 with skipped | stored | ⟨extraMan, written⟩
        · rw [skipped]
          exact publishesForms_nil
        · rw [stored]
          exact publishesForms_nil
        · rw [written]
          exact publishesForms_snapshot _ _ _ _
  | tick now =>
      dsimp only [rgdHookStep, rgdPeriodicTick]
      split_ifs
      · intro event member records published
        rw [List.mem_singleton.mp member] at published
        exact Option.some.inj published ▸ .ended
      · exact publishesForms_nil
  | clear reason => exact publishesForms_clear _ _

/-- Whatever a run publishes is a frame of the hook. -/
theorem publishesForms_of_run {hook : RgdState} {trace : List HookEvent}
    (run : (rgdHook overlay).Run hook trace) : PublishesForms overlay trace := by
  refine run.invariant (fun _ trace => PublishesForms overlay trace) publishesForms_nil ?_
  intro state next trace events label before _ stepTo
  have eventsEq : (rgdHookStep overlay label state).2 = events :=
    congrArg Prod.snd (Option.some.inj stepTo)
  exact before.append (eventsEq ▸ publishesForms_rgdHookStep label state)

/-- Where the table of the receiver has no room any more, there is no record
with the key. -/
def Reaches (key : RouteKey) (payload : List UInt8) : Prop :=
  ∃ front rest, frameRecords (Utf8Text.decode payload) = front ++ rest ∧
    front.length ≤ dataMax ∧ ∀ record ∈ rest, record.1 ≠ (RgdKey.route key).text

theorem reaches_frameText {key : RouteKey} {front rest : List RgdRecord}
    (short : front.length ≤ dataMax) (absent : ∀ record ∈ rest, record.key ≠ .route key) :
    Reaches key (frameText (front ++ rest)) := by
  have records : frameRecords (Utf8Text.decode (frameText (front ++ rest))) = _ :=
    filterMap_frameText (front ++ rest)
  rw [List.map_append] at records
  refine ⟨_, _, records, by simpa using short, fun record member => ?_⟩
  obtain ⟨original, inside, rfl⟩ := List.mem_map.mp member
  exact fun same => absent original inside (RgdKey.text_injective same)

theorem PublishedForm.reaches {records : List RgdRecord} (form : PublishedForm overlay records)
    {key : RouteKey} (notList : key ≠ .maneuverList) : Reaches key (frameText records) := by
  have whole : ∀ {short : List RgdRecord}, short.length ≤ dataMax →
      Reaches key (frameText short) := by
    intro short fits
    rw [← List.append_nil short]
    exact reaches_frameText fits fun _ member => absurd member List.not_mem_nil
  cases form with
  | ended => exact whole (by decide)
  | cleared reason => exact whole (by cases reason <;> decide)
  | snapshot shown records built =>
      obtain ⟨stack, currentUpd, before, writtenEq⟩ := built
      have recordsEq : (snapshotRecords overlay stack currentUpd before).1 = records :=
        congrArg Prod.fst writtenEq
      rw [← recordsEq]
      simp only [snapshotRecords, List.append_assoc]
      rw [← List.append_assoc (overlayKeys _ _)]
      refine reaches_frameText ?_ ?_
      · have overlayLe := length_overlayKeys overlay (refreshOverlay overlay before)
        have routeLe := writeRouteKeys_length_le (refreshOverlay overlay before)
        rw [List.length_append]
        exact (Nat.add_le_add overlayLe routeLe).trans (by decide)
      · intro record member isRoute
        rcases List.mem_append.mp member with inList | inSlots
        · unfold listKeys at inList
          split_ifs at inList
          · rw [List.mem_singleton.mp inList, maneuverListRecord] at isRoute
            exact notList (RgdKey.route.inj isRoute).symm
          · cases inList
        · rcases List.mem_append.mp inSlots with inSlot | inLane
          · obtain ⟨slot, -, other, keyEq⟩ := key_of_mem_writeListedSlots inSlot
            cases keyEq.symm.trans isRoute
          · obtain ⟨slot, other, keyEq⟩ := key_of_mem_laneRecords inLane
            cases keyEq.symm.trans isRoute

/-- A change of records that acts on those with the key is a change of what a
lookup finds. -/
theorem find?_filterMap_of_acts {Key Value : Type*} [DecidableEq Key] {key : Key}
    {change : Key × Value → Option (Key × Value)} {act : Key × Value → Key × Value}
    (acts : ∀ record, record.1 = key → change record = some (act record))
    (sameKey : ∀ record changed, change record = some changed → changed.1 = record.1)
    (records : List (Key × Value)) :
    (records.filterMap change).find? (fun record => decide (record.1 = key)) =
      (records.find? fun record => decide (record.1 = key)).map act := by
  induction records with
  | nil => rfl
  | cons record records ih =>
      by_cases isKey : record.1 = key
      · have actKey := (sameKey record _ (acts record isKey)).trans isKey
        rw [List.filterMap_cons_some (acts record isKey), List.find?_cons_of_pos (by simpa),
          List.find?_cons_of_pos (by simpa)]
        rfl
      · rw [List.find?_cons_of_neg (by simpa)]
        cases changed : change record with
        | none => rw [List.filterMap_cons_none changed, ih]
        | some result =>
            have stays := sameKey record result changed
            rw [List.filterMap_cons_some changed, List.find?_cons_of_neg (by simpa [stays]), ih]

/-- A lookup among the first records, when there are none with the key after
them. -/
theorem find?_take_of_absent {Record : Type*} {test : Record → Bool} {front rest : List Record}
    {room : Nat} (short : front.length ≤ room) (absent : ∀ record ∈ rest, test record = false) :
    ((front ++ rest).take room).find? test = front.find? test := by
  have noRest : (rest.take (room - front.length)).find? test = none :=
    List.find?_eq_none.mpr fun record member => by
      simpa using absent record (List.mem_of_mem_take member)
  rw [List.take_append, List.take_of_length_le short, List.find?_append, noRest, Option.or_none]

namespace AmapRouteGuidance

/-- A lookup in a protected frame finds what has become of the record. -/
theorem str_protected_of_acts {key : RouteKey} {payload : List UInt8}
    (reaches : Reaches key payload) {data : BusData} {router : AmapRouteGuidance}
    {act : List Char × List Char → List Char × List Char}
    (acts : ∀ record, record.1 = (RgdKey.route key).text →
      protectRecord (router.removesCount data) (removesList data)
        (decide (router.rawVisibleInApp = 0)) record = some (act record)) :
    (parseText (router.protectProbeFrame payload data)).str (RgdKey.route key).text =
      ((parseText payload).records.find? fun record =>
        decide (record.1 = (RgdKey.route key).text)).map fun record => (act record).2 := by
  obtain ⟨front, rest, recordsEq, short, absent⟩ := reaches
  have isAbsent : ∀ record ∈ rest, decide (record.1 = (RgdKey.route key).text) = false :=
    fun record member => by simpa using absent record member
  rw [BusData.str, parseText_frameRecords, parseText_frameRecords, frameRecords_protectProbeFrame,
    recordsEq, List.filterMap_append, find?_take_of_absent short isAbsent, find?_take_of_absent,
    find?_filterMap_of_acts acts fun record changed => protectRecord_key, Option.map_map]
  · rfl
  · exact (List.length_filterMap_le _ _).trans short
  · intro record member
    obtain ⟨original, inside, changed⟩ := List.mem_filterMap.mp member
    rw [protectRecord_key changed]
    exact isAbsent original inside

/-- A protected frame says the same about everything else. -/
theorem str_protectProbeFrame {key : RouteKey} (other : key ∉ protectedKeys)
    {payload : List UInt8} (reaches : Reaches key payload) (data : BusData)
    (router : AmapRouteGuidance) :
    (parseText (router.protectProbeFrame payload data)).str (RgdKey.route key).text =
      (parseText payload).str (RgdKey.route key).text :=
  str_protected_of_acts reaches fun _ isKey => protectRecord_of_other other isKey

/-- A visibility of 0 is hidden in a protected frame. -/
theorem visibleInAppField_protectProbeFrame {payload : List UInt8}
    (reaches : Reaches .visibleInApp payload) {router : AmapRouteGuidance}
    (hidden : router.rawVisibleInApp = 0)
    (present : (parseText payload).has (RgdKey.route .visibleInApp).text = true)
    (data : BusData) :
    visibleInAppField (parseText (router.protectProbeFrame payload data)) = some (-1) := by
  have notCount : (RgdKey.route .visibleInApp).text ≠ (RgdKey.route .maneuverCount).text :=
    fun same => RgdKey.noConfusion (RgdKey.text_injective same) fun key => RouteKey.noConfusion key
  have notList : (RgdKey.route .visibleInApp).text ≠ (RgdKey.route .maneuverList).text :=
    fun same => RgdKey.noConfusion (RgdKey.text_injective same) fun key => RouteKey.noConfusion key
  have str := @str_protected_of_acts _ _ reaches data router
    (fun record => (record.1, "-1".toList)) fun record isKey => by
      simp [protectRecord, isKey, notCount, notList, hidden]
  have isUnknown : (parseInt "-1".toList).getD (-1) = -1 := by decide
  obtain ⟨value, found⟩ := Option.isSome_iff_exists.mp (BusData.has_iff.mp present)
  obtain ⟨record, isFound, -⟩ := Option.map_eq_some_iff.mp found
  rw [isFound, Option.map_some] at str
  rw [visibleInAppField, BusData.numField_eq_map, str, Option.map_some, isUnknown]
  rfl

end AmapRouteGuidance

end CarplayRgi
