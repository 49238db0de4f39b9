import CarplayRgi.RgdSlotVersions

/-!
# The slots of the maneuvers

No two slots hold the same maneuver index, an accepted maneuver stays in the
slot of its index, and a listed maneuver keeps its slot until the map is reset.
There are more slots than listed maneuvers, so the oldest slot that is not
listed can always be found.
-/

namespace CarplayRgi

namespace RgdState

/-- Looking a slot up for an index puts the index into it and stamps it. -/
theorem rgdSlotForIapIndex_table (idx : Nat) (state : RgdState) :
    (rgdSlotForIapIndex idx state).2.1.maneuvers.table =
      state.maneuvers.table.assign (rgdSlotForIapIndex idx state).1 idx := by
  unfold rgdSlotForIapIndex
  cases foundEq : state.maneuvers.table.find? idx with
  | some slot =>
      have holds := SlotTable.find?_key foundEq
      have sameKeys : Function.update state.maneuvers.table.key slot idx =
          state.maneuvers.table.key := by
        rw [← holds]
        exact Function.update_eq_self slot state.maneuvers.table.key
      simp only [SlotTable.assign, sameKeys]
  | none =>
      cases state.maneuvers.table.find? emptyIndex with
      | some slot => rfl
      | none => rfl

/-- The slot for an index held the index before, or no slot did and it was
empty or the one given up. -/
theorem rgdSlotForIapIndex_slot (idx : Nat) (state : RgdState) :
    state.maneuvers.table.key (rgdSlotForIapIndex idx state).1 = idx ∨
    ((∀ slot, state.maneuvers.table.key slot ≠ idx) ∧
      (state.maneuvers.table.key (rgdSlotForIapIndex idx state).1 = emptyIndex ∨
        (rgdSlotForIapIndex idx state).1 =
          state.maneuvers.table.victim state.rgdIsActiveIndex)) := by
  unfold rgdSlotForIapIndex
  cases foundEq : state.maneuvers.table.find? idx with
  | some slot => exact .inl (SlotTable.find?_key foundEq)
  | none =>
      refine .inr ⟨SlotTable.find?_eq_none.mp foundEq, ?_⟩
      cases freeEq : state.maneuvers.table.find? emptyIndex with
      | some slot => exact .inl (SlotTable.find?_key freeEq)
      | none => exact .inr rfl

theorem rgdLookupSlot_table (idx : Nat) (map : ManeuverMap) :
    (rgdLookupSlot idx map).2.table = map.table ∨
      ∃ slot, (rgdLookupSlot idx map).2.table = map.table.touch slot := by
  unfold rgdLookupSlot
  cases map.table.find? idx with
  | none => exact .inl rfl
  | some slot => exact .inr ⟨slot, rfl⟩

theorem rgdLookupSlot_cache (idx : Nat) (map : ManeuverMap) :
    (rgdLookupSlot idx map).2.slotCache = map.slotCache := by
  unfold rgdLookupSlot
  cases map.table.find? idx <;> rfl

theorem rgdLookupSlot_holds {idx : Nat} {map : ManeuverMap} {slot : Slot}
    (found : (rgdLookupSlot idx map).1 = some slot) : map.table.key slot = idx := by
  unfold rgdLookupSlot at found
  cases foundEq : map.table.find? idx with
  | none =>
      rw [foundEq] at found
      cases found
  | some other =>
      rw [foundEq] at found
      cases found
      exact SlotTable.find?_key foundEq

theorem rgdResolveLinkedLanes_table (slot : Slot) (map : ManeuverMap) :
    (rgdResolveLinkedLanes slot map).table = map.table ∨
      ∃ other, (rgdResolveLinkedLanes slot map).table = map.table.touch other := by
  unfold rgdResolveLinkedLanes
  dsimp only
  split
  · split
    · exact rgdLookupSlot_table _ map
    · exact rgdLookupSlot_table _ map
  · exact .inl rfl

theorem rgdBackpropagateLinkedLanes_table (source : Slot) (map : ManeuverMap) :
    (rgdBackpropagateLinkedLanes source map).table = map.table := by
  unfold rgdBackpropagateLinkedLanes
  split
  · rfl
  · split <;> rfl

/-- A slot with lanes of its own, and the source itself, are left alone. -/
theorem rgdBackpropagateLinkedLanes_cache {source slot : Slot} {map : ManeuverMap}
    (kept : slot = source ∨ (map.slotCache slot).laneGuidance ≠ none) :
    (rgdBackpropagateLinkedLanes source map).slotCache slot = map.slotCache slot := by
  unfold rgdBackpropagateLinkedLanes
  split
  · rfl
  · split
    · rfl
    · dsimp only
      split
      · rfl
      · rename_i other
        unfold takeLanes
        exact if_neg fun ⟨noLanes, _⟩ => (kept.resolve_left other) noLanes

/-- A slot holds a maneuver, with lanes that it may have taken from the
maneuver that it links to. -/
def HoldsManeuver (map : ManeuverMap) (slot : Slot) (man : RgdManeuver) : Prop :=
  map.slotCache slot = man ∨
    ∃ linked source lanes, man.laneGuidance = none ∧
      man.linkedLaneGuidanceIndex = some linked ∧ map.table.key source = linked ∧
      (map.slotCache source).laneGuidance = some lanes ∧
      map.slotCache slot = { man with laneGuidance := some lanes }

theorem rgdResolveLinkedLanes_holds {slot : Slot} {map : ManeuverMap} {man : RgdManeuver}
    (cached : map.slotCache slot = man) :
    HoldsManeuver (rgdResolveLinkedLanes slot map) slot man := by
  unfold rgdResolveLinkedLanes
  simp only [cached]
  split
  · rename_i linked linkedEq noLanes
    split
    · left
      rw [rgdLookupSlot_cache]
      exact cached
    · rename_i lanes lendable
      right
      obtain ⟨source, found, lends⟩ := Option.bind_eq_some_iff.mp lendable
      have ownLanes : (map.slotCache source).laneGuidance = some lanes :=
        (Option.filter_eq_some_iff.mp lends).1
      have different : source ≠ slot := by
        rintro rfl
        rw [cached, noLanes] at ownLanes
        cases ownLanes
      refine ⟨linked, source, lanes, noLanes, linkedEq, ?_, ?_, Function.update_self ..⟩
      · have sourceKey := rgdLookupSlot_holds found
        rcases rgdLookupSlot_table linked map with same | ⟨other, touched⟩
        · dsimp only
          rw [same]
          exact sourceKey
        · dsimp only
          rw [touched]
          exact sourceKey
      · dsimp only
        rw [Function.update_of_ne different]
        exact ownLanes
  · exact .inl cached

theorem HoldsManeuver.backpropagate {slot : Slot} {map : ManeuverMap} {man : RgdManeuver}
    (holds : HoldsManeuver map slot man) :
    HoldsManeuver (rgdBackpropagateLinkedLanes slot map) slot man := by
  have own := @rgdBackpropagateLinkedLanes_cache slot slot map (.inl rfl)
  rcases holds with whole | ⟨linked, source, lanes, noLanes, linkedEq, sourceKey, ownLanes, cached⟩
  · exact .inl (own.trans whole)
  · have kept := @rgdBackpropagateLinkedLanes_cache slot source map
      (.inr (by rw [ownLanes]; exact Option.some_ne_none lanes))
    refine .inr ⟨linked, source, lanes, noLanes, linkedEq, ?_, ?_, own.trans cached⟩
    · rw [rgdBackpropagateLinkedLanes_table]
      exact sourceKey
    · rw [kept]
      exact ownLanes

theorem cacheManeuver_holds (slot : Slot) (man : RgdManeuver) (map : ManeuverMap) :
    HoldsManeuver (cacheManeuver slot man map) slot man :=
  (rgdResolveLinkedLanes_holds (Function.update_self slot man map.slotCache)).backpropagate

theorem cacheManeuver_table (slot : Slot) (man : RgdManeuver) (map : ManeuverMap) :
    (cacheManeuver slot man map).table = map.table ∨
      ∃ other, (cacheManeuver slot man map).table = map.table.touch other := by
  unfold cacheManeuver
  rw [rgdBackpropagateLinkedLanes_table]
  exact rgdResolveLinkedLanes_table slot _

/-- Storing a maneuver puts its index into the slot found for it, and stamps
one or two slots. -/
theorem storeManeuver_table (idx : Nat) (man : RgdManeuver) (state : RgdState) :
    (storeManeuver idx man state).maneuvers.table =
        state.maneuvers.table.assign (rgdSlotForIapIndex idx state).1 idx ∨
      ∃ other, (storeManeuver idx man state).maneuvers.table =
        (state.maneuvers.table.assign (rgdSlotForIapIndex idx state).1 idx).touch other := by
  unfold storeManeuver
  dsimp only
  rw [← rgdSlotForIapIndex_table]
  exact cacheManeuver_table ..

theorem storeManeuver_key (idx : Nat) (man : RgdManeuver) (state : RgdState) :
    (storeManeuver idx man state).maneuvers.table.key =
      Function.update state.maneuvers.table.key (rgdSlotForIapIndex idx state).1 idx := by
  rcases storeManeuver_table idx man state with stored | ⟨other, stored⟩
  · rw [stored]
    rfl
  · rw [stored]
    rfl

theorem storeManeuver_currentList (idx : Nat) (man : RgdManeuver) (state : RgdState) :
    (storeManeuver idx man state).currentList = state.currentList := by
  obtain ⟨maneuvers, storedEq⟩ := storeManeuver_frame idx man state
  rw [storedEq]

/-- The maneuver slots and the list of a hook that has been initialised.  The
clock has made fewer than `2 ^ 31` ticks before each step. -/
structure SlotsKept (state : RgdState) : Prop where
  apart : state.maneuvers.table.Apart emptyIndex
  aged : state.maneuvers.table.Aged
  young : state.maneuvers.table.clock ≤ 2 ^ 31 + 1
  listed : state.listedIndexes.length ≤ maxManeuverList
  named : emptyIndex ∉ state.listedIndexes

theorem SlotsKept.congr {before after : RgdState} (kept : SlotsKept before)
    (maneuvers : after.maneuvers = before.maneuvers)
    (list : after.currentList = before.currentList) : SlotsKept after := by
  obtain ⟨apart, aged, young, listed, named⟩ := kept
  constructor <;> simp only [maneuvers, listedIndexes, list]
  · exact apart
  · exact aged
  · exact young
  · exact listed
  · exact named

theorem slotsKept_reset (state : RgdState) : SlotsKept (rgdManeuverMapReset state) :=
  ⟨SlotTable.apart_cleared emptyIndex, fun _ => Nat.le_refl 0, Nat.zero_le _, Nat.zero_le _,
    List.not_mem_nil⟩

/-- Some slot that is not listed is found among all slots. -/
theorem SlotsKept.finds_unlisted {state : RgdState} (kept : SlotsKept state) :
    (state.maneuvers.table.oldest? fun slot =>
      !state.rgdIsActiveIndex (state.maneuvers.table.key slot)).isSome = true := by
  have fewer : state.listedIndexes.length < maneuverCacheSize :=
    Nat.lt_of_le_of_lt kept.listed (by decide)
  obtain ⟨slot, unlisted⟩ := kept.apart.exists_not_mem kept.named fewer
  refine @SlotTable.oldest?_isSome _ _ _ _ _ slot ?_ ?_
  · simpa [rgdIsActiveIndex] using unlisted
  · have stampLe := kept.aged slot
    have clockLe := kept.young
    omega

/-- A slot with a listed index is not the one given to another index. -/
theorem SlotsKept.keeps_listed {state : RgdState} (kept : SlotsKept state) {slot : Slot}
    (listed : state.maneuvers.table.key slot ∈ state.listedIndexes) (idx : Nat)
    (man : RgdManeuver) :
    (storeManeuver idx man state).maneuvers.table.key slot = state.maneuvers.table.key slot := by
  rw [storeManeuver_key]
  by_cases same : slot = (rgdSlotForIapIndex idx state).1
  · rw [← same, Function.update_self]
    rcases rgdSlotForIapIndex_slot idx state with holds | ⟨-, isEmpty | isVictim⟩
    · rw [← same] at holds
      exact holds.symm
    · rw [← same] at isEmpty
      rw [isEmpty] at listed
      exact absurd listed kept.named
    · have unlisted := SlotTable.victim_not_kept kept.finds_unlisted
      rw [← isVictim, ← same] at unlisted
      rw [rgdIsActiveIndex, List.contains_iff_mem.mpr listed] at unlisted
      cases unlisted
  · rw [Function.update_of_ne same]

/-- Only the slot found for an index can hold it. -/
theorem SlotsKept.only {state : RgdState} (kept : SlotsKept state) {idx : Nat}
    (named : idx ≠ emptyIndex) {slot : Slot} (holds : state.maneuvers.table.key slot = idx) :
    slot = (rgdSlotForIapIndex idx state).1 := by
  rcases rgdSlotForIapIndex_slot idx state with found | ⟨nowhere, -⟩
  · exact kept.apart slot _ (holds.trans found.symm) (holds ▸ named)
  · exact absurd holds (nowhere slot)

theorem SlotsKept.store {state : RgdState} (kept : SlotsKept state)
    (young : state.maneuvers.table.clock < 2 ^ 31) {idx : Nat} (named : idx ≠ emptyIndex)
    (man : RgdManeuver) : SlotsKept (storeManeuver idx man state) := by
  have assigned : (state.maneuvers.table.assign (rgdSlotForIapIndex idx state).1 idx).Apart
      emptyIndex := kept.apart.assign fun other holds => kept.only named holds
  obtain ⟨aged, clockEq⟩ := @SlotTable.Aged.touch Nat maneuverCacheSize (2 ^ 32)
    { state.maneuvers.table with
      key := Function.update state.maneuvers.table.key (rgdSlotForIapIndex idx state).1 idx }
    kept.aged (by dsimp only; omega) (rgdSlotForIapIndex idx state).1
  have list := storeManeuver_currentList idx man state
  have listed : (storeManeuver idx man state).listedIndexes = state.listedIndexes := by
    rw [listedIndexes, list, listedIndexes]
  have short := kept.listed
  have free := kept.named
  rw [← listed] at short free
  change (state.maneuvers.table.assign (rgdSlotForIapIndex idx state).1 idx).clock =
    state.maneuvers.table.clock + 1 at clockEq
  rcases storeManeuver_table idx man state with stored | ⟨other, stored⟩
  · refine ⟨stored ▸ assigned, stored ▸ aged, ?_, short, free⟩
    rw [stored, clockEq]
    omega
  · obtain ⟨agedAgain, clockAgain⟩ := SlotTable.Aged.touch aged
      (by change SlotTable.clock (SlotTable.assign _ _ _) + 1 < _; omega) other
    refine ⟨stored ▸ assigned.touch other, stored ▸ agedAgain, ?_, short, free⟩
    change (SlotTable.touch (SlotTable.assign _ _ _) other).clock =
      SlotTable.clock (SlotTable.assign _ _ _) + 1 at clockAgain
    rw [stored, clockAgain, clockEq]
    omega

/-- An adopted list does not name the index of an empty slot. -/
def NamesManeuvers (list : Option (List Nat)) : Prop :=
  ∀ indexes ∈ list, emptyIndex ∉ indexes

theorem SlotsKept.adopt {before after : RgdState} (kept : SlotsKept before)
    (maneuvers : after.maneuvers = before.maneuvers) {list : Option (List Nat)}
    (listEq : after.currentList = (list.map (List.take maxManeuverList)).or before.currentList)
    (names : NamesManeuvers list) : SlotsKept after := by
  cases list with
  | none => exact kept.congr maneuvers listEq
  | some indexes =>
      have listedEq : after.listedIndexes = indexes.take maxManeuverList := by
        rw [listedIndexes, listEq]
        rfl
      obtain ⟨apart, aged, young, -, -⟩ := kept
      rw [← maneuvers] at apart aged young
      refine ⟨apart, aged, young, ?_, ?_⟩
      · rw [listedEq]
        exact List.length_take_le ..
      · rw [listedEq]
        exact fun member => names indexes rfl (List.mem_of_mem_take member)

theorem writeBusSnapshotFromCache_adopts (overlay : Bool) (stack : RgdKey → List UInt8)
    (extraMan : Option RgdManeuver) (currentUpd : Option RgdUpdate) (state : RgdState) :
    (writeBusSnapshotFromCache overlay stack extraMan currentUpd state).1.currentList =
        state.currentList ∨
      (writeBusSnapshotFromCache overlay stack extraMan currentUpd state).1.currentList =
        listAfter currentUpd state := by
  rcases writeBusSnapshotFromCache_cases overlay stack extraMan currentUpd state with
    ⟨-, skipped⟩ | written
  · obtain ⟨lanes, prunedEq⟩ := rgdPruneStaleLaneCache_eq state
    rw [skipped, prunedEq]
    exact .inl rfl
  · rw [written]
    exact .inr (rgdPruneStaleLaneCache_step overlay currentUpd
      (snapshotRecords_step overlay stack currentUpd _)).currentList

theorem SlotsKept.snapshot (overlay : Bool) (stack : RgdKey → List UInt8)
    (extraMan : Option RgdManeuver) {currentUpd : Option RgdUpdate} {state : RgdState}
    (kept : SlotsKept state) (names : NamesManeuvers (currentUpd.bind RgdUpdate.maneuverList)) :
    SlotsKept (writeBusSnapshotFromCache overlay stack extraMan currentUpd state).1 := by
  have maneuvers :=
    (writeBusSnapshotFromCache_keeps overlay stack extraMan currentUpd state).maneuvers
  rcases writeBusSnapshotFromCache_adopts overlay stack extraMan currentUpd state with
    same | adopted
  · exact kept.congr maneuvers same
  · exact kept.adopt maneuvers adopted names

theorem acceptUpdate_maneuvers (overlay : Bool) (stack : RgdKey → List UInt8) (upd : RgdUpdate)
    (state : RgdState) : (acceptUpdate overlay stack upd state).1.maneuvers = state.maneuvers := by
  obtain ⟨amap, notedEq⟩ := noteUpdate_frame overlay upd state
  rcases acceptUpdate_cases overlay stack upd state with ⟨-, skipped⟩ | ⟨-, written⟩
  · rw [skipped, notedEq]
  · rw [written]
    dsimp only
    rw [(writeBusSnapshotFromCache_keeps overlay stack none _ _).maneuvers]
    obtain ⟨laneSlot, table, -, mergedEq⟩ :=
      mergedUpdate_frame upd (noteUpdate overlay upd state)
    rw [mergedEq, notedEq]

theorem SlotsKept.accept (overlay : Bool) (stack : RgdKey → List UInt8) {upd : RgdUpdate}
    {state : RgdState} (kept : SlotsKept state) (names : NamesManeuvers upd.maneuverList) :
    SlotsKept (acceptUpdate overlay stack upd state).1 := by
  obtain ⟨amap, notedEq⟩ := noteUpdate_frame overlay upd state
  have noted : SlotsKept (noteUpdate overlay upd state) :=
    kept.congr (by rw [notedEq]) (by rw [notedEq])
  rcases acceptUpdate_cases overlay stack upd state with ⟨-, skipped⟩ | ⟨-, written⟩
  · rw [skipped]
    exact noted
  · obtain ⟨laneSlot, table, -, mergedEq⟩ :=
      mergedUpdate_frame upd (noteUpdate overlay upd state)
    obtain ⟨⟨enrichedSlot, enrichedEq⟩, -⟩ :=
      enrichLaneSlot_frame upd (noteUpdate overlay upd state)
    rw [written]
    refine SlotsKept.snapshot overlay stack none
      (noted.congr (by rw [mergedEq]) (by rw [mergedEq])) ?_
    rw [enrichedEq]
    exact names

/-- The debounce decision leaves the slots and the list alone, or resets them
and says so. -/
theorem DebounceCase.slots {upd : RgdUpdate} {now : Nat} {state after : RgdState}
    {events : List HookEvent} {held : Bool}
    (outcome : DebounceCase upd now state after events held) :
    (after.maneuvers = state.maneuvers ∧ after.currentList = state.currentList) ∨
    (after.maneuvers = (rgdManeuverMapReset state).maneuvers ∧ after.currentList = none ∧
      ∃ suppressed, .mapReset suppressed ∈ events) := by
  cases outcome with
  | hardClear => exact .inr ⟨by simp [hardClearZero]; rfl, by simp [hardClearZero]; rfl, false, by simp⟩
  | passZero => exact .inl ⟨rfl, rfl⟩
  | flushZero => exact .inr ⟨by simp; rfl, by simp; rfl, true, by simp⟩
  | holdZero => exact .inl ⟨by simp; rfl, by simp; rfl⟩
  | positive => exact .inl ⟨by simp [notePositive]; rfl, by simp [notePositive]; rfl⟩
  | evidence => exact .inl ⟨by simp, by simp⟩
  | held | passed => exact .inl ⟨rfl, rfl⟩

/-- A listed maneuver keeps its slot, unless the map is reset. -/
def KeepsListed (before after : RgdState) (events : List HookEvent) : Prop :=
  (∀ suppressed, .mapReset suppressed ∉ events) →
    ∀ slot, before.maneuvers.table.key slot ∈ before.listedIndexes →
      after.maneuvers.table.key slot = before.maneuvers.table.key slot

theorem keepsListed_of_maneuvers {before after : RgdState} {events : List HookEvent}
    (same : after.maneuvers = before.maneuvers) : KeepsListed before after events := by
  intro _ slot _
  rw [same]

theorem handleUpdate_slots (overlay : Bool) (stack : RgdKey → List UInt8) (now : Nat)
    {upd : RgdUpdate} {state : RgdState} (kept : SlotsKept state)
    (names : NamesManeuvers upd.maneuverList) :
    SlotsKept (handleUpdate overlay stack now upd state).1 ∧
      KeepsListed state (handleUpdate overlay stack now upd state).1
        (handleUpdate overlay stack now upd state).2 := by
  obtain ⟨debounced, events, held, -, outcome, result⟩ :=
    handleUpdate_cases overlay stack now upd state
  have keptDebounced : SlotsKept debounced := by
    rcases outcome.slots with ⟨maneuvers, list⟩ | ⟨maneuvers, list, -⟩
    · exact kept.congr maneuvers list
    · exact (slotsKept_reset state).congr maneuvers list
  rcases result with ⟨-, result⟩ | ⟨-, result⟩
  · rw [result]
    refine ⟨keptDebounced, ?_⟩
    rcases outcome.slots with ⟨maneuvers, -⟩ | ⟨-, -, suppressed, reset⟩
    · exact keepsListed_of_maneuvers maneuvers
    · exact fun unreset => absurd (List.mem_cons_of_mem _ reset) (unreset suppressed)
  · rw [result]
    refine ⟨keptDebounced.accept overlay stack names, ?_⟩
    rcases outcome.slots with ⟨maneuvers, -⟩ | ⟨-, -, suppressed, reset⟩
    · exact keepsListed_of_maneuvers ((acceptUpdate_maneuvers ..).trans maneuvers)
    · exact fun unreset =>
        absurd (List.mem_cons_of_mem _ (List.mem_append_left _ reset)) (unreset suppressed)

/-- What an accepted maneuver leaves: its index is in one slot, which holds it. -/
def StoresManeuver (after : RgdState) (idx : Nat) (man : RgdManeuver) : Prop :=
  ∃ slot, after.maneuvers.table.key slot = idx ∧
    (∀ other, after.maneuvers.table.key other = idx → other = slot) ∧
    HoldsManeuver after.maneuvers slot man

theorem SlotsKept.stores {state : RgdState} (kept : SlotsKept state) {idx : Nat}
    (named : idx ≠ emptyIndex) (man : RgdManeuver) :
    StoresManeuver (storeManeuver idx man state) idx man := by
  refine ⟨(rgdSlotForIapIndex idx state).1, ?_, ?_, ?_⟩
  · rw [storeManeuver_key, Function.update_self]
  · intro other holds
    rw [storeManeuver_key] at holds
    by_contra different
    rw [Function.update_of_ne different] at holds
    exact different (kept.only named holds)
  · exact cacheManeuver_holds ..

theorem StoresManeuver.congr {before after : RgdState} {idx : Nat} {man : RgdManeuver}
    (stores : StoresManeuver before idx man) (same : after.maneuvers = before.maneuvers) :
    StoresManeuver after idx man := by
  unfold StoresManeuver
  rw [same]
  exact stores

/-- `write_bus_maneuver_partial` caches the maneuver. -/
def acceptsManeuver (man : RgdManeuver) (state : RgdState) : Bool :=
  hasWritableField man && man.index.any state.rgdCanProcessManeuverIndex

theorem handleManeuver_accepted {overlay : Bool} {stack : RgdKey → List UInt8} {man : RgdManeuver}
    {state : RgdState} {idx : Nat} (index : man.index = some idx)
    (accepted : acceptsManeuver man (rgdCancelPendingZero state) = true) :
    (handleManeuver overlay stack man state).1.maneuvers =
      (storeManeuver idx man (rgdCancelPendingZero state)).maneuvers := by
  simp only [acceptsManeuver, index, Option.any_some, Bool.and_eq_true] at accepted
  simp only [handleManeuver, writeBusManeuverPartial, index, accepted.1, accepted.2, Bool.not_true,
    Bool.or_self, Bool.false_eq_true, if_false]
  exact (writeBusSnapshotFromCache_keeps overlay stack _ none _).maneuvers

theorem handleManeuver_slots (overlay : Bool) (stack : RgdKey → List UInt8) {man : RgdManeuver}
    {state : RgdState} (kept : SlotsKept state) (young : state.maneuvers.table.clock < 2 ^ 31)
    (named : man.index ≠ some emptyIndex) :
    SlotsKept (handleManeuver overlay stack man state).1 ∧
      KeepsListed state (handleManeuver overlay stack man state).1
        (handleManeuver overlay stack man state).2 := by
  have cancelled : SlotsKept (rgdCancelPendingZero state) := kept.congr (by simp) (by simp)
  rcases handleManeuver_cases overlay stack man state with
    skipped | ⟨idx, extraMan, index, -, written⟩
  · rw [skipped]
    exact ⟨cancelled, keepsListed_of_maneuvers (by simp)⟩
  · have idxNamed : idx ≠ emptyIndex := by
      rintro rfl
      exact named index
    rw [written]
    refine ⟨SlotsKept.snapshot overlay stack extraMan
      (cancelled.store (by simpa using young) idxNamed man) (by simp [NamesManeuvers]), ?_⟩
    intro _ slot listed
    have keepsSlot := @SlotsKept.keeps_listed _ cancelled slot
      (by simpa [listedIndexes] using listed) idx man
    dsimp only
    rw [(writeBusSnapshotFromCache_keeps overlay stack extraMan none _).maneuvers, keepsSlot]
    simp

theorem storeLane_slots (lane : RgdLaneGuidance) (state : RgdState) :
    (storeLane lane state).maneuvers = state.maneuvers ∧
      (storeLane lane state).currentList = state.currentList := by
  obtain ⟨lanes, laneSlot, storedEq⟩ := storeLane_frame lane state
  rw [storedEq]
  exact ⟨rfl, rfl⟩

theorem handleLane_slots (overlay : Bool) (stack : RgdKey → List UInt8) (lane : RgdLaneGuidance)
    {state : RgdState} (kept : SlotsKept state) :
    SlotsKept (handleLane overlay stack lane state).1 ∧
      KeepsListed state (handleLane overlay stack lane state).1
        (handleLane overlay stack lane state).2 := by
  have cancelled : SlotsKept (rgdCancelPendingZero state) := kept.congr (by simp) (by simp)
  obtain ⟨maneuvers, list⟩ := storeLane_slots lane (rgdCancelPendingZero state)
  have stored := cancelled.congr maneuvers list
  rcases handleLane_cases overlay stack lane state with skipped | cached | ⟨extraMan, written⟩
  · rw [skipped]
    exact ⟨cancelled, keepsListed_of_maneuvers (by simp)⟩
  · rw [cached]
    exact ⟨stored, keepsListed_of_maneuvers (by rw [maneuvers]; simp)⟩
  · rw [written]
    refine ⟨SlotsKept.snapshot overlay stack extraMan stored ?_, keepsListed_of_maneuvers ?_⟩
    · rw [activeLane_maneuverList]
      simp [NamesManeuvers]
    · rw [(writeBusSnapshotFromCache_keeps overlay stack extraMan _ _).maneuvers, maneuvers]
      simp

theorem slotsKept_clear (overlay : Bool) (reason : ClearReason) (state : RgdState) :
    SlotsKept (rgdClearState overlay reason state).1 := by
  cases overlay
  · exact (slotsKept_reset state).congr rfl rfl
  · exact (slotsKept_reset state).congr rfl rfl

/-- The indexes of a message differ from `0xFFFF`. -/
def indexesNamed (msgid : Nat) (raw : List UInt8) : Bool :=
  if msgid = iap2MsgRouteGuidanceUpdate then
    (rgdParseUpdate raw).maneuverList.all fun list => decide (emptyIndex ∉ list)
  else if msgid = iap2MsgRouteGuidanceManeuver then
    decide ((rgdParseManeuver raw).index ≠ some emptyIndex)
  else true

/-- The steps of the runs that the slot map is made for: indexes other than
`0xFFFF`, after fewer than `2 ^ 31` touches since the last reset. -/
def slotsMeet (state : RgdState) : HookLabel → Bool
  | .message msgid raw _ _ =>
      indexesNamed msgid raw && decide (state.maneuvers.table.clock < 2 ^ 31)
  | _ => true

/-- What the slot map and the list satisfy in every state of such a run. -/
structure SlotMapSound (state : RgdState) : Prop where
  apart : ∀ first second, state.maneuvers.table.key first = state.maneuvers.table.key second →
    state.maneuvers.table.key first ≠ emptyIndex → first = second
  listed : state.listedIndexes.length ≤ maxManeuverList
  /-- The search for a slot that is not listed never comes back empty. -/
  fallback : (state.maneuvers.table.oldest? fun slot =>
    !state.rgdIsActiveIndex (state.maneuvers.table.key slot)).isSome = true

theorem acceptsManeuver_cancel (man : RgdManeuver) (state : RgdState) :
    acceptsManeuver man (rgdCancelPendingZero state) = acceptsManeuver man state := by
  obtain ⟨deadline, fromReroute, frameEq⟩ := rgdCancelPendingZero_frame state
  rw [frameEq]
  rfl

theorem namesManeuvers_of_named {raw : List UInt8}
    (named : indexesNamed iap2MsgRouteGuidanceUpdate raw = true) :
    NamesManeuvers (rgdParseUpdate raw).maneuverList := by
  intro indexes member
  simp only [indexesNamed, if_true, Option.all_eq_true, decide_eq_true_eq] at named
  exact named indexes member

theorem index_of_named {raw : List UInt8}
    (named : indexesNamed iap2MsgRouteGuidanceManeuver raw = true) :
    (rgdParseManeuver raw).index ≠ some emptyIndex := by
  simpa [indexesNamed, iap2MsgRouteGuidanceManeuver, iap2MsgRouteGuidanceUpdate] using named

theorem handleFrame_slots (overlay : Bool) {msgid : Nat} {raw : List UInt8} (now : Nat)
    (stack : RgdKey → List UInt8) {state : RgdState} (kept : SlotsKept state)
    (young : state.maneuvers.table.clock < 2 ^ 31) (named : indexesNamed msgid raw = true) :
    SlotsKept (handleFrame overlay msgid raw now stack state).1 ∧
      KeepsListed state (handleFrame overlay msgid raw now stack state).1
        (handleFrame overlay msgid raw now stack state).2 := by
  unfold handleFrame
  split_ifs with update maneuver lane
  · exact handleUpdate_slots overlay stack now kept (namesManeuvers_of_named (update ▸ named))
  · exact handleManeuver_slots overlay stack kept young (index_of_named (maneuver ▸ named))
  · exact handleLane_slots overlay stack _ kept
  · exact ⟨kept, keepsListed_of_maneuvers rfl⟩

/-- The first message finds empty slots. -/
theorem rgdLazyInit_slots (overlay : Bool) {state : RgdState}
    (kept : state.initialized = true → SlotsKept state)
    (young : state.maneuvers.table.clock < 2 ^ 31) :
    SlotsKept (rgdLazyInit overlay state).1 ∧
      (rgdLazyInit overlay state).1.maneuvers.table.clock < 2 ^ 31 ∧
      (rgdLazyInit overlay state = (state, []) ∨
        .mapReset false ∈ (rgdLazyInit overlay state).2) := by
  unfold rgdLazyInit
  split
  · rename_i initialized
    exact ⟨kept initialized, young, .inl rfl⟩
  · refine ⟨slotsKept_clear overlay .init _, ?_, .inr ?_⟩
    · cases overlay <;> exact (by decide : (0 : Nat) < 2 ^ 31)
    · simp [rgdClearState]

theorem rgdHookStep_slots (overlay : Bool) {label : HookLabel} {state : RgdState}
    (kept : state.initialized = true → SlotsKept state) (met : slotsMeet state label = true) :
    ((rgdHookStep overlay label state).1.initialized = true →
        SlotsKept (rgdHookStep overlay label state).1) ∧
      KeepsListed state (rgdHookStep overlay label state).1
        (rgdHookStep overlay label state).2 := by
  cases label with
  | message msgid raw now stack =>
      simp only [slotsMeet, Bool.and_eq_true, decide_eq_true_eq] at met
      obtain ⟨named, young⟩ := met
      obtain ⟨ready, readyYoung, start⟩ := rgdLazyInit_slots overlay kept young
      obtain ⟨keptAfter, keeps⟩ := handleFrame_slots overlay now stack ready readyYoung named
      refine ⟨fun _ => keptAfter, fun unreset => ?_⟩
      simp only [rgdHookStep, rgdMessageHandler, TracedOp.andThen] at unreset ⊢
      rcases start with already | reset
      · rw [already] at unreset keeps ⊢
        exact keeps unreset
      · exact absurd (List.mem_append_left _ reset) (unreset false)
  | tick now =>
      simp only [rgdHookStep, rgdPeriodicTick]
      split
      · exact ⟨fun initialized => (kept initialized).congr rfl rfl, keepsListed_of_maneuvers rfl⟩
      · exact ⟨kept, keepsListed_of_maneuvers rfl⟩
  | clear reason =>
      refine ⟨fun _ => slotsKept_clear overlay reason state, fun unreset => ?_⟩
      exact absurd (by simp [rgdHookStep, rgdClearState]) (unreset false)

end RgdState

open RgdState

theorem rgdHook_slotsKept {overlay : Bool} {state : RgdState} {history : List HookEvent}
    (run : (rgdHook overlay).RunWithin (fun state _ label => slotsMeet state label = true)
      state history) (initialized : state.initialized = true) : SlotsKept state := by
  refine run.invariant (fun state _ => state.initialized = true → SlotsKept state)
    (fun fresh => by cases fresh) ?_ initialized
  intro before after trace events label kept met stepTo
  obtain ⟨rfl, rfl⟩ : (rgdHookStep overlay label before).1 = after ∧
      (rgdHookStep overlay label before).2 = events := by
    simpa [rgdHook, Prod.ext_iff] using stepTo
  exact (rgdHookStep_slots overlay kept met).1

theorem maneuver_slots_stay_apart {overlay : Bool} {state : RgdState} {history : List HookEvent}
    (run : (rgdHook overlay).RunWithin (fun state _ label => slotsMeet state label = true)
      state history) :
    (state.initialized = true → SlotMapSound state) ∧
    (∀ label, slotsMeet state label = true →
      KeepsListed state (rgdHookStep overlay label state).1
        (rgdHookStep overlay label state).2) ∧
    ∀ raw now stack idx, slotsMeet state (.message iap2MsgRouteGuidanceManeuver raw now stack) =
        true →
      (rgdParseManeuver raw).index = some idx →
      acceptsManeuver (rgdParseManeuver raw) (rgdLazyInit overlay state).1 = true →
      StoresManeuver
        (rgdHookStep overlay (.message iap2MsgRouteGuidanceManeuver raw now stack) state).1 idx
        (rgdParseManeuver raw) := by
  have kept := rgdHook_slotsKept run
  refine ⟨fun initialized => ?_, fun label met => (rgdHookStep_slots overlay kept met).2, ?_⟩
  · have keptNow := kept initialized
    exact ⟨keptNow.apart, keptNow.listed, keptNow.finds_unlisted⟩
  · intro raw now stack idx met index accepted
    simp only [slotsMeet, Bool.and_eq_true, decide_eq_true_eq] at met
    obtain ⟨named, young⟩ := met
    obtain ⟨ready, -, -⟩ := rgdLazyInit_slots overlay kept young
    have idxNamed : idx ≠ emptyIndex := by
      rintro rfl
      exact index_of_named named index
    rw [← acceptsManeuver_cancel] at accepted
    exact (SlotsKept.stores (ready.congr (by simp) (by simp)) idxNamed _).congr
      (handleManeuver_accepted index accepted)

/-- A list and then the maneuver that it names. -/
theorem maneuver_slots_stay_apart_after_list : ∃ state history,
    (rgdHook false).RunWithin (fun state _ label => slotsMeet state label = true) state history ∧
      SlotMapSound state ∧
      StoresManeuver
        (rgdHookStep false (.message 0x5202 (maneuverFrame 0 5 1) 2 fun _ => []) state).1 5
        (rgdParseManeuver (maneuverFrame 0 5 1)) := by
  obtain ⟨state, history, run, checked⟩ := (rgdHook false).exists_runWithin_of_replay slotsMeet
    [.message 0x5201 (listFrame 1 0 5) 1 (fun _ => [])]
    (fun result => result.1.initialized &&
      slotsMeet result.1 (.message 0x5202 (maneuverFrame 0 5 1) 2 fun _ => []) &&
      acceptsManeuver (rgdParseManeuver (maneuverFrame 0 5 1)) (rgdLazyInit false result.1).1)
    (by decide +kernel)
  simp only [Bool.and_eq_true] at checked
  obtain ⟨⟨initialized, met⟩, accepted⟩ := checked
  obtain ⟨sound, -, stores⟩ := maneuver_slots_stay_apart run
  exact ⟨state, history, run, sound initialized, stores _ 2 _ 5 met (by decide) accepted⟩

end CarplayRgi
