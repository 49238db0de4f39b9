import CarplayRgi.RgdCachedManeuvers
import CarplayRgi.RgdRouteSizes

/-!
# What the cached update holds

The cached update is merged field by field from parsed updates, and its helper
lane slot is set by lane events.  So a property of parsed updates that survives
both holds of the cached update in every run.
-/

namespace CarplayRgi

namespace RgdState

/-- A property of updates that the cache preserves. -/
structure UpdateRules (holds : RgdUpdate → Prop) : Prop where
  empty : holds {}
  parsed : ∀ raw, holds (rgdParseUpdate raw)
  merged : ∀ upd cache, holds upd → holds cache → holds (rgdUpdateCacheMerge upd cache)
  laneSlot : ∀ upd slot, holds upd → holds { upd with laneGuidanceSlot := slot }

variable {holds : RgdUpdate → Prop}

theorem writeBusSnapshotFromCache_updateHolds (overlay : Bool) (stack : RgdKey → List UInt8)
    (extraMan : Option RgdManeuver) (currentUpd : Option RgdUpdate) {state : RgdState}
    (cached : holds state.updateCache) :
    holds (writeBusSnapshotFromCache overlay stack extraMan currentUpd state).1.updateCache := by
  rwa [(writeBusSnapshotFromCache_keeps overlay stack extraMan currentUpd state).updateCache]

theorem DebounceCase.updateHolds (rules : UpdateRules holds) {upd : RgdUpdate} {now : Nat}
    {state after : RgdState} {events : List HookEvent} {held : Bool}
    (outcome : DebounceCase upd now state after events held) (cached : holds state.updateCache) :
    holds after.updateCache := by
  have carried {cache : RgdUpdate} (kept : holds cache) (same : after.updateCache = cache) :
      holds after.updateCache := same ▸ kept
  cases outcome with
  | hardClear => exact carried rules.empty (by simp [hardClearZero]; rfl)
  | passZero => exact cached
  | flushZero => exact carried rules.empty (by simp; rfl)
  | holdZero => exact carried rules.empty (by simp; rfl)
  | positive => exact carried cached (by simp [notePositive]; rfl)
  | evidence => exact carried cached (by simp)
  | held | passed => exact cached

theorem acceptUpdate_updateHolds (rules : UpdateRules holds) (overlay : Bool)
    (stack : RgdKey → List UInt8) {upd : RgdUpdate} (parsed : holds upd) {state : RgdState}
    (cached : holds state.updateCache) :
    holds (acceptUpdate overlay stack upd state).1.updateCache := by
  obtain ⟨amap, notedEq⟩ := noteUpdate_frame overlay upd state
  have noted : holds (noteUpdate overlay upd state).updateCache := by
    rw [notedEq]
    exact cached
  rcases acceptUpdate_cases overlay stack upd state with ⟨-, skipped⟩ | ⟨-, written⟩
  · rw [skipped]
    exact noted
  · obtain ⟨laneSlot, table, -, mergedEq⟩ := mergedUpdate_frame upd (noteUpdate overlay upd state)
    rw [written]
    apply writeBusSnapshotFromCache_updateHolds
    rw [mergedEq]
    exact rules.merged _ _ (rules.laneSlot upd laneSlot parsed) noted

theorem handleFrame_updateHolds (rules : UpdateRules holds) (overlay : Bool) (msgid : Nat)
    (raw : List UInt8) (now : Nat) (stack : RgdKey → List UInt8) {state : RgdState}
    (cached : holds state.updateCache) :
    holds (handleFrame overlay msgid raw now stack state).1.updateCache := by
  have cancelled : holds (rgdCancelPendingZero state).updateCache := by
    rwa [rgdCancelPendingZero_updateCache]
  refine @handleFrame_cases (fun result => holds result.1.updateCache) overlay msgid raw now stack
    state ?_ ?_ ?_ cached
  · obtain ⟨debounced, events, held, -, outcome, result⟩ :=
      handleUpdate_cases overlay stack now (rgdParseUpdate raw) state
    have decided := outcome.updateHolds rules cached
    rcases result with ⟨-, result⟩ | ⟨-, result⟩
    · rw [result]
      exact decided
    · rw [result]
      exact acceptUpdate_updateHolds rules overlay stack (rules.parsed raw) decided
  · rcases handleManeuver_cases overlay stack (rgdParseManeuver raw) state with
      skipped | ⟨idx, extraMan, -, -, written⟩
    · rw [skipped]
      exact cancelled
    · obtain ⟨maneuvers, storedEq⟩ :=
        storeManeuver_frame idx (rgdParseManeuver raw) (rgdCancelPendingZero state)
      rw [written, storedEq]
      exact writeBusSnapshotFromCache_updateHolds overlay stack extraMan none cancelled
  · have stored : holds
        (storeLane (rgdParseLaneGuidance raw) (rgdCancelPendingZero state)).updateCache := by
      obtain ⟨lanes, laneSlot, storedEq⟩ :=
        storeLane_frame (rgdParseLaneGuidance raw) (rgdCancelPendingZero state)
      rw [storedEq]
      exact rules.laneSlot _ laneSlot cancelled
    rcases handleLane_cases overlay stack (rgdParseLaneGuidance raw) state with
      skipped | laneCached | ⟨extraMan, written⟩
    · rw [skipped]
      exact cancelled
    · rw [laneCached]
      exact stored
    · rw [written]
      exact writeBusSnapshotFromCache_updateHolds overlay stack extraMan _ stored

theorem rgdClearState_updateHolds (rules : UpdateRules holds) (overlay : Bool)
    (reason : ClearReason) (state : RgdState) :
    holds (rgdClearState overlay reason state).1.updateCache := by
  cases overlay with
  | false => exact rules.empty
  | true => exact rules.empty

end RgdState

open RgdState

/-- The cached update of every run has the property. -/
theorem rgdHook_updateHolds {holds : RgdUpdate → Prop} (rules : UpdateRules holds) {overlay : Bool}
    {guard : RgdState → List HookEvent → HookLabel → Prop} {state : RgdState}
    {history : List HookEvent} (run : (rgdHook overlay).RunWithin guard state history) :
    holds state.updateCache := by
  refine run.invariant (fun state _ => holds state.updateCache) rules.empty ?_
  intro before after trace events label cached _ stepTo
  obtain ⟨rfl, -⟩ : (rgdHookStep overlay label before).1 = after ∧
      (rgdHookStep overlay label before).2 = events := by
    simpa [rgdHook, Prod.ext_iff] using stepTo
  cases label with
  | message msgid raw now stack =>
      refine handleFrame_updateHolds rules overlay msgid raw now stack ?_
      unfold rgdLazyInit
      split_ifs
      · exact cached
      · exact rgdClearState_updateHolds rules overlay .init _
  | tick now =>
      simp only [rgdHookStep, rgdPeriodicTick]
      split_ifs
      · exact cached
      · exact cached
  | clear reason => exact rgdClearState_updateHolds rules overlay reason before

/-- The bounds that the numbers of a cached update keep. -/
structure UpdateNumbers (upd : RgdUpdate) : Prop where
  componentIds : ∀ ids ∈ upd.componentIds, ids.length ≤ maxComponentList ∧ ∀ id ∈ ids, id < 2 ^ 16
  distanceRemaining : ∀ value ∈ upd.distanceRemaining, value < 2 ^ 32
  distToManeuver : ∀ value ∈ upd.distToManeuver, value < 2 ^ 32
  eta : ∀ value ∈ upd.eta, value < 2 ^ 64
  timeRemaining : ∀ value ∈ upd.timeRemaining, value < 2 ^ 64

/-- A field of a merged update comes from one of the two. -/
theorem forall_mem_merged {Value : Type} {first second : Option Value} {bounded : Value → Prop}
    (firstBounded : ∀ value ∈ first, bounded value)
    (secondBounded : ∀ value ∈ second, bounded value) :
    ∀ value ∈ first <|> second, bounded value := by
  cases first with
  | none => exact secondBounded
  | some value => exact firstBounded

theorem forall_mem_whenLong {size width : Nat} {value : List UInt8} {read : List UInt8 → Nat}
    {old : Option Nat} (reads : ∀ bytes, read bytes < width)
    (before : ∀ number ∈ old, number < width) :
    ∀ number ∈ whenLong size value read old, number < width := by
  unfold whenLong
  split
  · rintro number ⟨⟩
    exact reads value
  · exact before

theorem updateTlv_numbers {upd : RgdUpdate} (numbers : UpdateNumbers upd) (tlv : Tlv)
    (ids : ∀ list ∈ (updateTlv upd tlv).componentIds,
      list.length ≤ maxComponentList ∧ ∀ id ∈ list, id < 2 ^ 16) :
    UpdateNumbers (updateTlv upd tlv) := by
  have be32 (bytes : List UInt8) : readBe32 bytes < 2 ^ 32 := readBe_take_lt_pow 4 bytes
  have be64 (bytes : List UInt8) : readBe64 bytes < 2 ^ 64 := readBe_take_lt_pow 8 bytes
  revert ids
  unfold updateTlv
  dsimp only
  split
  case h_6 => exact fun _ => { numbers with eta := forall_mem_whenLong be64 numbers.eta }
  case h_7 =>
    exact fun _ =>
      { numbers with timeRemaining := forall_mem_whenLong be64 numbers.timeRemaining }
  case h_8 =>
    exact fun _ =>
      { numbers with distanceRemaining := forall_mem_whenLong be32 numbers.distanceRemaining }
  case h_11 =>
    exact fun _ =>
      { numbers with distToManeuver := forall_mem_whenLong be32 numbers.distToManeuver }
  all_goals exact fun ids => { numbers with componentIds := ids }

theorem updateNumbers_empty : UpdateNumbers {} := by
  constructor <;> exact fun value member => absurd member (Option.not_mem_none value)

theorem rgdParseUpdate_numbers (frame : List UInt8) : UpdateNumbers (rgdParseUpdate frame) := by
  unfold rgdParseUpdate
  suffices folded : ∀ items : List Tlv, UpdateSized (items.foldl updateTlv {}) ∧
      UpdateNumbers (items.foldl updateTlv {}) from (folded (frameTlvs frame)).2
  intro items
  induction items using List.reverseRecOn with
  | nil => exact ⟨rgdParseUpdate_sized [], updateNumbers_empty⟩
  | append_singleton items item ih =>
      rw [List.foldl_append]
      have sized := updateTlv_sized ih.1 item
      exact ⟨sized, updateTlv_numbers ih.2 item sized.componentIds⟩

/-- The numbers of parsed updates stay bounded in the cache. -/
theorem numberRules : UpdateRules UpdateNumbers where
  empty := updateNumbers_empty
  parsed := rgdParseUpdate_numbers
  merged _ _ first second :=
    { componentIds := forall_mem_merged first.componentIds second.componentIds
      distanceRemaining := forall_mem_merged first.distanceRemaining second.distanceRemaining
      distToManeuver := forall_mem_merged first.distToManeuver second.distToManeuver
      eta := forall_mem_merged first.eta second.eta
      timeRemaining := forall_mem_merged first.timeRemaining second.timeRemaining }
  laneSlot _ _ numbers := { numbers with }

end CarplayRgi
