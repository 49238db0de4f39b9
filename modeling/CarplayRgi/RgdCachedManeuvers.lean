import CarplayRgi.RgdAngleCodec
import CarplayRgi.RgdManeuverSlots

/-!
# What is known of a cached maneuver

A cached maneuver never has lanes of its own: a record has only the index of a
linked lane event, and lanes are lent by maneuvers that have some.  Its numbers
are those of short items, and the list of maneuvers is at most 16 long.
-/

namespace CarplayRgi

open DecimalText

namespace RgdState

/-- A present number is an `int` of the receiver. -/
def NatFits (field : Option Nat) : Prop := ∀ value ∈ field, Fits 32 (value : Int)

theorem natFits_none : NatFits none := fun _ member => by cases member

theorem natFits_whenLong {size bound : Nat} {value : List UInt8} {read : List UInt8 → Nat}
    {old : Option Nat} (reads : ∀ bytes, read bytes < bound) (small : bound ≤ 2 ^ 31)
    (before : NatFits old) : NatFits (whenLong size value read old) := by
  unfold whenLong
  split_ifs
  · intro number member
    cases member
    have below := reads value
    norm_num at small
    constructor
    · norm_num
    · norm_num
      omega
  · exact before

/-- What every cached maneuver satisfies.  Only a distance can be too large for
the receiver. -/
structure ManeuverCached (man : RgdManeuver) : Prop where
  noLanes : man.laneGuidance = none
  maneuverType : NatFits man.maneuverType
  drivingSide : NatFits man.drivingSide
  junctionType : NatFits man.junctionType
  exitAngle : ∀ angle ∈ man.exitAngle, Fits 32 angle
  linked : NatFits man.linkedLaneGuidanceIndex

theorem readByte_lt (bytes : List UInt8) : readByte bytes < 256 :=
  readBe_take_lt_pow 1 bytes

theorem maneuverCached_empty : ManeuverCached {} where
  noLanes := rfl
  maneuverType := natFits_none
  drivingSide := natFits_none
  junctionType := natFits_none
  exitAngle _ member := by cases member
  linked := natFits_none

theorem maneuverTlv_cached {man : RgdManeuver} (cached : ManeuverCached man) (tlv : Tlv) :
    ManeuverCached (maneuverTlv man tlv) := by
  unfold maneuverTlv
  dsimp only
  split
  case h_4 =>
    exact { cached with
      maneuverType := natFits_whenLong readByte_lt (by decide) cached.maneuverType }
  case h_9 =>
    exact { cached with drivingSide := natFits_whenLong readByte_lt (by decide) cached.drivingSide }
  case h_10 =>
    exact { cached with
      junctionType := natFits_whenLong readByte_lt (by decide) cached.junctionType }
  case h_12 =>
    refine { cached with exitAngle := ?_ }
    intro angle member
    unfold whenLong at member
    split_ifs at member
    · cases member
      exact fits_of_fits16 (fits_asInt16 (readBe16_lt _))
    · exact cached.exitAngle angle member
  case h_13 =>
    exact { cached with linked := natFits_whenLong readBe16_lt (by decide) cached.linked }
  all_goals exact { cached with }

theorem rgdParseManeuver_cached (raw : List UInt8) : ManeuverCached (rgdParseManeuver raw) := by
  have folded : ∀ (items : List Tlv) (man : RgdManeuver), ManeuverCached man →
      ManeuverCached (items.foldl maneuverTlv man) := by
    intro items
    induction items with
    | nil => exact fun _ cached => cached
    | cons item items ih => exact fun man cached => ih _ (maneuverTlv_cached cached item)
  have parsed := folded (frameTlvs raw) {} maneuverCached_empty
  unfold rgdParseManeuver
  dsimp only
  split_ifs
  · refine { parsed with exitAngle := ?_ }
    intro angle member
    cases member
    decide
  · exact parsed

/-- Nobody has lanes to lend. -/
theorem maneuverRules :
    CacheRules (fun _ => True) fun man => ManeuverCached man ∧ JunctionBounded man where
  emptyLane := trivial
  emptyManeuver := ⟨maneuverCached_empty, angleRules.emptyManeuver⟩
  parsedLane _ _ := trivial
  parsedManeuver raw := ⟨rgdParseManeuver_cached raw, rgdParseManeuver_bounded raw⟩
  borrowed _ _ _ _ lender lends := by
    rw [lender.1.noLanes] at lends
    cases lends

/-- The list holds at most 16 maneuvers. -/
def ListShort (state : RgdState) : Prop := state.listedIndexes.length ≤ maxManeuverList

theorem ListShort.congr {before after : RgdState} (short : ListShort before)
    (list : after.currentList = before.currentList) : ListShort after := by
  unfold ListShort listedIndexes
  rw [list]
  exact short

theorem listShort_of_none {state : RgdState} (noList : state.currentList = none) :
    ListShort state := by
  unfold ListShort listedIndexes
  rw [noList]
  exact Nat.zero_le _

theorem ListShort.adopt {before after : RgdState} (short : ListShort before)
    {list : Option (List Nat)}
    (adopted : after.currentList = (list.map (List.take maxManeuverList)).or before.currentList) :
    ListShort after := by
  cases list with
  | none => exact short.congr adopted
  | some indexes =>
      unfold ListShort listedIndexes
      rw [adopted]
      exact List.length_take_le _ _

theorem ListShort.snapshot {state : RgdState} (short : ListShort state) (overlay : Bool)
    (stack : RgdKey → List UInt8) (extraMan : Option RgdManeuver)
    (currentUpd : Option RgdUpdate) :
    ListShort (writeBusSnapshotFromCache overlay stack extraMan currentUpd state).1 := by
  rcases writeBusSnapshotFromCache_cases overlay stack extraMan currentUpd state with
    ⟨-, skipped⟩ | written
  · obtain ⟨lanes, prunedEq⟩ := rgdPruneStaleLaneCache_eq state
    rw [skipped, prunedEq]
    exact short.congr rfl
  · rw [written]
    exact short.adopt (rgdPruneStaleLaneCache_step overlay currentUpd
      (snapshotRecords_step overlay stack currentUpd (rgdPruneStaleLaneCache state).2)).currentList

theorem DebounceCase.listShort {upd : RgdUpdate} {now : Nat} {state after : RgdState}
    {events : List HookEvent} {held : Bool}
    (outcome : DebounceCase upd now state after events held) (short : ListShort state) :
    ListShort after := by
  cases outcome with
  | hardClear => exact listShort_of_none (by simp [hardClearZero]; rfl)
  | passZero => exact short.congr rfl
  | flushZero => exact listShort_of_none (by simp; rfl)
  | holdZero => exact short.congr (by simp; rfl)
  | positive => exact short.congr (by simp [notePositive]; rfl)
  | evidence => exact short.congr (by simp)
  | held | passed => exact short

theorem handleFrame_listShort (overlay : Bool) (msgid : Nat) (raw : List UInt8) (now : Nat)
    (stack : RgdKey → List UInt8) {state : RgdState} (short : ListShort state) :
    ListShort (handleFrame overlay msgid raw now stack state).1 := by
  have cancelled : ListShort (rgdCancelPendingZero state) := short.congr (by simp)
  refine @handleFrame_cases (fun result => ListShort result.1) overlay msgid raw now stack state
    ?_ ?_ ?_ short
  · obtain ⟨debounced, events, held, -, outcome, result⟩ :=
      handleUpdate_cases overlay stack now (rgdParseUpdate raw) state
    have decided := outcome.listShort (short.congr rfl)
    rcases result with ⟨-, result⟩ | ⟨-, result⟩
    · rw [result]
      exact decided
    · rw [result]
      exact decided.adopt (acceptUpdate_currentList overlay stack (rgdParseUpdate raw) debounced)
  · rcases handleManeuver_cases overlay stack (rgdParseManeuver raw) state with
      skipped | ⟨idx, extraMan, -, -, written⟩
    · rw [skipped]
      exact cancelled
    · rw [written]
      exact (cancelled.congr (storeManeuver_currentList _ _ _)).snapshot overlay stack extraMan none
  · have stored : ListShort (storeLane (rgdParseLaneGuidance raw) (rgdCancelPendingZero state)) := by
      obtain ⟨lanes, laneSlot, storedEq⟩ :=
        storeLane_frame (rgdParseLaneGuidance raw) (rgdCancelPendingZero state)
      rw [storedEq]
      exact cancelled.congr rfl
    rcases handleLane_cases overlay stack (rgdParseLaneGuidance raw) state with
      skipped | cached | ⟨extraMan, written⟩
    · rw [skipped]
      exact cancelled
    · rw [cached]
      exact stored
    · rw [written]
      exact stored.snapshot overlay stack extraMan _

theorem rgdClearState_listShort (overlay : Bool) (reason : ClearReason) (state : RgdState) :
    ListShort (rgdClearState overlay reason state).1 := by
  cases overlay with
  | false => exact listShort_of_none rfl
  | true => exact listShort_of_none rfl

end RgdState

open RgdState

theorem rgdHook_listShort {overlay : Bool}
    {guard : RgdState → List HookEvent → HookLabel → Prop} {state : RgdState}
    {history : List HookEvent} (run : (rgdHook overlay).RunWithin guard state history) :
    ListShort state := by
  refine run.invariant (fun state _ => ListShort state) (listShort_of_none rfl) ?_
  intro before after trace events label short _ stepTo
  obtain ⟨rfl, -⟩ : (rgdHookStep overlay label before).1 = after ∧
      (rgdHookStep overlay label before).2 = events := by
    simpa [rgdHook, Prod.ext_iff] using stepTo
  cases label with
  | message msgid raw now stack =>
      refine handleFrame_listShort overlay msgid raw now stack ?_
      unfold rgdLazyInit
      split_ifs
      · exact short
      · exact rgdClearState_listShort overlay .init _
  | tick now =>
      simp only [rgdHookStep, rgdPeriodicTick]
      split_ifs
      · exact short.congr rfl
      · exact short
  | clear reason => exact rgdClearState_listShort overlay reason before

end CarplayRgi
