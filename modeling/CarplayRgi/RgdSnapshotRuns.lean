import CarplayRgi.RgdSnapshotSlots

/-!
# A run ends at each of its snapshots

A snapshot is the last event of its step and shows the state after the step.
So the events up to a snapshot are themselves the events of a run that ends in
the state shown, and every run invariant speaks about every published frame.
-/

namespace CarplayRgi

namespace RgdState

/-- A snapshot among the events is the last of them and shows the next state. -/
def SnapshotsLast (overlay : Bool) (next : RgdState) (events : List HookEvent) : Prop :=
  ∀ past shown records future, events = past ++ .snapshot shown records :: future →
    future = [] ∧ shown = next ∧ BuiltFrom overlay shown records

/-- Events other than snapshots. -/
def NoSnapshot (events : List HookEvent) : Prop :=
  ∀ shown records, .snapshot shown records ∉ events

theorem NoSnapshot.snapshotsLast {overlay : Bool} {next : RgdState} {events : List HookEvent}
    (none : NoSnapshot events) : SnapshotsLast overlay next events := by
  intro past shown records future split
  have member : .snapshot shown records ∈ events := by simp [split]
  exact absurd member (none shown records)

theorem SnapshotsLast.prepend {overlay : Bool} {next : RgdState} {first events : List HookEvent}
    (none : NoSnapshot first) (last : SnapshotsLast overlay next events) :
    SnapshotsLast overlay next (first ++ events) := by
  intro past shown records future split
  rcases List.append_eq_append_iff.mp split with ⟨middle, pastEq, eventsEq⟩ |
    ⟨middle, firstEq, snapshotEq⟩
  · exact last middle shown records future eventsEq
  · cases middle with
    | nil => exact last [] shown records future (by simpa using snapshotEq.symm)
    | cons event middle =>
        obtain ⟨rfl, -⟩ := List.cons.inj snapshotEq
        exact absurd (by simp [firstEq]) (none shown records)

theorem writeBusSnapshotFromCache_snapshotsLast (overlay : Bool) (stack : RgdKey → List UInt8)
    (extraMan : Option RgdManeuver) (currentUpd : Option RgdUpdate) (state : RgdState) :
    SnapshotsLast overlay
      (writeBusSnapshotFromCache overlay stack extraMan currentUpd state).1
      (writeBusSnapshotFromCache overlay stack extraMan currentUpd state).2 := by
  intro past shown records future split
  have member : .snapshot shown records ∈
      (writeBusSnapshotFromCache overlay stack extraMan currentUpd state).2 := by simp [split]
  obtain ⟨built, shownEq⟩ := builtFrom_of_mem member
  refine ⟨?_, shownEq, built⟩
  have short : (writeBusSnapshotFromCache overlay stack extraMan currentUpd state).2.length ≤ 1 := by
    rcases writeBusSnapshotFromCache_cases overlay stack extraMan currentUpd state with
      ⟨-, skipped⟩ | written
    · simp [skipped]
    · rw [written]
      dsimp only
      rcases sendSnapshot_cases
          (snapshotRecords overlay stack currentUpd (rgdPruneStaleLaneCache state).2).2
          (snapshotRecords overlay stack currentUpd (rgdPruneStaleLaneCache state).2).1 with
        lost | sent
      · simp [lost]
      · simp [sent]
  rw [split] at short
  simp only [List.length_append, List.length_cons] at short
  exact List.eq_nil_of_length_eq_zero (by omega)

theorem rgdClearState_noSnapshot (overlay : Bool) (reason : ClearReason) (state : RgdState) :
    NoSnapshot (rgdClearState overlay reason state).2 := by
  simp [NoSnapshot, rgdClearState]

theorem rgdLazyInit_noSnapshot (overlay : Bool) (state : RgdState) :
    NoSnapshot (rgdLazyInit overlay state).2 := by
  unfold rgdLazyInit
  split
  · simp [NoSnapshot]
  · exact rgdClearState_noSnapshot overlay .init _

theorem acceptUpdate_snapshotsLast (overlay : Bool) (stack : RgdKey → List UInt8) (upd : RgdUpdate)
    (state : RgdState) :
    SnapshotsLast overlay (acceptUpdate overlay stack upd state).1
      (acceptUpdate overlay stack upd state).2 := by
  have accepted : NoSnapshot [acceptedEvent overlay upd state] := by
    simp [NoSnapshot, acceptedEvent]
  rcases acceptUpdate_cases overlay stack upd state with ⟨-, skipped⟩ | ⟨-, written⟩
  · rw [skipped]
    exact accepted.snapshotsLast
  · rw [written, ← List.singleton_append]
    exact (writeBusSnapshotFromCache_snapshotsLast overlay stack none _ _).prepend accepted

theorem handleFrame_snapshotsLast (overlay : Bool) (msgid : Nat) (raw : List UInt8) (now : Nat)
    (stack : RgdKey → List UInt8) (state : RgdState) :
    SnapshotsLast overlay (handleFrame overlay msgid raw now stack state).1
      (handleFrame overlay msgid raw now stack state).2 := by
  have empty : ∀ next, SnapshotsLast overlay next [] := fun next =>
    NoSnapshot.snapshotsLast (by simp [NoSnapshot])
  unfold handleFrame
  split_ifs
  · obtain ⟨debounced, events, held, -, outcome, result⟩ :=
      handleUpdate_cases overlay stack now (rgdParseUpdate raw) state
    have quiet : NoSnapshot (.routeUpdate (rgdParseUpdate raw) :: events) := by
      intro shown records member
      rcases List.mem_cons.mp member with arrival | reset
      · cases arrival
      · cases outcome <;> simp at reset
    rcases result with ⟨-, result⟩ | ⟨-, result⟩
    · rw [result]
      exact quiet.snapshotsLast
    · rw [result, ← List.cons_append]
      exact (acceptUpdate_snapshotsLast overlay stack _ debounced).prepend quiet
  · rcases handleManeuver_cases overlay stack (rgdParseManeuver raw) state with
      skipped | ⟨idx, extraMan, -, -, written⟩
    · rw [skipped]
      exact empty _
    · rw [written]
      refine (writeBusSnapshotFromCache_snapshotsLast overlay stack extraMan none _).prepend ?_
      intro shown records member
      cases slotAssigned_of_mem_rgdSlotForIapIndex member
  · rcases handleLane_cases overlay stack (rgdParseLaneGuidance raw) state with
      skipped | stored | ⟨extraMan, written⟩
    · rw [skipped]
      exact empty _
    · rw [stored]
      exact empty _
    · rw [written]
      exact writeBusSnapshotFromCache_snapshotsLast overlay stack extraMan _ _
  · exact empty _

theorem rgdHookStep_snapshotsLast (overlay : Bool) (label : HookLabel) (state : RgdState) :
    SnapshotsLast overlay (rgdHookStep overlay label state).1
      (rgdHookStep overlay label state).2 := by
  cases label with
  | message msgid raw now stack =>
      exact (handleFrame_snapshotsLast overlay msgid raw now stack _).prepend
        (rgdLazyInit_noSnapshot overlay state)
  | tick now =>
      apply NoSnapshot.snapshotsLast
      simp only [rgdHookStep, rgdPeriodicTick]
      split <;> simp [NoSnapshot]
  | clear reason => exact (rgdClearState_noSnapshot overlay reason state).snapshotsLast

end RgdState

open RgdState

/-- The events up to a snapshot are a run that ends in the state shown. -/
theorem snapshot_run {overlay : Bool} {guard : RgdState → List HookEvent → HookLabel → Prop}
    {state : RgdState} {history : List HookEvent}
    (run : (rgdHook overlay).RunWithin guard state history)
    {past future : List HookEvent} {shown : RgdState} {records : List RgdRecord}
    (split : history = past ++ .snapshot shown records :: future) :
    (rgdHook overlay).RunWithin guard shown (past ++ [.snapshot shown records]) ∧
      BuiltFrom overlay shown records := by
  induction run generalizing past future with
  | start => simp at split
  | @next before after trace events label steps allowed stepTo ih =>
      obtain ⟨afterEq, eventsEq⟩ : (rgdHookStep overlay label before).1 = after ∧
          (rgdHookStep overlay label before).2 = events := by
        simpa [rgdHook, Prod.ext_iff] using stepTo
      have last := rgdHookStep_snapshotsLast overlay label before
      rw [afterEq, eventsEq] at last
      rcases List.append_eq_append_iff.mp split with ⟨middle, pastEq, inEvents⟩ |
        ⟨middle, traceEq, inTrace⟩
      · obtain ⟨rfl, rfl, built⟩ := last middle shown records future inEvents
        refine ⟨?_, built⟩
        rw [pastEq, List.append_assoc, ← inEvents]
        exact .next steps allowed stepTo
      · cases middle with
        | nil =>
            obtain ⟨rfl, rfl, built⟩ := last [] shown records future (by simpa using inTrace.symm)
            refine ⟨?_, built⟩
            have pastEq : past = trace := by simpa using traceEq.symm
            have singleEq : events = [.snapshot shown records] := by simpa using inTrace.symm
            rw [pastEq, ← singleEq]
            exact .next steps allowed stepTo
        | cons event middle =>
            obtain ⟨rfl, -⟩ := List.cons.inj inTrace
            exact ih traceEq

/-- The same for a snapshot at a position of the history. -/
theorem snapshot_run_at {overlay : Bool} {guard : RgdState → List HookEvent → HookLabel → Prop}
    {state : RgdState} {history : List HookEvent}
    (run : (rgdHook overlay).RunWithin guard state history) {position : Nat} {shown : RgdState}
    {records : List RgdRecord} (found : history[position]? = some (.snapshot shown records)) :
    (rgdHook overlay).RunWithin guard shown
        (history.take position ++ [.snapshot shown records]) ∧
      BuiltFrom overlay shown records := by
  obtain ⟨positionLt, eventEq⟩ := List.getElem?_eq_some_iff.mp found
  have split : history =
      history.take position ++ .snapshot shown records :: history.drop (position + 1) := by
    rw [← eventEq, List.getElem_cons_drop, List.take_append_drop]
  exact snapshot_run run split

end CarplayRgi
