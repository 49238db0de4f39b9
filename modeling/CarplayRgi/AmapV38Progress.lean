import CarplayRgi.AmapV38Distances

/-!
# How the shown distance grows back

The tracker lets its distance grow back once, to correct a pair that was stale
at the commit.  A soft-inactive hold shows the distance of the commit and not
the tracked one, so that every one of them may begin with another increase.
-/

namespace CarplayRgi

/-- The increases of a list of distances. -/
def ascents : List Int → Nat
  | first :: second :: rest => (if first < second then 1 else 0) + ascents (second :: rest)
  | _ => 0

theorem ascents_snoc_le {distances : List Int} {next : Int}
    (falls : ∀ last ∈ distances.getLast?, next ≤ last) :
    ascents (distances ++ [next]) = ascents distances := by
  fun_induction ascents distances with
  | case1 first second rest ih =>
      have later := ih (by simpa using falls)
      simp only [List.cons_append] at later ⊢
      rw [ascents, later]
  | case2 distances short =>
      rcases distances with _ | ⟨first, _ | ⟨second, rest⟩⟩
      · rfl
      · have le : next ≤ first := falls first rfl
        simp [ascents, Int.not_lt.mpr le]
      · exact absurd rfl (short first second rest)

theorem ascents_snoc (distances : List Int) (next : Int) :
    ascents (distances ++ [next]) ≤ ascents distances + 1 := by
  fun_induction ascents distances with
  | case1 first second rest ih =>
      simp only [List.cons_append] at ih ⊢
      rw [ascents]
      omega
  | case2 distances short =>
      rcases distances with _ | ⟨first, _ | ⟨second, rest⟩⟩
      · simp [ascents]
      · simp only [List.cons_append, List.nil_append, ascents]
        split_ifs <;> simp
      · exact absurd rfl (short first second rest)

namespace AmapProgressTracker

variable {distance nodeDistance denominator : Int} {identity : AmapIdentity}
  {allowCorrection : Bool} {tracker : AmapProgressTracker} {distances : List Int}

/-- The distance may still grow back. -/
def allowance (tracker : AmapProgressTracker) : Nat :=
  (tracker.provisional || tracker.awaitingFirstUsableSample).toNat

/-- The distance can be fed for the node without another commit, or nothing is
tracked. -/
def Tracks (tracker : AmapProgressTracker) (identity : AmapIdentity) : Prop :=
  tracker.distanceM ≤ 0 ∨ tracker.identity.samePhysical identity = true

theorem keepDenominator_keeps (denominator : Int) (tracker : AmapProgressTracker) :
    (tracker.keepDenominator denominator).distanceM = tracker.distanceM ∧
      (tracker.keepDenominator denominator).provisional = tracker.provisional ∧
        (tracker.keepDenominator denominator).awaitingFirstUsableSample =
          tracker.awaitingFirstUsableSample := by
  unfold keepDenominator
  split_ifs
  · exact ⟨rfl, rfl, rfl⟩
  · exact ⟨rfl, rfl, rfl⟩

/-- What a later update does to the distance and to the allowance: the distance
shrinks, or it grows back to the distance of the node at most, for the last time. -/
def Progresses (nodeDistance : Int) (before after : AmapProgressTracker) : Prop :=
  0 < after.distanceM ∧
    ((after.distanceM ≤ before.distanceM ∧ after.allowance ≤ before.allowance) ∨
      (before.distanceM < after.distanceM ∧ after.distanceM ≤ nodeDistance ∧
        before.allowance = 1 ∧ after.allowance = 0))

theorem laterSample_progress (nodeDistance denominator : Int) (identity : AmapIdentity)
    (positive : 0 < distance) (started : 0 < tracker.distanceM) :
    Progresses nodeDistance tracker
      (tracker.laterSample distance nodeDistance denominator identity) := by
  unfold laterSample
  split_ifs with grows shrinks same
  · have keeps := keepDenominator_keeps denominator { tracker with distanceM := distance }
    obtain ⟨mayGrow, -, larger, within⟩ := grows
    refine ⟨by rw [keeps.1]; exact positive, .inr ⟨?_, ?_, ?_, rfl⟩⟩
    · rw [keeps.1]
      exact larger
    · rw [keeps.1]
      exact within
    · simp [allowance, mayGrow]
  · have keeps := keepDenominator_keeps denominator { tracker with distanceM := distance }
    refine ⟨by rw [keeps.1]; exact positive, .inl ⟨keeps.1.trans_le (le_of_lt shrinks), ?_⟩⟩
    cases awaiting : tracker.awaitingFirstUsableSample <;> simp [allowance, awaiting, Bool.toNat_le]
  · have keeps := keepDenominator_keeps denominator { tracker with identity := identity }
    refine ⟨by rw [keeps.1]; exact started, .inl ⟨le_of_eq keeps.1, ?_⟩⟩
    simp only [allowance, keeps.2.1, Bool.or_false]
    cases tracker.provisional <;> simp
  · exact ⟨started, .inl ⟨Int.le_refl _, by simp [allowance]⟩⟩

/-- The distances shown for a node end with the tracked one, and grew back once
at most; not at all if they may still do so. -/
structure Settled (tracker : AmapProgressTracker) (distances : List Int) : Prop where
  ascents : ascents distances + tracker.allowance ≤ 1
  last : ∀ last ∈ distances.getLast?, last = tracker.distanceM ∧ 0 < last

theorem settled_nil (tracker : AmapProgressTracker) : tracker.Settled [] :=
  ⟨by simpa [CarplayRgi.ascents, allowance] using Bool.toNat_le _, nofun⟩

theorem settled_one (positive : 0 < tracker.distanceM) : tracker.Settled [tracker.distanceM] := by
  refine ⟨by simpa [CarplayRgi.ascents, allowance] using Bool.toNat_le _, fun last isLast => ?_⟩
  obtain rfl := Option.some.inj isLast
  exact ⟨rfl, positive⟩

theorem Settled.kept (before : tracker.Settled distances) (positive : 0 < tracker.distanceM) :
    tracker.Settled (distances ++ [tracker.distanceM]) := by
  refine ⟨?_, by simp [positive]⟩
  rw [ascents_snoc_le fun last isLast => le_of_eq (before.last last isLast).1.symm]
  exact before.ascents

/-- A distance fed for the tracked node is shown. -/
theorem Settled.update (before : tracker.Settled distances) (nodeDistance denominator : Int)
    (allowCorrection : Bool) (positive : 0 < distance) (tracks : tracker.Tracks identity) :
    (tracker.update distance nodeDistance denominator identity allowCorrection).Settled
      (distances ++
        [(tracker.update distance nodeDistance denominator identity allowCorrection).distanceM]) := by
  -- nothing has been shown for a node without a distance
  have unstarted : tracker.distanceM ≤ 0 → distances = [] := by
    intro nothing
    rw [← List.getLast?_eq_none_iff]
    by_contra shown
    obtain ⟨last, isLast⟩ := Option.ne_none_iff_exists'.mp shown
    have positive := before.last last isLast
    omega
  unfold AmapProgressTracker.update
  rw [if_neg (by omega)]
  by_cases other : (!tracker.identity.samePhysical identity) = true
  · rw [if_pos other]
    have nothing : tracker.distanceM ≤ 0 := by
      rcases tracks with nothing | same
      · exact nothing
      · simp [same] at other
    rw [unstarted nothing]
    exact settled_one positive
  rw [if_neg other]
  by_cases nothing : tracker.distanceM ≤ 0
  · rw [if_pos nothing, unstarted nothing]
    exact settled_one positive
  rw [if_neg nothing]
  have bounded := before.ascents
  obtain ⟨stillPositive, ⟨shrinks, less⟩ | ⟨-, -, mayGrow, final⟩⟩ :=
    laterSample_progress nodeDistance denominator identity positive (Int.not_le.mp nothing)
  · refine ⟨?_, by simp [stillPositive]⟩
    rw [ascents_snoc_le fun last isLast => shrinks.trans_eq (before.last last isLast).1.symm]
    omega
  · refine ⟨?_, by simp [stillPositive]⟩
    have grown := ascents_snoc distances
      (tracker.laterSample distance nodeDistance denominator identity).distanceM
    omega

end AmapProgressTracker

/-- The committed physical identity. -/
def AmapSnapshot.physical (snapshot : AmapSnapshot) : Int × Int × Int :=
  (snapshot.physicalHead, snapshot.physicalVer, snapshot.physicalGeneration)

/-- The positive distance of a snapshot that is shown. -/
def shownDistance (shown : Option AmapSnapshot) : Option Int :=
  (shown.map fun snapshot => snapshot.distManeuverM).filter fun distance => 0 < distance

theorem mem_shownDistance {shown : Option AmapSnapshot} {distance : Int} :
    distance ∈ shownDistance shown ↔
      ∃ snapshot ∈ shown, snapshot.distManeuverM = distance ∧ 0 < distance := by
  cases shown with
  | none => simp [shownDistance]
  | some snapshot =>
      simp only [shownDistance, Option.map_some, Option.mem_def, Option.filter_eq_some_iff,
        Option.some.injEq, decide_eq_true_eq, exists_eq_left']

namespace AmapV38Compat

variable {engine : AmapV38Compat} {call : V38Call}

/-- Without a tracked distance, the committed snapshot has none. -/
def CommitTracked (engine : AmapV38Compat) : Prop :=
  ∀ committed ∈ engine.committed, engine.progress.distanceM ≤ 0 → committed.distManeuverM ≤ 0

theorem Commits.commitTracked {before after : AmapV38Compat} (commits : Commits before after) :
    after.CommitTracked := by
  intro committed isCommitted nothing
  obtain rfl := Option.some.inj (commits.committed.symm.trans isCommitted)
  by_contra positive
  have own := commitSnapshot_distance (Int.not_le.mp positive)
  rw [commits.progress] at nothing
  have tracked : before.current.dist ≤ 0 := nothing
  omega

theorem fed_unstarted {head ver : Int} (nothing : (engine.fed head ver).distanceM ≤ 0) :
    engine.progress.distanceM ≤ 0 := by
  rcases engine.fed_distanceM head ver with kept | taken
  · exact kept ▸ nothing
  · rw [taken] at nothing
    have unfed : engine.fed head ver = engine.progress := if_pos nothing
    rw [← unfed, taken]
    exact nothing

theorem commitTracked_answer (tracked : engine.CommitTracked) :
    (engine.answer call).2.CommitTracked := by
  have way := engine.answer_case call
  generalize engine.answer call = result at way
  generalize engine.branch call = branch at way
  cases way with
  | passed after same =>
      rcases same with rfl | rfl
      · exact tracked
      · exact tracked
  | hidden | soft => exact tracked
  | active enabled awake way =>
      cases way with
      | empty => exact tracked
      | first _ _ commits | again _ _ _ _ _ commits => exact commits.commitTracked
      | prompt _ _ _ _ holds | hold _ _ _ _ _ holds =>
          intro committed isCommitted nothing
          rw [holds.progress] at nothing
          rw [holds.committed] at isCommitted
          exact tracked committed isCommitted (fed_unstarted nothing)
      | accept before _ was _ _ accepts =>
          intro committed isCommitted nothing
          rw [accepts.progress] at nothing
          obtain rfl := Option.some.inj (accepts.committed.symm.trans isCommitted)
          exact tracked before was (fed_unstarted nothing)

theorem distManeuverM_accepted (raw : AmapFields) (head : Int) (snapshot : AmapSnapshot) :
    (copyNonVisualPrimary raw head (copyLiveTopLevel raw snapshot)).distManeuverM =
      snapshot.distManeuverM := by
  unfold copyNonVisualPrimary
  split
  · rfl
  · rfl

/-- Frames that feed the tracker show what is tracked. -/
theorem distance_fed (tracked : engine.CommitTracked) {committed : AmapSnapshot}
    (isCommitted : engine.committed = some committed) {branch : V38Branch}
    (feeds : branch ∈ [V38Branch.prompt, .accept, .hold]) :
    shownDistance (engine.shown call branch) =
      (some engine.progress.distanceM).filter fun distance => 0 < distance := by
  have shownTracked : ∀ snapshot : AmapSnapshot,
      snapshot.distManeuverM = committed.distManeuverM →
        shownDistance (some (applyTrackedDistance engine.progress snapshot)) =
          (some engine.progress.distanceM).filter fun distance => 0 < distance := by
    intro snapshot same
    unfold applyTrackedDistance shownDistance
    split_ifs with positive
    · rfl
    · have nothing := tracked committed isCommitted (Int.not_lt.mp positive)
      rw [Option.map_some, Option.filter_some, Option.filter_some, if_neg, if_neg]
      · simpa using positive
      · simpa [same] using nothing
  simp only [List.mem_cons, List.not_mem_nil, or_false] at feeds
  rcases feeds with rfl | rfl | rfl
  · simp only [AmapV38Compat.shown, isCommitted, Option.map_some]
    exact shownTracked _ rfl
  · simp only [AmapV38Compat.shown, isCommitted, Option.map_some]
    exact shownTracked _ (distManeuverM_accepted _ _ _)
  · simp only [AmapV38Compat.shown, isCommitted, Option.map_some]
    exact shownTracked _ rfl

/-- The identity under which a branch feeds the tracker. -/
def fedAs (engine : AmapV38Compat) : V38Branch → Option AmapIdentity
  | .prompt | .accept => some (engine.identity engine.current.head engine.current.ver)
  | .hold => engine.committed.map fun committed =>
      engine.identity committed.physicalHead committed.physicalVer
  | .original | .hidden | .soft | .commit => none

/-- What a branch does with the tracker and what it shows: it keeps what is
tracked and shows it at most, or it feeds the tracker and shows the new distance. -/
inductive ProgressCase (engine : AmapV38Compat) (branch : V38Branch) :
    AmapProgressTracker → Option Int → Prop
  | kept (shown : Option Int) :
      (∀ distance ∈ shown, distance = engine.progress.distanceM ∧ 0 < distance) →
      ProgressCase engine branch engine.progress shown
  | fed (identity : AmapIdentity) (denominator : Int) : 0 < engine.current.dist →
      identity ∈ engine.fedAs branch →
      ProgressCase engine branch
        (engine.progress.update engine.current.dist engine.current.nodeDistance denominator
          identity false)
        ((some (engine.progress.update engine.current.dist engine.current.nodeDistance denominator
          identity false).distanceM).filter fun distance => 0 < distance)

theorem progressCase_fed {branch : V38Branch} (head ver : Int)
    (isFed : engine.identity head ver ∈ engine.fedAs branch) :
    ProgressCase engine branch (engine.fed head ver)
      ((some (engine.fed head ver).distanceM).filter fun distance => 0 < distance) := by
  unfold fed
  by_cases nothing : engine.current.dist ≤ 0
  · rw [if_pos nothing]
    refine .kept _ fun distance isShown => ?_
    obtain ⟨same, positive⟩ := Option.filter_eq_some_iff.mp isShown
    obtain rfl := Option.some.inj same
    exact ⟨rfl, of_decide_eq_true positive⟩
  · rw [if_neg nothing]
    exact .fed _ _ (Int.not_le.mp nothing) isFed

theorem progress_answer (tracked : engine.CommitTracked)
    (noCommit : engine.branch call ≠ .commit)
    (soft : engine.branch call = .soft → ∀ committed ∈ engine.committed,
      committed.distManeuverM ≤ 0 ∨ committed.distManeuverM = engine.progress.distanceM) :
    ProgressCase engine (engine.branch call) (engine.answer call).2.progress
      (shownDistance ((engine.answer call).2.shown call (engine.branch call))) := by
  have trackedAfter : (engine.answer call).2.CommitTracked := commitTracked_answer tracked
  have way := engine.answer_case call
  generalize engine.answer call = result at way trackedAfter
  generalize engine.branch call = branch at way noCommit soft
  cases way with
  | passed after same =>
      rcases same with rfl | rfl
      · exact .kept none nofun
      · exact .kept none nofun
  | hidden => exact .kept none nofun
  | soft committed startedMs _ isCommitted =>
      refine .kept _ fun distance isShown => ?_
      obtain ⟨snapshot, shows, rfl, positive⟩ := mem_shownDistance.mp isShown
      have isHold : engine.committed.map _ = some snapshot := shows
      rw [isCommitted] at isHold
      obtain rfl := Option.some.inj isHold
      rcases soft rfl committed isCommitted with nothing | same
      · exact absurd positive (Int.not_lt.mpr nothing)
      · exact ⟨same, positive⟩
  | active enabled awake way =>
      cases way with
      | empty => exact .kept none nofun
      | first | again => exact absurd rfl noCommit
      | prompt committed after isCommitted _ holds =>
          rw [distance_fed trackedAfter (holds.committed.trans isCommitted) (by simp),
            holds.progress]
          exact progressCase_fed _ _ rfl
      | hold committed after isCommitted _ _ holds =>
          rw [distance_fed trackedAfter (holds.committed.trans isCommitted) (by simp),
            holds.progress]
          exact progressCase_fed _ _ (Option.mem_map_of_mem _ isCommitted)
      | accept committed after isCommitted _ _ accepts =>
          rw [distance_fed trackedAfter accepts.committed (by simp), accepts.progress]
          exact progressCase_fed _ _ rfl

theorem ProgressCase.settled {branch : V38Branch} {progress : AmapProgressTracker}
    {shown : Option Int} (way : ProgressCase engine branch progress shown)
    {distances : List Int} (before : engine.progress.Settled distances)
    (tracks : 0 < engine.current.dist → ∀ identity ∈ engine.fedAs branch,
      engine.progress.Tracks identity) :
    progress.Settled (distances ++ shown.toList) := by
  cases way with
  | kept shown same =>
      cases shown with
      | none => simpa using before
      | some distance =>
          obtain ⟨rfl, positive⟩ := same distance rfl
          exact before.kept positive
  | fed identity denominator positive isFed =>
      have after := before.update engine.current.nodeDistance denominator false positive
        (tracks positive identity isFed)
      have shownPositive := (after.last _ List.getLast?_concat).2
      rw [Option.filter_some, if_pos (decide_eq_true shownPositive)]
      exact after

/-- What is shown is tracked. -/
theorem shown_tracked (tracked : engine.CommitTracked)
    (soft : engine.branch call = .soft → ∀ committed ∈ engine.committed,
      committed.distManeuverM ≤ 0 ∨ committed.distManeuverM = engine.progress.distanceM) :
    ∀ distance ∈ shownDistance ((engine.answer call).2.shown call (engine.branch call)),
      distance = (engine.answer call).2.progress.distanceM ∧ 0 < distance := by
  intro distance isShown
  by_cases commit : engine.branch call = .commit
  · have way := engine.answer_case call
    obtain ⟨snapshot, shows, rfl, positive⟩ := mem_shownDistance.mp isShown
    rw [commit] at way shows
    generalize engine.answer call = result at way shows
    cases way with
    | active _ _ way =>
        cases way with
        | first _ _ commits | again _ _ _ _ _ commits =>
            obtain rfl := Option.some.inj (commits.committed.symm.trans shows)
            refine ⟨?_, positive⟩
            rw [commits.progress]
            exact commitSnapshot_distance positive
  · have way := progress_answer tracked commit soft
    generalize shownDistance _ = shown at way isShown
    generalize (engine.answer call).2.progress = progress at way
    cases way with
    | kept _ same => exact same distance isShown
    | fed =>
        obtain ⟨same, positive⟩ := Option.filter_eq_some_iff.mp isShown
        exact ⟨(Option.some.inj same).symm, of_decide_eq_true positive⟩

theorem committed_accept (accepts : engine.branch call = .accept) :
    ∃ committed, engine.committed = some committed ∧
      (engine.answer call).2.committed = some (engine.movedTo engine.current committed) := by
  have way := engine.answer_case call
  rw [accepts] at way
  generalize engine.answer call = result at way
  cases way with
  | active _ _ way =>
      cases way with
      | accept committed _ isCommitted _ _ accepts => exact ⟨committed, isCommitted, accepts.committed⟩

end AmapV38Compat

namespace V38Event

def distance (event : V38Event) : Option Int := shownDistance event.shown

def physical (event : V38Event) : Option (Int × Int × Int) :=
  event.engine.committed.map AmapSnapshot.physical

/-- Nothing new has been committed, and the committed identity is still that of
the first event. -/
def GoesOn (first event : V38Event) : Prop :=
  event.commits = false ∧
    ∃ identity, first.physical = some identity ∧ event.physical = some identity

end V38Event

def shownDistances (events : List V38Event) : List Int := events.filterMap V38Event.distance

theorem shownDistances_snoc (events : List V38Event) (event : V38Event) :
    shownDistances (events ++ [event]) = shownDistances events ++ event.distance.toList := by
  unfold shownDistances
  rw [List.filterMap_append]
  cases eventDistance : event.distance <;> simp [eventDistance]

/-- The shown distances fall, but for one correction. -/
def GrowsBackOnce (stretch : List V38Event) : Prop :=
  ascents (shownDistances stretch) ≤ 1

/-- A soft-inactive hold shows the tracked distance, and the tracker is fed for
the node that it tracks. -/
structure FeedsTracked (enables : Bool) (carried : Option Int) (call : V38Call)
    (observed : AmapV38Compat) : Prop where
  seeds : SeedsFresh enables carried call observed
  soft : (observed.ready enables).branch call = .soft →
    ∀ committed ∈ (observed.ready enables).committed, committed.distManeuverM ≤ 0 ∨
      committed.distManeuverM = (observed.ready enables).progress.distanceM
  feeds : 0 < (observed.ready enables).current.dist →
    ∀ identity ∈ (observed.ready enables).fedAs ((observed.ready enables).branch call),
      (observed.ready enables).progress.Tracks identity ∨
        (observed.ready enables).branch call = .accept ∧
          ∀ committed ∈ (observed.ready enables).committed,
            ((observed.ready enables).movedTo (observed.ready enables).current
              committed).physical ≠ committed.physical

structure Progresses (engine : AmapV38Compat) (events : List V38Event) : Prop where
  growsBack : AllStretches V38Event.GoesOn GrowsBackOnce events
  tracked : engine.enabled = true → engine.CommitTracked
  settled : engine.enabled = true → ∀ committed ∈ engine.committed,
    LastStretches V38Event.GoesOn (fun stretch =>
      engine.progress.Settled (shownDistances stretch) ∧
        ∀ first ∈ stretch.head?, first.physical = some committed.physical) events

theorem commitTracked_ready {enables : Bool} {observed : AmapV38Compat}
    (tracked : observed.enabled = true → observed.CommitTracked)
    (seeds : enables = true → observed.current.valid = true ∨ observed.committed = none)
    (enabled : (observed.ready enables).enabled = true) :
    (observed.ready enables).CommitTracked := by
  cases enables with
  | false => exact tracked enabled
  | true =>
      cases valid : observed.current.valid with
      | true => exact (AmapV38Compat.ready_seeds valid).commitTracked
      | false =>
          have nothing := (seeds rfl).resolve_left (by simp [valid])
          rw [AmapV38Compat.ready_keeps valid]
          intro committed isCommitted
          have isCommitted : observed.committed = some committed := isCommitted
          rw [nothing] at isCommitted
          cases isCommitted

section Answers

variable {enables : Bool} {carried : Option Int} {call : V38Call} {observed : AmapV38Compat}
  {events : List V38Event}

/-- What is known of a stretch that an answer ends. -/
def EndsSettled (event : V38Event) (stretch : List V38Event) : Prop :=
  event.engine.enabled = true → ∀ committed ∈ event.engine.committed,
    event.engine.progress.Settled (shownDistances stretch) ∧
      ∀ first ∈ stretch.head?, first.physical = some committed.physical

/-- A stretch that is only the answer. -/
theorem settled_alone (before : Progresses observed events)
    (feeds : FeedsTracked enables carried call observed) :
    GrowsBackOnce [v38Event enables carried call observed] ∧
      EndsSettled (v38Event enables carried call observed)
        [v38Event enables carried call observed] := by
  have shownTracked : ∀ distance ∈ (v38Event enables carried call observed).distance,
      distance = (v38Event enables carried call observed).engine.progress.distanceM ∧
        0 < distance := by
    intro distance isShown
    obtain ⟨snapshot, shows, -⟩ := mem_shownDistance.mp isShown
    have tracked := commitTracked_ready before.tracked feeds.seeds
      (AmapV38Compat.enabled_of_shown shows)
    exact AmapV38Compat.shown_tracked tracked feeds.soft distance isShown
  have alone : (v38Event enables carried call observed).engine.progress.Settled
      (shownDistances [v38Event enables carried call observed]) := by
    rw [← List.nil_append [_], shownDistances_snoc]
    cases distanceEq : (v38Event enables carried call observed).distance with
    | none => exact AmapProgressTracker.settled_nil _
    | some distance =>
        obtain ⟨rfl, positive⟩ := shownTracked distance distanceEq
        exact AmapProgressTracker.settled_one positive
  refine ⟨le_trans (Nat.le_add_right _ _) alone.ascents, fun _ committed isCommitted =>
    ⟨alone, fun first isFirst => ?_⟩⟩
  obtain rfl := Option.some.inj isFirst
  exact congrArg (Option.map AmapSnapshot.physical) isCommitted

/-- A stretch that goes on with the answer. -/
theorem settled_goesOn (before : Progresses observed events)
    (feeds : FeedsTracked enables carried call observed) {earlier rest : List V38Event}
    {first : V38Event} (split : events = earlier ++ first :: rest)
    (continues : ∀ other ∈ rest, V38Event.GoesOn first other)
    (goesOn : V38Event.GoesOn first (v38Event enables carried call observed)) :
    GrowsBackOnce (first :: rest ++ [v38Event enables carried call observed]) ∧
      EndsSettled (v38Event enables carried call observed)
        (first :: rest ++ [v38Event enables carried call observed]) := by
  obtain ⟨noCommit, identity, firstIs, eventIs⟩ := goesOn
  obtain ⟨after, isAfter, rfl⟩ := Option.map_eq_some_iff.mp eventIs
  obtain ⟨committed, was, -⟩ := V38Event.committed_of_quiet noCommit isAfter
  obtain ⟨invalid, noAnswer⟩ := V38Event.quiet noCommit
  -- something was committed, so that the engine has not just been enabled
  have notEnabling : enables = false := by
    by_contra enabling
    rw [Bool.not_eq_false] at enabling
    have nothing := (feeds.seeds enabling).resolve_left (by simp [invalid enabling])
    rw [nothing] at was
    cases was
  subst notEnabling
  unfold GrowsBackOnce EndsSettled
  rw [shownDistances_snoc]
  cases enabled : observed.enabled with
  | false =>
      have notShown : (v38Event false carried call observed).distance = none := by
        refine Option.eq_none_iff_forall_not_mem.mpr fun distance isShown => ?_
        obtain ⟨snapshot, shows, -⟩ := mem_shownDistance.mp isShown
        have isEnabled : observed.enabled = true := AmapV38Compat.enabled_of_shown shows
        exact Bool.false_ne_true (enabled.symm.trans isEnabled)
      rw [notShown, Option.toList_none, List.append_nil]
      refine ⟨before.growsBack earlier first rest [] (by simp [split]) continues, fun isEnabled => ?_⟩
      exact absurd (enabled.symm.trans (V38Event.enabled_eq.symm.trans isEnabled)) Bool.false_ne_true
  | true =>
      obtain ⟨settled, sameFirst⟩ :=
        before.settled enabled committed was earlier first rest split continues
      have sameIdentity : after.physical = committed.physical :=
        Option.some.inj (firstIs.symm.trans (sameFirst first rfl))
      have way := AmapV38Compat.progress_answer (before.tracked enabled) noAnswer feeds.soft
      have settledAfter := way.settled settled fun positive identity isFed => by
        rcases feeds.feeds positive identity isFed with tracks | ⟨accepts, moves⟩
        · exact tracks
        · obtain ⟨earlier, wasEarlier, moved⟩ := AmapV38Compat.committed_accept accepts
          obtain rfl := Option.some.inj (moved.symm.trans isAfter)
          obtain rfl := Option.some.inj (was.symm.trans wasEarlier)
          exact absurd sameIdentity (moves _ wasEarlier)
      refine ⟨le_trans (Nat.le_add_right _ _) settledAfter.ascents,
        fun _ last isLast => ⟨settledAfter, fun own isOwn => ?_⟩⟩
      obtain rfl := Option.some.inj isOwn
      obtain rfl := Option.some.inj (isAfter.symm.trans isLast)
      exact firstIs

theorem progresses_answer (before : Progresses observed events)
    (feeds : FeedsTracked enables carried call observed) :
    Progresses (v38Event enables carried call observed).engine
      (events ++ [v38Event enables carried call observed]) := by
  have last : LastStretches V38Event.GoesOn (fun stretch => GrowsBackOnce stretch ∧
      EndsSettled (v38Event enables carried call observed) stretch)
        (events ++ [v38Event enables carried call observed]) :=
    .snoc (settled_alone before feeds) fun _ _ _ split continues goesOn =>
      settled_goesOn before feeds split continues goesOn
  refine ⟨before.growsBack.snoc fun earlier first rest split continues =>
    (last earlier first rest split continues).1, fun enabled => ?_, ?_⟩
  · exact AmapV38Compat.commitTracked_answer
      (commitTracked_ready before.tracked feeds.seeds (V38Event.enabled_eq.symm.trans enabled))
  · exact fun enabled committed isCommitted earlier first rest split continues =>
      (last earlier first rest split continues).2 enabled committed isCommitted

end Answers

/-- If soft-inactive holds show the tracked distance and the tracker is only fed
for the node that it tracks, the distance grows back once at most for each
committed maneuver. -/
theorem distance_grows_back_once {engine : AmapV38Compat} {events : List V38Event}
    (run : amapV38Compat.RunWithin (Answering FeedsTracked) engine events) :
    AllStretches V38Event.GoesOn GrowsBackOnce events := by
  refine (AmapV38Compat.invariant_of_answers Progresses ?_ ?_ ?_ ?_ ?_ run).growsBack
  · exact ⟨allStretches_nil, nofun, nofun⟩
  · intro engine after events same before
    refine ⟨before.growsBack, fun enabled => ?_, fun enabled committed isCommitted => ?_⟩
    · unfold AmapV38Compat.CommitTracked
      rw [same.committed, same.progress]
      exact before.tracked (same.enabled.symm.trans enabled)
    · rw [same.progress]
      exact before.settled (same.enabled.symm.trans enabled) committed
        (same.committed.symm.trans isCommitted)
  · exact fun engine events before => ⟨before.growsBack, nofun, nofun⟩
  · exact fun engine events before => ⟨before.growsBack, nofun, nofun⟩
  · exact fun enables carried call observed events before feeds => progresses_answer before feeds

instance (tracker : AmapProgressTracker) (identity : AmapIdentity) :
    Decidable (tracker.Tracks identity) :=
  inferInstanceAs (Decidable (_ ≤ _ ∨ _ = _))

instance (enables : Bool) (carried : Option Int) (call : V38Call) (observed : AmapV38Compat) :
    Decidable (FeedsTracked enables carried call observed) :=
  decidable_of_iff
    (SeedsFresh enables carried call observed ∧
      ((observed.ready enables).branch call = .soft →
        ∀ committed ∈ (observed.ready enables).committed, committed.distManeuverM ≤ 0 ∨
          committed.distManeuverM = (observed.ready enables).progress.distanceM) ∧
      (0 < (observed.ready enables).current.dist →
        ∀ identity ∈ (observed.ready enables).fedAs ((observed.ready enables).branch call),
          (observed.ready enables).progress.Tracks identity ∨
            (observed.ready enables).branch call = .accept ∧
              ∀ committed ∈ (observed.ready enables).committed,
                ((observed.ready enables).movedTo (observed.ready enables).current
                  committed).physical ≠ committed.physical))
    ⟨fun conditions => ⟨conditions.1, conditions.2.1, conditions.2.2⟩,
      fun feeds => ⟨feeds.seeds, feeds.soft, feeds.feeds⟩⟩

/-- The route is not active for a moment. -/
def softInactive : V38Label :=
  .frame (frameOf
    [(.route .routeState, "1"), (.route .maneuverCount, "0"), (.route .visibleInApp, "0")]) 0
    (.process ⟨[0], 0, 1, 0, 0, -1⟩)

def closer (distance : String) : V38Label :=
  answered .process [(.route .routeState, "2"), (.route .distManeuverM, distance)]

/-- The left turn is held before it comes closer. -/
def heldFirstLabels : List V38Label := [answered .confirm leftTurn, softInactive, closer "400"]

theorem heldFirstLabels_grows_back_once :
    (performAll v38Step heldFirstLabels .reset).2.map V38Event.branch = [.accept, .soft, .accept] ∧
      AllStretches V38Event.GoesOn GrowsBackOnce (performAll v38Step heldFirstLabels .reset).2 := by
  have allowed : AllowedAll v38Step (Answering FeedsTracked) heldFirstLabels .reset [] := by
    decide +kernel
  exact ⟨by decide +kernel, distance_grows_back_once (runWithin_performAll_start allowed)⟩

/-- The left turn comes closer, and is held twice in between. -/
def heldTwiceLabels : List V38Label :=
  [answered .confirm leftTurn, closer "400", softInactive, closer "300", softInactive]

def V38Event.progress (event : V38Event) : Bool × Option (Int × Int × Int) × Option Int :=
  (event.commits, event.physical, event.distance)

theorem heldTwiceLabels_events :
    (performAll v38Step heldTwiceLabels .reset).2.map V38Event.progress =
      (true, some (0, 1, 1), some 500) ::
        [400, 500, 300, 500].map fun distance => (false, some (0, 1, 1), some distance) := by
  decide +kernel

theorem soft_holds_grow_back_twice :
    ¬ ∀ engine events, amapV38Compat.Run engine events →
      AllStretches V38Event.GoesOn GrowsBackOnce events := by
  intro growsBack
  have all := growsBack _ _ (run_performAll .reset v38Step heldTwiceLabels)
  obtain ⟨first, rest, split, firstIs, restIs⟩ := List.map_eq_cons_iff.mp heldTwiceLabels_events
  rw [split] at all
  have continues : ∀ event ∈ rest, V38Event.GoesOn first event := by
    intro event later
    have isLater : event.progress ∈ rest.map V38Event.progress := List.mem_map_of_mem later
    rw [restIs] at isLater
    obtain ⟨distance, -, eventIs⟩ := List.mem_map.mp isLater
    obtain ⟨noCommit, identity, -⟩ := Prod.mk.injEq _ _ _ _ ▸ Prod.mk.injEq _ _ _ _ ▸ eventIs
    obtain ⟨-, firstIdentity, -⟩ := Prod.mk.injEq _ _ _ _ ▸ Prod.mk.injEq _ _ _ _ ▸ firstIs
    exact ⟨noCommit.symm, (0, 1, 1), firstIdentity, identity.symm⟩
  have once := all [] first rest [] (by simp) continues
  have shown : shownDistances (first :: rest) = [500, 400, 500, 300, 500] := by
    have sameDistances := congrArg (List.filterMap fun own : Bool × _ × Option Int => own.2.2)
      heldTwiceLabels_events
    rw [split, List.filterMap_map] at sameDistances
    exact sameDistances
  unfold GrowsBackOnce at once
  rw [shown] at once
  exact absurd once (by decide)

end CarplayRgi
