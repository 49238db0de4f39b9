import CarplayRgi.AmapV38Runs

/-!
# What the V38 engine shows of a commit

What is shown is taken from the snapshot that was committed last.  Switching
the engine off does not forget that snapshot, so it may return when the engine
is enabled for a frame without a head; and an accepted frame shows texts and
lanes that are not committed, so the next hold takes them back.
-/

namespace CarplayRgi

open RouteGuidance

/-- The same snapshot, perhaps at another physical maneuver. -/
structure SameDisplay (first second : AmapSnapshot) : Prop where
  fields : second.toAmapFields = first.toAmapFields
  visualKey : second.visualKey = first.visualKey
  rawType : second.rawType = first.rawType

theorem SameDisplay.refl (snapshot : AmapSnapshot) : SameDisplay snapshot snapshot :=
  ⟨rfl, rfl, rfl⟩

theorem SameDisplay.trans {first second third : AmapSnapshot} (before : SameDisplay first second)
    (after : SameDisplay second third) : SameDisplay first third :=
  ⟨after.fields.trans before.fields, after.visualKey.trans before.visualKey,
    after.rawType.trans before.rawType⟩

namespace AmapV38Compat

variable {engine : AmapV38Compat} {call : V38Call}

/-- Enabled for a frame with a head, the engine commits it. -/
theorem ready_seeds (valid : engine.current.valid = true) :
    Commits { engine with enabled := true, softInactiveExpired := false } (engine.ready true) := by
  have seeded : engine.ready true =
      { engine with enabled := true, softInactiveExpired := false }.commitRaw engine.current :=
    if_pos valid
  rw [seeded]
  exact commitRaw_commits _ valid

/-- Enabled for a frame without a head, it keeps what is committed. -/
theorem ready_keeps (invalid : engine.current.valid = false) :
    engine.ready true = { engine with enabled := true, softInactiveExpired := false } :=
  if_neg (fun valid : engine.current.valid = true =>
    Bool.false_ne_true (invalid.symm.trans valid))

theorem ready_current (enables : Bool) : (engine.ready enables).current = engine.current := by
  cases enables with
  | false => rfl
  | true =>
      cases valid : engine.current.valid with
      | false => rw [ready_keeps valid]; rfl
      | true => exact (ready_seeds valid).observed.current

theorem answer_enabled (engine : AmapV38Compat) (call : V38Call) :
    (engine.answer call).2.enabled = engine.enabled :=
  (process_sameObserved engine call.original call.now _ _ _ _).enabled

/-- Only an enabled engine that has committed something shows a snapshot. -/
theorem enabled_of_shown {snapshot : AmapSnapshot}
    (shows : (engine.answer call).2.shown call (engine.branch call) = some snapshot) :
    engine.enabled = true := by
  by_contra disabled
  have original : engine.branch call = .original := by
    unfold branch
    rw [if_pos (by simp [disabled])]
  rw [original] at shows
  cases shows

theorem committed_of_shown {branch : V38Branch} {snapshot : AmapSnapshot}
    (shows : engine.shown call branch = some snapshot) :
    ∃ committed, engine.committed = some committed := by
  cases committedEq : engine.committed with
  | some committed => exact ⟨committed, rfl⟩
  | none =>
      unfold shown at shows
      rw [committedEq] at shows
      cases branch <;> cases shows

/-- Without a commit, what is committed was committed before. -/
theorem committed_of_answer {after : AmapSnapshot} (noCommit : engine.branch call ≠ .commit)
    (isCommitted : (engine.answer call).2.committed = some after) :
    ∃ before, engine.committed = some before ∧ SameDisplay before after := by
  have way := engine.answer_case call
  generalize engine.answer call = result at way isCommitted
  generalize engine.branch call = branch at way noCommit
  cases way with
  | passed after same =>
      rcases same with rfl | rfl
      · exact ⟨_, isCommitted, .refl _⟩
      · exact ⟨_, isCommitted, .refl _⟩
  | hidden | soft => exact ⟨_, isCommitted, .refl _⟩
  | active enabled awake way =>
      cases way with
      | empty => exact ⟨_, isCommitted, .refl _⟩
      | first | again => exact absurd rfl noCommit
      | prompt committed _ _ _ holds | hold committed _ _ _ _ holds =>
          exact ⟨_, holds.committed.symm.trans isCommitted, .refl _⟩
      | accept committed _ was _ _ accepts =>
          have moved := Option.some.inj (accepts.committed.symm.trans isCommitted)
          exact ⟨committed, was, moved ▸ ⟨rfl, rfl, rfl⟩⟩

end AmapV38Compat

namespace V38Event

variable {enables : Bool} {carried : Option Int} {call : V38Call} {observed : AmapV38Compat}

theorem enabled_eq :
    (v38Event enables carried call observed).engine.enabled = (observed.ready enables).enabled :=
  AmapV38Compat.answer_enabled _ _

/-- An answer that commits nothing neither seeds nor commits. -/
theorem quiet (noCommit : (v38Event enables carried call observed).commits = false) :
    (enables = true → observed.current.valid = false) ∧
      (observed.ready enables).branch call ≠ .commit := by
  simp only [v38Event, Bool.or_eq_false_iff, Bool.and_eq_false_iff, decide_eq_false_iff_not]
    at noCommit
  refine ⟨fun isEnabled => ?_, noCommit.2⟩
  exact noCommit.1.resolve_left (by simp [isEnabled])

theorem committed_of_quiet {after : AmapSnapshot}
    (noCommit : (v38Event enables carried call observed).commits = false)
    (isCommitted : (v38Event enables carried call observed).engine.committed = some after) :
    ∃ before, observed.committed = some before ∧ SameDisplay before after := by
  obtain ⟨noSeed, noAnswer⟩ := quiet noCommit
  obtain ⟨before, was, same⟩ := AmapV38Compat.committed_of_answer noAnswer isCommitted
  refine ⟨before, ?_, same⟩
  cases enables with
  | false => exact was
  | true =>
      rw [AmapV38Compat.ready_keeps (noSeed rfl)] at was
      exact was

end V38Event

/-- The engine is enabled for a frame with a head, or with nothing committed. -/
def SeedsFresh (enables : Bool) (_ : Option Int) (_ : V38Call) (observed : AmapV38Compat) : Prop :=
  enables = true → observed.current.valid = true ∨ observed.committed = none

/-- A commit of what is on display now. -/
def CommitOf (snapshot : AmapSnapshot) (event : V38Event) : Prop :=
  event.commits = true ∧
    ∃ committed, event.engine.committed = some committed ∧ SameDisplay committed snapshot

/-- Whatever the event shows comes from a snapshot that has been committed
since the engine was last enabled. -/
def ShowsThisPeriod (past : List V38Event) (event : V38Event) : Prop :=
  event.shown.isSome = true →
    ∃ call snapshot, event.shown = event.engine.shown call event.branch ∧
      event.engine.committed = some snapshot ∧
      Since (fun later => later.enables = true) (CommitOf snapshot) (past ++ [event])

/-- The answers of a period show what was committed in it. -/
structure InPeriod (engine : AmapV38Compat) (events : List V38Event) : Prop where
  shows : Always ShowsThisPeriod events
  committed : engine.enabled = true → ∀ snapshot, engine.committed = some snapshot →
    Since (fun later => later.enables = true) (CommitOf snapshot) events

theorem inPeriod_answer {enables : Bool} {carried : Option Int} {call : V38Call}
    {observed : AmapV38Compat} {events : List V38Event} (before : InPeriod observed events)
    (seeds : SeedsFresh enables carried call observed) :
    InPeriod (v38Event enables carried call observed).engine
      (events ++ [v38Event enables carried call observed]) := by
  -- what is committed after the answer has been committed in this period
  have committed : (v38Event enables carried call observed).engine.enabled = true →
      ∀ snapshot, (v38Event enables carried call observed).engine.committed = some snapshot →
        Since (fun later => later.enables = true) (CommitOf snapshot)
          (events ++ [v38Event enables carried call observed]) := by
    intro enabled snapshot isCommitted
    cases commits : (v38Event enables carried call observed).commits with
    | true => exact since_now events ⟨commits, snapshot, isCommitted, .refl snapshot⟩
    | false =>
        obtain ⟨earlier, was, same⟩ := V38Event.committed_of_quiet commits isCommitted
        cases enables with
        | true =>
            have nothing := (seeds rfl).resolve_left (by simp [(V38Event.quiet commits).1 rfl])
            rw [nothing] at was
            cases was
        | false =>
            rw [V38Event.enabled_eq] at enabled
            refine ((before.committed enabled earlier was).imp ?_).snoc Bool.false_ne_true
            rintro event ⟨isCommit, first, firstEq, sameFirst⟩
            exact ⟨isCommit, first, firstEq, sameFirst.trans same⟩
  refine ⟨before.shows.snoc fun shows => ?_, committed⟩
  obtain ⟨shown, shownEq⟩ := Option.isSome_iff_exists.mp shows
  obtain ⟨snapshot, isCommitted⟩ := AmapV38Compat.committed_of_shown shownEq
  have enabled : (v38Event enables carried call observed).engine.enabled = true :=
    V38Event.enabled_eq.trans (AmapV38Compat.enabled_of_shown shownEq)
  exact ⟨call, snapshot, rfl, isCommitted, committed enabled snapshot isCommitted⟩

/-- If the engine is never enabled for a frame without a head while something is
committed, every period shows its own commits only. -/
theorem shows_this_period {engine : AmapV38Compat} {events : List V38Event}
    (run : amapV38Compat.RunWithin (Answering SeedsFresh) engine events) :
    Always ShowsThisPeriod events := by
  refine (AmapV38Compat.invariant_of_answers InPeriod ?_ ?_ ?_ ?_ ?_ run).shows
  · exact ⟨always_nil _, nofun⟩
  · intro engine after events same before
    refine ⟨before.shows, fun enabled snapshot isCommitted => ?_⟩
    exact before.committed (same.enabled.symm.trans enabled) snapshot
      (same.committed.symm.trans isCommitted)
  · exact fun engine events before => ⟨before.shows, nofun⟩
  · exact fun engine events before => ⟨before.shows, nofun⟩
  · exact fun enables carried call observed events before seeds => inPeriod_answer before seeds

/-- A frame with some records. -/
def frameOf (records : List (RgdKey × String)) : BusData :=
  records.foldl (fun data record => data.put record.1.text record.2.toList) .empty

/-- A turn in which the engine answers a frame, with the raw values of an active
route. -/
def answered (turn : V38Call → V38Turn) (records : List (RgdKey × String)) : V38Label :=
  .frame (frameOf records) 0 (turn ⟨[0], 0, 2, 1, -1, -1⟩)

def leftTurn : List (RgdKey × String) :=
  [(.route .routeState, "2"), (.route .maneuverCount, "1"), (.route .maneuverList, "0"),
    (.maneuver 0 .type, "1"), (.maneuver 0 .ver, "1"), (.route .distManeuverM, "500")]

instance (enables : Bool) (carried : Option Int) (call : V38Call) (observed : AmapV38Compat) :
    Decidable (SeedsFresh enables carried call observed) :=
  inferInstanceAs (Decidable (_ → _ ∨ _ = none))

instance (allowed : Bool → Option Int → V38Call → AmapV38Compat → Prop)
    [∀ enables carried call observed, Decidable (allowed enables carried call observed)]
    (engine : AmapV38Compat) (events : List V38Event) (label : V38Label) :
    Decidable (Answering allowed engine events label) :=
  match label with
  | .frame _ _ (.process _) | .frame _ _ (.confirm _) =>
      inferInstanceAs (Decidable (allowed _ _ _ _))
  | .frame _ _ .ignore | .frame _ _ .disable | .frame _ _ .reset | .disable | .reset | .expire =>
      isTrue trivial

def committedLabels : List V38Label := [answered .confirm leftTurn]

theorem leftTurn_shows_this_period :
    (performAll v38Step committedLabels .reset).2.all (fun event => event.shown.isSome) = true ∧
      Always ShowsThisPeriod (performAll v38Step committedLabels .reset).2 := by
  have allowed : AllowedAll v38Step (Answering SeedsFresh) committedLabels .reset [] := by
    decide +kernel
  exact ⟨by decide +kernel, shows_this_period (runWithin_performAll_start allowed)⟩

/-- The source changes and comes back, and a probe of it is confirmed before
there is a head. -/
def reenabledLabels : List V38Label :=
  [answered .confirm leftTurn, .frame (frameOf [(.route .sourceName, "Waze")]) 0 .disable,
    answered .confirm
      [(.route .sourceName, "Amap"), (.route .routeState, "2"), (.route .maneuverList, "")]]

theorem stale_commit_shown :
    ¬ ∀ engine events, amapV38Compat.Run engine events → Always ShowsThisPeriod events := by
  intro shows
  have always := shows _ _ (run_performAll .reset v38Step reenabledLabels)
  obtain ⟨first, second, split, shown, noCommit, enables⟩ : ∃ first second,
      (performAll v38Step reenabledLabels .reset).2 = [first] ++ second :: [] ∧
        second.shown.isSome = true ∧ second.commits = false ∧ second.enables = true := by
    refine ⟨_, _, rfl, ?_, ?_, rfl⟩
    · decide +kernel
    · decide +kernel
  obtain ⟨_, _, _, _, since⟩ := always [first] second [] split shown
  rcases since_snoc_iff.mp since with ⟨commits, _⟩ | ⟨notEnabled, _⟩
  · exact Bool.false_ne_true (noCommit.symm.trans commits)
  · exact notEnabled enables

/-- A maneuver but for its distance. -/
def RouteGuidance.ManeuverFields.withoutDistance (man : ManeuverFields) : ManeuverFields :=
  { man with distance := -1 }

/-- The same maneuvers with the same lanes, but for their distances. -/
structure SameManeuvers (first second : AmapSnapshot) : Prop where
  maneuverList : second.maneuverList = first.maneuverList
  lane : second.lane = first.lane
  maneuver : ∀ slot,
    (second.maneuver slot).withoutDistance = (first.maneuver slot).withoutDistance

namespace SameManeuvers

variable {first second third : AmapSnapshot}

theorem refl (snapshot : AmapSnapshot) : SameManeuvers snapshot snapshot :=
  ⟨rfl, rfl, fun _ => rfl⟩

theorem trans (before : SameManeuvers first second) (after : SameManeuvers second third) :
    SameManeuvers first third :=
  ⟨after.maneuverList.trans before.maneuverList, after.lane.trans before.lane,
    fun slot => (after.maneuver slot).trans (before.maneuver slot)⟩

theorem symm (same : SameManeuvers first second) : SameManeuvers second first :=
  ⟨same.maneuverList.symm, same.lane.symm, fun slot => (same.maneuver slot).symm⟩

theorem of_display (same : SameDisplay first second) : SameManeuvers first second := by
  have fields := same.fields
  exact ⟨congrArg AmapFields.maneuverList fields, congrArg AmapFields.lane fields,
    fun slot => congrArg (fun own : AmapFields => (own.maneuver slot).withoutDistance) fields⟩

theorem of_tracked (progress : AmapProgressTracker) (snapshot : AmapSnapshot) :
    SameManeuvers snapshot (AmapV38Compat.applyTrackedDistance progress snapshot) := by
  unfold AmapV38Compat.applyTrackedDistance
  split_ifs
  · exact ⟨rfl, rfl, fun _ => rfl⟩
  · exact .refl snapshot

theorem of_live (raw : AmapFields) (snapshot : AmapSnapshot) :
    SameManeuvers snapshot (AmapV38Compat.copyLiveTopLevel raw snapshot) :=
  ⟨rfl, rfl, fun _ => rfl⟩

end SameManeuvers

/-- The texts and lanes of the raw head are those of the committed head. -/
def AddsNothing (engine : AmapV38Compat) : Prop :=
  ∀ committed ∈ engine.committed, ∀ slot ∈ slotOf engine.current.head,
    ∀ out ∈ slotOf committed.head,
      (AmapV38Compat.copyNonVisual (engine.raw.maneuver slot)
        (committed.maneuver out)).withoutDistance = (committed.maneuver out).withoutDistance

theorem SameManeuvers.of_accepted {raw : AmapFields} {head : Int} {snapshot : AmapSnapshot}
    (nothing : ∀ slot ∈ slotOf head, ∀ out ∈ slotOf snapshot.head,
      (AmapV38Compat.copyNonVisual (raw.maneuver slot) (snapshot.maneuver out)).withoutDistance =
        (snapshot.maneuver out).withoutDistance) :
    SameManeuvers snapshot (AmapV38Compat.copyNonVisualPrimary raw head snapshot) := by
  unfold AmapV38Compat.copyNonVisualPrimary
  split
  · rename_i slot out isSlot isOut
    refine ⟨rfl, rfl, fun other => ?_⟩
    by_cases isHead : other = out
    · subst isHead
      dsimp only
      rw [Function.update_self]
      exact nothing slot isSlot _ isOut
    · dsimp only
      rw [Function.update_of_ne isHead]
  · exact .refl snapshot

/-- An accepted frame brings no texts or lanes but those of the commit. -/
def AcceptsNothingNew (enables : Bool) (_ : Option Int) (call : V38Call)
    (observed : AmapV38Compat) : Prop :=
  (observed.ready enables).branch call = .accept → AddsNothing (observed.ready enables)

/-- What is shown has the maneuvers of what is committed. -/
theorem shown_sameManeuvers {engine : AmapV38Compat} {call : V38Call}
    (nothingNew : engine.branch call = .accept → AddsNothing engine)
    {shown committed : AmapSnapshot}
    (shows : (engine.answer call).2.shown call (engine.branch call) = some shown)
    (isCommitted : (engine.answer call).2.committed = some committed) :
    SameManeuvers committed shown := by
  have way := engine.answer_case call
  generalize engine.answer call = result at way shows isCommitted
  generalize engine.branch call = branch at way shows nothingNew
  unfold AmapV38Compat.shown at shows
  rw [isCommitted] at shows
  cases way with
  | passed | hidden => cases shows
  | soft =>
      cases shows
      exact ⟨rfl, rfl, fun _ => rfl⟩
  | active enabled awake way =>
      cases way with
      | empty => cases shows
      | first | again =>
          cases shows
          exact .refl _
      | prompt | hold =>
          cases shows
          exact (SameManeuvers.of_live _ _).trans (.of_tracked _ _)
      | accept before after was _ _ accepts =>
          cases shows
          have nothing := nothingNew rfl before was
          have moved := Option.some.inj (accepts.committed.symm.trans isCommitted)
          have sameRaw : after.raw = engine.raw := accepts.observed.raw
          have sameCurrent : after.current = engine.current := accepts.observed.current
          subst moved
          refine (SameManeuvers.of_live after.raw.toAmapFields _).trans (.trans ?_ (.of_tracked _ _))
          refine .of_accepted ?_
          rw [sameRaw, sameCurrent]
          exact nothing

/-- Everything shown since the last commit has the maneuvers of the snapshot. -/
def ShownAs (snapshot : AmapSnapshot) (events : List V38Event) : Prop :=
  AllSince (fun later => later.commits = true)
    (fun earlier => ∀ before ∈ earlier.shown, SameManeuvers before snapshot) events

theorem ShownAs.trans {first second : AmapSnapshot} {events : List V38Event}
    (before : ShownAs first events) (same : SameManeuvers first second) :
    ShownAs second events :=
  before.imp fun _ passes shown isShown => (passes shown isShown).trans same

/-- A hold shows the maneuvers that were shown before it for the same commit. -/
def HoldsDisplay (past : List V38Event) (event : V38Event) : Prop :=
  event.commits = false → event.branch = .soft ∨ event.branch = .prompt ∨ event.branch = .hold →
    ∀ shown ∈ event.shown, ShownAs shown past

structure ShowsCommit (engine : AmapV38Compat) (events : List V38Event) : Prop where
  holds : Always HoldsDisplay events
  committed : ∀ snapshot ∈ engine.committed, ShownAs snapshot events

theorem showsCommit_answer {enables : Bool} {carried : Option Int} {call : V38Call}
    {observed : AmapV38Compat} {events : List V38Event} (before : ShowsCommit observed events)
    (nothingNew : AcceptsNothingNew enables carried call observed) :
    ShowsCommit (v38Event enables carried call observed).engine
      (events ++ [v38Event enables carried call observed]) := by
  have shownCommit : ∀ shown, (v38Event enables carried call observed).shown = some shown →
      ∀ snapshot, (v38Event enables carried call observed).engine.committed = some snapshot →
        SameManeuvers snapshot shown :=
    fun shown shows snapshot isCommitted => shown_sameManeuvers nothingNew shows isCommitted
  -- without a commit, the earlier frames still have the maneuvers of the snapshot
  have earlier : (v38Event enables carried call observed).commits = false →
      ∀ snapshot ∈ (v38Event enables carried call observed).engine.committed,
        ShownAs snapshot events := by
    intro noCommit snapshot isCommitted
    obtain ⟨last, was, same⟩ := V38Event.committed_of_quiet noCommit isCommitted
    exact (before.committed last was).trans (.of_display same)
  refine ⟨before.holds.snoc ?_, fun snapshot isCommitted => ?_⟩
  · intro noCommit _ shown shows
    obtain ⟨snapshot, isCommitted⟩ := AmapV38Compat.committed_of_shown shows
    exact (earlier noCommit snapshot isCommitted).trans
      (shownCommit shown shows snapshot isCommitted)
  · refine AllSince.snoc ?_ fun shown shows => (shownCommit shown shows snapshot isCommitted).symm
    cases commits : (v38Event enables carried call observed).commits with
    | true => exact .inl rfl
    | false => exact .inr (earlier commits snapshot isCommitted)

/-- If accepted frames bring no texts or lanes but those of the commit, a hold
changes nothing on the display but the distance. -/
theorem holds_keep_display {engine : AmapV38Compat} {events : List V38Event}
    (run : amapV38Compat.RunWithin (Answering AcceptsNothingNew) engine events) :
    Always HoldsDisplay events := by
  have nothing : ∀ events, ∀ snapshot ∈ AmapV38Compat.reset.committed,
      ShownAs snapshot events := by
    intro events snapshot isCommitted
    cases isCommitted
  refine (AmapV38Compat.invariant_of_answers ShowsCommit ?_ ?_ ?_ ?_ ?_ run).holds
  · exact ⟨always_nil _, nothing []⟩
  · exact fun engine after events same before => ⟨before.holds, fun snapshot isCommitted =>
      before.committed snapshot (same.committed.symm.trans isCommitted)⟩
  · exact fun engine events before => ⟨before.holds, before.committed⟩
  · exact fun engine events before => ⟨before.holds, nothing events⟩
  · exact fun enables carried call observed events before nothingNew =>
      showsCommit_answer before nothingNew

instance (engine : AmapV38Compat) : Decidable (AddsNothing engine) :=
  inferInstanceAs (Decidable (∀ committed ∈ engine.committed, ∀ slot ∈ slotOf engine.current.head,
    ∀ out ∈ slotOf committed.head, _ = _))

instance (enables : Bool) (carried : Option Int) (call : V38Call) (observed : AmapV38Compat) :
    Decidable (AcceptsNothingNew enables carried call observed) :=
  inferInstanceAs (Decidable (_ = _ → AddsNothing _))

/-- The left turn is accepted, and then held without a distance. -/
def heldLabels : List V38Label :=
  [answered .confirm leftTurn, answered .process [(.route .etaSeconds, "60")]]

theorem heldLabels_keep_display :
    (performAll v38Step heldLabels .reset).2.map V38Event.branch = [.accept, .hold] ∧
      Always HoldsDisplay (performAll v38Step heldLabels .reset).2 := by
  have allowed : AllowedAll v38Step (Answering AcceptsNothingNew) heldLabels .reset [] := by
    decide +kernel
  exact ⟨by decide +kernel, holds_keep_display (runWithin_performAll_start allowed)⟩

/-- The road of an accepted frame is taken back by the next hold. -/
def revertedLabels : List V38Label :=
  [answered .confirm leftTurn,
    answered .process [(.maneuver 0 .afterRoad, "Ring"), (.route .distManeuverM, "400")],
    answered .process [(.route .etaSeconds, "60")]]

/-- The events of the three answers. -/
theorem revertedLabels_events : ∃ first second third,
    (performAll v38Step revertedLabels .reset).2 = [first, second] ++ third :: [] ∧
      third.commits = false ∧ third.branch = .hold ∧
        second.shown.map (fun shown => (shown.maneuver 0).afterRoad) =
          some (some "Ring".toList) ∧
        third.shown.map (fun shown => (shown.maneuver 0).afterRoad) = some none := by
  refine ⟨_, _, _, rfl, ?_, ?_, ?_, ?_⟩
  · decide +kernel
  · decide +kernel
  · decide +kernel
  · decide +kernel

theorem accepted_road_reverted :
    ¬ ∀ engine events, amapV38Compat.Run engine events → Always HoldsDisplay events := by
  intro holds
  have always := holds _ _ (run_performAll .reset v38Step revertedLabels)
  obtain ⟨first, second, third, split, noCommit, held, accepted, taken⟩ := revertedLabels_events
  rw [split] at always
  obtain ⟨before, isBefore, ring⟩ := Option.map_eq_some_iff.mp accepted
  obtain ⟨after, isAfter, noRoad⟩ := Option.map_eq_some_iff.mp taken
  have same := always [first, second] third [] rfl noCommit (.inr (.inr held)) after isAfter
    [first] second [] rfl (by simp) before isBefore
  have sameRoad := congrArg ManeuverFields.afterRoad (same.maneuver 0)
  have roads : (after.maneuver 0).afterRoad = (before.maneuver 0).afterRoad := sameRoad
  rw [ring, noRoad] at roads
  cases roads

end CarplayRgi
