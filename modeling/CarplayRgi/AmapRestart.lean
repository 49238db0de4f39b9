import CarplayRgi.AmapRouteGuidance
import CarplayRgi.TracedPairs

/-!
# Restarting the router

`stop` and `start` leave the router as it was when it was built, apart from
the numbers of its timer threads and the state of the receiver behind it.  The
numbers make no difference; the state does, whatever it holds.
-/

namespace CarplayRgi

open RouteGuidance

namespace AmapTimers

/-- The timers as they are numbered when the first ones come after `base`. -/
def shift (base timers : AmapTimers) : AmapTimers :=
  { timers with
    probeGeneration := base.probeGeneration + timers.probeGeneration
    softGeneration := base.softGeneration + timers.softGeneration }

/-- A change of the timers that does not depend on their numbers. -/
def Uniform (change : AmapTimers → AmapTimers) : Prop :=
  ∀ base timers : AmapTimers, change (base.shift timers) = base.shift (change timers)

theorem Uniform.comp {second first : AmapTimers → AmapTimers} (later : Uniform second)
    (earlier : Uniform first) : Uniform fun timers => second (first timers) :=
  fun base timers => (congrArg second (earlier base timers)).trans (later base (first timers))

theorem uniform_ensureProbe : Uniform ensureProbe := by
  intro base timers
  unfold ensureProbe shift
  split_ifs
  · rfl
  · rw [Int32.add_assoc]

theorem uniform_ensureSoft : Uniform ensureSoft := by
  intro base timers
  unfold ensureSoft shift
  split_ifs
  · rfl
  · rw [Int32.add_assoc]

theorem uniform_cancelProbe : Uniform cancelProbe := by
  intro base timers
  unfold cancelProbe shift
  dsimp only
  split_ifs
  · rw [Int32.add_assoc]
  · rfl

theorem uniform_cancelSoft : Uniform cancelSoft := by
  intro base timers
  unfold cancelSoft shift
  dsimp only
  split_ifs
  · rw [Int32.add_assoc]
  · rfl

/-- A timer keeps its number and is not started, or takes the next number. -/
def Moved (running running' : Bool) (generation generation' : Int32) : Prop :=
  generation' = generation ∧ (running' = true → running = true) ∨ generation' = generation + 1

theorem moved_refl (running : Bool) (generation : Int32) :
    Moved running running generation generation :=
  .inl ⟨rfl, id⟩

/-- Neither timer takes more than one number. -/
structure Moves (before after : AmapTimers) : Prop where
  probe : Moved before.probeTimerRunning after.probeTimerRunning before.probeGeneration
    after.probeGeneration
  soft : Moved before.softTimerRunning after.softTimerRunning before.softGeneration
    after.softGeneration

theorem moves_refl (timers : AmapTimers) : timers.Moves timers :=
  ⟨moved_refl _ _, moved_refl _ _⟩

theorem moves_ensureProbe (timers : AmapTimers) : timers.Moves timers.ensureProbe := by
  unfold ensureProbe
  split_ifs
  · exact timers.moves_refl
  · exact ⟨.inr rfl, moved_refl _ _⟩

theorem moves_cancelProbe (timers : AmapTimers) : timers.Moves timers.cancelProbe := by
  unfold cancelProbe
  split_ifs
  · exact ⟨.inr rfl, moved_refl _ _⟩
  · exact ⟨.inl ⟨rfl, nofun⟩, moved_refl _ _⟩

/-- The soft timer follows the hold, whatever happens to the probe timer. -/
theorem Moves.sync {before after : AmapTimers} (moves : before.Moves after)
    (sameSoft : after.softGeneration = before.softGeneration) (holding : Bool) :
    before.Moves (if holding then after.ensureSoft else after.cancelSoft) := by
  unfold ensureSoft cancelSoft
  split_ifs
  · exact moves
  · exact ⟨moves.probe, .inr (congrArg (· + 1) sameSoft)⟩
  · exact ⟨moves.probe, .inr (congrArg (· + 1) sameSoft)⟩
  · exact ⟨moves.probe, .inl ⟨sameSoft, nofun⟩⟩

/-- The number is one of the first ones, and a running timer has been given it. -/
def Given (count : Nat) (running : Bool) (generation : Int32) : Prop :=
  ∃ number ≤ count, generation = Int32.ofNat number ∧ (running = true → 0 < number)

theorem Moved.given {running running' : Bool} {generation generation' : Int32} {count : Nat}
    (moved : Moved running running' generation generation')
    (given : Given count running generation) : Given (count + 1) running' generation' := by
  obtain ⟨number, few, rfl, isGiven⟩ := given
  rcases moved with ⟨rfl, stays⟩ | rfl
  · exact ⟨number, by omega, rfl, fun runs => isGiven (stays runs)⟩
  · exact ⟨number + 1, by omega, (Int32.ofNat_add number 1).symm, fun _ => Nat.succ_pos number⟩

/-- No timer has been given more than so many numbers. -/
structure Numbered (count : Nat) (timers : AmapTimers) : Prop where
  probe : Given count timers.probeTimerRunning timers.probeGeneration
  soft : Given count timers.softTimerRunning timers.softGeneration

theorem Moves.numbered {before after : AmapTimers} {count : Nat} (moves : before.Moves after)
    (numbered : before.Numbered count) : after.Numbered (count + 1) :=
  ⟨moves.probe.given numbered.probe, moves.soft.given numbered.soft⟩

/-- One of the last `2 ^ 31` numbers up to `base`. -/
def IsOld (base generation : Int32) : Prop :=
  ∃ ago : Nat, ago < 2 ^ 31 ∧ base = generation + Int32.ofNat ago

/-- An old number has not come around again. -/
theorem IsOld.ne {base generation number : Int32} {count : Nat} (old : IsOld base generation)
    (given : Given count true number) (few : count < 2 ^ 31) : generation ≠ base + number := by
  obtain ⟨ago, recent, rfl⟩ := old
  obtain ⟨later, atMost, rfl, positive⟩ := given
  have isLater := positive rfl
  intro same
  have sum : generation + 0 = generation + Int32.ofNat (ago + later) := by
    rw [Int32.add_zero, Int32.ofNat_add, ← Int32.add_assoc]
    exact same
  have zero := congrArg Int32.toInt ((Int32.add_right_inj generation).mp sum)
  rw [Int32.toInt_ofNat', Int32.toInt_zero] at zero
  have divides := Int.dvd_iff_bmod_eq_zero.mpr zero.symm
  have size : Int32.size = 2 ^ 32 := rfl
  rw [size] at divides
  omega

end AmapTimers

namespace RouteGuidance

/-- The receivers differ in no more than their dirty flags. -/
def SameButDirty (first second : RouteGuidance) : Prop :=
  ∃ dirtyMask, second = { first with state := { first.state with dirtyMask } }

theorem sameButDirty_refl (rg : RouteGuidance) : SameButDirty rg rg := ⟨rg.state.dirtyMask, rfl⟩

theorem agree_start : TracedOp.Agree SameButDirty start start := by
  rintro first _ ⟨dirtyMask, rfl⟩
  unfold start
  dsimp only
  split_ifs
  · exact ⟨⟨dirtyMask, rfl⟩, rfl⟩
  · exact ⟨⟨dirtyMask, rfl⟩, rfl⟩

theorem agree_stop : TracedOp.Agree SameButDirty stop stop := by
  rintro first _ ⟨dirtyMask, rfl⟩
  unfold stop
  dsimp only
  split_ifs
  · exact ⟨⟨dirtyMask, rfl⟩, rfl⟩
  · exact ⟨⟨dirtyMask, rfl⟩, rfl⟩

/-- A frame begins with clear flags. -/
theorem agree_onFrame (type : Nat) (payload : List UInt8) :
    TracedOp.Agree SameButDirty (onFrame type payload) (onFrame type payload) := by
  rintro first _ ⟨dirtyMask, rfl⟩
  have absorbed : absorb payload { first with state := { first.state with dirtyMask } } =
      absorb payload first := rfl
  unfold onFrame
  dsimp only
  rw [absorbed]
  split_ifs
  · exact ⟨sameButDirty_refl _, rfl⟩
  · exact ⟨⟨dirtyMask, rfl⟩, rfl⟩

end RouteGuidance

namespace AmapRouteGuidance

/-- The second router is in the state of the first one, with timers that are
numbered after `base`. -/
def Resumed (base : AmapTimers) (first second : AmapRouteGuidance) : Prop :=
  ∃ guidance, SameButDirty first.guidance guidance ∧
    second = { first with timers := base.shift first.timers, guidance }

variable {base : AmapTimers}

theorem Resumed.timers {first second : AmapRouteGuidance} (resumed : Resumed base first second)
    {change : AmapTimers → AmapTimers} (uniform : AmapTimers.Uniform change) :
    Resumed base { first with timers := change first.timers }
      { second with timers := change second.timers } := by
  obtain ⟨guidance, same, rfl⟩ := resumed
  refine ⟨guidance, same, ?_⟩
  dsimp only
  rw [uniform base]

theorem agree_super {operation : TracedOp RouteGuidance BridgeCall}
    (agree : TracedOp.Agree SameButDirty operation operation) :
    TracedOp.Agree (Resumed base) (super operation) (super operation) := by
  rintro first _ ⟨guidance, same, rfl⟩
  obtain ⟨sameAfter, sameCalls⟩ := agree first.guidance guidance same
  exact ⟨⟨_, sameAfter, rfl⟩, sameCalls⟩

theorem agree_forward (payload : List UInt8) :
    TracedOp.Agree (Resumed base) (forward payload) (forward payload) :=
  agree_super (agree_onFrame evtRgdUpdate payload)

theorem Resumed.cancelTimers {first second : AmapRouteGuidance}
    (resumed : Resumed base first second) :
    Resumed base first.cancelTimers second.cancelTimers :=
  resumed.timers (AmapTimers.uniform_cancelSoft.comp AmapTimers.uniform_cancelProbe)

theorem Resumed.resetRouterState {first second : AmapRouteGuidance}
    (resumed : Resumed base first second) :
    Resumed base first.resetRouterState second.resetRouterState := by
  obtain ⟨guidance, same, cancelled⟩ := resumed.cancelTimers
  refine ⟨guidance, same, ?_⟩
  unfold AmapRouteGuidance.resetRouterState
  rw [cancelled]

theorem agree_start : TracedOp.Agree (Resumed base) start start :=
  (agree_super RouteGuidance.agree_start).after fun _ _ => Resumed.resetRouterState

theorem agree_stop : TracedOp.Agree (Resumed base) stop stop :=
  (agree_super RouteGuidance.agree_stop).after fun _ _ => Resumed.resetRouterState

theorem agree_releaseSource (payload : List UInt8) :
    TracedOp.Agree (Resumed base) (releaseSource payload) (releaseSource payload) := by
  refine (agree_forward payload).after fun first second resumed => ?_
  obtain ⟨guidance, same, cancelled⟩ := resumed.cancelTimers
  obtain ⟨_, _, rfl⟩ := resumed
  refine ⟨guidance, same, ?_⟩
  dsimp only
  rw [cancelled]

theorem agree_hardClear (payload : List UInt8) :
    TracedOp.Agree (Resumed base) (hardClear payload) (hardClear payload) := by
  refine (agree_forward payload).after fun first second resumed => ?_
  obtain ⟨guidance, same, cancelled⟩ := resumed.cancelTimers
  obtain ⟨_, _, rfl⟩ := resumed
  refine ⟨guidance, same, ?_⟩
  dsimp only
  rw [cancelled]

theorem agree_forwardProtected (payload : List UInt8) (data : BusData) :
    TracedOp.Agree (Resumed base) (forwardProtected payload data)
      (forwardProtected payload data) := by
  refine TracedOp.Agree.andThen ?_ (TracedOp.agree_silent fun _ _ resumed =>
    resumed.timers AmapTimers.uniform_ensureProbe)
  intro first second resumed
  have sameFrame :
      second.protectProbeFrame payload data = first.protectProbeFrame payload data := by
    obtain ⟨_, _, rfl⟩ := resumed
    rfl
  dsimp only
  rw [sameFrame]
  exact agree_forward _ first second resumed

theorem Resumed.syncSoftInactiveTimer {first second : AmapRouteGuidance}
    (resumed : Resumed base first second) :
    Resumed base first.syncSoftInactiveTimer second.syncSoftInactiveTimer := by
  have sameHold : second.v38.isSoftInactiveHolding = first.v38.isSoftInactiveHolding := by
    obtain ⟨_, _, rfl⟩ := resumed
    rfl
  unfold AmapRouteGuidance.syncSoftInactiveTimer
  rw [sameHold]
  cases first.v38.isSoftInactiveHolding with
  | true => exact resumed.timers AmapTimers.uniform_ensureSoft
  | false => exact resumed.timers AmapTimers.uniform_cancelSoft

theorem agree_forwardV38 (payload : List UInt8) (now : Int) :
    TracedOp.Agree (Resumed base) (forwardV38 payload now) (forwardV38 payload now) := by
  refine TracedOp.Agree.andThen ?_ (TracedOp.agree_silent fun _ _ =>
    Resumed.syncSoftInactiveTimer)
  rintro first _ ⟨guidance, same, rfl⟩
  exact agree_forward _ _ _ ⟨guidance, same, rfl⟩

theorem agree_onLegacyFrame (payload : List UInt8) (data : BusData) (now : Int) :
    TracedOp.Agree (Resumed base) (onLegacyFrame payload data now)
      (onLegacyFrame payload data now) := by
  rintro first _ ⟨guidance, same, rfl⟩
  unfold onLegacyFrame
  dsimp only
  split_ifs
  · exact agree_forwardProtected payload data _ _ ⟨guidance, same, rfl⟩
  · exact agree_forward payload _ _ ⟨guidance, same, rfl⟩

theorem agree_onProbingFrame (payload : List UInt8) (data : BusData) (now : Int) :
    TracedOp.Agree (Resumed base) (onProbingFrame payload data now)
      (onProbingFrame payload data now) := by
  rintro first _ ⟨guidance, same, rfl⟩
  have cancels := AmapTimers.uniform_cancelProbe
  unfold onProbingFrame
  dsimp only
  rw [cancels base]
  split_ifs
  · exact agree_forward payload _ _ ⟨guidance, same, rfl⟩
  · exact agree_forwardV38 payload now _ _ ⟨guidance, same, rfl⟩
  · exact agree_forwardProtected payload data _ _ ⟨guidance, same, rfl⟩

theorem agree_onRouteFrame (payload : List UInt8) (data : BusData) (now : Int) :
    TracedOp.Agree (Resumed base) (onRouteFrame payload data now)
      (onRouteFrame payload data now) := by
  intro first second resumed
  have sameMode : second.detector = first.detector := by
    obtain ⟨_, _, rfl⟩ := resumed
    rfl
  unfold onRouteFrame
  rw [sameMode]
  cases first.detector.mode with
  | legacy => exact agree_onLegacyFrame payload data now first second resumed
  | probing => exact agree_onProbingFrame payload data now first second resumed
  | v38Compat => exact agree_forwardV38 payload now first second resumed

theorem agree_onObservedFrame (payload : List UInt8) (data : BusData) (now : Int) :
    TracedOp.Agree (Resumed base) (onObservedFrame payload data now)
      (onObservedFrame payload data now) := by
  rintro first _ ⟨guidance, same, rfl⟩
  unfold onObservedFrame
  dsimp only
  split_ifs
  · exact agree_releaseSource payload _ _ ⟨guidance, same, rfl⟩
  · exact agree_hardClear payload _ _ ⟨guidance, same, rfl⟩
  · exact agree_onRouteFrame payload data now _ _ ⟨guidance, same, rfl⟩

theorem agree_onFrame (type : Nat) (payload : List UInt8) (times : FrameTimes) :
    TracedOp.Agree (Resumed base) (onFrame type payload times) (onFrame type payload times) := by
  intro first second resumed
  unfold onFrame
  split_ifs
  · exact agree_super (RouteGuidance.agree_onFrame type payload) first second resumed
  · obtain ⟨guidance, same, rfl⟩ := resumed
    exact agree_onObservedFrame payload _ times.decided _ _ ⟨guidance, same, rfl⟩

theorem agree_probeWakes (generation : Int32) :
    TracedOp.Agree (Resumed base) (probeWakes generation)
      (probeWakes (base.probeGeneration + generation)) := by
  rintro first _ ⟨guidance, same, rfl⟩
  unfold probeWakes
  dsimp only [AmapTimers.shift]
  simp only [Int32.add_right_inj]
  split_ifs
  · exact agree_forward _ _ _ ⟨guidance, same, rfl⟩
  · exact ⟨⟨guidance, same, rfl⟩, rfl⟩

theorem agree_softWakes (generation : Int32) (now : Int) :
    TracedOp.Agree (Resumed base) (softWakes generation now)
      (softWakes (base.softGeneration + generation) now) := by
  rintro first _ ⟨guidance, same, rfl⟩
  unfold softWakes
  dsimp only [AmapTimers.shift]
  simp only [Int32.add_right_inj]
  split_ifs
  · exact agree_forward _ _ _ ⟨guidance, same, rfl⟩
  · exact ⟨⟨guidance, same, rfl⟩, rfl⟩

/-- A thread that was numbered before the restart does nothing. -/
theorem probeWakes_stale {first second : AmapRouteGuidance} (resumed : Resumed base first second)
    {count : Nat} (numbered : first.timers.Numbered count) (room : count < 2 ^ 31)
    {generation : Int32} (old : AmapTimers.IsOld base.probeGeneration generation) :
    probeWakes generation second = (second, []) := by
  obtain ⟨guidance, -, rfl⟩ := resumed
  unfold probeWakes
  refine if_neg ?_
  rintro ⟨running, current, -⟩
  dsimp only [AmapTimers.shift] at running
  have given := numbered.probe
  rw [running] at given
  exact old.ne given room current

theorem softWakes_stale {first second : AmapRouteGuidance} (resumed : Resumed base first second)
    {count : Nat} (numbered : first.timers.Numbered count) (room : count < 2 ^ 31)
    {generation : Int32} (old : AmapTimers.IsOld base.softGeneration generation) (now : Int) :
    softWakes generation now second = (second, []) := by
  obtain ⟨guidance, -, rfl⟩ := resumed
  unfold softWakes
  refine if_neg ?_
  rintro ⟨running, current, -⟩
  dsimp only [AmapTimers.shift] at running
  have given := numbered.soft
  rw [running] at given
  exact old.ne given room current

theorem moves_forwardV38 {router : AmapRouteGuidance} {before : AmapTimers}
    (moves : before.Moves router.timers)
    (sameSoft : router.timers.softGeneration = before.softGeneration)
    (payload : List UInt8) (now : Int) :
    before.Moves (forwardV38 payload now router).1.timers :=
  moves.sync sameSoft _

theorem moves_cancelTimers (router : AmapRouteGuidance) :
    router.timers.Moves router.cancelTimers.timers :=
  router.timers.moves_cancelProbe.sync rfl false

theorem moves_onObservedFrame (payload : List UInt8) (data : BusData) (now : Int)
    (router : AmapRouteGuidance) :
    router.timers.Moves (onObservedFrame payload data now router).1.timers := by
  unfold onObservedFrame
  split_ifs
  · exact router.moves_cancelTimers
  · exact router.moves_cancelTimers
  · unfold onRouteFrame
    split
    · unfold onLegacyFrame
      split_ifs
      · exact router.timers.moves_ensureProbe
      · exact router.timers.moves_refl
    · unfold onProbingFrame
      split_ifs
      · exact router.timers.moves_cancelProbe
      · apply moves_forwardV38
        · exact router.timers.moves_cancelProbe
        · rfl
      · exact router.timers.moves_ensureProbe
    · exact moves_forwardV38 router.timers.moves_refl rfl payload now

theorem moves_amapStep (label : AmapLabel) (router : AmapRouteGuidance) :
    router.timers.Moves (amapStep label router).1.timers := by
  cases label with
  | start | stop => exact router.moves_cancelTimers
  | frame type payload times =>
      dsimp only [amapStep, onFrame]
      split_ifs
      · exact router.timers.moves_refl
      · exact moves_onObservedFrame payload (parseText payload) times.decided
          (router.observeFrame (parseText payload) times.observed)
  | probeWakes generation =>
      dsimp only [amapStep, probeWakes]
      split_ifs
      · exact ⟨.inl ⟨rfl, nofun⟩, AmapTimers.moved_refl _ _⟩
      · exact router.timers.moves_refl
  | softWakes generation now =>
      dsimp only [amapStep, softWakes]
      split_ifs
      · exact ⟨AmapTimers.moved_refl _ _, .inl ⟨rfl, nofun⟩⟩
      · exact router.timers.moves_refl

end AmapRouteGuidance

namespace AmapLabel

/-- The label in a run whose timer threads are numbered after `base`. -/
def shift (base : AmapTimers) : AmapLabel → AmapLabel
  | .probeWakes generation => .probeWakes (base.probeGeneration + generation)
  | .softWakes generation now => .softWakes (base.softGeneration + generation) now
  | label => label

/-- A timer thread that was numbered no later than `base` wakes. -/
def IsStale (base : AmapTimers) : AmapLabel → Prop
  | .probeWakes generation => AmapTimers.IsOld base.probeGeneration generation
  | .softWakes generation _ => AmapTimers.IsOld base.softGeneration generation
  | _ => False

end AmapLabel

/-- The same frames, starts and stops, at the same times, and the same wakes of
the timers in both runs.  Before the `2 ^ 31`st of these, threads from before
`base` may wake as well in the second run. -/
def SameInputs (base : AmapTimers) (labels mirrored : List AmapLabel) : Prop :=
  mirrored = labels.map (AmapLabel.shift base) ∨
    labels.length < 2 ^ 31 ∧
      SameLabels (fun label label' => label' = label.shift base) (AmapLabel.IsStale base) labels
        mirrored

namespace AmapRouteGuidance

variable {base : AmapTimers}

theorem agree_amapStep (label : AmapLabel) :
    TracedOp.Agree (Resumed base) (amapStep label) (amapStep (label.shift base)) := by
  cases label with
  | start => exact agree_start
  | stop => exact agree_stop
  | frame type payload times => exact agree_onFrame type payload times
  | probeWakes generation => exact agree_probeWakes generation
  | softWakes generation now => exact agree_softWakes generation now

theorem amapStep_stale {label : AmapLabel} (stale : label.IsStale base)
    {first second : AmapRouteGuidance} (resumed : Resumed base first second) {count : Nat}
    (numbered : first.timers.Numbered count) (room : count < 2 ^ 31) :
    amapStep label second = (second, []) := by
  cases label with
  | start | stop | frame => exact stale.elim
  | probeWakes generation => exact probeWakes_stale resumed numbered room stale
  | softWakes generation now => exact softWakes_stale resumed numbered room stale now

theorem agree_performAll (labels : List AmapLabel) :
    TracedOp.Agree (Resumed base) (performAll amapStep labels)
      (performAll amapStep (labels.map (AmapLabel.shift base))) := by
  induction labels with
  | nil => exact fun _ _ resumed => ⟨resumed, rfl⟩
  | cons label labels ih => exact (agree_amapStep label).andThen ih

/-- From related states, the same inputs make the same calls. -/
theorem Resumed.sameCalls {first second : AmapRouteGuidance} (resumed : Resumed base first second)
    (numbered : first.timers.Numbered 0) {labels mirrored : List AmapLabel}
    (same : SameInputs base labels mirrored) :
    (performAll amapStep mirrored second).2 = (performAll amapStep labels first).2 := by
  rcases same with rfl | ⟨few, same⟩
  · exact (agree_performAll labels first second resumed).2.symm
  · have steps : ∀ count < 2 ^ 31 - 1, ∀ label label', label' = label.shift base →
        ∀ first second, Resumed base first second ∧ first.timers.Numbered count →
          (Resumed base (amapStep label first).1 (amapStep label' second).1 ∧
            (amapStep label first).1.timers.Numbered (count + 1)) ∧
            (amapStep label first).2 = (amapStep label' second).2 := by
      rintro count - label _ rfl first second ⟨before, earlier⟩
      obtain ⟨after, sameEvents⟩ := agree_amapStep label first second before
      exact ⟨⟨after, (moves_amapStep label first).numbered earlier⟩, sameEvents⟩
    have idle : ∀ count ≤ 2 ^ 31 - 1, ∀ label', AmapLabel.IsStale base label' →
        ∀ first second, Resumed base first second ∧ first.timers.Numbered count →
          amapStep label' second = (second, []) := by
      rintro count room label' stale first second ⟨before, earlier⟩
      exact amapStep_stale stale before earlier (by omega)
    exact (SameLabels.agree steps idle same (by omega) ⟨resumed, numbered⟩).symm

/-- A router that has been built and started. -/
def started : AmapRouteGuidance := (start fresh).1

/-- The router after `stop` and `start`. -/
def restarted (before : AmapRouteGuidance) : AmapRouteGuidance := (start (stop before).1).1

/-- The receiver after a start, with what its state holds. -/
def startedWith (state : State) : RouteGuidance := ⟨true, false, false, state⟩

theorem started_eq : started = { started with guidance := startedWith .initial } := rfl

theorem restarted_eq (before : AmapRouteGuidance) :
    restarted before =
      { started with
        timers := (restarted before).timers.shift started.timers
        guidance := startedWith before.guidance.state } := by
  have guidanceEq : (RouteGuidance.start (RouteGuidance.stop before.guidance).1).1 =
      startedWith before.guidance.state := by
    unfold RouteGuidance.stop
    split_ifs with running
    · rfl
    · simp [RouteGuidance.start, running, startedWith]
  have routerEq : restarted before =
      { started with
        timers := (restarted before).timers.shift started.timers
        guidance := (RouteGuidance.start (RouteGuidance.stop before.guidance).1).1 } := by
    have timersEq : (restarted before).timers.shift started.timers = (restarted before).timers := by
      have numbers : (restarted before).timers.shift started.timers =
          { (restarted before).timers with
            probeGeneration := (restarted before).timers.probeGeneration + 0
            softGeneration := (restarted before).timers.softGeneration + 0 } := rfl
      rw [numbers, Int32.add_zero, Int32.add_zero]
    rw [timersEq]
    rfl
  rw [guidanceEq] at routerEq
  exact routerEq

theorem resumed_restarted {before : AmapRouteGuidance}
    (noState : before.guidance.state.clearDirty = .initial) :
    Resumed (restarted before).timers started (restarted before) := by
  have sameState : before.guidance.state =
      { State.initial with dirtyMask := before.guidance.state.dirtyMask } := by
    rw [← noState]
    rfl
  refine ⟨startedWith before.guidance.state, ⟨before.guidance.state.dirtyMask, ?_⟩,
    restarted_eq before⟩
  rw [sameState]
  rfl

theorem numbered_started : started.timers.Numbered 0 :=
  ⟨⟨0, Nat.le_refl 0, rfl, nofun⟩, ⟨0, Nat.le_refl 0, rfl, nofun⟩⟩

/-- A frame that a router forwards as its first one. -/
def isPlain (data : BusData) : Bool :=
  !AmapProtocolDetector.isHardClear ((data.numField (.route .routeState) (-1)).getD (-1))
      ((data.numField (.route .sourceSupportsRg) (-1)).getD (-1)) data &&
    decide ((visibleInAppField data).getD (-1) ≠ 0)

theorem onFrame_started {payload : List UInt8} (nonempty : payload ≠ [])
    (plain : isPlain (parseText payload) = true) (times : FrameTimes) (timers : AmapTimers)
    (guidance : RouteGuidance) :
    (onFrame evtRgdUpdate payload times { started with timers, guidance }).2 =
      (RouteGuidance.onFrame evtRgdUpdate payload guidance).2 := by
  simp only [isPlain, Bool.and_eq_true, Bool.not_eq_true', decide_eq_true_eq] at plain
  obtain ⟨noClear, notHidden⟩ := plain
  unfold onFrame
  rw [if_neg (not_or.mpr ⟨fun other => other rfl, nonempty⟩)]
  dsimp only
  generalize observed : observeFrame (parseText payload) times.observed
    { started with timers, guidance } = router
  have legacy : router.detector.mode = .legacy := by rw [← observed]; rfl
  have routeState : router.rawRouteState =
      ((parseText payload).numField (.route .routeState) (-1)).getD (-1) := by
    rw [← observed]; rfl
  have supports : router.rawSourceSupportsRg =
      ((parseText payload).numField (.route .sourceSupportsRg) (-1)).getD (-1) := by
    rw [← observed]; rfl
  have visible : router.rawVisibleInApp = (visibleInAppField (parseText payload)).getD (-1) := by
    rw [← observed]; rfl
  have receiver : router.guidance = guidance := by rw [← observed]; rfl
  have stillLegacy : router.observeActiveRoute.detector.mode = .legacy := by
    unfold observeActiveRoute AmapProtocolDetector.observeActiveRoute
    dsimp only
    split_ifs
    · exact legacy
    · exact legacy
  have stillVisible : router.observeActiveRoute.rawVisibleInApp ≠ 0 := by
    rw [← visible] at notHidden
    exact notHidden
  have noProbe : router.observeActiveRoute.detector.shouldBeginProbe
      router.observeActiveRoute.rawRouteState router.observeActiveRoute.rawManeuverCount
      router.observeActiveRoute.rawVisibleInApp router.observeActiveRoute.rawSourceSupportsRg =
        false := by
    simp [AmapProtocolDetector.shouldBeginProbe, stillVisible]
  unfold onObservedFrame
  rw [if_neg (fun changed => changed.1 legacy), routeState, supports, noClear,
    if_neg Bool.false_ne_true, onRouteFrame, stillLegacy]
  dsimp only
  unfold onLegacyFrame
  rw [if_neg (fun probes => Bool.false_ne_true (noProbe.symm.trans probes)), ← receiver]
  rfl

/-- An update that follows a start carries the absorbed state. -/
theorem state_of_activation {absorbed : RouteGuidance} {state : State}
    (calls : (dispatch absorbed).2 = [.onStart, .update state]) : absorbed.state = state := by
  have outcome := dispatch_case absorbed
  rw [calls] at outcome
  generalize (dispatch absorbed).1 = after at outcome
  cases outcome
  rfl

theorem dispatch_activates {absorbed : RouteGuidance} (dirty : absorbed.state.dirtyMask ≠ ∅)
    (noReason : absorbed.state.route.disconnectReason = none)
    (delta : hasActivationDelta absorbed.state = true) (wants : wantActive absorbed.state = true)
    (inactive : absorbed.rgActive = false) :
    (dispatch absorbed).2 = [.onStart, .update absorbed.state] := by
  rw [dispatch, if_neg dirty, if_neg (not_not.mpr noReason)]
  simp [TracedOp.andThen, gate, delta, wants, inactive, send]

/-- A frame that activates a receiver that has just been built. -/
def activates (payload : List UInt8) : Bool :=
  let absorbed := absorb payload (startedWith .initial)
  isPlain (parseText payload) && !payload.isEmpty &&
    decide (absorbed.state.dirtyMask ≠ ∅ ∧ absorbed.state.route.disconnectReason = none) &&
    hasActivationDelta absorbed.state && wantActive absorbed.state

/-- If every sequence of inputs makes the same calls, the states that such a
frame leads to are the same. -/
theorem absorb_eq_of_sameCalls {before : AmapRouteGuidance}
    (same : ∀ labels mirrored, SameInputs (restarted before).timers labels mirrored →
      (performAll amapStep mirrored (restarted before)).2 =
        (performAll amapStep labels started).2)
    (payload : List UInt8) (activating : activates payload = true) :
    (absorb payload (startedWith before.guidance.state)).state =
      (absorb payload (startedWith .initial)).state := by
  simp only [activates, Bool.and_eq_true, Bool.not_eq_true', List.isEmpty_eq_false_iff,
    decide_eq_true_eq] at activating
  obtain ⟨⟨⟨⟨plain, nonempty⟩, dirty, noReason⟩, delta⟩, wants⟩ := activating
  have frame : SameInputs (restarted before).timers [.frame evtRgdUpdate payload ⟨0, 0⟩]
      [.frame evtRgdUpdate payload ⟨0, 0⟩] := .inl rfl
  have calls := same _ _ frame
  simp only [performAll, TracedOp.andThen, List.append_nil, amapStep] at calls
  rw [restarted_eq, started_eq, onFrame_started nonempty plain] at calls
  have fresh := onFrame_started nonempty plain ⟨0, 0⟩ started.timers (startedWith .initial)
  rw [fresh, onFrame_of_running rfl, onFrame_of_running rfl,
    dispatch_activates dirty noReason delta wants rfl] at calls
  exact state_of_activation calls

/-- A frame that says no more than a route state. -/
def routeFrame (routeState : Int) : List UInt8 :=
  Utf8Text.encode ("route_state:n:".toList ++ DecimalText.decimal routeState ++ ['\n'])

def visibleFrame : List UInt8 := Utf8Text.encode "visible_in_app:n:1\n".toList

theorem has_of_single {data : BusData} {key : RgdKey} {value : List Char}
    (single : data.records = [(key.text, value)]) {other : RgdKey} (differs : other ≠ key) :
    data.has other.text = false := by
  have texts : key.text ≠ other.text := fun same => differs (RgdKey.text_injective same.symm)
  simp [BusData.has, single, texts]

/-- A frame without a disconnect reason drops the one of an earlier frame. -/
theorem onRoute_noReason {data : BusData}
    (noKey : data.has (RgdKey.route .disconnectReason).text = false) (records : data.records ≠ [])
    (state : State) :
    state.clearDirty.onRoute (parseDisconnectReason data) =
      if state.route.disconnectReason = none then state.clearDirty
      else
        { state with
          route := { state.route with disconnectReason := none }
          dirtyMask := ∅ ∪ {.disconnect} } := by
  by_cases reason : state.route.disconnectReason = none
  · simp [State.onRoute, State.clearDirty, parseDisconnectReason, noKey, reason]
  · simp [State.onRoute, State.clearDirty, parseDisconnectReason, noKey, reason, records,
      Noted.mark]

/-- A frame that says no more than a positive route state, which is new to a
state, tells that state from the initial one unless they differ in the route
state alone. -/
theorem clearDirty_of_routeState {data : BusData} {value : List Char} {routeState : Int}
    (single : data.records = [((RgdKey.route .routeState).text, value)])
    (read : data.numField (.route .routeState) (-1) = some routeState)
    (positive : 0 < routeState) {state : State} (differs : routeState ≠ state.route.routeState)
    (same : (parse data false state).1 = (parse data false .initial).1) :
    state.clearDirty =
      { State.initial with route := { routeState := state.route.routeState } } := by
  have parsed : ∀ state, (parse data false state).1 =
      (state.clearDirty.onRoute (parseDisconnectReason data)).onRoute
        (Noted.store RouteFields.routeState (fun v r => { r with routeState := v })
          {.routeState} (some routeState)) := fun state => by
    rw [parse_of_routeKeys (fun _ _ => has_of_single single (by simp))
      (fun _ _ => has_of_single single (by simp))]
    exact parseRoute_routeState (fun _ other => has_of_single single (by simpa using other)) read
      positive state
  have noKey : data.has (RgdKey.route .disconnectReason).text = false :=
    has_of_single single (by simp)
  have records : data.records ≠ [] := by simp [single]
  have noted := onRoute_noReason noKey records
  have stored : ∀ state : State, routeState ≠ state.route.routeState →
      state.onRoute (Noted.store RouteFields.routeState (fun v r => { r with routeState := v })
          {.routeState} (some routeState)) =
        { state with
          route := { state.route with routeState }
          dirtyMask := state.dirtyMask ∪ {.routeState} } :=
    fun state other => by simp [State.onRoute, Noted.store, other]
  have initialDiffers : routeState ≠ State.initial.route.routeState := by
    intro isInitial
    rw [isInitial] at positive
    exact absurd positive (by decide)
  have initialParsed : (parse data false .initial).1 =
      { State.initial with route := { routeState }, dirtyMask := ∅ ∪ {.routeState} } := by
    rw [parsed, noted, if_pos (show State.initial.route.disconnectReason = none from rfl)]
    exact stored State.initial.clearDirty initialDiffers
  rw [initialParsed, parsed, noted] at same
  split_ifs at same with reason
  · rw [stored state.clearDirty differs] at same
    exact congrArg (fun after : State =>
      { after.clearDirty with
        route := { after.route with routeState := state.route.routeState } }) same
  · rw [stored _ (by exact differs)] at same
    have flags : (∅ ∪ {.disconnect} ∪ {.routeState} : Finset DirtyFlag) = ∅ ∪ {.routeState} :=
      congrArg State.dirtyMask same
    exact absurd flags (by decide)

/-- A frame that says no more than a visibility keeps the route state. -/
theorem routeState_of_visibleInApp {data : BusData} {value : List Char} {visible : Int}
    (single : data.records = [((RgdKey.route .visibleInApp).text, value)])
    (read : visibleInAppField data = some visible) (state : State) :
    (parse data false state).1.route.routeState = state.route.routeState := by
  have noKey : data.has (RgdKey.route .disconnectReason).text = false :=
    has_of_single single (by simp)
  rw [parse_of_routeKeys (fun _ _ => has_of_single single (by simp))
      (fun _ _ => has_of_single single (by simp)),
    parseRoute_visibleInApp (fun _ other => has_of_single single (by simpa using other)) read]
  have stored : ∀ state : State,
      (state.onRoute (Noted.store RouteFields.visibleInApp (fun v r => { r with visibleInApp := v })
        {.visibleInApp} (some visible))).route.routeState = state.route.routeState :=
    fun state => by
      simp only [State.onRoute, Noted.store]
      split_ifs <;> rfl
  rw [stored, onRoute_noReason noKey (by simp [single])]
  split_ifs <;> rfl

/-- After a restart, the router makes the same calls as one that has just been
built, for all the inputs that follow, if and only if nothing but dirty flags
is left in the state of the receiver. -/
theorem restart_equivalent_iff (before : AmapRouteGuidance) :
    (∀ labels mirrored, SameInputs (restarted before).timers labels mirrored →
      (performAll amapStep mirrored (restarted before)).2 =
        (performAll amapStep labels started).2) ↔
      before.guidance.state.clearDirty = .initial := by
  constructor
  · intro same
    have routeOnly : before.guidance.state.clearDirty =
        { State.initial with
          route := { routeState := before.guidance.state.route.routeState } } := by
      by_cases isOne : before.guidance.state.route.routeState = 1
      · have single : (parseText (routeFrame 2)).records =
            [((RgdKey.route .routeState).text, ['2'])] := by decide +kernel
        have read : (parseText (routeFrame 2)).numField (.route .routeState) (-1) = some 2 := by
          decide +kernel
        refine clearDirty_of_routeState single read (by decide) (by rw [isOne]; decide) ?_
        exact absorb_eq_of_sameCalls same (routeFrame 2) (by decide +kernel)
      · have single : (parseText (routeFrame 1)).records =
            [((RgdKey.route .routeState).text, ['1'])] := by decide +kernel
        have read : (parseText (routeFrame 1)).numField (.route .routeState) (-1) = some 1 := by
          decide +kernel
        refine clearDirty_of_routeState single read (by decide) (Ne.symm isOne) ?_
        exact absorb_eq_of_sameCalls same (routeFrame 1) (by decide +kernel)
    have visible : before.guidance.state.route.routeState = State.initial.route.routeState := by
      have single : (parseText visibleFrame).records =
          [((RgdKey.route .visibleInApp).text, ['1'])] := by decide +kernel
      have read : visibleInAppField (parseText visibleFrame) = some 1 := by decide +kernel
      rw [← routeState_of_visibleInApp single read before.guidance.state,
        ← routeState_of_visibleInApp single read State.initial]
      exact congrArg (fun state : State => state.route.routeState)
        (absorb_eq_of_sameCalls same visibleFrame (by decide +kernel))
    rw [routeOnly, visible]
    rfl
  · intro noState labels mirrored same
    exact (resumed_restarted noState).sameCalls numbered_started same

/-- The snapshot that activated the guidance is replayed after a restart, and
guidance stays off. -/
theorem replayed_snapshot_ignored :
    ¬ ∀ before calls, amapRouteGuidance.Run before calls →
      ∀ labels mirrored, SameInputs (restarted before).timers labels mirrored →
        (performAll amapStep mirrored (restarted before)).2 =
          (performAll amapStep labels started).2 := by
  intro equivalent
  have same := equivalent _ _
    (run_performAll fresh amapStep [.start, .frame evtRgdUpdate (routeFrame 1) ⟨0, 0⟩])
    [.frame evtRgdUpdate (routeFrame 1) ⟨0, 0⟩] _ (.inl rfl)
  exact absurd (congrArg List.length same) (by decide +kernel)

end AmapRouteGuidance

end CarplayRgi
