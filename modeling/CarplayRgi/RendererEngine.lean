import CarplayRgi.RendererProtocol
import Mathlib.Data.List.Induction

/-!
# The animation engine of the renderer

The engine shows a current maneuver, pushes it out for a next one, and keeps a
third that has come in the meantime.  A preloaded maneuver waits for the
command that starts its animation.  How long an animation takes is left open:
a tick is told whether the animation has finished.
-/

namespace CarplayRgi

/-- The packet of a maneuver: its state, and what else comes with it. -/
structure ManeuverPayload where
  state : ManeuverState
  flags : UInt8
  perspective : UInt8
  bargraphLevel : UInt8
  bargraphMode : UInt8
  deriving DecidableEq

namespace ManeuverPayload

def setsPersp (man : ManeuverPayload) : Bool :=
  decide (man.flags &&& manFlagSetPersp ≠ 0)

def setsBargraph (man : ManeuverPayload) : Bool :=
  decide (man.flags &&& manFlagBargraph ≠ 0)

end ManeuverPayload

/-- The commands, with one for all that leave the engine alone. -/
inductive RendererCommand where
  | maneuver (man : ManeuverPayload)
  | preload (man : ManeuverPayload)
  | startAnimation
  | hideDisplay
  | perspective (value : UInt8)
  | bargraph (level mode : UInt8)
  | shutdown
  | other
  deriving DecidableEq

namespace RendererCommand

/-- The maneuver of a command. -/
def state? : RendererCommand → Option ManeuverState
  | .maneuver man | .preload man => some man.state
  | _ => none

end RendererCommand

inductive EnginePhase where
  | idle
  | pushing
  | slidingIn
  deriving DecidableEq

/-- `cr_engine_t`. -/
structure CrEngine where
  current : ManeuverState
  next : ManeuverState
  pending : ManeuverState
  hasCurrent : Bool
  hasNext : Bool
  hasPending : Bool
  phase : EnginePhase
  deriving DecidableEq

/-- The engine with the globals beside it.  What only a frame looks at is left
out. -/
structure Renderer where
  engine : CrEngine
  preloadPending : Bool
  displayActive : Bool
  bargraphOn : Nat
  bargraphLevel : Nat
  perspDeferred : Bool
  perspDeferredValue : Bool
  bargraphDeferred : Bool
  bargraphDeferredLevel : Nat
  bargraphDeferredMode : Nat
  perspective : Bool
  running : Bool
  deriving DecidableEq

def ManeuverState.zero : ManeuverState := ⟨0, 0, 0, 0, []⟩

namespace Renderer

def initial : Renderer where
  engine := ⟨.zero, .zero, .zero, false, false, false, .idle⟩
  preloadPending := false
  displayActive := false
  bargraphOn := 0
  bargraphLevel := 0
  perspDeferred := false
  perspDeferredValue := true
  bargraphDeferred := false
  bargraphDeferredLevel := 0
  bargraphDeferredMode := 0
  perspective := true
  running := true

def engineApplyManeuver (state : ManeuverState) (renderer : Renderer) : Renderer :=
  let engine := renderer.engine
  if engine.hasCurrent = false then
    { renderer with
      engine :=
        { engine with current := state, hasCurrent := true, hasNext := false, phase := .slidingIn } }
  else if engine.phase = .pushing ∨ engine.phase = .slidingIn then
    { renderer with engine := { engine with pending := state, hasPending := true } }
  else
    { renderer with
      engine := { engine with next := state, hasNext := true, phase := .pushing }
      bargraphOn := 0 }

def enginePreloadManeuver (state : ManeuverState) (renderer : Renderer) : Renderer :=
  { renderer with
    engine :=
      { renderer.engine with
        current := state, hasCurrent := true, hasNext := false, hasPending := false
        phase := .idle }
    preloadPending := true }

def applyPerspDeferred (renderer : Renderer) : Renderer :=
  if renderer.perspDeferred then
    { renderer with perspective := renderer.perspDeferredValue, perspDeferred := false }
  else renderer

def applyBargraphDeferred (renderer : Renderer) : Renderer :=
  if renderer.bargraphDeferred then
    { renderer with
      bargraphLevel := renderer.bargraphDeferredLevel
      bargraphOn := renderer.bargraphDeferredMode
      bargraphDeferred := false }
  else renderer

/-- What has been deferred until a transition is applied. -/
def applyDeferred (renderer : Renderer) : Renderer :=
  renderer.applyPerspDeferred.applyBargraphDeferred

/-- Whether a preloaded maneuver waits for its animation. -/
def startsAnimation (renderer : Renderer) : Bool :=
  renderer.preloadPending && renderer.engine.hasCurrent

def engineStartPreloadedAnimation (renderer : Renderer) : Renderer :=
  if renderer.startsAnimation then
    applyDeferred
      { renderer with
        engine := { renderer.engine with phase := .slidingIn }
        preloadPending := false
        displayActive := true }
  else renderer

/-- The queued maneuver becomes the next one, and is pushed in. -/
def promote (engine : CrEngine) : CrEngine :=
  { engine with
    next := engine.pending, hasNext := true, hasPending := false, phase := .pushing }

def commitNext (engine : CrEngine) : CrEngine :=
  if engine.hasNext then { engine with current := engine.next, hasNext := false } else engine

/-- `engine_tick`, with the answer of `maneuver_is_pushing` or of
`maneuver_is_animating`. -/
def engineTick (finished : Bool) (renderer : Renderer) : Renderer :=
  if finished then
    match renderer.engine.phase with
    | .pushing =>
        let committed := commitNext renderer.engine
        { renderer with
          engine := if committed.hasPending then promote committed
            else { committed with phase := .slidingIn } }
    | .slidingIn =>
        if renderer.engine.hasPending then { renderer with engine := promote renderer.engine }
        else applyDeferred { renderer with engine := { renderer.engine with phase := .idle } }
    | .idle => renderer
  else renderer

/-- The last maneuver of a drain, and whether it is a preload. -/
structure PendingManeuver where
  preload : Bool
  man : ManeuverPayload

/-- A command that is handled at once. -/
def handle : RendererCommand → Renderer → Renderer
  | .startAnimation, renderer => renderer.engineStartPreloadedAnimation
  | .hideDisplay, renderer => { renderer with displayActive := false }
  | .perspective value, renderer => { renderer with perspective := decide (value ≠ 0) }
  | .bargraph level mode, renderer =>
      { renderer with
        bargraphLevel := min level.toNat 16
        bargraphOn := if 2 < mode.toNat then 1 else mode.toNat }
  | .shutdown, renderer => { renderer with running := false }
  | .maneuver _, renderer | .preload _, renderer | .other, renderer => renderer

/-- The place of the last maneuver after a command. -/
def keepLatest : RendererCommand → Option PendingManeuver → Option PendingManeuver
  | .maneuver man, _ => some ⟨false, man⟩
  | .preload man, _ => some ⟨true, man⟩
  | _, pending => pending

def deferPersp (pending : PendingManeuver) (renderer : Renderer) : Renderer :=
  if pending.preload || pending.man.setsPersp then
    { renderer with
      perspDeferred := true, perspDeferredValue := decide (pending.man.perspective ≠ 0) }
  else renderer

def deferBargraph (pending : PendingManeuver) (renderer : Renderer) : Renderer :=
  if pending.preload || pending.man.setsBargraph then
    { renderer with
      bargraphDeferred := true
      bargraphDeferredLevel := min pending.man.bargraphLevel.toNat 16
      bargraphDeferredMode :=
        if 2 < pending.man.bargraphMode.toNat then 1 else pending.man.bargraphMode.toNat }
  else renderer

/-- The latest maneuver is applied after the other commands. -/
def applyLatest (pending : PendingManeuver) (renderer : Renderer) : Renderer :=
  let deferred := (renderer.deferPersp pending).deferBargraph pending
  if pending.preload then deferred.enginePreloadManeuver pending.man.state
  else deferred.engineApplyManeuver pending.man.state

def drain (batch : List RendererCommand) (renderer : Renderer) : Renderer :=
  let drained := batch.foldl
    (fun (state : Renderer × Option PendingManeuver) command =>
      (handle command state.1, keepLatest command state.2)) (renderer, none)
  match drained.2 with
  | none => drained.1
  | some pending => drained.1.applyLatest pending

section Engine

variable (renderer : Renderer)

@[simp]
theorem applyDeferred_engine : renderer.applyDeferred.engine = renderer.engine := by
  unfold applyDeferred applyBargraphDeferred applyPerspDeferred
  split_ifs
  all_goals rfl

@[simp]
theorem applyDeferred_preloadPending :
    renderer.applyDeferred.preloadPending = renderer.preloadPending := by
  unfold applyDeferred applyBargraphDeferred applyPerspDeferred
  split_ifs
  all_goals rfl

@[simp]
theorem defer_engine (pending : PendingManeuver) :
    ((renderer.deferPersp pending).deferBargraph pending).engine = renderer.engine := by
  unfold deferBargraph deferPersp
  split_ifs
  all_goals rfl

@[simp]
theorem defer_preloadPending (pending : PendingManeuver) :
    ((renderer.deferPersp pending).deferBargraph pending).preloadPending =
      renderer.preloadPending := by
  unfold deferBargraph deferPersp
  split_ifs
  all_goals rfl

theorem handle_engine {command : RendererCommand} (notStart : command ≠ .startAnimation) :
    (handle command renderer).engine = renderer.engine ∧
      (handle command renderer).preloadPending = renderer.preloadPending := by
  cases command with
  | startAnimation => exact absurd rfl notStart
  | maneuver | preload | hideDisplay | perspective | bargraph | shutdown | other =>
      exact ⟨rfl, rfl⟩

/-- A command alone. -/
theorem drain_single {command : RendererCommand} (noManeuver : command.state? = none) :
    drain [command] renderer = handle command renderer := by
  cases command with
  | maneuver | preload => cases noManeuver
  | startAnimation | hideDisplay | perspective | bargraph | shutdown | other => rfl

end Engine

end Renderer

/-- The maneuver that is shown when the transitions are over. -/
def CrEngine.target (engine : CrEngine) : ManeuverState :=
  if engine.hasPending then engine.pending
  else if engine.hasNext then engine.next else engine.current

namespace Renderer

/-- The flags fit the phase, and the engine is after the last maneuver. -/
structure Tracks (last : Option ManeuverState) (renderer : Renderer) : Prop where
  next : renderer.engine.hasNext = true ↔ renderer.engine.phase = .pushing
  pending : renderer.engine.hasPending = true → renderer.engine.phase ≠ .idle
  cold : renderer.engine.hasCurrent = false → renderer.engine.phase = .idle
  target : renderer.engine.hasCurrent = true → last = some renderer.engine.target

theorem tracks_initial : Tracks none initial where
  next := by decide
  pending := by decide
  cold _ := rfl
  target warm := by cases warm

theorem Tracks.of_engine {last : Option ManeuverState} {renderer after : Renderer}
    (tracks : Tracks last renderer) (same : after.engine = renderer.engine) :
    Tracks last after := by
  constructor
  · rw [same]; exact tracks.next
  · rw [same]; exact tracks.pending
  · rw [same]; exact tracks.cold
  · rw [same]; exact tracks.target

variable {last : Option ManeuverState} {renderer : Renderer}

theorem Tracks.apply (tracks : Tracks last renderer) (state : ManeuverState) :
    Tracks (some state) (renderer.engineApplyManeuver state) := by
  unfold engineApplyManeuver
  dsimp only
  split_ifs with cold moving
  · have idle := tracks.cold cold
    have noPending : renderer.engine.hasPending = false := by
      by_contra queued
      exact tracks.pending (by simpa using queued) idle
    exact ⟨by simp, by simp, by simp, by simp [CrEngine.target, noPending]⟩
  · have warm : renderer.engine.hasCurrent = true := by simpa using cold
    refine ⟨tracks.next, fun _ => ?_, tracks.cold, fun _ => by simp [CrEngine.target]⟩
    rcases moving with pushing | sliding
    · exact fun idle => by simp [pushing] at idle
    · exact fun idle => by simp [sliding] at idle
  · have idle : renderer.engine.phase = .idle := by
      cases phase : renderer.engine.phase with
      | idle => rfl
      | pushing => exact absurd (.inl phase) moving
      | slidingIn => exact absurd (.inr phase) moving
    have noPending : renderer.engine.hasPending = false := by
      by_contra queued
      exact tracks.pending (by simpa using queued) idle
    refine ⟨by simp, by simp, fun cool => absurd cool cold, by simp [CrEngine.target, noPending]⟩

theorem tracks_preload (state : ManeuverState) :
    Tracks (some state) (renderer.enginePreloadManeuver state) where
  next := by simp [enginePreloadManeuver]
  pending := by simp [enginePreloadManeuver]
  cold cool := by simp [enginePreloadManeuver] at cool
  target _ := by simp [enginePreloadManeuver, CrEngine.target]

/-- A maneuver under way is lost by a start, any other state is not. -/
theorem Tracks.start (tracks : Tracks last renderer)
    (atRest : renderer.startsAnimation = true → renderer.engine.phase ≠ .pushing) :
    Tracks last renderer.engineStartPreloadedAnimation := by
  unfold engineStartPreloadedAnimation
  split_ifs with starts
  · have noNext : renderer.engine.hasNext = false := by
      by_contra pushed
      exact atRest starts (tracks.next.mp (by simpa using pushed))
    have warm : renderer.engine.hasCurrent = true := by
      simp only [startsAnimation, Bool.and_eq_true] at starts
      exact starts.2
    have target := tracks.target warm
    constructor
    · simp [noNext]
    · simp
    · simp [warm]
    · intro _
      simpa [CrEngine.target, noNext] using target
  · exact tracks

theorem Tracks.tick (tracks : Tracks last renderer) (finished : Bool) :
    Tracks last (renderer.engineTick finished) := by
  unfold engineTick
  cases finished with
  | false => exact tracks
  | true =>
      rw [if_pos rfl]
      cases phase : renderer.engine.phase with
      | idle => exact tracks
      | pushing =>
          have pushed := tracks.next.mpr phase
          have warm : renderer.engine.hasCurrent = true := by
            by_contra cool
            have idle := tracks.cold (by simpa using cool)
            rw [phase] at idle
            cases idle
          have target := tracks.target warm
          dsimp only
          rw [commitNext, if_pos pushed]
          cases queued : renderer.engine.hasPending with
          | true =>
              constructor
              · simp [promote]
              · simp [promote]
              · simp [promote, warm]
              · simpa [queued, promote, CrEngine.target] using fun _ => target
          | false =>
              constructor
              · simp
              · simp
              · simp [warm]
              · simpa [queued, CrEngine.target, pushed] using fun _ => target
      | slidingIn =>
          have noNext : renderer.engine.hasNext = false := by
            by_contra pushed
            have pushing := tracks.next.mp (by simpa using pushed)
            rw [phase] at pushing
            cases pushing
          have warm : renderer.engine.hasCurrent = true := by
            by_contra cool
            have idle := tracks.cold (by simpa using cool)
            rw [phase] at idle
            cases idle
          have target := tracks.target warm
          dsimp only
          cases queued : renderer.engine.hasPending with
          | true =>
              constructor
              · simp [promote]
              · simp [promote]
              · simp [promote, warm]
              · simpa [queued, promote, CrEngine.target] using fun _ => target
          | false =>
              constructor
              · simp [noNext]
              · simp
              · simp
              · simpa [queued, CrEngine.target, noNext] using fun _ => target

/-- A batch of one command, or a tick. -/
inductive EngineLabel where
  | drained (command : RendererCommand)
  | tick (finished : Bool)
  deriving DecidableEq

def engineStep : EngineLabel → Renderer → Renderer
  | .drained command, renderer => renderer.drain [command]
  | .tick finished, renderer => renderer.engineTick finished

def engineAfter (labels : List EngineLabel) : Renderer :=
  labels.foldl (fun renderer label => engineStep label renderer) initial

def EngineLabel.state? : EngineLabel → Option ManeuverState
  | .drained command => command.state?
  | .tick _ => none

/-- The maneuver of the last command that has one. -/
def lastManeuver (labels : List EngineLabel) : Option ManeuverState :=
  (labels.filterMap EngineLabel.state?).getLast?

theorem engineAfter_concat (labels : List EngineLabel) (label : EngineLabel) :
    engineAfter (labels ++ [label]) = engineStep label (engineAfter labels) := by
  simp [engineAfter]

theorem lastManeuver_concat (labels : List EngineLabel) (label : EngineLabel) :
    lastManeuver (labels ++ [label]) = (label.state? <|> lastManeuver labels) := by
  unfold lastManeuver
  rw [List.filterMap_append]
  cases found : label.state? with
  | none => simp [found]
  | some state => simp [found]

/-- The flags of the engine fit its phase, and an engine at rest shows the last
maneuver. -/
structure EngineInvariant (last : Option ManeuverState) (renderer : Renderer) : Prop where
  next : renderer.engine.hasNext = true ↔ renderer.engine.phase = .pushing
  pending : renderer.engine.hasPending = true →
    renderer.engine.phase = .pushing ∨ renderer.engine.phase = .slidingIn
  idle : renderer.engine.phase = .idle → renderer.engine.hasCurrent = true →
    last = some renderer.engine.current

theorem Tracks.invariant (tracks : Tracks last renderer) : EngineInvariant last renderer where
  next := tracks.next
  pending queued := by
    have moving := tracks.pending queued
    cases phase : renderer.engine.phase with
    | idle => exact absurd phase moving
    | pushing => exact .inl rfl
    | slidingIn => exact .inr rfl
  idle atRest warm := by
    have noNext : renderer.engine.hasNext = false := by
      by_contra pushed
      have pushing := tracks.next.mp (by simpa using pushed)
      rw [atRest] at pushing
      cases pushing
    have noPending : renderer.engine.hasPending = false := by
      by_contra queued
      exact tracks.pending (by simpa using queued) atRest
    simpa [CrEngine.target, noNext, noPending] using tracks.target warm

theorem Tracks.latest (tracks : Tracks last renderer) (pending : PendingManeuver) :
    Tracks (some pending.man.state) (renderer.applyLatest pending) := by
  unfold applyLatest
  dsimp only
  split_ifs
  · exact tracks_preload pending.man.state
  · exact (tracks.of_engine (defer_engine renderer pending)).apply pending.man.state

/-- One step keeps the engine on the track of the last maneuver, unless a start
finds it in the middle of a push. -/
theorem Tracks.step (tracks : Tracks last renderer) (label : EngineLabel)
    (atRest : label = .drained .startAnimation → renderer.startsAnimation = true →
      renderer.engine.phase ≠ .pushing) :
    Tracks (label.state? <|> last) (engineStep label renderer) := by
  cases label with
  | tick finished => exact tracks.tick finished
  | drained command =>
      cases command with
      | maneuver man => exact tracks.latest ⟨false, man⟩
      | preload man => exact tracks.latest ⟨true, man⟩
      | startAnimation => exact tracks.start (atRest rfl)
      | hideDisplay | perspective | bargraph | shutdown | other => exact tracks.of_engine rfl

/-- No start of this run comes while a maneuver is being pushed in over a
preloaded one. -/
def StartsAtRest (labels : List EngineLabel) : Prop :=
  ∀ taken, taken ++ [.drained .startAnimation] <+: labels →
    (engineAfter taken).startsAnimation = true → (engineAfter taken).engine.phase ≠ .pushing

theorem tracks_of_startsAtRest {labels : List EngineLabel} (rests : StartsAtRest labels) :
    Tracks (lastManeuver labels) (engineAfter labels) := by
  induction labels using List.reverseRecOn with
  | nil => exact tracks_initial
  | append_singleton labels label ih =>
      rw [engineAfter_concat, lastManeuver_concat]
      refine (ih fun taken isPrefix => rests taken (isPrefix.trans (List.prefix_append _ _))).step
        label fun isStart starts => rests labels ?_ starts
      exact isStart ▸ List.prefix_rfl

/-- The engine keeps its invariant throughout a run if and only if no start comes
in the middle of a push. -/
theorem engine_invariant_iff (labels : List EngineLabel) :
    (∀ taken, taken <+: labels → EngineInvariant (lastManeuver taken) (engineAfter taken)) ↔
      StartsAtRest labels := by
  constructor
  · intro holds taken isPrefix starts pushing
    have before := holds taken ((List.prefix_append _ _).trans isPrefix)
    have after := holds _ isPrefix
    rw [engineAfter_concat] at after
    have started : engineStep (.drained .startAnimation) (engineAfter taken) =
        applyDeferred
          { engineAfter taken with
            engine := { (engineAfter taken).engine with phase := .slidingIn }
            preloadPending := false
            displayActive := true } := if_pos starts
    have stranded := after.next
    rw [started, applyDeferred_engine] at stranded
    have sliding := stranded.mp (before.next.mpr pushing)
    cases sliding
  · intro rests taken isPrefix
    refine (tracks_of_startsAtRest fun earlier earlierPrefix => ?_).invariant
    exact rests earlier (earlierPrefix.trans isPrefix)

/-- A left turn, as it is sent. -/
def payloadOf (icon : Int) : ManeuverPayload :=
  ⟨⟨icon, -90, 0, 0, []⟩, 0, 1, 0, 0⟩

/-- A start in the middle of a push: the pushed maneuver is never shown. -/
def strandedLabels : List EngineLabel :=
  [.drained (.preload (payloadOf 1)), .tick false, .drained (.maneuver (payloadOf 2)), .tick false,
    .drained .startAnimation, .tick true]

theorem pushed_maneuver_stranded :
    ¬ ∀ labels, EngineInvariant (lastManeuver labels) (engineAfter labels) := by
  intro holds
  have shown := (holds strandedLabels).idle (by decide) (by decide)
  exact absurd shown (by decide)

end Renderer

end CarplayRgi
