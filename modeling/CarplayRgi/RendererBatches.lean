import CarplayRgi.RendererEngine

/-!
# Batches of renderer commands

A drain handles every command at once but the maneuvers, of which it applies
the last one at its end.  A maneuver therefore comes after commands that have
been sent after it.  This file compares a batch with its commands one at a
time, the animations standing still in between.
-/

namespace CarplayRgi

namespace RendererCommand

def isManeuver (command : RendererCommand) : Bool :=
  command.state?.isSome

end RendererCommand

namespace Renderer

/-- The commands of a batch without the maneuvers that a later one supersedes. -/
def dropSuperseded : List RendererCommand → List RendererCommand
  | [] => []
  | .maneuver man :: rest =>
      if rest.any RendererCommand.isManeuver then dropSuperseded rest
      else .maneuver man :: dropSuperseded rest
  | command :: rest => command :: dropSuperseded rest

/-- Every command in a batch of its own, before the animation has moved on. -/
def drainAlone (commands : List RendererCommand) (renderer : Renderer) : Renderer :=
  commands.foldl (fun renderer command => (renderer.drain [command]).engineTick false) renderer

/-- The commands of a batch as they are handled, without the maneuvers. -/
def handleAll (commands : List RendererCommand) (renderer : Renderer) : Renderer :=
  commands.foldl (fun renderer command => handle command renderer) renderer

def latest (commands : List RendererCommand) : Option PendingManeuver :=
  commands.foldl (fun pending command => keepLatest command pending) none

def finish (pending : Option PendingManeuver) (renderer : Renderer) : Renderer :=
  match pending with
  | none => renderer
  | some pending => renderer.applyLatest pending

theorem foldl_keepLatest (commands : List RendererCommand) (pending : Option PendingManeuver) :
    commands.foldl (fun pending command => keepLatest command pending) pending =
      (latest commands <|> pending) := by
  unfold latest
  induction commands generalizing pending with
  | nil => rfl
  | cons command commands ih =>
      rw [List.foldl_cons, List.foldl_cons, ih, ih (keepLatest command none)]
      cases commands.foldl (fun pending command => keepLatest command pending) none with
      | some later => rfl
      | none => cases command <;> rfl

theorem latest_cons (command : RendererCommand) (commands : List RendererCommand) :
    latest (command :: commands) = (latest commands <|> keepLatest command none) :=
  foldl_keepLatest commands (keepLatest command none)

/-- A drain is its commands, and then its last maneuver. -/
theorem drain_eq (batch : List RendererCommand) (renderer : Renderer) :
    renderer.drain batch = finish (latest batch) (renderer.handleAll batch) := by
  have split : ∀ (renderer : Renderer) (pending : Option PendingManeuver),
      batch.foldl (fun (state : Renderer × Option PendingManeuver) command =>
          (handle command state.1, keepLatest command state.2)) (renderer, pending) =
        (renderer.handleAll batch,
          batch.foldl (fun pending command => keepLatest command pending) pending) := by
    induction batch with
    | nil => exact fun _ _ => rfl
    | cons command batch ih => exact fun renderer pending => ih (handle command renderer) _
  unfold drain
  rw [split]
  rfl

theorem latest_eq_none {commands : List RendererCommand} :
    latest commands = none ↔ commands.any RendererCommand.isManeuver = false := by
  induction commands with
  | nil => exact iff_of_true rfl rfl
  | cons command commands ih =>
      rw [latest_cons, List.any_cons, Bool.or_eq_false_iff, ← ih]
      cases latest commands with
      | some later => simp
      | none => cases command <;> simp [keepLatest, RendererCommand.isManeuver,
          RendererCommand.state?]

theorem applyLatest_preload (man earlier : ManeuverPayload) (renderer : Renderer) :
    (renderer.applyLatest ⟨true, earlier⟩).applyLatest ⟨true, man⟩ =
      renderer.applyLatest ⟨true, man⟩ :=
  rfl

/-- Only a start looks at what a preload changes. -/
theorem handle_preload {command : RendererCommand} (notStart : command ≠ .startAnimation)
    (man : ManeuverPayload) (renderer : Renderer) :
    handle command (renderer.applyLatest ⟨true, man⟩) =
      (handle command renderer).applyLatest ⟨true, man⟩ := by
  cases command with
  | startAnimation => exact absurd rfl notStart
  | maneuver | preload | hideDisplay | perspective | bargraph | shutdown | other => rfl

theorem drainAlone_cons (command : RendererCommand) (commands : List RendererCommand)
    (renderer : Renderer) :
    renderer.drainAlone (command :: commands) = (renderer.drain [command]).drainAlone commands :=
  rfl

theorem handleAll_cons (command : RendererCommand) (commands : List RendererCommand)
    (renderer : Renderer) :
    renderer.handleAll (command :: commands) = (handle command renderer).handleAll commands :=
  rfl

theorem dropSuperseded_other {command : RendererCommand}
    (other : ∀ man, command ≠ .maneuver man) (rest : List RendererCommand) :
    dropSuperseded (command :: rest) = command :: dropSuperseded rest := by
  cases command with
  | maneuver man => exact absurd rfl (other man)
  | preload | startAnimation | hideDisplay | perspective | bargraph | shutdown | other => rfl

theorem all_of_orElse {first second : Option PendingManeuver} {test : PendingManeuver → Bool}
    (all : (first <|> second).all test = true) : first.all test = true := by
  cases first with
  | none => rfl
  | some pending => exact all

/-- A preload, and commands without a start of which the last maneuver, if there
is one, is a preload too. -/
theorem drainAlone_preload {rest : List RendererCommand}
    (noStart : RendererCommand.startAnimation ∉ rest)
    (preloads : (latest rest).all PendingManeuver.preload = true) (man : ManeuverPayload)
    (renderer : Renderer) :
    (renderer.applyLatest ⟨true, man⟩).drainAlone (dropSuperseded rest) =
      finish (latest rest <|> some ⟨true, man⟩) (renderer.handleAll rest) := by
  induction rest generalizing man renderer with
  | nil => rfl
  | cons command rest ih =>
      have noStartLater : RendererCommand.startAnimation ∉ rest :=
        fun member => noStart (List.mem_cons_of_mem command member)
      have notStart : command ≠ .startAnimation := by
        rintro rfl
        exact noStart List.mem_cons_self
      rw [latest_cons] at preloads ⊢
      have ih := ih noStartLater (all_of_orElse preloads)
      cases command with
      | startAnimation => exact absurd rfl notStart
      | maneuver first =>
          cases later : latest rest with
          | none =>
              rw [later] at preloads
              cases preloads
          | some last =>
              have superseded : rest.any RendererCommand.isManeuver = true := by
                by_contra last
                rw [latest_eq_none.mpr (by simpa using last)] at later
                cases later
              have same := ih man renderer
              rw [later] at same
              rw [dropSuperseded, if_pos superseded, same]
              rfl
      | preload second =>
          rw [dropSuperseded_other (fun _ => by simp), drainAlone_cons, handleAll_cons]
          change ((renderer.applyLatest ⟨true, man⟩).applyLatest ⟨true, second⟩).drainAlone _ = _
          rw [applyLatest_preload, ih second renderer]
          cases latest rest with
          | none => rfl
          | some last => rfl
      | hideDisplay | perspective | bargraph | shutdown | other =>
          rw [dropSuperseded_other (fun _ => by simp), drainAlone_cons, handleAll_cons,
            drain_single _ rfl, handle_preload notStart, ih man _]
          cases latest rest with
          | none => rfl
          | some last => rfl

def setEngine (engine : CrEngine) (renderer : Renderer) : Renderer :=
  { renderer with engine }

def setBargraphOn (on : Nat) (renderer : Renderer) : Renderer :=
  { renderer with bargraphOn := on }

/-- The engine after a maneuver. -/
def applyTo (state : ManeuverState) (engine : CrEngine) : CrEngine :=
  if engine.hasCurrent = false then
    { engine with current := state, hasCurrent := true, hasNext := false, phase := .slidingIn }
  else if engine.phase = .pushing ∨ engine.phase = .slidingIn then
    { engine with pending := state, hasPending := true }
  else { engine with next := state, hasNext := true, phase := .pushing }

/-- A maneuver that begins a push turns the bargraph off. -/
def beginsPush (engine : CrEngine) : Bool :=
  engine.hasCurrent && decide (engine.phase = .idle)

theorem engineApplyManeuver_eq (state : ManeuverState) (renderer : Renderer) :
    renderer.engineApplyManeuver state =
      (renderer.setEngine (applyTo state renderer.engine)).setBargraphOn
        (if beginsPush renderer.engine then 0 else renderer.bargraphOn) := by
  obtain ⟨engine⟩ := renderer
  obtain ⟨current, next, pending, hasCurrent, hasNext, hasPending, phase⟩ := engine
  cases hasCurrent with
  | false => rfl
  | true =>
      cases phase with
      | idle | pushing | slidingIn => rfl

/-- What a maneuver leaves for the end of its transition. -/
def deferBoth (man : ManeuverPayload) (renderer : Renderer) : Renderer :=
  (renderer.deferPersp ⟨false, man⟩).deferBargraph ⟨false, man⟩

/-- What a maneuver does beside turning the bargraph off. -/
def applyQuietly (man : ManeuverPayload) (renderer : Renderer) : Renderer :=
  (renderer.deferBoth man).setEngine (applyTo man.state renderer.engine)

theorem deferBoth_bargraphOn (man : ManeuverPayload) (renderer : Renderer) :
    (renderer.deferBoth man).bargraphOn = renderer.bargraphOn := by
  unfold deferBoth deferBargraph deferPersp
  cases man.setsPersp with
  | true | false =>
      cases man.setsBargraph with
      | true | false => rfl

theorem applyLatest_maneuver (man : ManeuverPayload) (renderer : Renderer) :
    renderer.applyLatest ⟨false, man⟩ =
      (renderer.applyQuietly man).setBargraphOn
        (if beginsPush renderer.engine then 0 else renderer.bargraphOn) := by
  change (renderer.deferBoth man).engineApplyManeuver man.state = _
  have engine : (renderer.deferBoth man).engine = renderer.engine :=
    defer_engine renderer ⟨false, man⟩
  rw [engineApplyManeuver_eq, engine, deferBoth_bargraphOn]
  rfl

/-- The bargraph after a command that is not a start. -/
def bargraphAfter : RendererCommand → Nat → Nat
  | .bargraph _ mode, _ => if 2 < mode.toNat then 1 else mode.toNat
  | _, on => on

def bargraphAfterAll (commands : List RendererCommand) (on : Nat) : Nat :=
  commands.foldl (fun on command => bargraphAfter command on) on

/-- The animation is not started by a start, or a transition is under way and
the maneuver leaves nothing for its end. -/
def startsAlike (man : ManeuverPayload) (renderer : Renderer) : Bool :=
  !renderer.preloadPending ||
    (renderer.engine.hasCurrent && decide (renderer.engine.phase ≠ .idle) && !man.setsPersp &&
      !man.setsBargraph)

/-- A start without a preload does nothing. -/
theorem start_idle {renderer : Renderer} (noPreload : renderer.preloadPending = false) :
    renderer.engineStartPreloadedAnimation = renderer := by
  rw [engineStartPreloadedAnimation, startsAnimation, noPreload]
  rfl

section Commute

variable {command : RendererCommand} (renderer : Renderer)

theorem handle_setEngine (notStart : command ≠ .startAnimation) (engine : CrEngine) :
    handle command (renderer.setEngine engine) = (handle command renderer).setEngine engine := by
  cases command with
  | startAnimation => exact absurd rfl notStart
  | maneuver | preload | hideDisplay | perspective | bargraph | shutdown | other => rfl

theorem handle_deferBoth (notStart : command ≠ .startAnimation) (man : ManeuverPayload) :
    handle command (renderer.deferBoth man) = (handle command renderer).deferBoth man := by
  unfold deferBoth deferBargraph deferPersp
  cases man.setsPersp with
  | true | false =>
      cases man.setsBargraph with
      | true | false =>
          cases command with
          | startAnimation => exact absurd rfl notStart
          | maneuver | preload | hideDisplay | perspective | bargraph | shutdown | other => rfl

theorem handle_setBargraphOn (ignored : command = .startAnimation →
    renderer.preloadPending = false) (on : Nat) :
    handle command (renderer.setBargraphOn on) =
      (handle command renderer).setBargraphOn (bargraphAfter command on) := by
  cases command with
  | startAnimation =>
      have noPreload := ignored rfl
      change (renderer.setBargraphOn on).engineStartPreloadedAnimation =
        renderer.engineStartPreloadedAnimation.setBargraphOn on
      have noPreloadAfter : (renderer.setBargraphOn on).preloadPending = false := noPreload
      rw [start_idle noPreload, start_idle noPreloadAfter]
  | maneuver | preload | hideDisplay | perspective | bargraph | shutdown | other => rfl

theorem applyDeferred_setEngine (engine : CrEngine) :
    (renderer.setEngine engine).applyDeferred = renderer.applyDeferred.setEngine engine := by
  obtain ⟨_, _, _, _, _, perspDeferred, _, bargraphDeferred⟩ := renderer
  cases perspDeferred with
  | true | false =>
      cases bargraphDeferred with
      | true | false => rfl

theorem applyTo_moving {engine : CrEngine} (warm : engine.hasCurrent = true)
    (moving : engine.phase ≠ .idle) (state : ManeuverState) :
    applyTo state engine = { engine with pending := state, hasPending := true } := by
  have under : engine.phase = .pushing ∨ engine.phase = .slidingIn := by
    cases phase : engine.phase with
    | idle => exact absurd phase moving
    | pushing => exact .inl rfl
    | slidingIn => exact .inr rfl
  unfold applyTo
  rw [if_neg (by simp [warm]), if_pos under]

theorem deferBoth_flagless {man : ManeuverPayload} (noPersp : man.setsPersp = false)
    (noBargraph : man.setsBargraph = false) : renderer.deferBoth man = renderer := by
  unfold deferBoth deferBargraph deferPersp
  simp [noPersp, noBargraph]

theorem deferBoth_preloadPending (man : ManeuverPayload) :
    (renderer.applyQuietly man).preloadPending = renderer.preloadPending :=
  defer_preloadPending renderer ⟨false, man⟩

/-- A start that finds a transition under way, with the maneuver queued before or
after it. -/
theorem start_quietly {man : ManeuverPayload} (alike : renderer.startsAlike man = true) :
    (renderer.applyQuietly man).engineStartPreloadedAnimation =
      renderer.engineStartPreloadedAnimation.applyQuietly man := by
  cases waits : renderer.preloadPending with
  | false =>
      have waitsAfter : (renderer.applyQuietly man).preloadPending = false :=
        (deferBoth_preloadPending renderer man).trans waits
      rw [start_idle waits, start_idle waitsAfter]
  | true =>
      simp only [startsAlike, waits, Bool.not_true, Bool.false_or, Bool.and_eq_true,
        Bool.not_eq_true', decide_eq_true_eq] at alike
      obtain ⟨⟨⟨warm, moving⟩, noPersp⟩, noBargraph⟩ := alike
      have quietly : ∀ renderer : Renderer, renderer.applyQuietly man =
          renderer.setEngine (applyTo man.state renderer.engine) :=
        fun renderer => by rw [applyQuietly, deferBoth_flagless renderer noPersp noBargraph]
      have starts : renderer.startsAnimation = true := by simp [startsAnimation, waits, warm]
      let started : Renderer :=
        { renderer with
          engine := { renderer.engine with phase := .slidingIn }
          preloadPending := false
          displayActive := true }
      let queued : CrEngine :=
        { renderer.engine with
          pending := man.state, hasPending := true, phase := .slidingIn }
      have startedWarm : started.engine.hasCurrent = true := warm
      have startedEngine : applyTo man.state started.engine = queued :=
        applyTo_moving startedWarm (by simp [started]) man.state
      have startsAfter : (renderer.applyQuietly man).startsAnimation = true := by
        rw [quietly, applyTo_moving warm moving]
        exact starts
      calc (renderer.applyQuietly man).engineStartPreloadedAnimation
          = (started.setEngine queued).applyDeferred := by
            rw [engineStartPreloadedAnimation, if_pos startsAfter, quietly,
              applyTo_moving warm moving]
            rfl
        _ = started.applyDeferred.setEngine (applyTo man.state started.engine) := by
            rw [applyDeferred_setEngine, startedEngine]
        _ = renderer.engineStartPreloadedAnimation.applyQuietly man := by
            rw [engineStartPreloadedAnimation, if_pos starts, quietly, applyDeferred_engine]

theorem handle_quietly {man : ManeuverPayload}
    (alike : command = .startAnimation → renderer.startsAlike man = true) :
    handle command (renderer.applyQuietly man) = (handle command renderer).applyQuietly man := by
  by_cases isStart : command = .startAnimation
  · rw [isStart]
    exact start_quietly renderer (alike isStart)
  · rw [applyQuietly, handle_setEngine _ isStart, handle_deferBoth renderer isStart,
      applyQuietly, (handle_engine renderer isStart).1]

theorem start_preloadPending (warm : renderer.engine.hasCurrent = true) :
    renderer.engineStartPreloadedAnimation.preloadPending = false := by
  cases waits : renderer.preloadPending with
  | false => rw [start_idle waits, waits]
  | true =>
      have starts : renderer.startsAnimation = true := by simp [startsAnimation, waits, warm]
      rw [engineStartPreloadedAnimation, if_pos starts, applyDeferred_preloadPending]

theorem startsAlike_handle {man : ManeuverPayload} (alike : renderer.startsAlike man = true) :
    (handle command renderer).startsAlike man = true := by
  by_cases isStart : command = .startAnimation
  · rw [isStart]
    change renderer.engineStartPreloadedAnimation.startsAlike man = true
    cases waits : renderer.preloadPending with
    | false => rwa [start_idle waits]
    | true =>
        have warm : renderer.engine.hasCurrent = true := by
          simp only [startsAlike, waits, Bool.not_true, Bool.false_or, Bool.and_eq_true] at alike
          exact alike.1.1.1
        simp [startsAlike, start_preloadPending renderer warm]
  · have same := handle_engine renderer isStart
    unfold startsAlike at alike ⊢
    rwa [same.1, same.2]

end Commute

theorem handleAll_quietly {man : ManeuverPayload} {commands : List RendererCommand}
    (renderer : Renderer)
    (alike : .startAnimation ∈ commands → renderer.startsAlike man = true) :
    (renderer.applyQuietly man).handleAll commands =
      (renderer.handleAll commands).applyQuietly man := by
  induction commands generalizing renderer with
  | nil => rfl
  | cons command commands ih =>
      rw [handleAll_cons, handleAll_cons, handle_quietly renderer fun isStart => alike (by
        rw [isStart]
        exact List.mem_cons_self)]
      apply ih
      exact fun member => startsAlike_handle renderer (alike (List.mem_cons_of_mem command member))

theorem handle_preloadPending {command : RendererCommand} {renderer : Renderer}
    (noPreload : renderer.preloadPending = false) :
    (handle command renderer).preloadPending = false := by
  by_cases isStart : command = .startAnimation
  · rw [isStart]
    exact (congrArg preloadPending (start_idle noPreload)).trans noPreload
  · exact (handle_engine renderer isStart).2.trans noPreload

theorem handleAll_setBargraphOn {commands : List RendererCommand} (renderer : Renderer)
    (ignored : .startAnimation ∈ commands → renderer.preloadPending = false) (on : Nat) :
    (renderer.setBargraphOn on).handleAll commands =
      (renderer.handleAll commands).setBargraphOn (bargraphAfterAll commands on) := by
  induction commands generalizing renderer on with
  | nil => rfl
  | cons command commands ih =>
      rw [handleAll_cons, handleAll_cons, handle_setBargraphOn renderer fun isStart => ignored (by
        rw [isStart]
        exact List.mem_cons_self)]
      apply ih
      exact fun member => handle_preloadPending (ignored (List.mem_cons_of_mem command member))

/-- Commands at once begin no push, and end none. -/
theorem beginsPush_handleAll {commands : List RendererCommand} (renderer : Renderer)
    (ignored : beginsPush renderer.engine = true → .startAnimation ∈ commands →
      renderer.preloadPending = false) :
    beginsPush (renderer.handleAll commands).engine = beginsPush renderer.engine := by
  induction commands generalizing renderer with
  | nil => rfl
  | cons command commands ih =>
      have one : beginsPush (handle command renderer).engine = beginsPush renderer.engine := by
        by_cases isStart : command = .startAnimation
        · rw [isStart]
          change beginsPush renderer.engineStartPreloadedAnimation.engine = _
          cases starts : renderer.startsAnimation with
          | false => rw [engineStartPreloadedAnimation, starts]; rfl
          | true =>
              have waits : renderer.preloadPending = true := by
                rw [startsAnimation, Bool.and_eq_true] at starts
                exact starts.1
              have noPush : beginsPush renderer.engine = false := by
                by_contra push
                have noPreload :=
                  ignored (by simpa using push) (by rw [isStart]; exact List.mem_cons_self)
                rw [waits] at noPreload
                cases noPreload
              rw [engineStartPreloadedAnimation, if_pos starts, applyDeferred_engine, noPush]
              exact Bool.and_false _
        · rw [(handle_engine renderer isStart).1]
      rw [handleAll_cons, ih _ ?_, one]
      intro push member
      rw [one] at push
      exact handle_preloadPending (ignored push (List.mem_cons_of_mem command member))

/-- Whether the last maneuver of a batch may wait for the commands after it. -/
def maneuverFits (man : ManeuverPayload) (rest : List RendererCommand) (renderer : Renderer) :
    Bool :=
  (!rest.contains .startAnimation || renderer.startsAlike man) &&
    (!beginsPush renderer.engine || decide (bargraphAfterAll rest 0 = 0))

/-- Whether a preload may wait, or give way. -/
def preloadFits (rest : List RendererCommand) : Bool :=
  !rest.contains .startAnimation && (latest rest).all PendingManeuver.preload

def batchFits : List RendererCommand → Renderer → Bool
  | [], _ => true
  | .maneuver man :: rest, renderer =>
      if rest.any RendererCommand.isManeuver then batchFits rest renderer
      else maneuverFits man rest renderer
  | .preload _ :: rest, _ => preloadFits rest
  | command :: rest, renderer => batchFits rest (handle command renderer)

theorem batchFits_other {command : RendererCommand} {rest : List RendererCommand}
    (noManeuver : command.state? = none) (renderer : Renderer) :
    batchFits (command :: rest) renderer = batchFits rest (handle command renderer) := by
  cases command with
  | maneuver | preload => cases noManeuver
  | startAnimation | hideDisplay | perspective | bargraph | shutdown | other => rfl

/-- Without a maneuver, a batch is its commands one at a time. -/
theorem drainAlone_handleAll {commands : List RendererCommand}
    (noLatest : latest commands = none) (renderer : Renderer) :
    renderer.drainAlone (dropSuperseded commands) = renderer.handleAll commands := by
  induction commands generalizing renderer with
  | nil => rfl
  | cons command commands ih =>
      have parts : latest commands = none ∧ keepLatest command none = none := by
        rw [latest_cons] at noLatest
        cases later : latest commands with
        | none => exact ⟨rfl, by rwa [later] at noLatest⟩
        | some last => rw [later] at noLatest; cases noLatest
      have ih := ih parts.1
      cases command with
      | maneuver | preload => cases parts.2
      | startAnimation | hideDisplay | perspective | bargraph | shutdown | other =>
          rw [dropSuperseded_other (fun _ => by simp), drainAlone_cons, handleAll_cons,
            drain_single _ rfl, ih]

theorem setBargraphOn_same (renderer : Renderer) :
    renderer.setBargraphOn renderer.bargraphOn = renderer :=
  rfl

theorem drainAlone_maneuver {man : ManeuverPayload} {rest : List RendererCommand}
    {renderer : Renderer} (fits : maneuverFits man rest renderer = true) :
    (renderer.applyLatest ⟨false, man⟩).handleAll rest =
      (renderer.handleAll rest).applyLatest ⟨false, man⟩ := by
  simp only [maneuverFits, Bool.and_eq_true, Bool.or_eq_true, Bool.not_eq_true',
    List.contains_eq_mem, decide_eq_false_iff_not, decide_eq_true_eq] at fits
  obtain ⟨starts, bargraph⟩ := fits
  have alike : .startAnimation ∈ rest → renderer.startsAlike man = true :=
    fun member => starts.resolve_left (not_not_intro member)
  have ignored : beginsPush renderer.engine = true → .startAnimation ∈ rest →
      renderer.preloadPending = false := by
    intro push member
    have atRest : renderer.engine.phase = .idle := by
      rw [beginsPush, Bool.and_eq_true, decide_eq_true_eq] at push
      exact push.2
    simpa [startsAlike, atRest] using alike member
  rw [applyLatest_maneuver, applyLatest_maneuver, beginsPush_handleAll renderer ignored]
  cases push : beginsPush renderer.engine with
  | true =>
      have off : bargraphAfterAll rest 0 = 0 := bargraph.resolve_left (by simp [push])
      have ignoredAfter : .startAnimation ∈ rest →
          (renderer.applyQuietly man).preloadPending = false :=
        fun member => (deferBoth_preloadPending renderer man).trans (ignored push member)
      rw [if_pos rfl, if_pos rfl, handleAll_setBargraphOn _ ignoredAfter, off,
        handleAll_quietly renderer alike]
  | false =>
      have on : ∀ renderer : Renderer,
          (renderer.applyQuietly man).setBargraphOn renderer.bargraphOn =
            renderer.applyQuietly man := by
        intro renderer
        rw [← deferBoth_bargraphOn man renderer]
        exact setBargraphOn_same (renderer.applyQuietly man)
      rw [if_neg (by simp), if_neg (by simp), on, on, handleAll_quietly renderer alike]

/-- A batch that fits leaves what its commands leave one at a time. -/
theorem drainAlone_eq {batch : List RendererCommand} {renderer : Renderer}
    (fits : batchFits batch renderer = true) :
    renderer.drainAlone (dropSuperseded batch) = renderer.drain batch := by
  rw [drain_eq]
  induction batch generalizing renderer with
  | nil => rfl
  | cons command rest ih =>
      rw [latest_cons, handleAll_cons]
      cases command with
      | maneuver man =>
          rw [batchFits] at fits
          rw [dropSuperseded]
          split_ifs at fits ⊢ with superseded
          · rw [ih fits]
            cases later : latest rest with
            | none => rw [latest_eq_none.mp later] at superseded; cases superseded
            | some last => rfl
          · have noLatest : latest rest = none := latest_eq_none.mpr (by simpa using superseded)
            rw [drainAlone_cons, drainAlone_handleAll noLatest, noLatest]
            exact drainAlone_maneuver fits
      | preload man =>
          simp only [batchFits, preloadFits, Bool.and_eq_true, Bool.not_eq_true',
            List.contains_eq_mem, decide_eq_false_iff_not] at fits
          rw [dropSuperseded_other (fun _ => by simp), drainAlone_cons]
          exact drainAlone_preload fits.1 fits.2 man renderer
      | startAnimation | hideDisplay | perspective | bargraph | shutdown | other =>
          rw [batchFits_other rfl] at fits
          rw [dropSuperseded_other (fun _ => by simp), drainAlone_cons, drain_single _ rfl, ih fits]
          cases latest rest with
          | none => rfl
          | some last => rfl

/-- A batch, and the ticks until the next one. -/
structure Turn where
  batch : List RendererCommand
  ticks : List Bool

def tickAll (ticks : List Bool) (renderer : Renderer) : Renderer :=
  ticks.foldl (fun renderer finished => renderer.engineTick finished) renderer

def runBatches (turns : List Turn) (renderer : Renderer) : Renderer :=
  turns.foldl (fun renderer turn => (renderer.drain turn.batch).tickAll turn.ticks) renderer

def runAlone (turns : List Turn) (renderer : Renderer) : Renderer :=
  turns.foldl
    (fun renderer turn =>
      (renderer.drainAlone (dropSuperseded turn.batch)).tickAll turn.ticks) renderer

/-- Every batch fits where it is drained. -/
def turnsFit : List Turn → Renderer → Bool
  | [], _ => true
  | turn :: turns, renderer =>
      batchFits turn.batch renderer &&
        turnsFit turns ((renderer.drain turn.batch).tickAll turn.ticks)

theorem runAlone_eq {turns : List Turn} {renderer : Renderer}
    (fit : turnsFit turns renderer = true) :
    runAlone turns renderer = runBatches turns renderer := by
  induction turns generalizing renderer with
  | nil => rfl
  | cons turn turns ih =>
      rw [turnsFit, Bool.and_eq_true] at fit
      have one : (renderer.drainAlone (dropSuperseded turn.batch)).tickAll turn.ticks =
          (renderer.drain turn.batch).tickAll turn.ticks := by
        rw [drainAlone_eq fit.1]
      calc runAlone (turn :: turns) renderer
          = runAlone turns ((renderer.drain turn.batch).tickAll turn.ticks) := by rw [← one]; rfl
        _ = runBatches (turn :: turns) renderer := ih fit.2

/-- The engine after its transitions. -/
def settle (renderer : Renderer) : Renderer :=
  renderer.tickAll [true, true, true]

theorem settle_idle (renderer : Renderer) : renderer.settle.engine.phase = .idle := by
  obtain ⟨engine⟩ := renderer
  obtain ⟨current, next, pending, hasCurrent, hasNext, hasPending, phase⟩ := engine
  cases phase with
  | idle => rfl
  | slidingIn =>
      cases hasPending with
      | true => simp [settle, tickAll, engineTick, promote, commitNext]
      | false => simp [settle, tickAll, engineTick]
  | pushing =>
      cases hasPending with
      | true =>
          cases hasNext with
          | true | false => simp [settle, tickAll, engineTick, promote, commitNext]
      | false =>
          cases hasNext with
          | true | false => simp [settle, tickAll, engineTick, commitNext]

theorem engineTick_idle {renderer : Renderer} (idle : renderer.engine.phase = .idle)
    (finished : Bool) : renderer.engineTick finished = renderer := by
  unfold engineTick
  rw [idle]
  exact ite_self renderer

theorem tickAll_idle {renderer : Renderer} (idle : renderer.engine.phase = .idle)
    (ticks : List Bool) : renderer.tickAll ticks = renderer := by
  induction ticks with
  | nil => rfl
  | cons finished ticks ih =>
      change (renderer.engineTick finished).tickAll ticks = renderer
      rw [engineTick_idle idle, ih]

theorem settle_tick (finished : Bool) (renderer : Renderer) :
    (renderer.engineTick finished).settle = renderer.settle := by
  cases finished with
  | false => rfl
  | true => exact engineTick_idle (settle_idle renderer) true

/-- However many ticks it takes, the engine settles in one way. -/
theorem tickAll_eq_settle {renderer : Renderer} {ticks : List Bool}
    (settled : (renderer.tickAll ticks).engine.phase = .idle) :
    renderer.tickAll ticks = renderer.settle := by
  induction ticks generalizing renderer with
  | nil => exact (tickAll_idle settled _).symm
  | cons finished ticks ih => exact (ih settled).trans (settle_tick finished renderer)

/-- What is shown once the engine has settled, unless it has been shut down. -/
structure SettledView where
  current : Option ManeuverState
  bargraphLevel : Nat
  bargraphOn : Nat
  perspective : Bool
  displayActive : Bool
  deriving DecidableEq

def view (renderer : Renderer) : Option SettledView :=
  if renderer.running then
    some
      { current := if renderer.engine.hasCurrent then some renderer.engine.current else none
        bargraphLevel := renderer.bargraphLevel
        bargraphOn := renderer.bargraphOn
        perspective := renderer.perspective
        displayActive := renderer.displayActive }
  else none

/-- Where every batch fits, nothing shows afterwards how the commands have been
batched. -/
theorem batching_invisible (turns : List Turn) (fit : turnsFit turns initial = true)
    (ticks ticksAlone : List Bool)
    (settled : ((runBatches turns initial).tickAll ticks).engine.phase = .idle)
    (settledAlone : ((runAlone turns initial).tickAll ticksAlone).engine.phase = .idle) :
    ((runBatches turns initial).tickAll ticks).view =
      ((runAlone turns initial).tickAll ticksAlone).view := by
  rw [tickAll_eq_settle settled, tickAll_eq_settle settledAlone, runAlone_eq fit]

/-- A first maneuver, then a second one with two commands behind it, and at last a
start that finds no preload. -/
def fittingTurns : List Turn :=
  [⟨[.maneuver (payloadOf 1), .hideDisplay], [false, true]⟩,
    ⟨[.maneuver (payloadOf 2), .perspective 0, .bargraph 3 0], [false]⟩,
    ⟨[.maneuver (payloadOf 3), .maneuver (payloadOf 4), .startAnimation], []⟩]

theorem fittingTurns_invisible :
    turnsFit fittingTurns initial = true ∧
      ((runBatches fittingTurns initial).tickAll [true, true, true]).view =
        ((runAlone fittingTurns initial).tickAll [true, false, true, true]).view :=
  ⟨by decide, batching_invisible fittingTurns (by decide) _ _ (by decide) (by decide)⟩

/-- A maneuver turns off the bargraph that the command behind it has turned on. -/
def bargraphTurns : List Turn :=
  [⟨[.maneuver (payloadOf 1)], [true]⟩, ⟨[.maneuver (payloadOf 2), .bargraph 8 1], []⟩]

theorem bargraph_turned_off :
    ¬ ∀ (turns : List Turn) (ticks ticksAlone : List Bool),
      ((runBatches turns initial).tickAll ticks).engine.phase = .idle →
      ((runAlone turns initial).tickAll ticksAlone).engine.phase = .idle →
      ((runBatches turns initial).tickAll ticks).view =
        ((runAlone turns initial).tickAll ticksAlone).view := by
  intro invisible
  have same := invisible bargraphTurns [true, true] [true, true] (by decide) (by decide)
  exact absurd same (by decide)

end Renderer

end CarplayRgi
