import Mathlib.Algebra.BigOperators.Group.List.Basic
import Mathlib.Algebra.Order.Group.Int
import Mathlib.Algebra.Ring.Int.Defs
import Mathlib.Data.List.Induction
import CarplayRgi.JavaText

/-!
# The touchpad controller

One finger on the touchpad turns into presses of a direction pad.  The first
sample of a gesture is its anchor; each further one adds its movement to an
accumulator for each axis.  Once the gesture has left the dead zone, every
threshold's worth of movement becomes a tick, and the threshold depends on the
speed of the sample.  No movement is lost or counted twice: on each axis the
ticks and the accumulator make up the displacement since the anchor.
-/

namespace CarplayRgi

inductive DpadKey where
  | left | right | up | down
  deriving DecidableEq

/-- A touch sample with the time of its arrival. -/
structure TouchSample where
  tpX : Int
  tpY : Int
  now : Int

/-- The touchpad reports roughly 0..1023 and 0..767; nothing overflows as long
as the coordinates stay below 2^30. -/
structure TouchSample.OnPad (sample : TouchSample) : Prop where
  nonnegX : 0 ≤ sample.tpX
  nonnegY : 0 ≤ sample.tpY
  boundX : sample.tpX < 2 ^ 30
  boundY : sample.tpY < 2 ^ 30

/-- The state of the controller; the sink, when there is one, with the keys
that it was given. -/
structure CursorController where
  sink : Option (List DpadKey) := none
  warnedDpad : Bool := false
  lastTpX : Int := 0
  lastTpY : Int := 0
  prevCount : Int := 0
  accumDx : Int := 0
  accumDy : Int := 0
  dpadArmed : Bool := false
  lastSampleMs : Int := 0

namespace CursorController

def dpadThresholdFast : Int := 150
def dpadThresholdSlow : Int := 200
def speedFast : Int := 300
def speedSlow : Int := 100
def dpadDeadZone : Int := 30

/-- A threshold between that of a fast swipe and that of a slow drag. -/
structure Threshold where
  value : Int
  fast_le : dpadThresholdFast ≤ value
  le_slow : value ≤ dpadThresholdSlow

/-- The absolute value as the source computes it. -/
def magnitude (value : Int) : Int := if value < 0 then wrapInt (-value) else value

/-- Touchpad units for 100 ms. -/
def sampleSpeed (dx dy elapsed : Int) : Int :=
  let dtMs := wrapInt elapsed
  let dtMs := if dtMs ≤ 0 then 1 else dtMs
  let dtMs := if 200 < dtMs then 200 else dtMs
  let stepDist := wrapInt (magnitude dx + magnitude dy)
  (wrapInt (stepDist * 100)).tdiv dtMs

/-- What a speed between the two bounds adds to the fast threshold. -/
def thresholdBonus (speed : Int) : Int :=
  let range := speedFast - speedSlow
  let pos := speed - speedSlow
  ((range - pos) * (dpadThresholdSlow - dpadThresholdFast)).tdiv range

theorem thresholdBonus_bounds {speed : Int} (notFast : ¬ speedFast ≤ speed)
    (notSlow : ¬ speed ≤ speedSlow) :
    0 ≤ thresholdBonus speed ∧ thresholdBonus speed ≤ dpadThresholdSlow - dpadThresholdFast := by
  simp only [speedFast, speedSlow] at notFast notSlow
  simp only [thresholdBonus, speedFast, speedSlow, dpadThresholdSlow, dpadThresholdFast]
  rw [Int.tdiv_eq_ediv_of_nonneg (by omega)]
  omega

def adaptiveThreshold (speed : Int) : Threshold :=
  if notFast : speedFast ≤ speed then ⟨dpadThresholdFast, le_rfl, by decide⟩
  else if notSlow : speed ≤ speedSlow then ⟨dpadThresholdSlow, by decide, le_rfl⟩
  else
    ⟨dpadThresholdFast + thresholdBonus speed,
      Int.le_add_of_nonneg_right (thresholdBonus_bounds notFast notSlow).1,
      Int.add_le_of_le_sub_left (thresholdBonus_bounds notFast notSlow).2⟩

/-- A key with the threshold in force when it was emitted. -/
structure Tick where
  key : DpadKey
  threshold : Threshold

/-- The signed movement to the right that a tick stands for. -/
def Tick.alongX (tick : Tick) : Int :=
  match tick.key with
  | .left => -tick.threshold.value
  | .right => tick.threshold.value
  | .up | .down => 0

/-- The signed movement downwards that a tick stands for. -/
def Tick.alongY (tick : Tick) : Int :=
  match tick.key with
  | .up => -tick.threshold.value
  | .down => tick.threshold.value
  | .left | .right => 0

def emitDpad (controller : CursorController) (tick : Tick) : CursorController :=
  match controller.sink with
  | some posted => { controller with sink := some (posted ++ [tick.key]) }
  | none => { controller with warnedDpad := true }

/-- One axis of one round of the tick loop. -/
def axisTick (threshold : Threshold) (backward forward : DpadKey) (accum : Int) :
    Int × List Tick :=
  if threshold.value ≤ magnitude accum then
    if accum < 0 then (accum + threshold.value, [⟨backward, threshold⟩])
    else (accum - threshold.value, [⟨forward, threshold⟩])
  else (accum, [])

def tickX (threshold : Threshold) (controller : CursorController) :
    CursorController × List Tick :=
  let (accum, ticks) := axisTick threshold .left .right controller.accumDx
  ({ ticks.foldl emitDpad controller with accumDx := accum }, ticks)

def tickY (threshold : Threshold) (controller : CursorController) :
    CursorController × List Tick :=
  let (accum, ticks) := axisTick threshold .up .down controller.accumDy
  ({ ticks.foldl emitDpad controller with accumDy := accum }, ticks)

theorem wrapInt_le {value : Int} (nonnegative : 0 ≤ value) : wrapInt value ≤ value := by
  have remainder : value % ((2 ^ 32 : Nat) : Int) ≤ value := by omega
  rw [wrapInt, Int.bmod_def]
  split_ifs <;> omega

theorem magnitude_le (value : Int) : magnitude value ≤ value.natAbs := by
  unfold magnitude
  split_ifs with negative
  · have wrapped := wrapInt_le (show 0 ≤ -value by omega)
    omega
  · omega

/-- An axis that ticks comes closer to zero. -/
theorem axisTick_closer {threshold : Threshold} (backward forward : DpadKey) {accum : Int}
    (large : threshold.value ≤ magnitude accum) :
    (axisTick threshold backward forward accum).1.natAbs < accum.natAbs := by
  have positive : 150 ≤ threshold.value := threshold.fast_le
  have bound := magnitude_le accum
  rw [axisTick, if_pos large]
  split_ifs with negative
  · show (accum + threshold.value).natAbs < accum.natAbs
    omega
  · show (accum - threshold.value).natAbs < accum.natAbs
    omega

theorem axisTick_small {threshold : Threshold} (backward forward : DpadKey) {accum : Int}
    (small : magnitude accum < threshold.value) :
    axisTick threshold backward forward accum = (accum, []) :=
  if_neg (not_le.mpr small)

theorem axisTick_le (threshold : Threshold) (backward forward : DpadKey) (accum : Int) :
    (axisTick threshold backward forward accum).1.natAbs ≤ accum.natAbs := by
  by_cases large : threshold.value ≤ magnitude accum
  · exact (axisTick_closer backward forward large).le
  · rw [axisTick_small backward forward (not_le.mp large)]

/-- A sink is given the keys; nothing but the sink and its warning changes. -/
theorem foldl_emitDpad_eq (ticks : List Tick) (controller : CursorController) :
    ∃ warned, ticks.foldl emitDpad controller =
      { controller with
        sink := controller.sink.map (· ++ ticks.map Tick.key)
        warnedDpad := warned } := by
  induction ticks generalizing controller with
  | nil => exact ⟨controller.warnedDpad, by simp⟩
  | cons tick ticks ih =>
      obtain ⟨warned, rest⟩ := ih (controller.emitDpad tick)
      refine ⟨warned, ?_⟩
      rw [List.foldl_cons, rest, emitDpad]
      cases controller.sink with
      | none => rfl
      | some posted => simp

theorem tickX_accums (threshold : Threshold) (controller : CursorController) :
    (tickX threshold controller).1.accumDx =
        (axisTick threshold .left .right controller.accumDx).1 ∧
      (tickX threshold controller).1.accumDy = controller.accumDy := by
  obtain ⟨warned, emitted⟩ := foldl_emitDpad_eq
    (axisTick threshold .left .right controller.accumDx).2 controller
  simp only [tickX, emitted, and_self]

theorem tickY_accums (threshold : Threshold) (controller : CursorController) :
    (tickY threshold controller).1.accumDx = controller.accumDx ∧
      (tickY threshold controller).1.accumDy =
        (axisTick threshold .up .down controller.accumDy).1 := by
  obtain ⟨warned, emitted⟩ := foldl_emitDpad_eq
    (axisTick threshold .up .down controller.accumDy).2 controller
  simp only [tickY, emitted, and_self]

/-- A round of the loop ticks each axis on its own. -/
theorem round_accums (threshold : Threshold) (controller : CursorController) :
    (tickY threshold (tickX threshold controller).1).1.accumDx =
        (axisTick threshold .left .right controller.accumDx).1 ∧
      (tickY threshold (tickX threshold controller).1).1.accumDy =
        (axisTick threshold .up .down controller.accumDy).1 := by
  obtain ⟨movedX, keptY⟩ := tickX_accums threshold controller
  obtain ⟨keptX, movedY⟩ := tickY_accums threshold (tickX threshold controller).1
  exact ⟨keptX.trans movedX, by rw [movedY, keptY]⟩

/-- A round with a whole threshold on one of the axes brings the two closer to zero. -/
theorem round_closer {threshold : Threshold} {controller : CursorController}
    (running : ¬ (magnitude controller.accumDx < threshold.value ∧
      magnitude controller.accumDy < threshold.value)) :
    (tickY threshold (tickX threshold controller).1).1.accumDx.natAbs +
        (tickY threshold (tickX threshold controller).1).1.accumDy.natAbs <
      controller.accumDx.natAbs + controller.accumDy.natAbs := by
  have leX := axisTick_le threshold .left .right controller.accumDx
  have leY := axisTick_le threshold .up .down controller.accumDy
  rw [(round_accums threshold controller).1, (round_accums threshold controller).2]
  rw [not_and_or, not_lt, not_lt] at running
  cases running with
  | inl largeX => exact Nat.add_lt_add_of_lt_of_le (axisTick_closer _ _ largeX) leY
  | inr largeY => exact Nat.add_lt_add_of_le_of_lt leX (axisTick_closer _ _ largeY)

/-- The loop runs while an accumulator holds a whole threshold. -/
def tickLoop (threshold : Threshold) (controller : CursorController) :
    CursorController × List Tick :=
  if magnitude controller.accumDx < threshold.value ∧
      magnitude controller.accumDy < threshold.value then
    (controller, [])
  else
    let onX := tickX threshold controller
    let onY := tickY threshold onX.1
    let rest := tickLoop threshold onY.1
    (rest.1, onX.2 ++ onY.2 ++ rest.2)
termination_by controller.accumDx.natAbs + controller.accumDy.natAbs
decreasing_by
  rename_i running
  exact round_closer running

/-- The movement of a sample, added to the accumulators. -/
def moveTo (controller : CursorController) (sample : TouchSample) : CursorController :=
  let dx := wrapInt (sample.tpX - controller.lastTpX)
  let dy := wrapInt (sample.tpY - controller.lastTpY)
  { controller with
    lastTpX := sample.tpX
    lastTpY := sample.tpY
    accumDx := wrapInt (controller.accumDx + dx)
    accumDy := wrapInt (controller.accumDy + dy) }

/-- The threshold of a sample, from its own movement and time. -/
def sampleThreshold (controller : CursorController) (sample : TouchSample) : Threshold :=
  adaptiveThreshold (sampleSpeed (wrapInt (sample.tpX - controller.lastTpX))
    (wrapInt (sample.tpY - controller.lastTpY))
    (wrapLong (sample.now - controller.lastSampleMs)))

/-- The drift since the anchor has not left the dead zone. -/
def inDeadZone (controller : CursorController) : Bool :=
  decide (magnitude controller.accumDx < dpadDeadZone) &&
    decide (magnitude controller.accumDy < dpadDeadZone)

def stamp (controller : CursorController) (now : Int) : CursorController :=
  { controller with lastSampleMs := now }

def arm (controller : CursorController) : CursorController := { controller with dpadArmed := true }

/-- The new state and the ticks that the sample emits. -/
def onOneFinger (controller : CursorController) (sample : TouchSample) :
    CursorController × List Tick :=
  if controller.prevCount ≠ 1 then
    ({ controller with
        lastTpX := sample.tpX
        lastTpY := sample.tpY
        prevCount := 1
        accumDx := 0
        accumDy := 0
        dpadArmed := false
        lastSampleMs := sample.now }, [])
  else
    let moved := controller.moveTo sample
    if !moved.dpadArmed && moved.inDeadZone then (moved.stamp sample.now, [])
    else tickLoop (controller.sampleThreshold sample) (moved.arm.stamp sample.now)

def resetTouchState (controller : CursorController) : CursorController :=
  { controller with
    lastTpX := 0
    lastTpY := 0
    prevCount := 0
    accumDx := 0
    accumDy := 0
    dpadArmed := false
    lastSampleMs := 0 }

/-- The state after a number of samples, and all the ticks that they emitted. -/
def onOneFingers (controller : CursorController) (samples : List TouchSample) :
    CursorController × List Tick :=
  samples.foldl (fun out sample =>
    let next := onOneFinger out.1 sample
    (next.1, out.2 ++ next.2)) (controller, [])

/-- Ticks of one threshold that make up what has left the accumulators, and
whose keys a sink was given. -/
structure Drains (threshold : Threshold) (before : CursorController)
    (out : CursorController × List Tick) : Prop where
  prevCount : out.1.prevCount = before.prevCount
  lastTpX : out.1.lastTpX = before.lastTpX
  lastTpY : out.1.lastTpY = before.lastTpY
  dpadArmed : out.1.dpadArmed = before.dpadArmed
  alongX : before.accumDx = out.1.accumDx + (out.2.map Tick.alongX).sum
  alongY : before.accumDy = out.1.accumDy + (out.2.map Tick.alongY).sum
  inForce : ∀ tick ∈ out.2, tick.threshold = threshold
  sink : out.1.sink = before.sink.map (· ++ out.2.map Tick.key)

theorem Drains.refl (threshold : Threshold) (controller : CursorController) :
    Drains threshold controller (controller, []) :=
  ⟨rfl, rfl, rfl, rfl, by simp, by simp, by simp, by simp⟩

theorem Drains.trans {threshold : Threshold} {first second third : CursorController}
    {earlier later : List Tick} (one : Drains threshold first (second, earlier))
    (two : Drains threshold second (third, later)) :
    Drains threshold first (third, earlier ++ later) where
  prevCount := two.prevCount.trans one.prevCount
  lastTpX := two.lastTpX.trans one.lastTpX
  lastTpY := two.lastTpY.trans one.lastTpY
  dpadArmed := two.dpadArmed.trans one.dpadArmed
  alongX := by
    have drained := one.alongX
    have drainedFurther := two.alongX
    simp only [List.map_append, List.sum_append] at *
    omega
  alongY := by
    have drained := one.alongY
    have drainedFurther := two.alongY
    simp only [List.map_append, List.sum_append] at *
    omega
  inForce := by
    intro tick emitted
    cases List.mem_append.mp emitted with
    | inl inEarlier => exact one.inForce tick inEarlier
    | inr inLater => exact two.inForce tick inLater
  sink := by
    have given := one.sink
    have givenFurther := two.sink
    simp only at *
    rw [givenFurther, given, Option.map_map]
    congr 1
    funext posted
    simp

theorem drains_tickX (threshold : Threshold) (controller : CursorController) :
    Drains threshold controller (tickX threshold controller) := by
  obtain ⟨warned, emitted⟩ := foldl_emitDpad_eq
    (axisTick threshold .left .right controller.accumDx).2 controller
  have shape : tickX threshold controller =
      ({ controller with
          sink := controller.sink.map
            (· ++ (axisTick threshold .left .right controller.accumDx).2.map Tick.key)
          warnedDpad := warned
          accumDx := (axisTick threshold .left .right controller.accumDx).1 },
        (axisTick threshold .left .right controller.accumDx).2) := by
    simp only [tickX, emitted]
  rw [shape, axisTick]
  split_ifs <;> constructor <;> simp [Tick.alongX, Tick.alongY]

theorem drains_tickY (threshold : Threshold) (controller : CursorController) :
    Drains threshold controller (tickY threshold controller) := by
  obtain ⟨warned, emitted⟩ := foldl_emitDpad_eq
    (axisTick threshold .up .down controller.accumDy).2 controller
  have shape : tickY threshold controller =
      ({ controller with
          sink := controller.sink.map
            (· ++ (axisTick threshold .up .down controller.accumDy).2.map Tick.key)
          warnedDpad := warned
          accumDy := (axisTick threshold .up .down controller.accumDy).1 },
        (axisTick threshold .up .down controller.accumDy).2) := by
    simp only [tickY, emitted]
  rw [shape, axisTick]
  split_ifs <;> constructor <;> simp [Tick.alongX, Tick.alongY]

theorem drains_tickLoop (threshold : Threshold) (controller : CursorController) :
    Drains threshold controller (tickLoop threshold controller) := by
  induction controller using tickLoop.induct threshold with
  | case1 controller small =>
      rw [tickLoop, if_pos small]
      exact Drains.refl threshold controller
  | case2 controller running onX onY ih =>
      rw [tickLoop, if_neg running]
      exact ((drains_tickX threshold controller).trans (drains_tickY threshold onX.1)).trans ih

/-- The loop ends with both accumulators below the threshold. -/
theorem tickLoop_small (threshold : Threshold) (controller : CursorController) :
    magnitude (tickLoop threshold controller).1.accumDx < threshold.value ∧
      magnitude (tickLoop threshold controller).1.accumDy < threshold.value := by
  induction controller using tickLoop.induct threshold with
  | case1 controller small =>
      rw [tickLoop, if_pos small]
      exact small
  | case2 controller running onX onY ih =>
      rw [tickLoop, if_neg running]
      exact ih

/-- The loop never moves an accumulator away from zero. -/
theorem tickLoop_nearer (threshold : Threshold) (controller : CursorController) :
    (tickLoop threshold controller).1.accumDx.natAbs ≤ controller.accumDx.natAbs ∧
      (tickLoop threshold controller).1.accumDy.natAbs ≤ controller.accumDy.natAbs := by
  induction controller using tickLoop.induct threshold with
  | case1 controller small =>
      rw [tickLoop, if_pos small]
      exact ⟨le_rfl, le_rfl⟩
  | case2 controller running onX onY ih =>
      obtain ⟨roundX, roundY⟩ := round_accums threshold controller
      have nearerX := axisTick_le threshold .left .right controller.accumDx
      have nearerY := axisTick_le threshold .up .down controller.accumDy
      rw [tickLoop, if_neg running]
      exact ⟨ih.1.trans (roundX ▸ nearerX), ih.2.trans (roundY ▸ nearerY)⟩

theorem magnitude_eq {value : Int} (bound : value.natAbs < 2 ^ 31) :
    magnitude value = value.natAbs := by
  unfold magnitude
  split_ifs with negative
  · rw [wrapInt_eq (by omega) (by omega)]
    omega
  · omega

/-- Where a gesture stands: the ticks and the accumulators make up the
displacement of the last sample, and before the gesture is armed nothing was
emitted. -/
structure Conserves (anchor last : TouchSample) (out : CursorController × List Tick) : Prop where
  following : out.1.prevCount = 1
  lastTpX : out.1.lastTpX = last.tpX
  lastTpY : out.1.lastTpY = last.tpY
  alongX : last.tpX - anchor.tpX = out.1.accumDx + (out.2.map Tick.alongX).sum
  alongY : last.tpY - anchor.tpY = out.1.accumDy + (out.2.map Tick.alongY).sum
  smallX : out.1.accumDx.natAbs < 200
  smallY : out.1.accumDy.natAbs < 200
  unarmed : out.1.dpadArmed = false → out.2 = []

/-- The accumulators after the movement of a sample, which stays an `int`. -/
theorem Conserves.moveTo {anchor last sample : TouchSample} {controller : CursorController}
    {ticks : List Tick} (conserves : Conserves anchor last (controller, ticks))
    (lastOn : last.OnPad) (sampleOn : sample.OnPad) :
    (controller.moveTo sample).accumDx = controller.accumDx + (sample.tpX - last.tpX) ∧
      (controller.moveTo sample).accumDy = controller.accumDy + (sample.tpY - last.tpY) ∧
      (controller.moveTo sample).accumDx.natAbs < 2 ^ 31 ∧
      (controller.moveTo sample).accumDy.natAbs < 2 ^ 31 := by
  obtain ⟨lastX, lastY, lastBoundX, lastBoundY⟩ := lastOn
  obtain ⟨sampleX, sampleY, sampleBoundX, sampleBoundY⟩ := sampleOn
  have smallX : controller.accumDx.natAbs < 200 := conserves.smallX
  have smallY : controller.accumDy.natAbs < 200 := conserves.smallY
  have movedX : (controller.moveTo sample).accumDx =
      controller.accumDx + (sample.tpX - last.tpX) := by
    have held : controller.lastTpX = last.tpX := conserves.lastTpX
    simp only [CursorController.moveTo, held]
    rw [wrapInt_eq (show -2 ^ 31 ≤ sample.tpX - last.tpX by omega) (by omega),
      wrapInt_eq (by omega) (by omega)]
  have movedY : (controller.moveTo sample).accumDy =
      controller.accumDy + (sample.tpY - last.tpY) := by
    have held : controller.lastTpY = last.tpY := conserves.lastTpY
    simp only [CursorController.moveTo, held]
    rw [wrapInt_eq (show -2 ^ 31 ≤ sample.tpY - last.tpY by omega) (by omega),
      wrapInt_eq (by omega) (by omega)]
  exact ⟨movedX, movedY, by omega, by omega⟩

/-- The two ways a sample of a running gesture ends: in the dead zone, or in
the tick loop. -/
theorem onOneFinger_cases {controller : CursorController} (following : controller.prevCount = 1)
    (sample : TouchSample) :
    (controller.dpadArmed = false ∧ (controller.moveTo sample).inDeadZone = true ∧
        onOneFinger controller sample = ((controller.moveTo sample).stamp sample.now, [])) ∨
      ((controller.dpadArmed = false → (controller.moveTo sample).inDeadZone = false) ∧
        onOneFinger controller sample =
          tickLoop (controller.sampleThreshold sample)
            ((controller.moveTo sample).arm.stamp sample.now)) := by
  rw [onOneFinger, if_neg (not_not.mpr following)]
  have sameArmed : (controller.moveTo sample).dpadArmed = controller.dpadArmed := rfl
  simp only [sameArmed]
  cases armed : controller.dpadArmed with
  | true => exact Or.inr ⟨by simp, rfl⟩
  | false =>
      cases zone : (controller.moveTo sample).inDeadZone with
      | true => exact Or.inl ⟨rfl, rfl, rfl⟩
      | false => exact Or.inr ⟨fun _ => rfl, rfl⟩

theorem inDeadZone_iff {controller : CursorController}
    (boundX : controller.accumDx.natAbs < 2 ^ 31) (boundY : controller.accumDy.natAbs < 2 ^ 31) :
    controller.inDeadZone = true ↔
      controller.accumDx.natAbs < 30 ∧ controller.accumDy.natAbs < 30 := by
  rw [inDeadZone, magnitude_eq boundX, magnitude_eq boundY, Bool.and_eq_true, decide_eq_true_eq,
    decide_eq_true_eq, dpadDeadZone]
  omega

/-- Below the threshold after the loop, as absolute values. -/
theorem tickLoop_lt (threshold : Threshold) {controller : CursorController}
    (boundX : controller.accumDx.natAbs < 2 ^ 31) (boundY : controller.accumDy.natAbs < 2 ^ 31) :
    (tickLoop threshold controller).1.accumDx.natAbs < threshold.value ∧
      (tickLoop threshold controller).1.accumDy.natAbs < threshold.value := by
  obtain ⟨nearerX, nearerY⟩ := tickLoop_nearer threshold controller
  obtain ⟨smallX, smallY⟩ := tickLoop_small threshold controller
  rw [magnitude_eq (by omega)] at smallX smallY
  exact ⟨smallX, smallY⟩

theorem Conserves.sample {anchor last sample : TouchSample} {controller : CursorController}
    {ticks : List Tick} (conserves : Conserves anchor last (controller, ticks))
    (lastOn : last.OnPad) (sampleOn : sample.OnPad) :
    Conserves anchor sample
      ((onOneFinger controller sample).1, ticks ++ (onOneFinger controller sample).2) := by
  obtain ⟨movedX, movedY, boundX, boundY⟩ := conserves.moveTo lastOn sampleOn
  have alongX : last.tpX - anchor.tpX =
      controller.accumDx + (ticks.map Tick.alongX).sum := conserves.alongX
  have alongY : last.tpY - anchor.tpY =
      controller.accumDy + (ticks.map Tick.alongY).sum := conserves.alongY
  cases onOneFinger_cases conserves.following sample with
  | inl gated =>
      obtain ⟨unarmed, zone, out⟩ := gated
      obtain ⟨zoneX, zoneY⟩ := (inDeadZone_iff boundX boundY).mp zone
      rw [out, List.append_nil]
      have sumX : sample.tpX - anchor.tpX =
          (controller.moveTo sample).accumDx + (ticks.map Tick.alongX).sum := by
        omega
      have sumY : sample.tpY - anchor.tpY =
          (controller.moveTo sample).accumDy + (ticks.map Tick.alongY).sum := by
        omega
      exact {
        following := conserves.following
        lastTpX := rfl
        lastTpY := rfl
        alongX := sumX
        alongY := sumY
        smallX := zoneX.trans (by decide)
        smallY := zoneY.trans (by decide)
        unarmed := fun _ => conserves.unarmed unarmed }
  | inr looped =>
      have drains := drains_tickLoop (controller.sampleThreshold sample)
        ((controller.moveTo sample).arm.stamp sample.now)
      obtain ⟨ltX, ltY⟩ := tickLoop_lt (controller.sampleThreshold sample)
        (show ((controller.moveTo sample).arm.stamp sample.now).accumDx.natAbs < 2 ^ 31 from
          boundX) boundY
      have slow : (controller.sampleThreshold sample).value ≤ 200 :=
        (controller.sampleThreshold sample).le_slow
      rw [← looped.2] at drains ltX ltY
      generalize onOneFinger controller sample = out at drains ltX ltY
      have drainedX : (controller.moveTo sample).accumDx =
          out.1.accumDx + (out.2.map Tick.alongX).sum := drains.alongX
      have drainedY : (controller.moveTo sample).accumDy =
          out.1.accumDy + (out.2.map Tick.alongY).sum := drains.alongY
      have sumX : sample.tpX - anchor.tpX =
          out.1.accumDx + ((ticks ++ out.2).map Tick.alongX).sum := by
        rw [List.map_append, List.sum_append]
        omega
      have sumY : sample.tpY - anchor.tpY =
          out.1.accumDy + ((ticks ++ out.2).map Tick.alongY).sum := by
        rw [List.map_append, List.sum_append]
        omega
      exact {
        following := drains.prevCount.trans conserves.following
        lastTpX := drains.lastTpX
        lastTpY := drains.lastTpY
        alongX := sumX
        alongY := sumY
        smallX := show out.1.accumDx.natAbs < 200 by omega
        smallY := show out.1.accumDy.natAbs < 200 by omega
        unarmed := fun unarmed =>
          Bool.noConfusion ((drains.dpadArmed : out.1.dpadArmed = true).symm.trans unarmed) }

theorem onOneFingers_append (controller : CursorController) (earlier : List TouchSample)
    (sample : TouchSample) :
    controller.onOneFingers (earlier ++ [sample]) =
      ((onOneFinger (controller.onOneFingers earlier).1 sample).1,
        (controller.onOneFingers earlier).2 ++
          (onOneFinger (controller.onOneFingers earlier).1 sample).2) := by
  rw [onOneFingers, List.foldl_append]
  rfl

theorem conserves_anchor {controller : CursorController} (ended : controller.prevCount ≠ 1)
    (anchor : TouchSample) : Conserves anchor anchor (controller.onOneFingers [anchor]) := by
  have anchored : controller.onOneFingers [anchor] =
      ({ controller with
          lastTpX := anchor.tpX
          lastTpY := anchor.tpY
          prevCount := 1
          accumDx := 0
          accumDy := 0
          dpadArmed := false
          lastSampleMs := anchor.now }, []) := by
    simp [onOneFingers, onOneFinger, ended]
  rw [anchored]
  constructor <;> simp

/-- The ticks and the accumulators make up the displacement after any number of
samples. -/
theorem conserves_onOneFingers {controller : CursorController} (ended : controller.prevCount ≠ 1)
    {anchor : TouchSample} (anchorOn : anchor.OnPad) {samples : List TouchSample}
    (onPad : ∀ sample ∈ samples, sample.OnPad) :
    Conserves anchor (samples.getLastD anchor) (controller.onOneFingers (anchor :: samples)) ∧
      (samples.getLastD anchor).OnPad := by
  induction samples using List.reverseRecOn with
  | nil => exact ⟨conserves_anchor ended anchor, anchorOn⟩
  | append_singleton earlier sample ih =>
      obtain ⟨conserves, lastOn⟩ := ih fun other inEarlier =>
        onPad other (List.mem_append_left [sample] inEarlier)
      have sampleOn : sample.OnPad := onPad sample (by simp)
      rw [← List.cons_append, onOneFingers_append, List.getLastD_concat]
      exact ⟨conserves.sample lastOn sampleOn, sampleOn⟩

/-- A touch that ends, however far it came, leaves the next gesture to be conserved. -/
theorem conserves_resetTouchState (controller : CursorController) {anchor : TouchSample}
    (anchorOn : anchor.OnPad) {samples : List TouchSample}
    (onPad : ∀ sample ∈ samples, sample.OnPad) :
    Conserves anchor (samples.getLastD anchor)
      (controller.resetTouchState.onOneFingers (anchor :: samples)) := by
  have ended : controller.resetTouchState.prevCount ≠ 1 := by
    simp [resetTouchState]
  exact (conserves_onOneFingers ended anchorOn onPad).1

/-- A sample that drifted less than the dead zone from the anchor. -/
def Lingers (anchor sample : TouchSample) : Prop :=
  (sample.tpX - anchor.tpX).natAbs < 30 ∧ (sample.tpY - anchor.tpY).natAbs < 30

/-- A gesture that never left the dead zone is not armed and has emitted nothing. -/
theorem silent_of_lingers {controller : CursorController} (ended : controller.prevCount ≠ 1)
    {anchor : TouchSample} (anchorOn : anchor.OnPad) {samples : List TouchSample}
    (onPad : ∀ sample ∈ samples, sample.OnPad)
    (lingers : ∀ sample ∈ samples, Lingers anchor sample) :
    (controller.onOneFingers (anchor :: samples)).1.dpadArmed = false ∧
      (controller.onOneFingers (anchor :: samples)).2 = [] := by
  induction samples using List.reverseRecOn with
  | nil => simp [onOneFingers, onOneFinger, ended]
  | append_singleton earlier sample ih =>
      have earlierOn : ∀ other ∈ earlier, other.OnPad := fun other inEarlier =>
        onPad other (List.mem_append_left [sample] inEarlier)
      obtain ⟨unarmed, silent⟩ := ih earlierOn fun other inEarlier =>
        lingers other (List.mem_append_left [sample] inEarlier)
      obtain ⟨conserves, lastOn⟩ := conserves_onOneFingers ended anchorOn earlierOn
      rw [← List.cons_append, onOneFingers_append]
      generalize controller.onOneFingers (anchor :: earlier) = before at *
      obtain ⟨held, ticks⟩ := before
      obtain ⟨movedX, movedY, boundX, boundY⟩ := conserves.moveTo lastOn (onPad sample (by simp))
      obtain ⟨lingersX, lingersY⟩ := lingers sample (by simp)
      -- Nothing was emitted so far, so the accumulators hold the whole drift.
      obtain rfl : ticks = [] := silent
      have driftX := conserves.alongX
      have driftY := conserves.alongY
      simp only [List.map_nil, List.sum_nil] at driftX driftY
      have zone : (held.moveTo sample).inDeadZone = true :=
        (inDeadZone_iff boundX boundY).mpr ⟨by omega, by omega⟩
      cases onOneFinger_cases conserves.following sample with
      | inl gated =>
          rw [gated.2.2]
          exact ⟨unarmed, by simp⟩
      | inr looped =>
          rw [looped.1 unarmed] at zone
          exact Bool.noConfusion zone

/-- A gesture is armed by the first sample that leaves the dead zone, and stays so. -/
theorem armed_of_leaves {controller : CursorController} (ended : controller.prevCount ≠ 1)
    {anchor : TouchSample} (anchorOn : anchor.OnPad) {samples : List TouchSample}
    (onPad : ∀ sample ∈ samples, sample.OnPad)
    (leaves : ∃ sample ∈ samples, ¬ Lingers anchor sample) :
    (controller.onOneFingers (anchor :: samples)).1.dpadArmed = true := by
  induction samples using List.reverseRecOn with
  | nil =>
      obtain ⟨_, none, -⟩ := leaves
      exact absurd none List.not_mem_nil
  | append_singleton earlier sample ih =>
      have earlierOn : ∀ other ∈ earlier, other.OnPad := fun other inEarlier =>
        onPad other (List.mem_append_left [sample] inEarlier)
      have armedBefore := ih earlierOn
      obtain ⟨conserves, lastOn⟩ := conserves_onOneFingers ended anchorOn earlierOn
      have silentBefore := silent_of_lingers ended anchorOn earlierOn
      rw [← List.cons_append, onOneFingers_append]
      generalize controller.onOneFingers (anchor :: earlier) = before at *
      obtain ⟨held, ticks⟩ := before
      obtain ⟨movedX, movedY, boundX, boundY⟩ := conserves.moveTo lastOn (onPad sample (by simp))
      cases onOneFinger_cases conserves.following sample with
      | inl gated =>
          obtain ⟨unarmed, zone, -⟩ := gated
          have lingered : ∀ other ∈ earlier, Lingers anchor other := by
            intro other inEarlier
            by_contra left
            exact Bool.noConfusion (unarmed.symm.trans (armedBefore ⟨other, inEarlier, left⟩))
          -- Nothing was emitted so far, so this sample is still in the dead zone as well.
          obtain rfl : ticks = [] := (silentBefore lingered).2
          have driftX := conserves.alongX
          have driftY := conserves.alongY
          simp only [List.map_nil, List.sum_nil] at driftX driftY
          obtain ⟨zoneX, zoneY⟩ := (inDeadZone_iff boundX boundY).mp zone
          obtain ⟨leaver, among, left⟩ := leaves
          cases List.mem_append.mp among with
          | inl inEarlier => exact absurd (lingered leaver inEarlier) left
          | inr newest =>
              obtain rfl := List.mem_singleton.mp newest
              exact absurd ⟨by omega, by omega⟩ left
      | inr looped =>
          rw [looped.2]
          exact (drains_tickLoop (held.sampleThreshold sample)
            ((held.moveTo sample).arm.stamp sample.now)).dpadArmed

/-- What a further sample of a gesture does: its ticks are all of its own
threshold and their keys go to the sink, and when it is processed while armed it
leaves less than that threshold on each axis. -/
structure SampleTicks (before after : CursorController × List Tick) (sample : TouchSample) :
    Prop where
  emits : ∃ emitted, after.2 = before.2 ++ emitted ∧
    after.1.sink = before.1.sink.map (· ++ emitted.map Tick.key) ∧
    ∀ tick ∈ emitted, tick.threshold = before.1.sampleThreshold sample
  fast_le : 150 ≤ (before.1.sampleThreshold sample).value
  le_slow : (before.1.sampleThreshold sample).value ≤ 200
  residual : after.1.dpadArmed = true →
    after.1.accumDx.natAbs < (before.1.sampleThreshold sample).value ∧
      after.1.accumDy.natAbs < (before.1.sampleThreshold sample).value

theorem Conserves.sampleTicks {anchor last sample : TouchSample} {controller : CursorController}
    {ticks : List Tick} (conserves : Conserves anchor last (controller, ticks))
    (lastOn : last.OnPad) (sampleOn : sample.OnPad) :
    SampleTicks (controller, ticks)
      ((onOneFinger controller sample).1, ticks ++ (onOneFinger controller sample).2) sample := by
  obtain ⟨-, -, boundX, boundY⟩ := conserves.moveTo lastOn sampleOn
  refine ⟨⟨_, rfl, ?_⟩, (controller.sampleThreshold sample).fast_le,
    (controller.sampleThreshold sample).le_slow, ?_⟩
  · cases onOneFinger_cases conserves.following sample with
    | inl gated =>
        rw [gated.2.2]
        exact ⟨by simp [stamp, CursorController.moveTo], by simp⟩
    | inr looped =>
        rw [looped.2]
        have drains := drains_tickLoop (controller.sampleThreshold sample)
          ((controller.moveTo sample).arm.stamp sample.now)
        exact ⟨drains.sink, drains.inForce⟩
  · intro armed
    cases onOneFinger_cases conserves.following sample with
    | inl gated =>
        rw [gated.2.2] at armed
        exact Bool.noConfusion (gated.1.symm.trans armed)
    | inr looped =>
        rw [looped.2]
        exact tickLoop_lt (controller.sampleThreshold sample)
          (show ((controller.moveTo sample).arm.stamp sample.now).accumDx.natAbs < 2 ^ 31 from
            boundX) boundY

/-- On each axis the accumulator and the ticks, each with the threshold in
force when it was emitted, make up the displacement since the anchor.  The
gesture is armed as soon as a sample has left the dead zone, and silent until then. -/
theorem displacement_conserved {controller : CursorController} (ended : controller.prevCount ≠ 1)
    (anchor : TouchSample) (samples : List TouchSample)
    (onPad : ∀ sample ∈ anchor :: samples, sample.OnPad) :
    let out := controller.onOneFingers (anchor :: samples)
    let last := samples.getLastD anchor
    last.tpX - anchor.tpX = out.1.accumDx + (out.2.map Tick.alongX).sum ∧
      last.tpY - anchor.tpY = out.1.accumDy + (out.2.map Tick.alongY).sum ∧
      (∀ earlier sample, samples = earlier ++ [sample] →
        SampleTicks (controller.onOneFingers (anchor :: earlier)) out sample) ∧
      ((∃ sample ∈ samples, ¬ Lingers anchor sample) → out.1.dpadArmed = true) ∧
      ((∀ sample ∈ samples, Lingers anchor sample) → out.2 = []) := by
  intro out last
  obtain ⟨anchorOn, samplesOn⟩ := List.forall_mem_cons.mp onPad
  obtain ⟨conserves, -⟩ := conserves_onOneFingers ended anchorOn samplesOn
  refine ⟨conserves.alongX, conserves.alongY, ?_, armed_of_leaves ended anchorOn samplesOn, ?_⟩
  · rintro earlier sample rfl
    obtain ⟨before, lastOn⟩ := conserves_onOneFingers ended anchorOn fun other inEarlier =>
      samplesOn other (List.mem_append_left [sample] inEarlier)
    have split : out = _ := onOneFingers_append controller (anchor :: earlier) sample
    rw [split]
    exact before.sampleTicks lastOn (samplesOn sample (by simp))
  · exact fun lingers => (silent_of_lingers ended anchorOn samplesOn lingers).2

def swipeStart : TouchSample := { tpX := 500, tpY := 300, now := 0 }
def swipeEnd : TouchSample := { tpX := 900, tpY := 280, now := 30 }

theorem swipe_conserved :
    let out := onOneFingers {} [swipeStart, swipeEnd]
    out.1.dpadArmed = true ∧
      out.2.map (fun tick => (tick.key, tick.threshold.value)) = [(.right, 150), (.right, 150)] ∧
      swipeEnd.tpX - swipeStart.tpX = out.1.accumDx + (out.2.map Tick.alongX).sum := by
  have onPad : ∀ sample ∈ [swipeStart, swipeEnd], sample.OnPad := by
    intro sample onSwipe
    have either : sample = swipeStart ∨ sample = swipeEnd := by simpa using onSwipe
    cases either with
    | inl start => exact start ▸ ⟨by decide, by decide, by decide, by decide⟩
    | inr finish => exact finish ▸ ⟨by decide, by decide, by decide, by decide⟩
  obtain ⟨alongX, -, -, armed, -⟩ := displacement_conserved
    (show ({} : CursorController).prevCount ≠ 1 by decide) swipeStart [swipeEnd] onPad
  have leaves : ¬ Lingers swipeStart swipeEnd := fun lingers => absurd lingers.1 (by decide)
  exact ⟨armed ⟨swipeEnd, List.mem_singleton_self _, leaves⟩, by decide +kernel, alongX⟩

end CursorController

end CarplayRgi
