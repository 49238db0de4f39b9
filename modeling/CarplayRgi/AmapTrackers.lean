import CarplayRgi.JavaText

/-!
# The trackers of the Amap engine

Four small state machines around the committed maneuver: the stabilizer
decides when a new display may be committed, the formal lock keeps a maneuver
from being replaced by a late prompt, the progress tracker pairs distances
with the committed node, and the rollover guard recognises the same display at
the next node.
-/

namespace CarplayRgi

/-- The physical node of a maneuver: its slot and version, and the generation
and head under which it was seen. -/
structure AmapIdentity where
  idx : Int
  ver : Int
  generation : Int
  rawHead : Int
  deriving DecidableEq

namespace AmapIdentity

def unset : AmapIdentity := ⟨-1, -1, -1, -1⟩

/-- Generation and head decide if they are known, and slot and version else. -/
def hasContext (own other : AmapIdentity) : Bool :=
  decide (0 ≤ own.generation ∧ 0 ≤ own.rawHead ∧ 0 ≤ other.generation ∧ 0 ≤ other.rawHead)

def sameContext (own other : AmapIdentity) : Bool :=
  decide (own.generation = other.generation ∧ own.rawHead = other.rawHead)

/-- `samePhysical`. -/
def samePhysical (own other : AmapIdentity) : Bool :=
  if own.hasContext other then own.sameContext other
  else decide (own.idx = other.idx ∧ 0 ≤ own.ver ∧ own.ver = other.ver)

end AmapIdentity

inductive StabilizerDecision where
  | pass | hold | acceptSameVisual | commitNewVisual | commitNewPhysical
  deriving DecidableEq

def distanceJitterM : Int := 8

/-- A display that has been seen, but not often enough. -/
structure StabilizerCandidate where
  visual : List Char
  identity : AmapIdentity
  distance : Int
  frames : Nat
  deriving DecidableEq

structure AmapDisplayStabilizer where
  committed : Bool
  visual : List Char
  identity : AmapIdentity
  distance : Int
  sawCompletion : Bool
  candidate : StabilizerCandidate
  deriving DecidableEq

namespace AmapDisplayStabilizer

def noCandidate : StabilizerCandidate := ⟨[], .unset, -1, 0⟩

def reset : AmapDisplayStabilizer := ⟨false, [], .unset, -1, false, noCandidate⟩

def seed (visual : List Char) (identity : AmapIdentity) (dist : Int)
    (stabilizer : AmapDisplayStabilizer) : AmapDisplayStabilizer :=
  if visual = [] then stabilizer
  else ⟨true, visual, identity, dist, decide (dist ≤ 0), noCandidate⟩

/-- A distance that has grown by more than the jitter; the sum wraps around. -/
def jumpsBack (kept dist : Int) : Bool :=
  decide (0 < kept ∧ wrapInt (kept + distanceJitterM) < dist)

def sameCandidate (candidate : StabilizerCandidate) (visual : List Char)
    (identity : AmapIdentity) : Bool :=
  decide (0 < candidate.frames ∧ visual = candidate.visual) &&
    if candidate.identity.hasContext identity then candidate.identity.sameContext identity
    else decide (candidate.identity.idx = identity.idx ∧ candidate.identity.ver = identity.ver)

/-- The same display at the same node. -/
def evaluateSame (dist : Int) (stabilizer : AmapDisplayStabilizer) :
    StabilizerDecision × AmapDisplayStabilizer :=
  let cleared := { stabilizer with candidate := noCandidate }
  if dist ≤ 0 then (.hold, { cleared with sawCompletion := true })
  else if jumpsBack stabilizer.distance dist then (.hold, cleared)
  else (.acceptSameVisual, { cleared with distance := dist })

/-- Another display, or the next node after a completion: it has to be seen in
two frames. -/
def evaluateCandidate (visual : List Char) (identity : AmapIdentity) (dist : Int)
    (stabilizer : AmapDisplayStabilizer) : StabilizerDecision × AmapDisplayStabilizer :=
  let candidate := stabilizer.candidate
  if !sameCandidate candidate visual identity then
    (.hold, { stabilizer with candidate := ⟨visual, identity, dist, 1⟩ })
  else if jumpsBack candidate.distance dist then
    (.hold, { stabilizer with candidate := { candidate with distance := dist, frames := 1 } })
  else if candidate.frames + 1 < 2 then
    (.hold,
      { stabilizer with
        candidate := { candidate with distance := dist, frames := candidate.frames + 1 } })
  else
    (if visual = stabilizer.visual ∧ !stabilizer.identity.samePhysical identity ∧
        stabilizer.sawCompletion then .commitNewPhysical
      else .commitNewVisual,
      { stabilizer with
        visual := visual, identity := identity, distance := dist, sawCompletion := false
        candidate := noCandidate })

/-- `evaluate`. -/
def evaluate (active : Bool) (visual : List Char) (identity : AmapIdentity) (dist : Int)
    (headAligned distanceFresh : Bool) (stabilizer : AmapDisplayStabilizer) :
    StabilizerDecision × AmapDisplayStabilizer :=
  if !active then (.pass, reset)
  else if !headAligned || !distanceFresh then (.hold, stabilizer)
  else if visual = [] then (.hold, stabilizer)
  else if !stabilizer.committed then (.pass, stabilizer.seed visual identity dist)
  else
    let sameVisual := decide (visual = stabilizer.visual)
    let samePhysical := stabilizer.identity.samePhysical identity
    if sameVisual && samePhysical then stabilizer.evaluateSame dist
    else if sameVisual && !samePhysical && !stabilizer.sawCompletion then
      (.acceptSameVisual,
        { stabilizer with
          identity := identity
          distance := if 0 < dist then dist else stabilizer.distance
          candidate := noCandidate })
    else stabilizer.evaluateCandidate visual identity dist

def noteCompletion (stabilizer : AmapDisplayStabilizer) : AmapDisplayStabilizer :=
  if stabilizer.committed then { stabilizer with sawCompletion := true } else stabilizer

/-- What is committed is the same. -/
def SameCommit (before after : AmapDisplayStabilizer) : Prop :=
  after.committed = before.committed ∧ after.visual = before.visual ∧
    after.identity = before.identity

theorem evaluateSame_sameCommit (dist : Int) (stabilizer : AmapDisplayStabilizer) :
    SameCommit stabilizer (stabilizer.evaluateSame dist).2 := by
  unfold evaluateSame
  dsimp only
  split_ifs <;> exact ⟨rfl, rfl, rfl⟩

theorem evaluateCandidate_hold {visual : List Char} {identity : AmapIdentity} {dist : Int}
    {stabilizer : AmapDisplayStabilizer}
    (held : (stabilizer.evaluateCandidate visual identity dist).1 = .hold) :
    SameCommit stabilizer (stabilizer.evaluateCandidate visual identity dist).2 := by
  unfold evaluateCandidate at held ⊢
  dsimp only at held ⊢
  split_ifs at held ⊢ <;> exact ⟨rfl, rfl, rfl⟩

/-- A hold keeps what is committed. -/
theorem evaluate_hold {active headAligned distanceFresh : Bool} {visual : List Char}
    {identity : AmapIdentity} {dist : Int} {stabilizer : AmapDisplayStabilizer}
    (held : (stabilizer.evaluate active visual identity dist headAligned distanceFresh).1 = .hold) :
    SameCommit stabilizer
      (stabilizer.evaluate active visual identity dist headAligned distanceFresh).2 := by
  unfold evaluate at held ⊢
  dsimp only at held ⊢
  split_ifs at held ⊢
  · exact ⟨rfl, rfl, rfl⟩
  · exact ⟨rfl, rfl, rfl⟩
  · exact evaluateSame_sameCommit dist stabilizer
  · exact evaluateCandidate_hold held

end AmapDisplayStabilizer

def isPromptType (type : Int) : Bool :=
  [49, 50, 13, 14, 51, 52, 53].contains type

structure AmapFormalLock where
  locked : Bool
  road : List Char
  identity : AmapIdentity
  completion : Bool
  deriving DecidableEq

namespace AmapFormalLock

def reset : AmapFormalLock := ⟨false, [], .unset, false⟩

def commit (road : List Char) (identity : AmapIdentity) : AmapFormalLock :=
  ⟨true, road, identity, false⟩

def updatePhysicalIdentity (identity : AmapIdentity) (lock : AmapFormalLock) : AmapFormalLock :=
  if lock.locked then { lock with identity := identity } else lock

def markCompletionFrame (lock : AmapFormalLock) : AmapFormalLock :=
  if lock.locked then { lock with completion := true } else lock

def isLatePrompt (identity : AmapIdentity) (type : Int) (candidateRoad : List Char)
    (lock : AmapFormalLock) : Bool :=
  lock.locked && isPromptType type && lock.identity.samePhysical identity &&
    !decide (lock.road ≠ [] ∧ candidateRoad ≠ [] ∧ lock.road ≠ candidateRoad)

end AmapFormalLock

structure AmapProgressTracker where
  distanceM : Int
  denominatorM : Int
  identity : AmapIdentity
  provisional : Bool
  awaitingFirstUsableSample : Bool
  deriving DecidableEq

namespace AmapProgressTracker

def reset : AmapProgressTracker := ⟨-1, -1, .unset, false, false⟩

def commit (distance denominator : Int) (identity : AmapIdentity) (correctionAllowed : Bool) :
    AmapProgressTracker :=
  ⟨distance, if 0 < denominator then denominator else distance, identity,
    correctionAllowed && decide (0 < distance), true⟩

/-- The denominator, if there is a new one. -/
def keepDenominator (denominator : Int) (tracker : AmapProgressTracker) : AmapProgressTracker :=
  if 0 < denominator then { tracker with denominatorM := denominator } else tracker

/-- The first distance of a node. -/
def firstSample (distance nodeDistance denominator : Int) (tracker : AmapProgressTracker) :
    AmapProgressTracker :=
  { tracker with
    distanceM := distance
    denominatorM :=
      if tracker.denominatorM ≤ 0 then if 0 < denominator then denominator else nodeDistance
      else tracker.denominatorM
    provisional :=
      tracker.provisional ||
        (tracker.awaitingFirstUsableSample && decide (0 < nodeDistance ∧ distance < nodeDistance))
    awaitingFirstUsableSample := false }

/-- A later distance of the same node: it may shrink, and grow back once while
it is provisional. -/
def laterSample (distance nodeDistance denominator : Int) (identity : AmapIdentity)
    (tracker : AmapProgressTracker) : AmapProgressTracker :=
  if tracker.provisional = true ∧ 0 < nodeDistance ∧ tracker.distanceM < distance ∧
      distance ≤ nodeDistance then
    { keepDenominator denominator { tracker with distanceM := distance } with
      provisional := false, awaitingFirstUsableSample := false }
  else if distance < tracker.distanceM then
    { keepDenominator denominator { tracker with distanceM := distance } with
      provisional :=
        tracker.awaitingFirstUsableSample &&
          decide (0 < nodeDistance ∧ tracker.distanceM = nodeDistance ∧ distance < nodeDistance)
      awaitingFirstUsableSample := false }
  else if distance = tracker.distanceM then
    { keepDenominator denominator { tracker with identity := identity } with
      awaitingFirstUsableSample := false }
  else { tracker with provisional := false, awaitingFirstUsableSample := false }

/-- `update`. -/
def update (distance nodeDistance denominator : Int) (identity : AmapIdentity)
    (allowCorrection : Bool) (tracker : AmapProgressTracker) : AmapProgressTracker :=
  if distance ≤ 0 then tracker
  else if !tracker.identity.samePhysical identity then
    commit distance (if 0 < denominator then denominator else nodeDistance) identity
      (allowCorrection || decide (0 < nodeDistance ∧ 0 < distance ∧ distance < nodeDistance))
  else if tracker.distanceM ≤ 0 then tracker.firstSample distance nodeDistance denominator
  else tracker.laterSample distance nodeDistance denominator identity

end AmapProgressTracker

inductive RolloverState where
  | idle | holdPending | waitDifferentVisual | commitSameVisual
  deriving DecidableEq

structure AmapRollover where
  state : RolloverState
  visual : List Char
  boundaryDistance : Int
  generation : Int
  rawHead : Int
  deriving DecidableEq

namespace AmapRollover

def reset : AmapRollover := ⟨.idle, [], -1, -1, -1⟩

def begin (visual : List Char) (distance generation rawHead : Int) : AmapRollover :=
  ⟨.holdPending, visual, distance, generation, rawHead⟩

/-- Another generation or head than the one the rollover began with. -/
def isLater (generation rawHead : Int) (rollover : AmapRollover) : Bool :=
  decide (0 ≤ rollover.generation ∧ 0 ≤ rollover.rawHead ∧ 0 ≤ generation ∧ 0 ≤ rawHead) &&
    decide (generation ≠ rollover.generation ∨ rawHead ≠ rollover.rawHead)

/-- `observe`. -/
def observe (headAligned distanceFresh detailValid : Bool) (visual : List Char)
    (distance generation rawHead : Int) (rollover : AmapRollover) : RolloverState × AmapRollover :=
  if rollover.state = .idle then (.idle, rollover)
  else if !headAligned || !distanceFresh || !detailValid || decide (distance ≤ 0) then
    (.holdPending, rollover)
  else if visual = [] then (.holdPending, rollover)
  else if visual ≠ rollover.visual then
    (.waitDifferentVisual, { rollover with state := .waitDifferentVisual })
  else if rollover.isLater generation rawHead = true ∧
      (rollover.boundaryDistance ≤ 0 ∨ distance ≤ rollover.boundaryDistance) then
    (.commitSameVisual, { rollover with state := .commitSameVisual })
  else (.holdPending, rollover)

end AmapRollover

end CarplayRgi
