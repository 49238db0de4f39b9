import CarplayRgi.AmapSnapshot
import CarplayRgi.AmapTrackers

/-!
# The V38 Amap engine

While it is enabled, the engine answers every frame with a snapshot: the raw
cache is committed, or what is committed is held with live top-level fields.
An inactive route without maneuvers is held for a grace period.
-/

namespace CarplayRgi

open RouteGuidance Utf8Text

/-- A line without its carriage return. -/
def stripReturn (line : List Char) : List Char :=
  if line.getLast? = some '\r' then line.dropLast else line

/-- Rewrite the lines of a text, or drop them with their newlines.  The text
after the last newline is a line unless it is empty. -/
def rewriteLines (rewrite : List Char → Option (List Char)) (text : List Char) : List Char :=
  let lines := text.splitOn '\n'
  (lines.dropLast.flatMap fun line => ((rewrite line).map (· ++ ['\n'])).getD []) ++
    match lines.getLast? with
    | none | some [] => []
    | some last => (rewrite last).getD []

def visibleUnknown : List Char := "visible_in_app:n:-1".toList

/-- A visibility is replaced by the unknown one. -/
def hideVisibility (line : List Char) : List Char :=
  if "visible_in_app:".toList.isPrefixOf (stripReturn line) then visibleUnknown else line

def protectVisibilityOnly (payload : List UInt8) : List UInt8 :=
  encode (rewriteLines (fun line => some (hideVisibility line)) (decode payload))

structure AmapV38Compat where
  raw : AmapRaw
  committed : Option AmapSnapshot
  stabilizer : AmapDisplayStabilizer
  formalLock : AmapFormalLock
  progress : AmapProgressTracker
  rollover : AmapRollover
  enabled : Bool
  softInactiveStartedMs : Int
  lastGuidanceEvidenceMs : Int
  softInactiveExpired : Bool
  routeGeneration : Int
  rawRoutePreviouslyActive : Bool

def softInactiveGraceMs : Int := 5000

def isFormalType (type : Int) : Bool :=
  [1, 2, 4, 6, 7, 18, 19, 20, 21, 26, 47, 48].contains type || decide (28 ≤ type ∧ type ≤ 46)

def isSoftInactive (routeState count visible : Int) : Bool :=
  decide (routeState = 1 ∧ count = 0 ∧ visible = 0)

/-- The frame has anything that only a live guidance sends. -/
def hasFreshGuidanceEvidence (data : BusData) : Bool :=
  (data.numField (.route .routeState) (-1)).any (1 < ·) ||
    (data.numField (.route .maneuverCount) 0).any (0 < ·) ||
    (data.intList (RgdKey.route .maneuverList).text).any (· ≠ []) ||
    (data.numField (.route .distManeuverM) (-1)).any (0 < ·) ||
    (data.numField (.route .distDestM) (-1)).any (0 < ·) ||
    [RouteKey.etaSeconds, .timeRemainingSeconds, .laneGuidanceShowing, .laneGuidanceIndex].any
      (fun key => data.has (RgdKey.route key).text) ||
    (List.finRange maneuverCacheSize).any fun slot =>
      [ManeuverKey.type, .ver, .distance, .turnAngle, .exitAngle, .name, .afterRoad].any fun key =>
        data.has (RgdKey.maneuver slot key).text

namespace AmapV38Compat

def reset : AmapV38Compat where
  raw := {}
  committed := none
  stabilizer := .reset
  formalLock := .reset
  progress := .reset
  rollover := .reset
  enabled := false
  softInactiveStartedMs := 0
  lastGuidanceEvidenceMs := 0
  softInactiveExpired := false
  routeGeneration := 0
  rawRoutePreviouslyActive := false

def isActive (fields : AmapFields) : Bool :=
  decide (0 < fields.routeState ∨ 0 < fields.maneuverCount) || fields.maneuverList.any (· ≠ [])

/-- A route that becomes active begins a generation. -/
def noteActivity (engine : AmapV38Compat) : AmapV38Compat :=
  let activeNow := isActive engine.raw.toAmapFields
  { engine with
    routeGeneration :=
      if activeNow && !engine.rawRoutePreviouslyActive then wrapInt (engine.routeGeneration + 1)
      else engine.routeGeneration
    rawRoutePreviouslyActive := activeNow }

def noteEvidence (data : BusData) (now : Int) (engine : AmapV38Compat) : AmapV38Compat :=
  if hasFreshGuidanceEvidence data then
    { engine with
      lastGuidanceEvidenceMs := now
      softInactiveExpired :=
        engine.softInactiveExpired &&
          isSoftInactive engine.raw.routeState engine.raw.maneuverCount engine.raw.visibleInApp }
  else engine

/-- `observe`. -/
def observe (data : BusData) (now : Int) (engine : AmapV38Compat) : AmapV38Compat :=
  noteEvidence data now (noteActivity { engine with raw := engine.raw.observe data })

/-- The committed snapshot with the tracked distance. -/
def applyTrackedDistance (progress : AmapProgressTracker) (snapshot : AmapSnapshot) :
    AmapSnapshot :=
  if 0 < progress.distanceM then { snapshot with distManeuverM := progress.distanceM }
  else snapshot

/-- The head of the raw cache and its version in the current generation. -/
def identity (head ver : Int) (engine : AmapV38Compat) : AmapIdentity :=
  ⟨head, ver, engine.routeGeneration, head⟩

/-- What the engine reads off its raw cache. -/
structure RawHead where
  head : Int
  ver : Int
  type : Int
  dist : Int
  nodeDistance : Int
  visual : List Char
  road : List Char
  valid : Bool

def rawHead (fields : AmapFields) : RawHead :=
  let head := fields.head
  let ver := fields.value ManeuverFields.ver head (-1)
  let type := fields.value ManeuverFields.type head (-1)
  { head, ver, type
    dist := fields.primaryDistance
    nodeDistance := fields.value ManeuverFields.distance head (-1)
    visual := fields.visualKey head
    road := fields.roadKey head
    valid := AmapFields.validHead head ver type }

def commitRaw (raw : RawHead) (engine : AmapV38Compat) : AmapV38Compat :=
  let identity := engine.identity raw.head raw.ver
  let next : AmapSnapshot :=
    { AmapSnapshot.fromRaw engine.raw with
      visualKey := raw.visual
      rawType := raw.type
      physicalHead := raw.head
      physicalVer := raw.ver
      physicalGeneration := engine.routeGeneration }
  let denominator := if 0 < raw.nodeDistance then raw.nodeDistance else raw.dist
  let progress := AmapProgressTracker.commit raw.dist denominator identity false
  { engine with
    committed := some (applyTrackedDistance progress next)
    progress := progress
    stabilizer := engine.stabilizer.seed raw.visual identity raw.dist
    formalLock := .commit raw.road identity
    rollover := .reset }

def seedFromRaw (engine : AmapV38Compat) : AmapV38Compat :=
  let raw := rawHead engine.raw.toAmapFields
  if raw.valid then engine.commitRaw raw else engine

def enable (engine : AmapV38Compat) : AmapV38Compat :=
  seedFromRaw { engine with enabled := true, softInactiveExpired := false }

/-- What is committed stays. -/
def disable (engine : AmapV38Compat) : AmapV38Compat :=
  { engine with
    enabled := false
    softInactiveStartedMs := 0
    softInactiveExpired := false
    stabilizer := .reset
    formalLock := .reset
    progress := .reset
    rollover := .reset }

def isSoftInactiveHolding (engine : AmapV38Compat) : Bool :=
  engine.enabled && !engine.softInactiveExpired && decide (0 < engine.softInactiveStartedMs)

def softInactiveDeadlineMs (engine : AmapV38Compat) : Int :=
  if engine.isSoftInactiveHolding then
    max engine.softInactiveStartedMs engine.lastGuidanceEvidenceMs + softInactiveGraceMs
  else 0

def noteSoftInactiveExpired (engine : AmapV38Compat) : AmapV38Compat :=
  { engine with softInactiveExpired := true, softInactiveStartedMs := 0 }

def inactiveText (routeState : Option Int) (sourceSupportsRg : Int) : List Char :=
  let numberLine (key : RouteKey) (number : Int) : List Char :=
    key.text ++ ":n:".toList ++ DecimalText.decimal number ++ ['\n']
  "@routeguidance\n".toList ++ ((routeState.map (numberLine .routeState)).getD []) ++
    "maneuver_count:n:0\nmaneuver_list:s:\nvisible_in_app:n:0\n".toList ++
    if 0 ≤ sourceSupportsRg then numberLine .sourceSupportsRg sourceSupportsRg else []

def buildSoftInactiveExpiryFrame (engine : AmapV38Compat) : List UInt8 :=
  encode (inactiveText (some 1) engine.raw.sourceSupportsRg)

/-- A live value that is known replaces the committed one. -/
def known (live kept : Int) : Int := if 0 ≤ live then live else kept

def copyLiveTopLevel (raw : AmapFields) (snapshot : AmapSnapshot) : AmapSnapshot :=
  { snapshot with
    routeState := if 0 < raw.routeState then raw.routeState else snapshot.routeState
    maneuverState := raw.maneuverState
    distDestM := known raw.distDestM snapshot.distDestM
    etaSeconds := known raw.etaSeconds snapshot.etaSeconds
    timeRemainingSeconds := known raw.timeRemainingSeconds snapshot.timeRemainingSeconds
    currentRoad := raw.currentRoad <|> snapshot.currentRoad
    destination := raw.destination <|> snapshot.destination
    sourceSupportsRg := known raw.sourceSupportsRg snapshot.sourceSupportsRg
    visibleInApp := if raw.visibleInApp = 1 then 1 else snapshot.visibleInApp }

/-- The texts, the distance and the lanes of the raw head. -/
def copyNonVisual (live kept : ManeuverFields) : ManeuverFields :=
  { kept with
    name := live.name
    afterRoad := live.afterRoad
    exitInfo := live.exitInfo
    distance := live.distance
    laneCount := live.laneCount
    lanePositions := live.lanePositions
    laneDirections := live.laneDirections
    laneStatus := live.laneStatus
    laneAngles := live.laneAngles }

def copyNonVisualPrimary (raw : AmapFields) (head : Int) (snapshot : AmapSnapshot) :
    AmapSnapshot :=
  match slotOf head, slotOf snapshot.head with
  | some slot, some outHead =>
      { snapshot with
        maneuver := Function.update snapshot.maneuver outHead
          (copyNonVisual (raw.maneuver slot) (snapshot.maneuver outHead)) }
  | _, _ => snapshot

def updateCommittedProgress (dist nodeDistance head ver : Int) (engine : AmapV38Compat) :
    AmapV38Compat :=
  if dist ≤ 0 then engine
  else
    { engine with
      progress :=
        engine.progress.update dist nodeDistance
          (if 0 < nodeDistance then nodeDistance else engine.progress.denominatorM)
          (engine.identity head ver) false }

def noteCompletion (engine : AmapV38Compat) : AmapV38Compat :=
  { engine with
    stabilizer := engine.stabilizer.noteCompletion
    formalLock := engine.formalLock.markCompletionFrame }

/-- The static `samePhysical`, of the head and the committed snapshot. -/
def sameAsCommitted (raw : RawHead) (committed : AmapSnapshot) (engine : AmapV38Compat) : Bool :=
  !decide (0 ≤ engine.routeGeneration ∧ 0 ≤ committed.physicalGeneration ∧
      engine.routeGeneration ≠ committed.physicalGeneration) &&
    decide (0 ≤ raw.head ∧ raw.head = committed.physicalHead ∧ 0 ≤ raw.ver ∧
      raw.ver = committed.physicalVer)

/-- The committed snapshot with live top-level fields and the tracked distance. -/
def holdFrame (committed : AmapSnapshot) (engine : AmapV38Compat) : AmapSnapshot :=
  applyTrackedDistance engine.progress (copyLiveTopLevel engine.raw.toAmapFields committed)

/-- The frame of the commit that has just been made. -/
def committedFrame (engine : AmapV38Compat) : List UInt8 :=
  (engine.committed.map AmapSnapshot.toPayload).getD []

/-- A prompt that comes late for a committed formal maneuver is held. -/
def isLatePrompt (raw : RawHead) (committed : AmapSnapshot) (engine : AmapV38Compat) : Bool :=
  raw.valid && engine.sameAsCommitted raw committed && isFormalType committed.rawType &&
    (isPromptType raw.type || engine.raw.isNeutralStraight raw.head raw.type) &&
    !decide (raw.visual = committed.visualKey) &&
    engine.formalLock.isLatePrompt (engine.identity raw.head raw.ver) raw.type raw.road

def holdLatePrompt (raw : RawHead) (committed : AmapSnapshot) (engine : AmapV38Compat) :
    List UInt8 × AmapV38Compat :=
  let noted := if raw.dist ≤ 0 then engine.noteCompletion else engine
  let updated := noted.updateCommittedProgress raw.dist raw.nodeDistance raw.head raw.ver
  ((updated.holdFrame committed).toPayload, updated)

/-- The rollover guard after a completion, and whether it commits. -/
def observeRollover (raw : RawHead) (aligned distanceFresh : Bool) (committed : AmapSnapshot)
    (engine : AmapV38Compat) : Bool × AmapV38Compat :=
  if raw.valid && engine.formalLock.completion && decide (raw.visual = committed.visualKey) &&
      !engine.sameAsCommitted raw committed then
    let observed := engine.rollover.observe aligned distanceFresh true raw.visual raw.dist
      engine.routeGeneration raw.head
    (decide (observed.1 = .commitSameVisual), { engine with rollover := observed.2 })
  else (false, engine)

/-- The same display at another node or a closer distance. -/
def acceptSameVisual (raw : RawHead) (committed : AmapSnapshot) (engine : AmapV38Compat) :
    List UInt8 × AmapV38Compat :=
  let moved : AmapSnapshot :=
    { committed with
      physicalHead := raw.head, physicalVer := raw.ver
      physicalGeneration := engine.routeGeneration }
  let locked :=
    { engine with
      formalLock := engine.formalLock.updatePhysicalIdentity (engine.identity raw.head raw.ver)
      committed := some moved }
  let updated := locked.updateCommittedProgress raw.dist raw.nodeDistance raw.head raw.ver
  let out := copyNonVisualPrimary updated.raw.toAmapFields raw.head
    (copyLiveTopLevel updated.raw.toAmapFields moved)
  ((applyTrackedDistance updated.progress out).toPayload, updated)

def holdCommitted (raw : RawHead) (committed : AmapSnapshot) (engine : AmapV38Compat) :
    List UInt8 × AmapV38Compat :=
  let noted :=
    if raw.dist ≤ 0 then
      let completed := engine.noteCompletion
      if raw.valid then
        { completed with
          rollover := .begin committed.visualKey committed.distManeuverM engine.routeGeneration
            committed.physicalHead }
      else completed
    else engine
  let updated := noted.updateCommittedProgress raw.dist raw.nodeDistance committed.physicalHead
    committed.physicalVer
  ((updated.holdFrame committed).toPayload, updated)

/-- The frame for the decision of the stabilizer. -/
def followDecision (original : List UInt8) (raw : RawHead) (committed : AmapSnapshot)
    (decision : StabilizerDecision) (engine : AmapV38Compat) : List UInt8 × AmapV38Compat :=
  match decision with
  | .pass =>
      if raw.valid then
        let after := engine.commitRaw raw
        (after.committedFrame, after)
      else (original, engine)
  | .acceptSameVisual => engine.acceptSameVisual raw committed
  | .commitNewVisual | .commitNewPhysical =>
      let after := engine.commitRaw raw
      (after.committedFrame, after)
  | .hold => engine.holdCommitted raw committed

/-- A frame of a route that is not soft-inactive. -/
def processActive (original : List UInt8) (engine : AmapV38Compat) : List UInt8 × AmapV38Compat :=
  let raw := rawHead engine.raw.toAmapFields
  let aligned := raw.valid && engine.raw.headAligned
  match engine.committed with
  | none =>
      if raw.valid && aligned then
        let after := engine.commitRaw raw
        (after.committedFrame, after)
      else (original, engine)
  | some committed =>
      if engine.isLatePrompt raw committed then engine.holdLatePrompt raw committed
      else
        let observed := engine.observeRollover raw aligned engine.raw.distanceFresh committed
        if observed.1 then
          let after := observed.2.commitRaw raw
          (after.committedFrame, after)
        else
          let evaluated := observed.2.stabilizer.evaluate true raw.visual
            (engine.identity raw.head raw.ver) raw.dist aligned engine.raw.distanceFresh
          followDecision original raw committed evaluated.1
            { observed.2 with stabilizer := evaluated.2 }

/-- A soft-inactive route is held until the grace period has expired. -/
def holdSoftInactive (original : List UInt8) (now routeState : Int) (engine : AmapV38Compat) :
    List UInt8 × AmapV38Compat :=
  let started :=
    if engine.softInactiveStartedMs = 0 then { engine with softInactiveStartedMs := now }
    else engine
  match started.committed with
  | none => (protectVisibilityOnly original, started)
  | some committed =>
      let hold : AmapSnapshot :=
        { copyLiveTopLevel started.raw.toAmapFields committed with
          routeState := if 0 < routeState then routeState else 1
          visibleInApp := -1 }
      (hold.toPayload, started)

/-- `process`. -/
def process (original : List UInt8) (now routeState maneuverCount visibleInApp
    sourceSupportsRg : Int) (engine : AmapV38Compat) : List UInt8 × AmapV38Compat :=
  if !engine.enabled || original.isEmpty then (original, engine)
  else if routeState = 0 ∨ sourceSupportsRg = 0 then
    (original, { engine with softInactiveStartedMs := 0, softInactiveExpired := false })
  else if isSoftInactive routeState maneuverCount visibleInApp then
    if engine.softInactiveExpired then (original, engine)
    else engine.holdSoftInactive original now routeState
  else
    processActive original { engine with softInactiveStartedMs := 0, softInactiveExpired := false }

/-- Nothing of what has been observed changes. -/
structure SameObserved (before after : AmapV38Compat) : Prop where
  raw : after.raw = before.raw
  enabled : after.enabled = before.enabled
  routeGeneration : after.routeGeneration = before.routeGeneration
  lastGuidanceEvidenceMs : after.lastGuidanceEvidenceMs = before.lastGuidanceEvidenceMs

theorem SameObserved.refl (engine : AmapV38Compat) : SameObserved engine engine :=
  ⟨rfl, rfl, rfl, rfl⟩

theorem SameObserved.trans {first second third : AmapV38Compat}
    (before : SameObserved first second) (after : SameObserved second third) :
    SameObserved first third :=
  ⟨after.raw.trans before.raw, after.enabled.trans before.enabled,
    after.routeGeneration.trans before.routeGeneration,
    after.lastGuidanceEvidenceMs.trans before.lastGuidanceEvidenceMs⟩

variable (engine : AmapV38Compat)

theorem updateCommittedProgress_sameObserved (dist nodeDistance head ver : Int) :
    SameObserved engine (engine.updateCommittedProgress dist nodeDistance head ver) := by
  unfold updateCommittedProgress
  split_ifs <;> exact ⟨rfl, rfl, rfl, rfl⟩

theorem observeRollover_sameObserved (raw : RawHead) (aligned distanceFresh : Bool)
    (committed : AmapSnapshot) :
    SameObserved engine (engine.observeRollover raw aligned distanceFresh committed).2 := by
  unfold observeRollover
  split_ifs <;> exact ⟨rfl, rfl, rfl, rfl⟩

theorem holdLatePrompt_sameObserved (raw : RawHead) (committed : AmapSnapshot) :
    SameObserved engine (engine.holdLatePrompt raw committed).2 := by
  refine SameObserved.trans ?_ (updateCommittedProgress_sameObserved _ _ _ _ _)
  split_ifs <;> exact ⟨rfl, rfl, rfl, rfl⟩

theorem holdCommitted_sameObserved (raw : RawHead) (committed : AmapSnapshot) :
    SameObserved engine (engine.holdCommitted raw committed).2 := by
  refine SameObserved.trans ?_ (updateCommittedProgress_sameObserved _ _ _ _ _)
  split_ifs <;> exact ⟨rfl, rfl, rfl, rfl⟩

theorem acceptSameVisual_sameObserved (raw : RawHead) (committed : AmapSnapshot) :
    SameObserved engine (engine.acceptSameVisual raw committed).2 := by
  refine SameObserved.trans ?_ (updateCommittedProgress_sameObserved _ _ _ _ _)
  exact ⟨rfl, rfl, rfl, rfl⟩

theorem followDecision_sameObserved (original : List UInt8) (raw : RawHead)
    (committed : AmapSnapshot) (decision : StabilizerDecision) :
    SameObserved engine (engine.followDecision original raw committed decision).2 := by
  cases decision with
  | pass =>
      unfold followDecision
      dsimp only
      split_ifs <;> exact ⟨rfl, rfl, rfl, rfl⟩
  | hold => exact holdCommitted_sameObserved engine raw committed
  | acceptSameVisual => exact acceptSameVisual_sameObserved engine raw committed
  | commitNewVisual | commitNewPhysical => exact ⟨rfl, rfl, rfl, rfl⟩

theorem processActive_sameObserved (original : List UInt8) :
    SameObserved engine (engine.processActive original).2 := by
  unfold processActive
  dsimp only
  cases engine.committed with
  | none =>
      dsimp only
      split_ifs <;> exact ⟨rfl, rfl, rfl, rfl⟩
  | some committed =>
      dsimp only
      generalize rawHead engine.raw.toAmapFields = raw
      have observed := observeRollover_sameObserved engine raw
        (raw.valid && engine.raw.headAligned) engine.raw.distanceFresh committed
      split_ifs
      · exact holdLatePrompt_sameObserved engine raw committed
      · exact observed.trans ⟨rfl, rfl, rfl, rfl⟩
      · refine observed.trans (SameObserved.trans ?_ (followDecision_sameObserved _ _ _ _ _))
        exact ⟨rfl, rfl, rfl, rfl⟩

theorem holdSoftInactive_sameObserved (original : List UInt8) (now routeState : Int) :
    SameObserved engine (engine.holdSoftInactive original now routeState).2 := by
  unfold holdSoftInactive
  dsimp only
  split_ifs <;> split <;> exact ⟨rfl, rfl, rfl, rfl⟩

theorem process_sameObserved (original : List UInt8)
    (now routeState maneuverCount visibleInApp sourceSupportsRg : Int) :
    SameObserved engine
      (engine.process original now routeState maneuverCount visibleInApp sourceSupportsRg).2 := by
  unfold process
  split_ifs
  · exact .refl engine
  · exact ⟨rfl, rfl, rfl, rfl⟩
  · exact .refl engine
  · exact holdSoftInactive_sameObserved engine original now routeState
  · refine SameObserved.trans ?_ (processActive_sameObserved _ original)
    exact ⟨rfl, rfl, rfl, rfl⟩

end AmapV38Compat

end CarplayRgi
