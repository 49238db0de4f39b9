import CarplayRgi.RouteGuidanceState

/-!
# Detecting the behaviour of a navigation source

A source is legacy until an active route suddenly looks inactive.  Then it is
probed: it is taken for the newer behaviour when a later frame shows progress
against the baseline of the probe.
-/

namespace CarplayRgi

open RouteGuidance

inductive AmapMode where
  | legacy | probing | v38Compat
  deriving DecidableEq

/-- What a frame says about progress; `-1` where it says nothing. -/
structure ProbeBaseline where
  routeSeq : Int
  routeGeneration : Int
  headIapIndex : Int
  distanceM : Int
  deriving DecidableEq

structure AmapProtocolDetector where
  mode : AmapMode
  sourceName : Option (List Char)
  activeRouteSeen : Bool
  probeStartedMs : Int
  baseline : ProbeBaseline
  deriving DecidableEq

/-- `toLowerCase`, as far as the names of the source are concerned: no other
character becomes one of their letters. -/
def javaLower (text : List Char) : List Char := text.map Char.toLower

/-- `isAmapSourceName`. -/
def isAmapSourceName (value : List Char) : Bool :=
  let text := javaTrim value
  decide (text ≠ []) &&
    (decide ("高德".toList <:+: text) || decide ("amap".toList <:+: javaLower text) ||
      decide ("gaode".toList <:+: javaLower text))

namespace AmapProtocolDetector

def noBaseline : ProbeBaseline := ⟨-1, -1, -1, -1⟩

def reset : AmapProtocolDetector := ⟨.legacy, none, false, 0, noBaseline⟩

def resetRouteOnly (detector : AmapProtocolDetector) : AmapProtocolDetector :=
  { detector with
    mode := .legacy, activeRouteSeen := false, probeStartedMs := 0, baseline := noBaseline }

/-- The name of the source in a frame, unless it is blank. -/
def namedSource (data : BusData) : Option (List Char) :=
  ((data.str (RgdKey.route .sourceName).text).map javaTrim).filter (· ≠ [])

def observeSource (data : BusData) (detector : AmapProtocolDetector) : AmapProtocolDetector :=
  { detector with sourceName := namedSource data <|> detector.sourceName }

/-- A source that is not known may be probed as well. -/
def sourceAllowsBehaviorProbe (detector : AmapProtocolDetector) : Bool :=
  match detector.sourceName with
  | none | some [] => true
  | some name => isAmapSourceName name

def observeActiveRoute (routeState maneuverCount visibleInApp sourceSupportsRg : Int)
    (detector : AmapProtocolDetector) : AmapProtocolDetector :=
  if 1 < routeState ∨ visibleInApp = 1 ∨ 0 < maneuverCount ∨
      (routeState = 1 ∧ visibleInApp < 0 ∧ sourceSupportsRg ≠ 0) then
    { detector with activeRouteSeen := true }
  else detector

def shouldBeginProbe (routeState maneuverCount visibleInApp sourceSupportsRg : Int)
    (detector : AmapProtocolDetector) : Bool :=
  decide (detector.mode = .legacy) && detector.sourceAllowsBehaviorProbe &&
    detector.activeRouteSeen &&
    decide (routeState = 1 ∧ maneuverCount = 0 ∧ visibleInApp = 0 ∧ sourceSupportsRg ≠ 0)

def baselineOf (data : BusData) : ProbeBaseline where
  routeSeq := data.num (RgdKey.route .amapRouteUpdateSeq).text (-1)
  routeGeneration := data.num (RgdKey.route .amapRouteGeneration).text (-1)
  headIapIndex := data.num (RgdKey.route .amapHeadIapIndex).text (-1)
  distanceM := data.num (RgdKey.route .distManeuverM).text (-1)

def beginProbe (nowMs : Int) (data : BusData) (detector : AmapProtocolDetector) :
    AmapProtocolDetector :=
  { detector with mode := .probing, probeStartedMs := nowMs, baseline := baselineOf data }

def confirmV38 (detector : AmapProtocolDetector) : AmapProtocolDetector :=
  { detector with mode := .v38Compat, probeStartedMs := 0, baseline := noBaseline }

def rejectProbe (detector : AmapProtocolDetector) : AmapProtocolDetector :=
  { detector with mode := .legacy, probeStartedMs := 0, baseline := noBaseline }

/-- Progress of the native metadata against the baseline. -/
def showsProgress (own frame : ProbeBaseline) : Bool :=
  decide (0 ≤ frame.routeGeneration ∧ 0 ≤ own.routeGeneration ∧
      frame.routeGeneration ≠ own.routeGeneration) ||
    decide (0 ≤ frame.headIapIndex ∧
      (own.headIapIndex < 0 ∨ frame.headIapIndex ≠ own.headIapIndex)) ||
    decide (0 < frame.distanceM ∧
      (own.distanceM ≤ 0 ∨
        (frame.distanceM ≠ own.distanceM ∧
          (frame.routeSeq < 0 ∨ own.routeSeq < 0 ∨ frame.routeSeq ≠ own.routeSeq))))

/-- `hasV38ConfirmationEvidence`. -/
def hasV38ConfirmationEvidence (data : BusData) (detector : AmapProtocolDetector) : Bool :=
  (data.numField (.route .routeState) (-1)).any (1 < ·) ||
    (data.numField (.route .maneuverCount) 0).any (0 < ·) ||
    (data.intList (RgdKey.route .maneuverList).text).any (· ≠ []) ||
    showsProgress detector.baseline (baselineOf data)

def isHardClear (routeState sourceSupportsRg : Int) (data : BusData) : Bool :=
  decide (routeState = 0 ∨ sourceSupportsRg = 0) ||
    data.has (RgdKey.route .disconnectReason).text

def sourceChangedAwayFromAmap (data : BusData) : Bool :=
  (namedSource data).any fun name => !isAmapSourceName name

/-- The frame that begins a probe shows no progress against itself. -/
theorem showsProgress_self (frame : ProbeBaseline) : showsProgress frame frame = false := by
  simp only [showsProgress, Bool.or_eq_false_iff, decide_eq_false_iff_not]
  omega

end AmapProtocolDetector

end CarplayRgi
