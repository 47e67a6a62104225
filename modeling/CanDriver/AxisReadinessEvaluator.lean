import CanDriver.SharedDriverState

/-!
# CanDriver.AxisReadinessEvaluator

What the lifecycle makes of the record of an axis: whether the axis may be enabled,
whether it may run, and if not, why.
-/

namespace CanDriver

/-- `AxisReadiness`. -/
structure AxisReadiness where
  key : AxisKey
  intent : AxisIntent := .none
  deviceReady : Bool := false
  feedbackSeen : Bool := false
  feedbackFresh : Bool := false
  degraded : Bool := false
  fault : Bool := false
  faultKnown : Bool := false
  faultCleared : Bool := false
  enabled : Bool := false
  enabledKnown : Bool := false
  enabledReady : Bool := false
  commandValid : Bool := false
  modeExpected : Bool := false
  modeKnown : Bool := true
  modeMatched : Bool := true
  modeReady : Bool := true
  feedbackReady : Bool := false
  axisReadyForEnable : Bool := false
  axisReadyForRun : Bool := false
  recoverConfirmed : Bool := false
deriving DecidableEq, Repr

/-- `AxisReadinessEvaluator`, which is its configuration. -/
structure AxisReadinessEvaluator where
  feedbackFreshnessTimeoutNs : Time := 500000000
  degradedTimeoutThreshold : Nat := kDefaultFeedbackDegradedTimeoutThreshold
  recoverConfirmCycles : Nat := 2
deriving DecidableEq, Repr

namespace AxisReadinessEvaluator

/-- `feedbackFresh`: something was received, and not too long ago. -/
def feedbackFresh (config : AxisReadinessEvaluator) (feedback : AxisFeedbackState)
    (nowNs : Time) : Bool :=
  if feedback.feedbackSeen && decide (0 < feedback.lastRxSteadyNs) then
    if 0 < config.feedbackFreshnessTimeoutNs ∧ feedback.lastRxSteadyNs < nowNs then
      decide (nowNs - feedback.lastRxSteadyNs ≤ config.feedbackFreshnessTimeoutNs)
    else true
  else false

/-- `EvaluateBase`. -/
def evaluateBase (config : AxisReadinessEvaluator) (feedback : AxisFeedbackState)
    (command : Option AxisCommandState) (intent : AxisIntent)
    (deviceHealth : Option DeviceHealthState) (nowNs : Time) : AxisReadiness :=
  let deviceReady := (deviceHealth.map DeviceHealthState.transportReady).getD true
  let degraded := feedback.degraded ||
    decide (max 1 config.degradedTimeoutThreshold ≤ feedback.consecutiveTimeoutCount)
  let fresh := config.feedbackFresh feedback nowNs
  let modeExpected := command.any AxisCommandState.desiredModeValid
  let modeMatched := !modeExpected || feedback.modeValid && feedback.feedbackSeen &&
    command.any fun command => feedback.mode == command.desiredMode
  let feedbackReady := deviceReady && feedback.feedbackSeen && fresh && !degraded
  let faultCleared := feedback.faultValid && !feedback.fault
  let enabledReady := feedback.enabledValid && feedback.enabled
  let modeReady := !modeExpected || modeMatched
  let axisReadyForEnable := feedbackReady && faultCleared
  { key := feedback.key
    intent
    deviceReady
    feedbackSeen := feedback.feedbackSeen
    feedbackFresh := fresh
    degraded
    fault := feedback.fault
    faultKnown := feedback.faultValid
    faultCleared
    enabled := feedback.enabled
    enabledKnown := feedback.enabledValid
    enabledReady
    commandValid := command.any AxisCommandState.valid
    modeExpected
    modeKnown := !modeExpected || feedback.modeValid
    modeMatched
    modeReady
    feedbackReady
    axisReadyForEnable
    axisReadyForRun := axisReadyForEnable && enabledReady && modeReady }

/-- `Evaluate`. -/
def evaluate (config : AxisReadinessEvaluator) (feedback : AxisFeedbackState)
    (command : Option AxisCommandState) (intent : AxisIntent)
    (deviceHealth : Option DeviceHealthState) (nowNs : Time) : AxisReadiness :=
  let readiness := config.evaluateBase feedback command intent deviceHealth nowNs
  { readiness with
    recoverConfirmed := decide (intent ≠ .recover) && readiness.axisReadyForEnable }

/-- `ReadyForEnable`. -/
def readyForEnable (readiness : AxisReadiness) : Bool := readiness.axisReadyForEnable

/-- `ReadyForRun`. -/
def readyForRun (readiness : AxisReadiness) : Bool := readiness.axisReadyForRun

/-- `RecoverPending`. -/
def recoverPending (readiness : AxisReadiness) : Bool :=
  readiness.intent == .recover && !readiness.recoverConfirmed && readiness.axisReadyForEnable

/-- `DescribeBlockReason`: the first of the reasons, or nothing. -/
def describeBlockReason (readiness : AxisReadiness) : String :=
  if !readiness.deviceReady || !readiness.feedbackSeen then "Feedback offline."
  else if readiness.degraded then "Feedback degraded."
  else if !readiness.feedbackFresh then "Feedback stale."
  else if !readiness.faultKnown then "Fault state unknown."
  else if !readiness.faultCleared then "Fault still active."
  else if !readiness.enabledKnown then "Enable state unknown."
  else if !readiness.enabledReady then "Axis not enabled."
  else if !readiness.modeReady then "Mode not ready."
  else if recoverPending readiness then "Axis still recovering."
  else ""

/-! ## what readiness says about the record -/

variable {config : AxisReadinessEvaluator} {feedback : AxisFeedbackState}
  {command : Option AxisCommandState} {intent : AxisIntent}
  {deviceHealth : Option DeviceHealthState} {nowNs : Time}

/-- Fresh feedback was seen, and within the timeout if there is one. -/
theorem age_of_feedbackFresh (h : config.feedbackFresh feedback nowNs = true) :
    feedback.feedbackSeen = true ∧ (0 < config.feedbackFreshnessTimeoutNs →
      nowNs - feedback.lastRxSteadyNs ≤ config.feedbackFreshnessTimeoutNs) := by
  unfold feedbackFresh at h
  split at h
  · next hseen =>
    rw [Bool.and_eq_true] at hseen
    refine ⟨hseen.1, fun htimeout => ?_⟩
    split at h
    · exact of_decide_eq_true h
    · next hlate =>
      have hnow : nowNs ≤ feedback.lastRxSteadyNs := Int.not_lt.1 fun hlt => hlate ⟨htimeout, hlt⟩
      exact Int.le_trans (Int.sub_nonpos_of_le hnow) (Int.le_of_lt htimeout)
  · cases h

/-- An axis that may be enabled has fresh feedback. -/
theorem fresh_of_readyForEnable
    (h : readyForEnable (config.evaluate feedback command intent deviceHealth nowNs) = true) :
    config.feedbackFresh feedback nowNs = true := by
  simp only [readyForEnable, evaluate, evaluateBase, Bool.and_eq_true] at h
  exact h.1.1.2

/-- An axis that may run may be enabled. -/
theorem readyForEnable_of_readyForRun
    (h : readyForRun (config.evaluate feedback command intent deviceHealth nowNs) = true) :
    readyForEnable (config.evaluate feedback command intent deviceHealth nowNs) = true := by
  simp only [readyForRun, evaluate, evaluateBase, Bool.and_eq_true] at h
  simp only [readyForEnable, evaluate, evaluateBase, Bool.and_eq_true]
  exact h.1.1

end AxisReadinessEvaluator

end CanDriver
