import CanDriver.AxisReadinessEvaluator
import CanDriver.OperationalCoordinator

/-!
# CanDriver.LifecycleDriverOps

What the lifecycle does to the motors: which axes a request acts on, the batches of
motor actions, and the checks that read the records of the axes.

A member function is a program over `LifecycleOp`: a critical section on the target
lists or on the readiness evaluator, a motor action, a question to a protocol, a look
at the shared state or at the clock, and what `CanDriverRuntime` adds to these.
-/

namespace CanDriver

open Interact AxisReadinessEvaluator

/-! ## targets -/

/-- `MotorActionExecutor::Target`. -/
structure Target where
  name : String
  canDevice : String
  protocol : CanType
  motorId : MotorID
deriving DecidableEq, Repr

/-- The axis of a target. -/
def Target.axisKey (target : Target) : AxisKey :=
  makeAxisKey target.canDevice target.protocol target.motorId

/-- `MotorActionExecutor::Status`. -/
inductive Status where
  | ok | deviceNotReady | protocolUnavailable | rejected | exception
deriving DecidableEq, Repr

/-- The actions the lifecycle asks of the protocols. -/
inductive MotorAction where
  | enable | disable | stop | resetFault
deriving DecidableEq, Repr

/-- `filterTargetsByDevice`. -/
def filterTargetsByDevice (targets : List Target) (device : String) : List Target :=
  targets.filter fun target => target.canDevice == device

/-- What `targetsMutex_` guards. -/
structure LifecycleTargets where
  targets : List Target := []
  activeTargets : List Target := []
deriving DecidableEq, Repr

namespace LifecycleTargets

/-- `lifecycleTargetsSnapshot`: the active targets, or all of them if there are none. -/
def lifecycleTargets (s : LifecycleTargets) : List Target :=
  if s.activeTargets.isEmpty then s.targets else s.activeTargets

/-- `activateTargetsForDevice`. -/
def activateTargetsForDevice (device : String) (deviceTargets : List Target)
    (s : LifecycleTargets) : LifecycleTargets :=
  { s with
    activeTargets := (s.activeTargets.filter fun target => target.canDevice != device) ++
      deviceTargets }

/-- `deactivateTargetsForDevice`. -/
def deactivateTargetsForDevice (device : String) (s : LifecycleTargets) : LifecycleTargets :=
  { s with activeTargets := s.activeTargets.filter fun target => target.canDevice != device }

/-- `clearActiveTargets`. -/
def clearActiveTargets (s : LifecycleTargets) : LifecycleTargets := { s with activeTargets := [] }

end LifecycleTargets

/-- `AxisRecoverTracker`. -/
structure AxisRecoverTracker where
  healthyCycles : Nat := 0
  lastSampleNs : Time := 0
deriving DecidableEq, Repr

/-- What `axisReadinessMutex_` guards. -/
structure AxisReadinessTracking where
  evaluator : AxisReadinessEvaluator := {}
  trackers : String → Option AxisRecoverTracker := fun _ => none

/-- The critical section of `evaluateAxisReadiness`: while an axis recovers, count its
samples that are healthy. -/
def AxisReadinessTracking.evaluateAxisReadiness (axisKey : AxisKey) (feedback : AxisFeedbackState)
    (command : Option AxisCommandState) (intent : AxisIntent)
    (deviceHealth : Option DeviceHealthState) (nowNs : Time) (s : AxisReadinessTracking) :
    AxisReadiness × AxisReadinessTracking :=
  let readiness := s.evaluator.evaluate feedback command intent deviceHealth nowNs
  let mapKey := axisMapKey axisKey
  let erased := { s with trackers := Function.update s.trackers mapKey none }
  if intent ≠ .recover then
    ({ readiness with recoverConfirmed := readiness.axisReadyForEnable }, erased)
  else if !readiness.axisReadyForEnable then
    ({ readiness with recoverConfirmed := false }, erased)
  else
    let tracker := (s.trackers mapKey).getD {}
    let cycles := max 1 s.evaluator.recoverConfirmCycles
    let tracker :=
      if 0 < feedback.lastRxSteadyNs ∧ feedback.lastRxSteadyNs ≠ tracker.lastSampleNs then
        { lastSampleNs := feedback.lastRxSteadyNs
          healthyCycles := min (tracker.healthyCycles + 1) cycles }
      else
        { tracker with healthyCycles := max tracker.healthyCycles 1 }
    ({ readiness with recoverConfirmed := decide (cycles ≤ tracker.healthyCycles) },
      { s with trackers := put s.trackers mapKey tracker })

/-! ## the operations of a member function -/

/-- The hooks of `CanDriverRuntime` that prepare a device. -/
inductive StandbyHook where
  | applyPersistedPpZeroOffsets
  | syncStartupPositionAndCommands
  | applyPpDefaultVelocities
  | applyInitialModes
deriving DecidableEq, Repr

/-- What the lifecycle does to the outside, step by step. -/
inductive LifecycleOp where
  | targets (f : LifecycleTargets → LifecycleTargets)
  | readiness (f : AxisReadinessTracking → AxisReadinessTracking)
  | loopback (f : (String → Option Bool) → String → Option Bool)
  | active (active : Bool)
  | initDevice (device : String) (motors : List (CanType × MotorID)) (loopback : Bool)
  | shutdownDevice (device : String)
  | shutdownAll
  | execute (action : MotorAction) (target : Target)
  | isDeviceReady (device : String)
  | hasFault (target : Target)
  | isEnabled (target : Target)
  | shared
  | clock
  | hook (hook : StandbyHook) (device : String)
  | setDeviceRefreshRate (device : String) (startup : Bool)
  | recoverDevices
  | clearCommandState
  | holdCommands
  | armFreshCommandLatch

/-- The answers: a critical section the state it found, `initDevice` and a hook whether
they succeeded, a question to a protocol nothing if there is no protocol object. -/
@[reducible] def LifecycleOp.Ans : LifecycleOp → Type
  | .targets _ => LifecycleTargets
  | .readiness _ => AxisReadinessTracking
  | .loopback _ => String → Option Bool
  | .active _ => Unit
  | .initDevice _ _ _ => Bool
  | .shutdownDevice _ => Unit
  | .shutdownAll => Unit
  | .execute _ _ => Status
  | .isDeviceReady _ => Bool
  | .hasFault _ => Option Bool
  | .isEnabled _ => Option Bool
  | .shared => SharedDriverState
  | .clock => Time
  | .hook _ _ => Bool
  | .setDeviceRefreshRate _ _ => Unit
  | .recoverDevices => List String
  | .clearCommandState => Unit
  | .holdCommands => Unit
  | .armFreshCommandLatch => Unit

/-- The interface of the lifecycle. -/
abbrev lifecycleSig : Sig := ⟨LifecycleOp, LifecycleOp.Ans⟩

/-- A lifecycle program. -/
abbrev Lifecycle (α : Type) := Prog lifecycleSig α

namespace LifecycleDriverOps

/-- Ask for one operation. -/
def askOps (op : LifecycleOp) : Lifecycle op.Ans := Prog.vis (S := lifecycleSig) op .ret

/-- A critical section on the target lists. -/
def modifyTargets (f : LifecycleTargets → LifecycleTargets) : Lifecycle Unit := do
  let _ ← askOps (.targets f)
  pure ()

/-- `axisRecoverTrackers_.clear()`. -/
def clearTrackers : Lifecycle Unit := do
  let _ ← askOps (.readiness fun s => { s with trackers := fun _ => none })
  pure ()

/-- `targetsSnapshot`. -/
def targetsSnapshot : Lifecycle (List Target) := do
  let s ← askOps (.targets id)
  pure s.targets

/-- `lifecycleTargetsSnapshot`. -/
def lifecycleTargetsSnapshot : Lifecycle (List Target) := do
  let s ← askOps (.targets id)
  pure s.lifecycleTargets

/-- `setTargets`. -/
def setTargets (targets : List Target) : Lifecycle Unit := do
  modifyTargets fun _ => { targets }
  clearTrackers

/-- `deactivateTargetsForDevice`. -/
def deactivateTargetsForDevice (device : String) : Lifecycle Unit := do
  modifyTargets (LifecycleTargets.deactivateTargetsForDevice device)
  clearTrackers

/-- `clearActiveTargets`. -/
def clearActiveTargets : Lifecycle Unit := do
  modifyTargets LifecycleTargets.clearActiveTargets
  clearTrackers

/-! ## batches of motor actions -/

/-- `MotorActionExecutor::BatchResult`. -/
structure BatchResult where
  anySuccess : Bool := false
  anyFailure : Bool := false
  firstFailure : Status := .ok
  succeededTargets : List Target := []
deriving DecidableEq, Repr

/-- One more outcome of a batch. -/
def BatchResult.note (result : BatchResult) (target : Target) (status : Status) : BatchResult :=
  if status = .ok then
    { result with anySuccess := true, succeededTargets := result.succeededTargets ++ [target] }
  else
    { result with
      anyFailure := true
      firstFailure := if result.firstFailure = .ok then status else result.firstFailure }

/-- The loop of `executeBatch`. -/
def executeFrom (action : MotorAction) (result : BatchResult) : List Target → Lifecycle BatchResult
  | [] => pure result
  | target :: targets => do
      let status ← askOps (.execute action target)
      executeFrom action (result.note target status) targets

/-- `MotorActionExecutor::executeBatch`. -/
def executeBatch (targets : List Target) (action : MotorAction) : Lifecycle BatchResult :=
  executeFrom action {} targets

/-- `makeMotorActionFailureResult`. -/
def makeMotorActionFailureResult (status : Status)
    (rejectedMessage protocolUnavailableMessage : String) : Result :=
  match status with
  | .deviceNotReady => ⟨false, "CAN device not ready."⟩
  | .protocolUnavailable => ⟨false, protocolUnavailableMessage⟩
  | .rejected => ⟨false, rejectedMessage⟩
  | _ => ⟨false, "Command execution failed."⟩

theorem makeMotorActionFailureResult_ok (status : Status) (rejected unavailable : String) :
    (makeMotorActionFailureResult status rejected unavailable).ok = false := by
  cases status <;> rfl

/-- `runMotorBatchAction`, for the callers that do not require a target. -/
def runMotorBatchAction (targets : List Target) (action : MotorAction)
    (rejectedMessage protocolUnavailableMessage : String) : Lifecycle Result :=
  if targets.isEmpty then
    pure ⟨true, "No joints to process."⟩
  else do
    let batch ← executeBatch targets action
    if batch.anyFailure then
      pure (makeMotorActionFailureResult batch.firstFailure rejectedMessage
        protocolUnavailableMessage)
    else
      pure ⟨true, ""⟩

/-! ## questions about one axis -/

/-- Ask for the time, then enter the critical section of `evaluateAxisReadiness`. -/
def evaluateAxisReadiness (axisKey : AxisKey) (feedback : AxisFeedbackState)
    (command : Option AxisCommandState) (intent : AxisIntent)
    (deviceHealth : Option DeviceHealthState) : Lifecycle AxisReadiness := do
  let nowNs ← askOps .clock
  let s ← askOps (.readiness fun s =>
    (s.evaluateAxisReadiness axisKey feedback command intent deviceHealth nowNs).2)
  pure (s.evaluateAxisReadiness axisKey feedback command intent deviceHealth nowNs).1

/-- `queryMotorFault`: what is published, else what the protocol says. -/
def queryMotorFault (target : Target) : Lifecycle (Option Bool) := do
  let shared ← askOps .shared
  match shared.getAxisFeedback target.axisKey with
  | some feedback =>
      if feedback.feedbackSeen && feedback.faultValid then pure (some feedback.fault)
      else askOps (.hasFault target)
  | none => askOps (.hasFault target)

/-- `queryMotorEnabled`: what is published, else what the protocol says. -/
def queryMotorEnabled (target : Target) : Lifecycle (Option Bool) := do
  let shared ← askOps .shared
  match shared.getAxisFeedback target.axisKey with
  | some feedback =>
      if feedback.feedbackSeen && feedback.enabledValid then pure (some feedback.enabled)
      else askOps (.isEnabled target)
  | none => askOps (.isEnabled target)

/-- An unknown fault flag is asked for. -/
def withFault (target : Target) (feedback : AxisFeedbackState) : Lifecycle AxisFeedbackState :=
  if feedback.faultValid then
    pure feedback
  else do
    match ← queryMotorFault target with
    | some fault => pure { feedback with fault, faultValid := true }
    | none => pure feedback

/-- An enable flag is asked for if `needed`. -/
def withEnabled (target : Target) (needed : Bool) (feedback : AxisFeedbackState) :
    Lifecycle AxisFeedbackState :=
  if needed then do
    match ← queryMotorEnabled target with
    | some enabled => pure { feedback with enabled, enabledValid := true }
    | none => pure feedback
  else
    pure feedback

/-- The end of a check that found no record: the fault flag of the protocol decides. -/
def faultBlock (target : Target) : Lifecycle (Option String) := do
  match ← queryMotorFault target with
  | none => pure (some "Protocol not available.")
  | some true => pure (some "Fault still active.")
  | some false => pure none

/-- What keeps an axis from being enabled, if anything (the body of `enableHealthyOnce`). -/
def enableBlock (target : Target) : Lifecycle (Option String) := do
  let ready ← askOps (.isDeviceReady target.canDevice)
  if !ready then
    pure (some "CAN device not ready.")
  else
    let shared ← askOps .shared
    match shared.getAxisFeedback target.axisKey with
    | some feedback =>
        let shared ← askOps .shared
        let command := shared.getAxisCommand target.axisKey
        let shared ← askOps .shared
        let deviceHealth := shared.getDeviceHealth target.canDevice
        let feedback ← withFault target feedback
        let readiness ← evaluateAxisReadiness target.axisKey feedback command .enable deviceHealth
        if readyForEnable readiness then pure none
        else pure (some (target.name ++ ": " ++ describeBlockReason readiness))
    | none => faultBlock target

/-- A mode nobody has reported counts as the desired one, but for DM. -/
def withDesiredMode (target : Target) (command : Option AxisCommandState)
    (feedback : AxisFeedbackState) : AxisFeedbackState :=
  match command with
  | some command =>
      if target.protocol ≠ .DM ∧ !feedback.modeValid ∧ command.desiredModeValid then
        { feedback with mode := command.desiredMode, modeValid := true }
      else feedback
  | none => feedback

/-- What keeps an axis from moving, if anything (the body of `motionHealthyOnce`). -/
def motionBlock (target : Target) : Lifecycle (Option String) := do
  let ready ← askOps (.isDeviceReady target.canDevice)
  if !ready then
    pure (some "CAN device not ready.")
  else
    let shared ← askOps .shared
    match shared.getAxisFeedback target.axisKey with
    | some feedback =>
        let shared ← askOps .shared
        let command := shared.getAxisCommand target.axisKey
        let shared ← askOps .shared
        let deviceHealth := shared.getDeviceHealth target.canDevice
        let feedback ← withFault target feedback
        let feedback ← withEnabled target (!feedback.enabledValid) feedback
        let feedback := withDesiredMode target command feedback
        let shared ← askOps .shared
        let readiness ← evaluateAxisReadiness target.axisKey feedback command
          (shared.getAxisIntent target.axisKey) deviceHealth
        if readyForRun readiness then pure none
        else pure (some (target.name ++ ": " ++ describeBlockReason readiness))
    | none => faultBlock target

/-- Why an axis does not count as enabled yet (the body of `waitForEnabledTargets`). -/
def unconfirmedEnable (target : Target) : Lifecycle (Option String) := do
  let ready ← askOps (.isDeviceReady target.canDevice)
  if !ready then
    pure (some "CAN device not ready.")
  else
    let shared ← askOps .shared
    match shared.getAxisFeedback target.axisKey with
    | some feedback =>
        let shared ← askOps .shared
        let command := shared.getAxisCommand target.axisKey
        let shared ← askOps .shared
        let deviceHealth := shared.getDeviceHealth target.canDevice
        let feedback ← withFault target feedback
        let feedback ← withEnabled target (!feedback.enabledValid || !feedback.enabled) feedback
        let readiness ← evaluateAxisReadiness target.axisKey feedback command .enable deviceHealth
        if readyForEnable readiness && readiness.enabledReady then pure none
        else pure (some (target.name ++ ": " ++ describeBlockReason readiness))
    | none =>
        match ← queryMotorEnabled target with
        | none => pure (some (target.name ++ ": Protocol not available."))
        | some false => pure (some (target.name ++ ": Axis not enabled."))
        | some true => pure none

/-! ## questions about all axes -/

/-- Ask the targets in order; the first one that objects ends the round. -/
def firstBlock (check : Target → Lifecycle (Option α)) : List Target → Lifecycle (Option α)
  | [] => pure none
  | target :: targets => do
      match ← check target with
      | some reason => pure (some reason)
      | none => firstBlock check targets

/-- `enableHealthyOnce`: the detail, if it fails. -/
def enableHealthyOnce : Lifecycle (Option String) := do
  let targets ← lifecycleTargetsSnapshot
  firstBlock enableBlock targets

/-- `motionHealthyOnce`: the detail, if it fails. -/
def motionHealthyOnce : Lifecycle (Option String) := do
  let targets ← lifecycleTargetsSnapshot
  firstBlock motionBlock targets

/-- Whether a text contains another (`std::string::find`). -/
def contains (text part : String) : Bool :=
  text.toList.tails.any fun tail => part.toList.isPrefixOf tail

/-- The objections that may pass. -/
def retryable (detail : String) : Bool :=
  contains detail "Feedback degraded." || contains detail "Feedback offline." ||
    contains detail "Feedback stale."

/-- Repeat a check every 50 ms until it passes, objects for good or the time is up. -/
def healthyUntil (once : Lifecycle (Option String)) (deadline : Time) :
    Nat → Lifecycle (Bool × String)
  | 0 => pure (false, "")
  | polls + 1 => do
      match ← once with
      | none => pure (true, "")
      | some detail =>
          if retryable detail then
            let t ← askOps .clock
            if deadline ≤ t then pure (false, detail) else healthyUntil once deadline polls
          else
            pure (false, detail)

/-- `enableHealthy`: for 750 ms. -/
def enableHealthy : Lifecycle (Bool × String) := do
  let t ← askOps .clock
  healthyUntil enableHealthyOnce (t + ms 750) 16

/-- `motionHealthy`: for 1250 ms. -/
def motionHealthy : Lifecycle (Bool × String) := do
  let t ← askOps .clock
  healthyUntil motionHealthyOnce (t + ms 1250) 26

/-- `anyFaultActive`, among these targets. -/
def faultAmong (targets : List Target) : Lifecycle Bool := do
  let fault ← firstBlock (fun target => do
    let fault ← queryMotorFault target
    pure (if fault = some true then some () else none)) targets
  pure fault.isSome

/-- `anyFaultActive`. -/
def anyFaultActive : Lifecycle Bool := do
  let targets ← lifecycleTargetsSnapshot
  faultAmong targets

/-! ## the requests -/

/-- The loop of `waitForEnabledTargets`, one round every 50 ms for two seconds. -/
def waitForEnabledUntil (targets : List Target) (deadline : Time) (firstFailureDetail : String) :
    Nat → Lifecycle Result
  | 0 => pure ⟨false, "Enable confirmation timeout: " ++ firstFailureDetail⟩
  | polls + 1 => do
      let t ← askOps .clock
      if t < deadline then
        match ← firstBlock unconfirmedEnable targets with
        | none => pure ⟨true, "enabled (armed)"⟩
        | some detail => waitForEnabledUntil targets deadline detail polls
      else
        pure ⟨false, "Enable confirmation timeout: " ++ firstFailureDetail⟩

/-- `waitForEnabledTargets`. -/
def waitForEnabledTargets (targets : List Target) : Lifecycle Result := do
  let t ← askOps .clock
  waitForEnabledUntil targets (t + ms 2000) "Axis not enabled." 41

/-- Disable what was enabled, and report the failure that led here unless this fails too. -/
def rollbackEnable (succeeded : List Target) (failure : Result)
    (rejectedMessage protocolUnavailableMessage : String) : Lifecycle Result :=
  if succeeded.isEmpty then
    pure failure
  else do
    let rollback ← executeBatch succeeded .disable
    if rollback.anyFailure then
      pure (makeMotorActionFailureResult rollback.firstFailure rejectedMessage
        protocolUnavailableMessage)
    else
      pure failure

/-- `enableAll`, of these targets. -/
def enableTargets (targets : List Target) : Lifecycle Result :=
  if targets.isEmpty then
    pure ⟨false, "No joints available for enable."⟩
  else do
    let batch ← executeBatch targets .enable
    if batch.anyFailure then
      rollbackEnable batch.succeededTargets
        (makeMotorActionFailureResult batch.firstFailure "Enable command rejected."
          "Protocol not available.")
        "Enable rollback failed after partial success."
        "Protocol not available during enable rollback."
    else if !batch.anySuccess then
      pure ⟨false, "No joints available for enable."⟩
    else
      let confirmed ← waitForEnabledTargets targets
      if confirmed.ok then
        pure ⟨true, "enabled (armed)"⟩
      else
        rollbackEnable batch.succeededTargets confirmed
          "Enable confirmation rollback failed after enable timeout."
          "Protocol not available during enable confirmation rollback."

/-- `enableAll`. -/
def enableAll : Lifecycle Result := do
  let targets ← lifecycleTargetsSnapshot
  enableTargets targets

/-- `disableAll`, of these targets. -/
def disableTargets (targets : List Target) : Lifecycle Result :=
  runMotorBatchAction targets .disable "Disable command rejected." "Protocol not available."

/-- `disableAll`. -/
def disableAll : Lifecycle Result := do
  let targets ← lifecycleTargetsSnapshot
  disableTargets targets

/-- `haltAll`, of these targets. -/
def haltTargets (targets : List Target) : Lifecycle Result :=
  runMotorBatchAction targets .stop "Halt command rejected." "Protocol not available."

/-- `haltAll`. -/
def haltAll : Lifecycle Result := do
  let targets ← lifecycleTargetsSnapshot
  haltTargets targets

/-- Why an axis has not recovered yet: a reason to wait, or to give up (the body of the
loop of `recoverAll`). -/
def unrecovered (target : Target) : Lifecycle (Option (Option Result)) := do
  let ready ← askOps (.isDeviceReady target.canDevice)
  if !ready then
    pure (some none)
  else
    let shared ← askOps .shared
    match shared.getAxisFeedback target.axisKey with
    | some feedback =>
        let shared ← askOps .shared
        let command := shared.getAxisCommand target.axisKey
        let shared ← askOps .shared
        let deviceHealth := shared.getDeviceHealth target.canDevice
        let feedback ← withFault target feedback
        let readiness ← evaluateAxisReadiness target.axisKey feedback command .recover deviceHealth
        pure (if readiness.recoverConfirmed then none else some none)
    | none =>
        match ← queryMotorFault target with
        | none => pure (some (some ⟨false, "Protocol not available during fault verification."⟩))
        | some true => pure (some none)
        | some false => pure none

/-- The loop of `recoverAll`, one round every 50 ms for two seconds. -/
def recoverUntil (targets : List Target) (deadline : Time) : Nat → Lifecycle Result
  | 0 => pure ⟨false, "Recover timeout: fault still active."⟩
  | polls + 1 => do
      let t ← askOps .clock
      if t < deadline then
        match ← firstBlock unrecovered targets with
        | none => pure ⟨true, ""⟩
        | some (some failure) => pure failure
        | some none => recoverUntil targets deadline polls
      else
        pure ⟨false, "Recover timeout: fault still active."⟩

/-- `recoverAll`, of these targets. -/
def recoverTargets (targets : List Target) : Lifecycle Result :=
  if targets.isEmpty then
    pure ⟨false, "No motors available for recover."⟩
  else do
    let batch ← executeBatch targets .resetFault
    if !batch.anySuccess && batch.anyFailure then
      pure (makeMotorActionFailureResult batch.firstFailure "Recover command rejected."
        "Protocol fault-reset path not available.")
    else if !batch.anySuccess then
      pure ⟨false, "No motors available for recover."⟩
    else
      let t ← askOps .clock
      recoverUntil targets (t + ms 2000) 41

/-- `recoverAll`. -/
def recoverAll : Lifecycle Result := do
  let targets ← lifecycleTargetsSnapshot
  recoverTargets targets

/-- `shutdownAll`. -/
def shutdownAll : Lifecycle Result := do
  askOps .shutdownAll
  clearActiveTargets
  pure ⟨true, ""⟩

/-- `shutdownDevice`. -/
def shutdownDevice (device : String) : Lifecycle Result := do
  askOps (.shutdownDevice device)
  deactivateTargetsForDevice device
  pure ⟨true, ""⟩

/-- `prepareDevice`. -/
def prepareDevice (device : String) (loopback : Bool) : Lifecycle Result := do
  let targets ← targetsSnapshot
  let deviceTargets := filterTargetsByDevice targets device
  if deviceTargets.isEmpty then
    pure ⟨false, "No joints available for device " ++ device⟩
  else
    let ok ← askOps (.initDevice device
      (deviceTargets.map fun target => (target.protocol, target.motorId)) loopback)
    if ok then pure ⟨true, ""⟩ else pure ⟨false, "Failed to initialize " ++ device⟩

/-- `initializeDevice`, which also activates the targets of the device. -/
def initializeDevice (device : String) (loopback : Bool) : Lifecycle Result := do
  let prepare ← prepareDevice device loopback
  if prepare.ok then
    let targets ← targetsSnapshot
    modifyTargets (LifecycleTargets.activateTargetsForDevice device
      (filterTargetsByDevice targets device))
    pure ⟨true, "initialized (standby)"⟩
  else
    pure prepare

end LifecycleDriverOps

end CanDriver
