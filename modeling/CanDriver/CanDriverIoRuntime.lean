import CanDriver.CanDriverRuntime
import CanDriver.CommandGate

/-!
# CanDriver.CanDriverIoRuntime

The control cycle: `CanDriverHW::write` with the preparation and the dispatch of the
commands it is made of.

The cycle is a program of the coordinator interface, so that it meets the requests of
`OperationalCoordinator` at the same atomic mode.  Behind the driver table it works on the
joints (guarded by `jointStateMutex_`), on the command gate and on the protocols.
-/

namespace CanDriver

open Interact

/-! ## preparing the commands -/

/-- `WriteConfig`, and what else `write` is configured with. -/
structure WriteConfig where
  directCmdTimeoutSec : Double := .finite (1 / 2)
  debugBypassRosControl : Bool := false
  safetyStopOnFault : Bool := true
  safetyRequireEnabledForMotion : Bool := true
  maxPositionStepRad : Double := .finite 0
  safetyHoldAfterDeviceRecover : Bool := true
  feedbackFreshnessTimeoutNs : Time := 500000000
  lifecycleRequireEnabledForRunning : Bool := true

/-- `CanDriverDeviceProtocolGroup`. -/
structure CanDriverDeviceProtocolGroup where
  canDevice : String
  protocol : CanType
  jointIndices : List Nat
deriving DecidableEq, Repr

/-- The place of a protocol in the order of the enumeration. -/
def CanType.rank : CanType → Nat
  | .MT => 0
  | .PP => 1
  | .DM => 2
  | .ECB => 3

/-- The order of the keys of the map `rebuildJointGroups` builds. -/
def groupKeyLe (key key' : String × CanType) : Bool :=
  decide (key.1 < key'.1) || decide (key.1 = key'.1) && decide (key.2.rank ≤ key'.2.rank)

/-- `rebuildJointGroups`: the joints of each device and protocol, in the order of these. -/
def CanDriverHW.rebuildJointGroups (hw : CanDriverHW) : List CanDriverDeviceProtocolGroup :=
  let keys := (hw.joints.map fun joint => (joint.canDevice, joint.protocol)).dedup
  (keys.mergeSort groupKeyLe).map fun key =>
    { canDevice := key.1
      protocol := key.2
      jointIndices := (List.range hw.joints.length).filter fun index =>
        (hw.joints[index]?).any fun joint => (joint.canDevice, joint.protocol) == key }

/-- `CanDriverPreparedCommand`, with its entry of the raw command buffer. -/
structure CanDriverPreparedCommand where
  valid : Bool := false
  motorId : MotorID
  route : PreparedCommandRoute
  raw : Int32 := 0
deriving DecidableEq, Repr

/-- `std::clamp`. -/
def Double.clamp (value lower upper : Double) : Double :=
  if value.lt lower then lower else if upper.lt value then upper else value

/-- `clampWithJointLimits`. -/
def clampWithJointLimits (joint : CanDriverJointConfig) (cmdValue : Double) : Double :=
  if !joint.hasLimits || !cmdValue.isFinite then cmdValue
  else if joint.usesVelocity && joint.limits.hasVelocityLimits then
    cmdValue.clamp joint.limits.maxVelocity.neg joint.limits.maxVelocity
  else if !joint.usesVelocity && joint.limits.hasPositionLimits then
    cmdValue.clamp joint.limits.minPosition joint.limits.maxPosition
  else cmdValue

/-- Whether a direct command is recent enough. -/
def directCommandAlive (config : WriteConfig) (now : Time) (joint : CanDriverJointConfig) : Bool :=
  (Double.finite ((now - joint.lastDirectCommandTime : Int) / 1000000000)).le
    config.directCmdTimeoutSec

/-- The first loop of `PrepareCommands`: look for a direct command that counts, and clear
the old ones on the way. -/
def scanDirectCommands (config : WriteConfig) (now : Time) :
    List CanDriverJointConfig → Bool × List CanDriverJointConfig
  | [] => (false, [])
  | joint :: joints =>
      let rest := scanDirectCommands config now joints
      if !joint.hasDirectCommand then (rest.1, joint :: rest.2)
      else if directCommandAlive config now joint then (true, joint :: joints)
      else (rest.1, joint.clearDirectCommand :: rest.2)

/-- Whether a joint is moved by its direct command. -/
def usesDirectCommand (config : WriteConfig) (now : Time) (joint : CanDriverJointConfig) : Bool :=
  joint.hasDirectCommand && (config.debugBypassRosControl || directCommandAlive config now joint)

/-- Limit the step of a position command. -/
def limitPositionStep (config : WriteConfig) (joint : CanDriverJointConfig) (cmdValue : Double) :
    Double :=
  if !joint.usesVelocity && Double.lt (.finite 0) config.maxPositionStepRad &&
      cmdValue.isFinite && joint.pos.isFinite then
    let delta := cmdValue.sub joint.pos
    let limited :=
      if config.maxPositionStepRad.lt delta.abs then
        joint.pos.add
          (if delta.isNegative then config.maxPositionStepRad.neg else config.maxPositionStepRad)
      else cmdValue
    clampWithJointLimits joint limited
  else cmdValue

/-- The raw value of a command. -/
def rawCommand (joint : CanDriverJointConfig) (cmdValue : Double) : Option Int32 :=
  scaleAndClampToInt32 (if joint.usesVelocity then cmdValue else joint.toRawPositionCommand cmdValue)
    joint.scale

/-- The second loop of `PrepareCommands`, the value a joint is commanded to: none without a
command, or while it waits for an aligned one. -/
def commandValue (config : WriteConfig) (now : Time) (activeDirectCommandPresent : Bool)
    (joint : CanDriverJointConfig) : Option Double :=
  let useDirect := usesDirectCommand config now joint
  let cmdValue := if useDirect then joint.directCommandValue else joint.fallbackCommandValue
  if !useDirect && (config.debugBypassRosControl || activeDirectCommandPresent) then none
  else
    let cmdValue := clampWithJointLimits joint cmdValue
    if joint.requireCommandAlignment && !joint.alignedWith cmdValue then none
    else some (limitPositionStep config joint cmdValue)

/-- The second loop of `PrepareCommands`, what becomes of a joint: an old direct command is
cleared, and a command that may be sent ends the wait for an aligned one. -/
def preparedJoint (config : WriteConfig) (now : Time) (activeDirectCommandPresent : Bool)
    (joint : CanDriverJointConfig) : CanDriverJointConfig :=
  let cleared :=
    if joint.hasDirectCommand && !usesDirectCommand config now joint then joint.clearDirectCommand
    else joint
  if (commandValue config now activeDirectCommandPresent joint).isSome then
    { cleared with requireCommandAlignment := false }
  else cleared

/-- The second loop of `PrepareCommands`: the joint, and its raw command if there is one to
be sent. -/
def prepareJoint (config : WriteConfig) (now : Time) (activeDirectCommandPresent : Bool)
    (joint : CanDriverJointConfig) : CanDriverJointConfig × Option Int32 :=
  (preparedJoint config now activeDirectCommandPresent joint,
    (commandValue config now activeDirectCommandPresent joint).bind (rawCommand joint))

/-- The command prepared for a joint. -/
def preparedCommand (joint : CanDriverJointConfig) (raw : Option Int32) :
    CanDriverPreparedCommand where
  valid := raw.isSome
  motorId := joint.motorId
  route := controlModeDispatchRoute joint.mode
  raw := raw.getD 0

/-- `PrepareCommands`, the first loop: whether a direct command counts, and the joints it
leaves. -/
def scannedJoints (config : WriteConfig) (now : Time) (joints : List CanDriverJointConfig) :
    Bool × List CanDriverJointConfig :=
  if config.debugBypassRosControl then (false, joints) else scanDirectCommands config now joints

/-- `PrepareCommands`, all joints. -/
def prepareJoints (config : WriteConfig) (now : Time) (joints : List CanDriverJointConfig) :
    List (CanDriverJointConfig × Option Int32) :=
  (scannedJoints config now joints).2.map
    (prepareJoint config now (scannedJoints config now joints).1)

/-- `PrepareCommands`, what becomes of the joints. -/
def prepareCommands (config : WriteConfig) (now : Time) (hw : CanDriverHW) : CanDriverHW :=
  let prepared := prepareJoints config now hw.joints
  { hw with
    joints := prepared.map Prod.fst
    commandValidBuffer := prepared.map fun e => e.2.isSome }

/-- `PrepareCommands`, the prepared commands. -/
def preparedCommands (config : WriteConfig) (now : Time) (hw : CanDriverHW) :
    List CanDriverPreparedCommand :=
  (prepareJoints config now hw.joints).map fun e => preparedCommand e.1 e.2

/-! ## critical sections -/

/-- `clearGroupCommands`. -/
def clearGroupCommands (group : CanDriverDeviceProtocolGroup) (hw : CanDriverHW) : CanDriverHW :=
  { hw with
    joints := hw.joints.mapIdx fun index joint =>
      if index ∈ group.jointIndices then { joint.holdCommand with stopIssuedOnFault := false }
      else joint
    commandValidBuffer := hw.commandValidBuffer.mapIdx fun index valid =>
      if index ∈ group.jointIndices then false else valid }

/-- Set the flag of a joint that a stop was sent because of a fault. -/
def CanDriverHW.noteStopIssued (index : Nat) (issued : Bool) (hw : CanDriverHW) : CanDriverHW :=
  { hw with joints := hw.joints.modify index fun joint => { joint with stopIssuedOnFault := issued } }

/-- Forget which commands are valid. -/
def CanDriverHW.invalidateCommands (hw : CanDriverHW) : CanDriverHW :=
  { hw with commandValidBuffer := hw.commandValidBuffer.map fun _ => false }

/-- What the joint limit interfaces make of the position and the velocity command of the
joint at an index. -/
abbrev CommandLimiter := Nat → CanDriverJointConfig → Double × Double

/-- Limits that are kept already. -/
def keepCommands : CommandLimiter := fun _ joint => (joint.posCmd, joint.velCmd)

/-- `enforceLimits`. -/
def CanDriverHW.enforceLimits (limiter : CommandLimiter) (hw : CanDriverHW) : CanDriverHW :=
  { hw with
    joints := hw.joints.mapIdx fun index joint =>
      { joint with posCmd := (limiter index joint).1, velCmd := (limiter index joint).2 } }

/-- The critical sections of `jointStateMutex_` in a control cycle. -/
inductive JointOp where
  | read
  | hold
  | invalidate
  | limit (limiter : CommandLimiter)
  | prepare (config : WriteConfig) (now : Time)
  | clearGroup (group : CanDriverDeviceProtocolGroup)
  | noteStopIssued (index : Nat) (issued : Bool)

/-- What a critical section does to the joints. -/
def JointOp.apply : JointOp → CanDriverHW → CanDriverHW
  | .read, hw => hw
  | .hold, hw => hw.holdCommandsForLifecycleTransition
  | .invalidate, hw => hw.invalidateCommands
  | .limit limiter, hw => hw.enforceLimits limiter
  | .prepare config now, hw => prepareCommands config now hw
  | .clearGroup group, hw => clearGroupCommands group hw
  | .noteStopIssued index issued, hw => hw.noteStopIssued index issued

/-- The critical sections of the mutex of `CommandGate`. -/
inductive GateOp where
  | read
  | arm (snapshots : List CommandSnapshot)
  | consume (snapshots : List CommandSnapshot)
  | observe (device : String) (isReady : Bool)

/-- What a critical section does to the gate. -/
def GateOp.apply : GateOp → CommandGate → CommandGate
  | .read, gate => gate
  | .arm snapshots, gate => gate.arm snapshots
  | .consume snapshots, gate => gate.consume snapshots
  | .observe device isReady, gate => gate.observeDeviceReady device isReady

/-! ## the operations of a control cycle -/

/-- What the hardware interface does to the outside, step by step; a command is sent for the
joint at an index. -/
inductive HwOp where
  | lifecycle (op : LifecycleOp)
  | active
  | hw (op : JointOp)
  | gate (op : GateOp)
  | rosNow
  | hasProtocol (device : String) (protocol : CanType)
  | lockDevice (device : String)
  | unlockDevice (device : String)
  | hasFault (device : String) (protocol : CanType) (motorId : MotorID)
  | isEnabled (device : String) (protocol : CanType) (motorId : MotorID)
  | stop (device : String) (protocol : CanType) (motorId : MotorID)
  | send (index : Nat) (route : PreparedCommandRoute) (device : String) (protocol : CanType)
      (motorId : MotorID) (raw : Int32)

/-- The answers: a critical section the state it found, a command whether it was taken. -/
@[reducible] def HwOp.Ans : HwOp → Type
  | .lifecycle op => op.Ans
  | .active => Bool
  | .hw _ => CanDriverHW
  | .gate _ => CommandGate
  | .rosNow => Time
  | .hasProtocol _ _ => Bool
  | .lockDevice _ => Unit
  | .unlockDevice _ => Unit
  | .hasFault _ _ _ => Bool
  | .isEnabled _ _ _ => Bool
  | .stop _ _ _ => Bool
  | .send _ _ _ _ _ _ => Bool

/-- The interface of the hardware interface. -/
abbrev hwSig : Sig := ⟨HwOp, HwOp.Ans⟩

/-- A program of the hardware interface. -/
abbrev Hardware (α : Type) := Prog hwSig α

/-- Ask for one operation. -/
def askHw (op : HwOp) : Hardware op.Ans := Prog.vis (S := hwSig) op .ret

/-- A lifecycle program, run by the hardware interface. -/
def onLifecycle (p : Lifecycle α) : Hardware α :=
  p.mapOp (S := hwSig) HwOp.lifecycle fun _ r => r

/-- The joints as they are. -/
def readHw : Hardware CanDriverHW := askHw (.hw .read)

/-- A critical section on the joints. -/
def modifyHw (op : JointOp) : Hardware Unit := do
  let _ ← askHw (.hw op)
  pure ()

/-- A critical section on the gate. -/
def modifyGate (op : GateOp) : Hardware Unit := do
  let _ ← askHw (.gate op)
  pure ()

/-! ## the command gate -/

/-- `CommandGate::holdCommands`. -/
def holdCommands : Hardware Unit := modifyHw .hold

/-- `CommandGate::armFreshCommandLatch`. -/
def armFreshCommandLatch : Hardware Unit := do
  let hw ← readHw
  modifyGate (.arm hw.captureCommandSnapshots)

/-- `CommandGate::consumeFreshCommandLatchIfSatisfied`. -/
def consumeFreshCommandLatchIfSatisfied : Hardware Bool := do
  let gate ← askHw (.gate .read)
  if !gate.freshCommandRequired then
    pure true
  else
    let hw ← readHw
    let snapshots := hw.captureCommandSnapshots
    let gate ← askHw (.gate (.consume snapshots))
    pure (gate.satisfiedBy snapshots)

/-! ## dispatching them -/

/-- `sharedFeedbackFresh`. -/
def sharedFeedbackFresh (feedback : AxisFeedbackState) (nowNs timeoutNs : Time) : Bool :=
  if feedback.feedbackSeen && decide (0 < feedback.lastRxSteadyNs) then
    decide (timeoutNs ≤ 0) || decide (nowNs ≤ feedback.lastRxSteadyNs) ||
      decide (nowNs - feedback.lastRxSteadyNs ≤ timeoutNs)
  else false

/-- `MotionStatusSnapshot`: the enabled and the fault flag of an axis with fresh feedback. -/
def motionStatus (config : WriteConfig) (shared : SharedDriverState) (nowNs : Time)
    (key : AxisKey) : Option (Bool × Bool) :=
  match shared.getAxisFeedback key with
  | some feedback =>
      if sharedFeedbackFresh feedback nowNs config.feedbackFreshnessTimeoutNs then
        some (feedback.enabled, feedback.fault)
      else none
  | none => none

/-- The fault flag a dispatch goes by. -/
def dispatchFault (device : String) (protocol : CanType) (motorId : MotorID) :
    Option (Bool × Bool) → Hardware Bool
  | some status => pure status.2
  | none => askHw (.hasFault device protocol motorId)

/-- The enabled flag a dispatch goes by. -/
def dispatchEnabled (device : String) (protocol : CanType) (motorId : MotorID) :
    Option (Bool × Bool) → Hardware Bool
  | some status => pure status.1
  | none => askHw (.isEnabled device protocol motorId)

/-- Whether a stop was already sent for a joint. -/
def CanDriverHW.stopIssued (hw : CanDriverHW) (index : Nat) : Bool :=
  (hw.joints[index]?).any CanDriverJointConfig.stopIssuedOnFault

/-- Send a prepared command, if the axis is enabled or need not be. -/
def sendCommand (config : WriteConfig) (group : CanDriverDeviceProtocolGroup) (index : Nat)
    (prepared : CanDriverPreparedCommand) (status : Option (Bool × Bool)) : Hardware Unit := do
  let enabled ← dispatchEnabled group.canDevice group.protocol prepared.motorId status
  if config.safetyRequireEnabledForMotion && !enabled then pure ()
  else
    let _ ← askHw (.send index prepared.route group.canDevice group.protocol prepared.motorId
      prepared.raw)
    pure ()

/-- The body of the inner loop of `DispatchPreparedCommands`; returns whether it saw a fault
that blocks the motion. -/
def dispatchJoint (config : WriteConfig) (group : CanDriverDeviceProtocolGroup) (index : Nat)
    (prepared : CanDriverPreparedCommand) (status : Option (Bool × Bool)) : Hardware Bool := do
  let hw ← readHw
  if !prepared.valid || !hw.commandValidBuffer[index]?.getD false then
    pure false
  else
    let fault ← dispatchFault group.canDevice group.protocol prepared.motorId status
    if config.safetyStopOnFault && fault then
      let hw ← askHw (.hw (.noteStopIssued index true))
      if hw.stopIssued index then
        pure true
      else
        let _ ← askHw (.stop group.canDevice group.protocol prepared.motorId)
        pure true
    else
      if config.safetyStopOnFault then
        modifyHw (.noteStopIssued index false)
        sendCommand config group index prepared status
        pure false
      else
        sendCommand config group index prepared status
        pure false

/-- The inner loop of `DispatchPreparedCommands`. -/
def dispatchJoints (config : WriteConfig) (group : CanDriverDeviceProtocolGroup)
    (prepared : List CanDriverPreparedCommand)
    (statuses : CanDriverPreparedCommand → Option (Bool × Bool)) (anyFault : Bool) :
    List Nat → Hardware Bool
  | [] => pure anyFault
  | index :: indices =>
      match prepared[index]? with
      | none => dispatchJoints config group prepared statuses anyFault indices
      | some command => do
          let fault ← dispatchJoint config group index command (statuses command)
          dispatchJoints config group prepared statuses (anyFault || fault) indices

/-- One group of a ready device. -/
def dispatchGroup (config : WriteConfig) (group : CanDriverDeviceProtocolGroup)
    (prepared : List CanDriverPreparedCommand) (anyFault : Bool) : Hardware Bool := do
  let nowNs ← askHw (.lifecycle .clock)
  let shared ← askHw (.lifecycle .shared)
  let hasProtocol ← askHw (.hasProtocol group.canDevice group.protocol)
  if !hasProtocol then
    pure anyFault
  else
    askHw (.lockDevice group.canDevice)
    let anyFault ← dispatchJoints config group prepared
      (fun command => motionStatus config shared nowNs
        (makeAxisKey group.canDevice group.protocol command.motorId)) anyFault group.jointIndices
    askHw (.unlockDevice group.canDevice)
    pure anyFault

/-- `DispatchPreparedCommands`: whether it observed a fault. -/
def dispatchPreparedCommands (config : WriteConfig) (prepared : List CanDriverPreparedCommand)
    (anyFault : Bool) : List CanDriverDeviceProtocolGroup → Hardware Bool
  | [] => pure anyFault
  | group :: groups => do
      let isReady ← askHw (.lifecycle (.isDeviceReady group.canDevice))
      let gate ← askHw (.gate (.observe group.canDevice isReady))
      if !isReady then
        modifyHw (.clearGroup group)
        dispatchPreparedCommands config prepared anyFault groups
      else if config.safetyHoldAfterDeviceRecover &&
          gate.deviceEvent group.canDevice isReady == .recovered then
        holdCommands
        armFreshCommandLatch
        dispatchPreparedCommands config prepared anyFault groups
      else
        let anyFault ← dispatchGroup config group prepared anyFault
        dispatchPreparedCommands config prepared anyFault groups

/-! ## the cycle -/

/-- The commands of a cycle: limits, preparation, dispatch. -/
def commandCycle (config : WriteConfig) (limiter : CommandLimiter)
    (groups : List CanDriverDeviceProtocolGroup) : Hardware Bool := do
  modifyHw (.limit limiter)
  let now ← askHw .rosNow
  let hw ← askHw (.hw (.prepare config now))
  dispatchPreparedCommands config (preparedCommands config now hw) false groups

/-- `lifecycleDetailIsFaultTrigger`. -/
def lifecycleDetailIsFaultTrigger (detail : String) : Bool :=
  !LifecycleDriverOps.contains detail "Feedback stale."

/-- `lifecycleHealthHealthy`: the detail, if it fails. -/
def lifecycleHealthHealthy (config : WriteConfig) : Coord hwSig (Option String) := do
  let mode ← load
  match mode with
  | .armed => driver (onLifecycle LifecycleDriverOps.enableHealthyOnce)
  | .running =>
      if config.lifecycleRequireEnabledForRunning then
        driver (onLifecycle LifecycleDriverOps.motionHealthyOnce)
      else driver (onLifecycle LifecycleDriverOps.enableHealthyOnce)
  | _ => pure none

/-- The end of a cycle: report a fault if one was observed or the health check finds one. -/
def reportHealth (config : WriteConfig) (anyFaultObserved : Bool) : Coord hwSig Unit :=
  if anyFaultObserved then updateFromFeedback true
  else do
    let detail ← lifecycleHealthHealthy config
    updateFromFeedback (detail.any lifecycleDetailIsFaultTrigger)

/-- The end of a cycle that may not move anything. -/
def invalidateCommands : Hardware Unit := modifyHw .invalidate

/-- `CanDriverHW::write`. -/
def write (config : WriteConfig) (limiter : CommandLimiter)
    (groups : List CanDriverDeviceProtocolGroup) : Coord hwSig Unit := do
  let active ← driver (askHw .active)
  if active then
    let mode ← load
    if mode = .running then
      let fresh ← driver consumeFreshCommandLatchIfSatisfied
      if fresh then
        let anyFaultObserved ← driver (commandCycle config limiter groups)
        reportHealth config anyFaultObserved
      else driver invalidateCommands
    else driver invalidateCommands
  else pure ()

end CanDriver
