import CanDriver.Double
import CanDriver.Port
import CanDriver.RefreshScheduler

/-!
# CanDriver.DamiaoCan

The DM (Damiao) protocol, velocity mode only.

Commands to node `n` travel under the CAN id `0x200 + n`: a four-byte frame
carries a speed, an eight-byte frame of `0xFF` bytes a motor command in its last
byte.  Register writes go to `0x7FF` and are acknowledged, like all feedback,
under the master id `0`.  Single-precision rounding is modelled, double
precision is exact.
-/

namespace CanDriver

open Interact

/-- `DamiaoCan::MotorState`. -/
structure DmMotorState where
  position : Int := 0
  commandedVelocity : Int32 := 0
  velocity : Int := 0
  acceleration : Int32 := 0
  deceleration : Int32 := 0
  current : Int := 0
  mode : MotorMode := .velocity
  feedbackState : UInt8 := 0
  enabled : Bool := false
  fault : Bool := false
  positionReceived : Bool := false
  velocityReceived : Bool := false
  currentReceived : Bool := false
  modeReceived : Bool := false
  enabledReceived : Bool := false
  faultReceived : Bool := false
  feedbackSeen : Bool := false
  velocityModeConfigured : Bool := false
deriving DecidableEq, Repr

/-- `DamiaoCan::PendingRegisterAck`. -/
structure DmRegisterAck where
  received : Bool := false
  value : UInt32 := 0
deriving DecidableEq, Repr

/-- `DamiaoCan`.  The three flags tell which of the pointers it was built with are set. -/
structure DamiaoCan where
  canController : Bool := true
  txDispatcher : Bool := true
  sharedState : Bool := true
  deviceName : String
  motorStates : UInt8 → Option DmMotorState := fun _ => none
  refreshMotorIds : List UInt8 := []
  managedMotorIds : List UInt8 := []
  systemMotorIdsByNodeId : UInt8 → Option MotorID := fun _ => none
  refreshRateHz : ℚ := 0
  shuttingDown : Bool := false
  pendingRegisterAcks : UInt8 × UInt8 → Option DmRegisterAck := fun _ => none

namespace DamiaoCan

open Proto

def kDamiaoMasterId : UInt32 := 0x000
def kDamiaoRegisterFrameId : UInt32 := 0x7FF
def kDamiaoSpeedFrameBase : UInt32 := 0x200
def kDamiaoWriteRegisterCommand : UInt8 := 0x55
def kDamiaoControlModeRegister : UInt8 := 10
def kDamiaoEnableCommand : UInt8 := 0xFC
def kDamiaoDisableCommand : UInt8 := 0xFD
def kDamiaoClearFaultCommand : UInt8 := 0xFB
def kDamiaoEnabledStateCode : UInt8 := 0x1
def kDamiaoDisabledStateCode : UInt8 := 0x0
def kDamiaoVelocityModeValue : UInt32 := 3
def kDamiaoDefaultPMax : ℚ := 25 / 2
def kDamiaoDefaultVMax : ℚ := 45
def kDamiaoDefaultTMax : ℚ := 18
def kDamiaoProtocolScale : ℚ := 1 / 10000

/-! ## number formats -/

/-- `uintToFloat`: every single-precision operation rounds. -/
def uintToFloat (raw : Nat) (minValue maxValue : ℚ) (bits : Nat) : ℚ :=
  Single.round
    (Single.round (Single.round (raw * Single.round (maxValue - minValue)) / (2 ^ bits - 1))
      + minValue)

/-- `rawToVelocityRadPerSec`. -/
def rawToVelocityRadPerSec (rawVelocity : Int32) : ℚ :=
  Single.round (rawVelocity.toInt * kDamiaoProtocolScale)

/-- `rawPositionFromRadians` and `rawVelocityFromRadiansPerSec`. -/
def rawFromRadians (value : ℚ) : Int := Double.roundAway (value / kDamiaoProtocolScale)

/-- `rawTorqueFromNewtonMeters`, clamped to the int16 range. -/
def rawTorqueFromNewtonMeters (torqueNm : ℚ) : Int :=
  Double.roundAway (max (-32768) (min 32767 (torqueNm * 100)))

/-! ## the object's own state -/

/-- `motorStates[motorId]`: a missing entry is created. -/
def motorState (s : DamiaoCan) (motorId : UInt8) : DmMotorState :=
  (s.motorStates motorId).getD {}

/-- Update `motorStates[motorId]`. -/
def setMotorState (s : DamiaoCan) (motorId : UInt8) (f : DmMotorState → DmMotorState) :
    DamiaoCan :=
  { s with motorStates := put s.motorStates motorId (f (s.motorState motorId)) }

/-- `resolveSystemMotorId`. -/
def resolveSystemMotorId (s : DamiaoCan) (motorId : UInt8) : MotorID :=
  (s.systemMotorIdsByNodeId motorId).getD (motorIdFromProtocolNodeId motorId)

/-- `makeAxisKey`. -/
def axisKey (s : DamiaoCan) (motorId : UInt8) : AxisKey :=
  makeAxisKey s.deviceName .DM (s.resolveSystemMotorId motorId)

/-- Whether anything is published at all. -/
def publishes (s : DamiaoCan) : Bool := s.sharedState && s.deviceName != ""

/-- `isManagedMotorId`. -/
def isManagedMotorId (s : DamiaoCan) (motorId : UInt8) : Bool :=
  s.managedMotorIds.contains motorId

/-- The bookkeeping of `registerManagedMotorId`. -/
def remember (s : DamiaoCan) (motorId : MotorID) : DamiaoCan :=
  { s with
    managedMotorIds := s.managedMotorIds.insert (toProtocolNodeId motorId)
    systemMotorIdsByNodeId := put s.systemMotorIdsByNodeId (toProtocolNodeId motorId) motorId }

/-- `computeRefreshSleep`, in milliseconds. -/
def computeRefreshSleep (s : DamiaoCan) (motorCount : Nat) : Int :=
  if 0 < s.refreshRateHz then max 1 (Double.roundAway (1000 / s.refreshRateHz))
  else max 10 (motorCount * 10)

/-- `refreshSleepInterval`, in milliseconds. -/
def refreshSleepInterval (s : DamiaoCan) : Int :=
  s.computeRefreshSleep (max 1 s.refreshMotorIds.length)

/-! ## publishing -/

/-- Publish something about the axis of a node. -/
def publish (motorId : UInt8) (f : AxisKey → SharedDriverState → SharedDriverState) :
    Proto DamiaoCan Unit := do
  let s ← gets id
  if s.publishes then
    modifyShared (f (s.axisKey motorId))
  else
    pure ()

/-- `syncSharedFeedback`. -/
def syncSharedFeedback (motorId : UInt8) (st : DmMotorState) : Proto DamiaoCan Unit := do
  let nowNs ← now
  publish motorId fun key shared =>
    shared.mutateAxisFeedback key fun feedback =>
      { feedback with
        position := st.position
        velocity := st.velocity
        current := st.current
        mode := st.mode
        positionValid := st.positionReceived
        velocityValid := st.velocityReceived
        currentValid := st.currentReceived
        modeValid := st.modeReceived
        enabled := st.enabled
        fault := st.fault
        enabledValid := st.enabledReceived
        faultValid := st.faultReceived
        feedbackSeen := st.feedbackSeen
        lastRxSteadyNs := nowNs
        lastValidStateSteadyNs := nowNs
        consecutiveTimeoutCount := 0 }

/-- `syncSharedCommand`. -/
def syncSharedCommand (motorId : UInt8) (targetVelocity : Int32) (valid : Bool) :
    Proto DamiaoCan Unit := do
  let nowNs ← now
  publish motorId fun key shared =>
    shared.mutateAxisCommand key fun command =>
      { command with
        targetPosition := 0
        targetVelocity := targetVelocity.toInt
        desiredMode := .velocity
        desiredModeValid := true
        valid
        lastCommandSteadyNs := if valid then nowNs else 0 }

/-- `syncSharedModeSelection`. -/
def syncSharedModeSelection (motorId : UInt8) (desiredMode : MotorMode) :
    Proto DamiaoCan Unit :=
  publish motorId fun key shared =>
    shared.mutateAxisCommand key fun command =>
      { command with
        targetPosition := 0
        targetVelocity := 0
        desiredMode
        desiredModeValid := true
        valid := false
        lastCommandSteadyNs := 0 }

/-- `syncSharedIntent`. -/
def syncSharedIntent (motorId : UInt8) (intent : AxisIntent) : Proto DamiaoCan Unit :=
  publish motorId fun key shared => shared.setAxisIntent key intent

/-- `registerManagedMotorId`. -/
def registerManagedMotorId (motorId : MotorID) : Proto DamiaoCan Unit := do
  modify fun s => s.remember motorId
  let s ← gets id
  if s.publishes then
    modifyShared fun shared => shared.registerAxis (makeAxisKey s.deviceName .DM motorId)
  else
    pure ()

/-! ## frames -/

/-- The frame of `sendSpeedFrame`. -/
def speedFrame (motorId : UInt8) (velocityRadPerSec : ℚ) : Frame :=
  let rawBits := Single.bits velocityRadPerSec
  dataFrame (kDamiaoSpeedFrameBase + motorId.toUInt32) 4
    #v[rawBits.toUInt8, (rawBits >>> 8).toUInt8, (rawBits >>> 16).toUInt8,
      (rawBits >>> 24).toUInt8, 0, 0, 0, 0]

/-- The frame of `sendMotorCommand`. -/
def motorCommandFrame (motorId command : UInt8) : Frame :=
  dataFrame (kDamiaoSpeedFrameBase + motorId.toUInt32) 8
    #v[0xFF, 0xFF, 0xFF, 0xFF, 0xFF, 0xFF, 0xFF, command]

/-- The frame of `sendRegisterWrite`. -/
def registerFrame (motorId registerId : UInt8) (value : UInt32) : Frame :=
  dataFrame kDamiaoRegisterFrameId 8
    #v[motorId, 0, kDamiaoWriteRegisterCommand, registerId, value.toUInt8,
      (value >>> 8).toUInt8, (value >>> 16).toUInt8, (value >>> 24).toUInt8]

/-- `submitTx`. -/
def submitTx (frame : Frame) (category : Category) (source : TxSource) :
    Proto DamiaoCan Bool := do
  let s ← gets id
  if s.txDispatcher then
    submit { frame, category, source }
    pure true
  else
    pure false

/-- `sendSpeedFrame`. -/
def sendSpeedFrame (motorId : UInt8) (velocityRadPerSec : ℚ) (category : Category)
    (source : TxSource) : Proto DamiaoCan Bool :=
  submitTx (speedFrame motorId velocityRadPerSec) category source

/-- `sendMotorCommand`. -/
def sendMotorCommand (motorId command : UInt8) (category : Category) (source : TxSource) :
    Proto DamiaoCan Bool :=
  submitTx (motorCommandFrame motorId command) category source

/-! ## waiting for the motor -/

/-- The end of the wait of `writeRegisterAndWaitForAck`, because the matching
acknowledgement came or because the time is up. -/
def takeRegisterAck (motorId registerId : UInt8) (value : UInt32) (s : DamiaoCan) :
    Bool × DamiaoCan :=
  let received := match s.pendingRegisterAcks (motorId, registerId) with
    | some ack => ack.received && ack.value == value
    | none => false
  (received,
    { s with
      pendingRegisterAcks := Function.update s.pendingRegisterAcks (motorId, registerId) none })

/-- `writeRegisterAndWaitForAck`. -/
def writeRegisterAndWaitForAck (motorId registerId : UInt8) (value : UInt32) :
    Proto DamiaoCan Bool := do
  let s ← gets id
  if s.canController && s.txDispatcher then
    modify fun s =>
      { s with pendingRegisterAcks := put s.pendingRegisterAcks (motorId, registerId) {} }
    let accepted ← submitTx (registerFrame motorId registerId value) .config .dmSendRegisterWrite
    if accepted then access (takeRegisterAck motorId registerId value) else pure false
  else
    pure false

/-- The end of the wait of `waitForFeedbackState`, because the state was reported
or because the time is up. -/
def waitForFeedbackState (motorId expectedState : UInt8) : Proto DamiaoCan Bool :=
  gets fun s => match s.motorStates motorId with
    | some st => st.feedbackSeen && st.feedbackState == expectedState
    | none => false

/-- `ensureVelocityModeConfigured`. -/
def ensureVelocityModeConfigured (motorId : UInt8) : Proto DamiaoCan Bool := do
  let configured ← gets fun s => (s.motorStates motorId).any fun st => st.velocityModeConfigured
  if configured then
    pure true
  else
    let acked ← writeRegisterAndWaitForAck motorId kDamiaoControlModeRegister
      kDamiaoVelocityModeValue
    if acked then
      modify fun s => s.setMotorState motorId fun st =>
        { st with velocityModeConfigured := true, mode := .velocity }
      syncSharedModeSelection motorId .velocity
      pure true
    else
      pure false

/-! ## commands -/

/-- `setMode`: only velocity mode is supported. -/
def setMode (motorId : MotorID) (mode : MotorMode) : Proto DamiaoCan Bool :=
  if mode = .velocity then do
    registerManagedMotorId motorId
    let configured ← ensureVelocityModeConfigured (toProtocolNodeId motorId)
    if configured then
      syncSharedModeSelection (toProtocolNodeId motorId) .velocity
      pure true
    else
      pure false
  else
    pure false

/-- `setVelocity`. -/
def setVelocity (motorId : MotorID) (velocity : Int32) : Proto DamiaoCan Bool := do
  let nodeId := toProtocolNodeId motorId
  registerManagedMotorId motorId
  let configured ← ensureVelocityModeConfigured nodeId
  if configured then
    modify fun s => s.setMotorState nodeId fun st =>
      { st with commandedVelocity := velocity, mode := .velocity }
    syncSharedCommand nodeId velocity true
    syncSharedIntent nodeId .run
    sendSpeedFrame nodeId (rawToVelocityRadPerSec velocity) .control .dmSetVelocity
  else
    pure false

/-- `setAcceleration`: cached only. -/
def setAcceleration (motorId : MotorID) (acceleration : Int32) : Proto DamiaoCan Bool := do
  registerManagedMotorId motorId
  modify fun s => s.setMotorState (toProtocolNodeId motorId) fun st => { st with acceleration }
  pure true

/-- `setDeceleration`: cached only. -/
def setDeceleration (motorId : MotorID) (deceleration : Int32) : Proto DamiaoCan Bool := do
  registerManagedMotorId motorId
  modify fun s => s.setMotorState (toProtocolNodeId motorId) fun st => { st with deceleration }
  pure true

/-- `setPosition`: not supported. -/
def setPosition (_motorId : MotorID) (_position : Int32) : Proto DamiaoCan Bool := pure false

/-- `quickSetPosition`: not supported. -/
def quickSetPosition (_motorId : MotorID) (_position : Int32) : Proto DamiaoCan Bool :=
  pure false

/-- `Enable`: the enable command, then a neutral speed frame to the same CAN id. -/
def enable (motorId : MotorID) : Proto DamiaoCan Bool := do
  let nodeId := toProtocolNodeId motorId
  registerManagedMotorId motorId
  let configured ← ensureVelocityModeConfigured nodeId
  if configured then
    syncSharedModeSelection nodeId .velocity
    syncSharedIntent nodeId .enable
    let sent ← sendMotorCommand nodeId kDamiaoEnableCommand .control .dmEnable
    if sent then
      let sent ← sendSpeedFrame nodeId 0 .control .dmEnableNeutral
      if sent then waitForFeedbackState nodeId kDamiaoEnabledStateCode else pure false
    else
      pure false
  else
    pure false

/-- `Disable`: a neutral speed frame, then the disable command to the same CAN id. -/
def disable (motorId : MotorID) : Proto DamiaoCan Bool := do
  let nodeId := toProtocolNodeId motorId
  registerManagedMotorId motorId
  modify fun s => s.setMotorState nodeId fun st => { st with commandedVelocity := 0 }
  syncSharedCommand nodeId 0 true
  syncSharedIntent nodeId .disable
  let sent ← sendSpeedFrame nodeId 0 .control .dmDisableNeutral
  if sent then
    let sent ← sendMotorCommand nodeId kDamiaoDisableCommand .control .dmDisable
    if sent then waitForFeedbackState nodeId kDamiaoDisabledStateCode else pure false
  else
    pure false

/-- `Stop`. -/
def stop (motorId : MotorID) : Proto DamiaoCan Bool := do
  let nodeId := toProtocolNodeId motorId
  registerManagedMotorId motorId
  modify fun s => s.setMotorState nodeId fun st => { st with commandedVelocity := 0 }
  syncSharedCommand nodeId 0 true
  syncSharedIntent nodeId .hold
  sendSpeedFrame nodeId 0 .control .dmStop

/-- `ResetFault`. -/
def resetFault (motorId : MotorID) : Proto DamiaoCan Bool := do
  let nodeId := toProtocolNodeId motorId
  registerManagedMotorId motorId
  syncSharedIntent nodeId .recover
  sendMotorCommand nodeId kDamiaoClearFaultCommand .recover .dmResetFault

/-- `issueRefreshQuery`: the keepalive repeats the commanded speed. -/
def issueRefreshQuery (motorId : MotorID) (_query : DmRefreshQuery) : Proto DamiaoCan Bool := do
  let s ← gets id
  if s.shuttingDown then
    pure false
  else
    let nodeId := toProtocolNodeId motorId
    registerManagedMotorId motorId
    let commandedVelocity ← gets fun s =>
      ((s.motorStates nodeId).map fun st => st.commandedVelocity).getD 0
    sendSpeedFrame nodeId (rawToVelocityRadPerSec commandedVelocity) .query .dmIssueRefreshQuery

/-! ## responses -/

/-- Hand a register acknowledgement to the write that waits for it. -/
def matchRegisterAck (frame : Frame) (s : DamiaoCan) : Bool × DamiaoCan :=
  let key := (frame.byte 0, frame.byte 3)
  match s.pendingRegisterAcks key with
  | none => (false, s)
  | some _ =>
      let value := wordOfBytes (frame.byte 7) (frame.byte 6) (frame.byte 5) (frame.byte 4)
      (true,
        { s with pendingRegisterAcks := put s.pendingRegisterAcks key { received := true, value } })

/-- What a feedback frame says about the motor. -/
def decodeFeedback (frame : Frame) (st : DmMotorState) : DmMotorState :=
  let feedbackState := frame.byte 0 >>> 4
  let posInt := (frame.byte 1).toNat * 256 + (frame.byte 2).toNat
  let velInt := (frame.byte 3).toNat * 16 + (frame.byte 4).toNat / 16
  let torqueInt := (frame.byte 4).toNat % 16 * 256 + (frame.byte 5).toNat
  { st with
    position := rawFromRadians (uintToFloat posInt (-kDamiaoDefaultPMax) kDamiaoDefaultPMax 16)
    velocity := rawFromRadians (uintToFloat velInt (-kDamiaoDefaultVMax) kDamiaoDefaultVMax 12)
    current := rawTorqueFromNewtonMeters
      (uintToFloat torqueInt (-kDamiaoDefaultTMax) kDamiaoDefaultTMax 12)
    feedbackState
    enabled := feedbackState == kDamiaoEnabledStateCode
    fault := feedbackState != kDamiaoDisabledStateCode && feedbackState != kDamiaoEnabledStateCode
    positionReceived := true
    velocityReceived := true
    currentReceived := true
    mode := .velocity
    modeReceived := true
    enabledReceived := true
    faultReceived := true
    feedbackSeen := true }

/-- The end of `handleResponse`: a frame that was no acknowledgement is feedback. -/
def handleFeedback (frame : Frame) : Proto DamiaoCan Unit :=
  if frame.dlc < 8 then
    pure ()
  else do
    let motorId := frame.byte 0 &&& 0x0F
    let s ← gets id
    if s.isManagedMotorId motorId then
      let snapshot ← access fun s =>
        (decodeFeedback frame (s.motorState motorId),
          s.setMotorState motorId (decodeFeedback frame))
      syncSharedFeedback motorId snapshot
    else
      pure ()

/-- `handleResponse`. -/
def handleResponse (frame : Frame) : Proto DamiaoCan Unit :=
  if frame.id ≠ kDamiaoMasterId then
    pure ()
  else if 8 ≤ frame.dlc ∧ frame.byte 1 = 0 ∧ frame.byte 2 = kDamiaoWriteRegisterCommand then do
    let matched ← access (matchRegisterAck frame)
    if matched then pure () else handleFeedback frame
  else
    handleFeedback frame

/-! ## cached values -/

/-- The getters leave the id map alone. -/
def getCached (id : MotorID) (f : DmMotorState → α) (default : α) : Proto DamiaoCan α :=
  gets fun s => ((s.motorStates (toProtocolNodeId id)).map f).getD default

/-- `getPosition`. -/
def getPosition (id : MotorID) : Proto DamiaoCan Int := getCached id (fun st => st.position) 0

/-- `getVelocity`. -/
def getVelocity (id : MotorID) : Proto DamiaoCan Int := getCached id (fun st => st.velocity) 0

/-- `getCurrent`. -/
def getCurrent (id : MotorID) : Proto DamiaoCan Int := getCached id (fun st => st.current) 0

/-- `isEnabled`. -/
def isEnabled (id : MotorID) : Proto DamiaoCan Bool := getCached id (fun st => st.enabled) false

/-- `hasFault`. -/
def hasFault (id : MotorID) : Proto DamiaoCan Bool := getCached id (fun st => st.fault) false

/-! ## set-up -/

/-- One more refreshed motor. -/
def addMotor (s : DamiaoCan) (motorId : MotorID) : DamiaoCan :=
  { s.remember motorId with refreshMotorIds := s.refreshMotorIds ++ [toProtocolNodeId motorId] }

/-- The motors of `initializeMotorRefresh`, and no others. -/
def loadMotors (motorIds : List MotorID) (s : DamiaoCan) : DamiaoCan :=
  motorIds.foldl addMotor
    { s with refreshMotorIds := [], managedMotorIds := [], systemMotorIdsByNodeId := fun _ => none }

/-- `initializeMotorRefresh`. -/
def initializeMotorRefresh (motorIds : List MotorID) : Proto DamiaoCan Unit := do
  modify (loadMotors motorIds)
  let s ← gets id
  if s.publishes then
    modifyShared fun shared =>
      motorIds.foldl (fun shared m => shared.registerAxis (makeAxisKey s.deviceName .DM m)) shared
  else
    pure ()

/-- `setRefreshRateHz`: anything but a positive finite rate means the default. -/
def setRefreshRateHz (hz : Double) : Proto DamiaoCan Unit :=
  modify fun s =>
    { s with
      refreshRateHz := match hz with
        | .finite q => if q ≤ 0 then 0 else q
        | _ => 0 }

end DamiaoCan

end CanDriver
