import CanDriver.Double
import CanDriver.Port
import CanDriver.RefreshScheduler

/-!
# CanDriver.MtCan

The MT (RMD) protocol: commands to node `n` travel under the CAN id
`0x140 + n`, answers come back under `0x240 + n`.

Reads are tracked per motor and command: queued in the dispatcher, in flight,
or backing off after a timeout.  Currents are exact rationals; log texts are
left out.
-/

namespace CanDriver

open Interact

/-! ## frames of the RMD protocol -/

namespace MtRmd

/-- `mt_rmd::Command`. -/
inductive Command where
  | writeAccelerationToRamAndRom
  | writeCurrentMultiTurnPositionToRomAsZero
  | resetSystem
  | shutdownMotor
  | stopMotor
  | readMultiTurnAngle
  | readMotorStatus1AndErrorFlag
  | readMotorStatus2
  | torqueClosedLoopControl
  | speedClosedLoopControl
  | absolutePositionClosedLoopControl
  | singleTurnPositionControl
  | incrementalPositionClosedLoopControl
  | forcePositionMixedControl
  | communicationInterruptionProtectionTimeSetting
deriving DecidableEq, Repr

/-- `commandByte`. -/
def Command.byte : Command → UInt8
  | writeAccelerationToRamAndRom => 0x43
  | writeCurrentMultiTurnPositionToRomAsZero => 0x64
  | resetSystem => 0x76
  | shutdownMotor => 0x80
  | stopMotor => 0x81
  | readMultiTurnAngle => 0x92
  | readMotorStatus1AndErrorFlag => 0x9A
  | readMotorStatus2 => 0x9C
  | torqueClosedLoopControl => 0xA1
  | speedClosedLoopControl => 0xA2
  | absolutePositionClosedLoopControl => 0xA4
  | singleTurnPositionControl => 0xA6
  | incrementalPositionClosedLoopControl => 0xA8
  | forcePositionMixedControl => 0xA9
  | communicationInterruptionProtectionTimeSetting => 0xB3

/-- All commands. -/
def commands : List Command :=
  [.writeAccelerationToRamAndRom, .writeCurrentMultiTurnPositionToRomAsZero, .resetSystem,
    .shutdownMotor, .stopMotor, .readMultiTurnAngle, .readMotorStatus1AndErrorFlag,
    .readMotorStatus2, .torqueClosedLoopControl, .speedClosedLoopControl,
    .absolutePositionClosedLoopControl, .singleTurnPositionControl,
    .incrementalPositionClosedLoopControl, .forcePositionMixedControl,
    .communicationInterruptionProtectionTimeSetting]

/-- The command a byte stands for. -/
def Command.ofByte (b : UInt8) : Option Command := commands.find? fun c => c.byte == b

/-- `kResponseBaseId`. -/
def kResponseBaseId : UInt32 := 0x240

/-- `sendCanId`. -/
def sendCanId (nodeId : UInt8) : UInt32 := 0x140 + nodeId.toUInt32

/-- `isResponseCanId`. -/
def isResponseCanId (canId : UInt32) : Bool :=
  kResponseBaseId ≤ canId && canId < kResponseBaseId + 0x100

/-- `responseNodeId`. -/
def responseNodeId (canId : UInt32) : UInt8 := (canId - kResponseBaseId).toUInt8

/-- `makeFrame` with the payload bytes from index 1 on. -/
def makeFrame (canId : UInt32) (command : Command) (d₁ d₂ d₃ d₄ d₅ d₆ d₇ : UInt8 := 0) : Frame :=
  dataFrame canId 8 #v[command.byte, d₁, d₂, d₃, d₄, d₅, d₆, d₇]

/-- `makeFrame` with a little-endian word at index 4. -/
def makeWordFrame (canId : UInt32) (command : Command) (value : UInt32)
    (d₁ d₂ d₃ : UInt8 := 0) : Frame :=
  makeFrame canId command d₁ d₂ d₃ value.toUInt8 (value >>> 8).toUInt8 (value >>> 16).toUInt8
    (value >>> 24).toUInt8

/-- `clampAcceleration`. -/
def clampAcceleration (value : UInt32) : UInt32 := max 100 (min 60000 value)

/-- `makeSpeedClosedLoopFrame`. -/
def makeSpeedClosedLoopFrame (canId : UInt32) (speedCentidegPerSec : Int32) : Frame :=
  makeWordFrame canId .speedClosedLoopControl speedCentidegPerSec.toUInt32

/-- `makeAbsolutePositionFrame`. -/
def makeAbsolutePositionFrame (canId : UInt32) (positionCentideg : Int32)
    (maxSpeedDps : UInt16) : Frame :=
  makeWordFrame canId .absolutePositionClosedLoopControl positionCentideg.toUInt32 0
    maxSpeedDps.toUInt8 (maxSpeedDps >>> 8).toUInt8

/-- `makeAccelerationFrame`. -/
def makeAccelerationFrame (canId : UInt32) (index : UInt8) (value : UInt32) : Frame :=
  makeWordFrame canId .writeAccelerationToRamAndRom (clampAcceleration value) index

/-- `makeCommunicationTimeoutFrame`. -/
def makeCommunicationTimeoutFrame (canId timeoutMs : UInt32) : Frame :=
  makeWordFrame canId .communicationInterruptionProtectionTimeSetting timeoutMs

/-- `readInt16LE` of a full frame. -/
def readInt16LE (f : Frame) (i : Nat) : Int16 :=
  (((f.byte (i + 1)).toUInt16 <<< 8) ||| (f.byte i).toUInt16).toInt16

/-- `readUInt16LE` of a full frame. -/
def readUInt16LE (f : Frame) (i : Nat) : UInt16 :=
  ((f.byte (i + 1)).toUInt16 <<< 8) ||| (f.byte i).toUInt16

/-- `parseMultiTurnAngleCentideg` of a full frame. -/
def parseMultiTurnAngleCentideg (f : Frame) : Int :=
  (wordOfBytes (f.byte 7) (f.byte 6) (f.byte 5) (f.byte 4)).toInt32.toInt

/-- `positionMaxSpeedDpsFromSpeedCommand`. -/
def positionMaxSpeedDpsFromSpeedCommand (speedCentidegPerSec : Int32)
    (defaultSpeedDps : UInt16) : UInt16 :=
  let magnitude := speedCentidegPerSec.toInt.natAbs
  if magnitude = 0 then defaultSpeedDps
  else UInt16.ofNat (min (max 1 ((magnitude + 50) / 100)) 0xFFFF)

/-- `isFeedbackCommand`. -/
def Command.isFeedback : Command → Bool
  | readMotorStatus2 | torqueClosedLoopControl | speedClosedLoopControl
  | absolutePositionClosedLoopControl | singleTurnPositionControl
  | incrementalPositionClosedLoopControl | forcePositionMixedControl | shutdownMotor
  | stopMotor => true
  | _ => false

end MtRmd

open MtRmd

/-- `MtCan::MotorState`. -/
structure MtMotorState where
  position : Int32 := 0
  multiTurnAngle : Int := 0
  velocity : Int16 := 0
  current : ℚ := 0
  commandedVelocity : Int32 := 0
  temperature : Int8 := 0
  voltageRaw1 : UInt16 := 0
  voltageRaw2 : UInt16 := 0
  encoderPosition : UInt16 := 0
  enabled : Bool := false
  error : Bool := false
  positionReceived : Bool := false
  velocityReceived : Bool := false
  currentReceived : Bool := false
  modeReceived : Bool := false
  enabledReceived : Bool := false
  faultReceived : Bool := false
  mode : MotorMode := .velocity
deriving DecidableEq, Repr

/-- `MtCan::PendingReadRequest`. -/
structure MtPendingRead where
  lastSent : Time := 0
  nextEligibleSend : Time := 0
  queued : Bool := false
  inFlight : Bool := false
  consecutiveTimeouts : Nat := 0
deriving DecidableEq, Repr

/-- `MtCan`.  The three flags tell which of the pointers it was built with are set. -/
structure MtCan where
  canController : Bool := true
  txDispatcher : Bool := true
  sharedState : Bool := true
  deviceName : String
  motorStates : UInt8 → Option MtMotorState := fun _ => none
  refreshMotorIds : List UInt8 := []
  systemMotorIdsByNodeId : UInt8 → Option MotorID := fun _ => none
  refreshRateHz : ℚ := 0
  shuttingDown : Bool := false
  pendingReadRequests : UInt8 × UInt8 → Option MtPendingRead := fun _ => none
  communicationTimeoutOnInitMs : UInt32 := 0

namespace MtCan

open Proto

def kDefaultPositionSpeedDps : UInt16 := 100
def kQueriesPerMotorPerCycle : Nat := 3
def kBaseReadTimeoutCycles : Int := 3
def kMaxReadTimeoutCycles : Int := 8
def kMinReadRequestTimeout : Time := ms 250
def kMaxReadRequestTimeout : Time := ms 1500

/-! ## the object's own state -/

/-- `motorStates[motorId]`: a missing entry is created. -/
def motorState (s : MtCan) (motorId : UInt8) : MtMotorState := (s.motorStates motorId).getD {}

/-- Update `motorStates[motorId]`. -/
def setMotorState (s : MtCan) (motorId : UInt8) (f : MtMotorState → MtMotorState) : MtCan :=
  { s with motorStates := put s.motorStates motorId (f (s.motorState motorId)) }

/-- `resolveSystemMotorId`. -/
def resolveSystemMotorId (s : MtCan) (motorId : UInt8) : MotorID :=
  (s.systemMotorIdsByNodeId motorId).getD (motorIdFromMtProtocolNodeId motorId)

/-- `makeAxisKey`. -/
def axisKey (s : MtCan) (motorId : UInt8) : AxisKey :=
  makeAxisKey s.deviceName .MT (s.resolveSystemMotorId motorId)

/-- Whether anything is published at all. -/
def publishes (s : MtCan) : Bool := s.sharedState && s.deviceName != ""

/-- `computeRefreshSleep`, in milliseconds. -/
def computeRefreshSleep (s : MtCan) (motorCount : Nat) : Int :=
  if 0 < s.refreshRateHz then max 1 (Double.roundAway (1000 / s.refreshRateHz))
  else max 5 (motorCount * kQueriesPerMotorPerCycle)

/-- `refreshSleepInterval`, in milliseconds. -/
def refreshSleepInterval (s : MtCan) : Int :=
  s.computeRefreshSleep (max 1 s.refreshMotorIds.length)

/-- `computeReadRequestTimeout`. -/
def computeReadRequestTimeout (s : MtCan) : Time :=
  let motorCount := max 1 s.refreshMotorIds.length
  let timeoutCycles := min kMaxReadTimeoutCycles (kBaseReadTimeoutCycles + motorCount)
  max kMinReadRequestTimeout
    (min (ms (s.computeRefreshSleep motorCount * timeoutCycles)) kMaxReadRequestTimeout)

/-- `computeTimeoutBackoff`. -/
def computeTimeoutBackoff (consecutiveTimeouts : Nat) (baseTimeout : Time) : Time :=
  min (ms 500) (max baseTimeout (baseTimeout * 2 ^ min consecutiveTimeouts 4))

/-- `rememberSystemMotorId`. -/
def remember (s : MtCan) (motorId : MotorID) : MtCan :=
  { s with
    systemMotorIdsByNodeId := put s.systemMotorIdsByNodeId (toMtProtocolNodeId motorId) motorId }

/-! ## publishing -/

/-- Publish something about the axis of a node. -/
def publish (motorId : UInt8) (f : AxisKey → SharedDriverState → SharedDriverState) :
    Proto MtCan Unit := do
  let s ← gets id
  if s.publishes then
    modifyShared (f (s.axisKey motorId))
  else
    pure ()

/-- `syncSharedFeedback`. -/
def syncSharedFeedback (motorId : UInt8) (st : MtMotorState) : Proto MtCan Unit := do
  let nowNs ← now
  publish motorId fun key shared =>
    shared.mutateAxisFeedback key fun feedback =>
      { feedback with
        position := st.multiTurnAngle
        velocity := st.velocity.toInt
        current := Double.roundAway (st.current * 100)
        mode := st.mode
        positionValid := st.positionReceived
        velocityValid := st.velocityReceived
        currentValid := st.currentReceived
        modeValid := st.modeReceived
        enabled := st.enabled
        fault := st.error
        enabledValid := st.enabledReceived
        faultValid := st.faultReceived
        feedbackSeen := true
        lastRxSteadyNs := nowNs
        lastValidStateSteadyNs := nowNs
        consecutiveTimeoutCount := 0
        degraded := false }

/-- `syncSharedCommand`. -/
def syncSharedCommand (motorId : UInt8) (targetPosition targetVelocity : Int32)
    (desiredMode : MotorMode) (valid : Bool) : Proto MtCan Unit := do
  let nowNs ← now
  publish motorId fun key shared =>
    shared.mutateAxisCommand key fun command =>
      { command with
        targetPosition := targetPosition.toInt
        targetVelocity := targetVelocity.toInt
        desiredMode
        desiredModeValid := true
        valid
        lastCommandSteadyNs := if valid then nowNs else 0 }

/-- `syncSharedModeSelection`. -/
def syncSharedModeSelection (motorId : UInt8) (desiredMode : MotorMode) : Proto MtCan Unit :=
  publish motorId fun key shared =>
    shared.mutateAxisCommand key fun command =>
      { command with
        targetPosition := 0
        targetVelocity := 0
        targetCurrent := 0
        desiredMode
        desiredModeValid := true
        valid := false
        lastCommandSteadyNs := 0 }

/-- `syncSharedIntent`. -/
def syncSharedIntent (motorId : UInt8) (intent : AxisIntent) : Proto MtCan Unit :=
  publish motorId fun key shared => shared.setAxisIntent key intent

/-- `noteSharedTimeout`. -/
def noteSharedTimeout (motorId : UInt8) (consecutiveTimeouts : Nat) : Proto MtCan Unit :=
  publish motorId fun key shared =>
    shared.mutateAxisFeedback key fun feedback =>
      { feedback with
        consecutiveTimeoutCount := consecutiveTimeouts
        degraded := decide (kDefaultFeedbackDegradedTimeoutThreshold ≤ consecutiveTimeouts) }

/-- `rememberSystemMotorId`. -/
def rememberSystemMotorId (motorId : MotorID) : Proto MtCan Unit :=
  modify fun s => s.remember motorId

/-! ## submissions -/

/-- `submitTx`. -/
def submitTx (frame : Frame) (category : Category) (source : TxSource) : Proto MtCan Bool := do
  let s ← gets id
  if s.txDispatcher then
    submit { frame, category, source }
    pure true
  else
    pure false

/-- `onReadDispatchResult`. -/
def onReadDispatchResult (motorId command : UInt8) (attemptedSend : Bool)
    (result : SendResult) (eventTime : Time) (s : MtCan) : MtCan :=
  if s.shuttingDown then s
  else
    match s.pendingReadRequests (motorId, command) with
    | none => s
    | some request =>
        let request' :=
          if attemptedSend && result = .ok then
            { request with queued := false, inFlight := true, lastSent := eventTime }
          else
            { request with queued := false, inFlight := false }
        { s with pendingReadRequests := put s.pendingReadRequests (motorId, command) request' }

/-- What `tryIssueReadCommand` decides under its lock. -/
inductive ReadDecision where
  | refused
  | delayed (consecutiveTimeouts : Nat)
  | issued
deriving DecidableEq, Repr

/-- The critical section of `tryIssueReadCommand`: refuse while backing off, while
queued and while an answer may still come; count a timeout and back off when it
did not come; otherwise mark the read as queued. -/
def claimRead (motorId command : UInt8) (now timeout : Time) (s : MtCan) :
    ReadDecision × MtCan :=
  let request := (s.pendingReadRequests (motorId, command)).getD {}
  let save := fun request : MtPendingRead =>
    { s with pendingReadRequests := put s.pendingReadRequests (motorId, command) request }
  if request.nextEligibleSend ≠ 0 ∧ now < request.nextEligibleSend then
    (.refused, save request)
  else if request.queued then
    (.refused, save request)
  else if request.inFlight ∧ now - request.lastSent < timeout then
    (.refused, save request)
  else if request.inFlight then
    let timeouts := min (request.consecutiveTimeouts + 1) 8
    (.delayed timeouts, save
      { request with
        inFlight := false
        consecutiveTimeouts := timeouts
        nextEligibleSend := now + computeTimeoutBackoff timeouts timeout })
  else
    (.issued, save { request with queued := true, nextEligibleSend := 0 })

/-- `tryIssueReadCommand`. -/
def tryIssueReadCommand (motorId command : UInt8) : Proto MtCan Bool := do
  let s ← gets id
  if s.shuttingDown || !s.canController then
    pure false
  else
    let t ← now
    let timeout ← gets computeReadRequestTimeout
    let decision ← access (claimRead motorId command t timeout)
    match decision with
    | .refused => pure false
    | .delayed timeouts => do
        noteSharedTimeout motorId timeouts
        pure false
    | .issued => pure true

/-- The three read requests: claim the read, then hand its frame to the dispatcher. -/
def requestRead (motorId : UInt8) (command : Command) (source : TxSource) :
    Proto MtCan Bool := do
  let s ← gets id
  if s.canController then
    let claimed ← tryIssueReadCommand motorId command.byte
    if claimed then
      if s.txDispatcher then
        submit { frame := makeFrame (sendCanId motorId) command, category := .query, source,
                 completion := some (.mtRead motorId command.byte) }
        pure true
      else
        let eventTime ← now
        modify (onReadDispatchResult motorId command.byte false .error eventTime)
        pure false
    else
      pure false
  else
    pure false

/-- `requestState`. -/
def requestState (motorId : UInt8) : Proto MtCan Bool :=
  requestRead motorId .readMotorStatus2 .mtRequestState

/-- `requestError`. -/
def requestError (motorId : UInt8) : Proto MtCan Bool :=
  requestRead motorId .readMotorStatus1AndErrorFlag .mtRequestError

/-- `requestMultiTurnAngle`. -/
def requestMultiTurnAngle (motorId : UInt8) : Proto MtCan Bool :=
  requestRead motorId .readMultiTurnAngle .mtRequestMultiTurnAngle

/-- `issueRefreshQuery`. -/
def issueRefreshQuery (motorId : MotorID) (query : MtRefreshQuery) : Proto MtCan Bool := do
  rememberSystemMotorId motorId
  match query with
  | .state => requestState (toMtProtocolNodeId motorId)
  | .multiTurnAngle => requestMultiTurnAngle (toMtProtocolNodeId motorId)
  | .error => requestError (toMtProtocolNodeId motorId)

/-- What an answer makes of the entry of its read. -/
def answerRead (motorId command : UInt8) (s : MtCan) : MtCan :=
  match s.pendingReadRequests (motorId, command) with
  | none => s
  | some request =>
      let answered :=
        { request with
          queued := false, inFlight := false, nextEligibleSend := 0, consecutiveTimeouts := 0 }
      { s with pendingReadRequests := put s.pendingReadRequests (motorId, command) answered }

/-- `markReadResponseReceived`. -/
def markReadResponseReceived (motorId command : UInt8) : Proto MtCan Unit :=
  modify (answerRead motorId command)

/-- `resetReadTracking`. -/
def resetReadTracking : Proto MtCan Unit :=
  modify fun s => { s with pendingReadRequests := fun _ => none }

/-- `resetSystem`. -/
def resetSystem (motorId : UInt8) : Proto MtCan Bool :=
  submitTx (makeFrame (sendCanId motorId) .resetSystem) .recover .mtResetSystem

/-- `setZeroPosition`. -/
def setZeroPosition (motorId : UInt8) : Proto MtCan Bool :=
  submitTx (makeFrame (sendCanId motorId) .writeCurrentMultiTurnPositionToRomAsZero) .config
    .mtSetZeroPosition

/-! ## commands -/

/-- The guard in front of most commands: without a transport nothing happens. -/
def withController (p : Proto MtCan Bool) : Proto MtCan Bool := do
  let s ← gets id
  if s.canController then p else pure false

/-- `setMode`: nothing is sent. -/
def setMode (id : MotorID) (mode : MotorMode) : Proto MtCan Bool := do
  let motorId := toMtProtocolNodeId id
  rememberSystemMotorId id
  modify fun s => s.setMotorState motorId fun st => { st with mode }
  syncSharedModeSelection motorId mode
  pure true

/-- `setVelocity`. -/
def setVelocity (id : MotorID) (velocity : Int32) : Proto MtCan Bool := withController do
  let motorId := toMtProtocolNodeId id
  rememberSystemMotorId id
  modify fun s => s.setMotorState motorId fun st => { st with commandedVelocity := velocity }
  syncSharedCommand motorId 0 velocity .velocity true
  let _ ← submitTx (makeSpeedClosedLoopFrame (sendCanId motorId) velocity) .control
    .mtSetVelocity
  pure true

/-- `writeAcceleration`. -/
def writeAcceleration (motorId index : UInt8) (value : UInt32) : Proto MtCan Bool :=
  withController <|
    submitTx (makeAccelerationFrame (sendCanId motorId) index value) .config .mtWriteAcceleration

/-- A planning acceleration: the register of the motor the id names. -/
def setPlanned (index : UInt8) (id : MotorID) (dpsPerSec : UInt32) : Proto MtCan Bool := do
  rememberSystemMotorId id
  writeAcceleration (toMtProtocolNodeId id) index dpsPerSec

def setSpeedAcceleration := setPlanned 0x02
def setSpeedDeceleration := setPlanned 0x03
def setPositionAcceleration := setPlanned 0x00
def setPositionDeceleration := setPlanned 0x01

/-- `setAcceleration`. -/
def setAcceleration (id : MotorID) (acceleration : Int32) : Proto MtCan Bool :=
  setSpeedAcceleration id (if acceleration ≤ 0 then 100 else acceleration.toUInt32)

/-- `setDeceleration`. -/
def setDeceleration (id : MotorID) (deceleration : Int32) : Proto MtCan Bool :=
  setSpeedDeceleration id (if deceleration ≤ 0 then 100 else deceleration.toUInt32)

/-- `setPosition`: the speed limit of the move comes from the last velocity command. -/
def setPosition (id : MotorID) (position : Int32) : Proto MtCan Bool := withController do
  let motorId := toMtProtocolNodeId id
  rememberSystemMotorId id
  let commandedVelocity ← access fun s =>
    ((s.motorState motorId).commandedVelocity,
      s.setMotorState motorId fun st => { st with position })
  syncSharedCommand motorId position commandedVelocity .position true
  let maxSpeed := positionMaxSpeedDpsFromSpeedCommand commandedVelocity kDefaultPositionSpeedDps
  submitTx (makeAbsolutePositionFrame (sendCanId motorId) position maxSpeed) .control
    .mtSetPosition

/-- `quickSetPosition`: not supported. -/
def quickSetPosition (_id : MotorID) (_position : Int32) : Proto MtCan Bool := pure false

/-- `Enable`: the protocol has no enable command, so only the cached state changes. -/
def enable (id : MotorID) : Proto MtCan Bool := withController do
  let motorId := toMtProtocolNodeId id
  rememberSystemMotorId id
  let snapshot ← access fun s =>
    let s' := s.setMotorState motorId fun st => { st with enabled := true, enabledReceived := true }
    (s'.motorState motorId, s')
  syncSharedIntent motorId .enable
  syncSharedFeedback motorId snapshot
  pure true

/-- `Disable`. -/
def disable (id : MotorID) : Proto MtCan Bool := withController do
  let motorId := toMtProtocolNodeId id
  rememberSystemMotorId id
  let snapshot ← access fun s =>
    let s' := s.setMotorState motorId fun st =>
      { st with enabled := false, enabledReceived := true }
    (s'.motorState motorId, s')
  syncSharedIntent motorId .disable
  syncSharedFeedback motorId snapshot
  let _ ← submitTx (makeFrame (sendCanId motorId) .shutdownMotor) .control .mtDisable
  pure true

/-- `Stop`. -/
def stop (id : MotorID) : Proto MtCan Bool := withController do
  let motorId := toMtProtocolNodeId id
  rememberSystemMotorId id
  syncSharedIntent motorId .hold
  let _ ← submitTx (makeFrame (sendCanId motorId) .stopMotor) .control .mtStop
  pure true

/-- `ResetFault`. -/
def resetFault (id : MotorID) : Proto MtCan Bool := withController do
  let motorId := toMtProtocolNodeId id
  rememberSystemMotorId id
  syncSharedIntent motorId .recover
  let _ ← resetSystem motorId
  markReadResponseReceived motorId Command.readMotorStatus1AndErrorFlag.byte
  let _ ← requestError motorId
  pure true

/-- The loop of `setCommunicationTimeout`. -/
def sendCommunicationTimeouts (timeoutMs : UInt32) : List UInt8 → Proto MtCan Bool
  | [] => pure true
  | motorId :: motorIds => do
      let accepted ← submitTx (makeCommunicationTimeoutFrame (sendCanId motorId) timeoutMs)
        .config .mtSetCommunicationTimeout
      if accepted then sendCommunicationTimeouts timeoutMs motorIds else pure false

/-- `setCommunicationTimeout`. -/
def setCommunicationTimeout (timeoutMs : UInt32) : Proto MtCan Bool := withController do
  let motorIds ← gets refreshMotorIds
  if motorIds.isEmpty then pure false
  else sendCommunicationTimeouts timeoutMs motorIds

/-! ## responses -/

/-- The state a status frame (0x9C and the motion replies) reports. -/
def decodeStatus (frame : Frame) (st : MtMotorState) : MtMotorState :=
  { st with
    temperature := (frame.byte 1).toInt8
    current := (readInt16LE frame 2).toInt / 100
    velocity := readInt16LE frame 4
    encoderPosition := readUInt16LE frame 6
    currentReceived := true
    velocityReceived := true }

/-- What a response says about the motor; a short frame says nothing. -/
def decodeResponse (frame : Frame) (st : MtMotorState) : MtMotorState :=
  match Command.ofByte (frame.byte 0) with
  | none => st
  | some command =>
      if frame.dlc < 8 then st
      else if command.isFeedback then decodeStatus frame st
      else if command = .readMotorStatus1AndErrorFlag then
        { st with
          temperature := (frame.byte 1).toInt8
          voltageRaw1 := readUInt16LE frame 2
          voltageRaw2 := readUInt16LE frame 4
          error := readUInt16LE frame 6 != 0
          faultReceived := true }
      else if command = .readMultiTurnAngle then
        { st with multiTurnAngle := parseMultiTurnAngleCentideg frame, positionReceived := true }
      else st

/-- The commands whose responses end a tracked read. -/
def Command.isTracked : Command → Bool
  | .readMotorStatus2 | .readMotorStatus1AndErrorFlag | .readMultiTurnAngle => true
  | _ => false

/-- The commands whose responses are published. -/
def Command.isPublished (c : Command) : Bool := isTracked c || c.isFeedback

/-- `handleResponse`. -/
def handleResponse (frame : Frame) : Proto MtCan Unit := do
  let s ← gets id
  if s.shuttingDown || frame.isExtended then
    pure ()
  else
    let canId := frame.id &&& 0x7FF
    if !isResponseCanId canId || frame.dlc = 0 then
      pure ()
    else
      let nodeId := responseNodeId canId
      let command := Command.ofByte (frame.byte 0)
      if command.any Command.isTracked then markReadResponseReceived nodeId (frame.byte 0)
      let snapshot ← access fun s =>
        (decodeResponse frame (s.motorState nodeId),
          s.setMotorState nodeId (decodeResponse frame))
      if command.any Command.isPublished then syncSharedFeedback nodeId snapshot
      if command = some .writeCurrentMultiTurnPositionToRomAsZero then
        let _ ← resetSystem nodeId
        pure ()

/-! ## cached values -/

/-- The getters leave the id map alone. -/
def getCached (id : MotorID) (f : MtMotorState → α) (default : α) : Proto MtCan α :=
  gets fun s => ((s.motorStates (toMtProtocolNodeId id)).map f).getD default

/-- `getPosition`. -/
def getPosition (id : MotorID) : Proto MtCan Int := getCached id (fun st => st.multiTurnAngle) 0

/-- `getVelocity`. -/
def getVelocity (id : MotorID) : Proto MtCan Int := getCached id (fun st => st.velocity.toInt) 0

/-- `getCurrent`, narrowed to 16 bits. -/
def getCurrent (id : MotorID) : Proto MtCan Int :=
  getCached id (fun st => (Int16.ofInt (Double.roundAway (st.current * 100))).toInt) 0

/-- `isEnabled`. -/
def isEnabled (id : MotorID) : Proto MtCan Bool := getCached id (fun st => st.enabled) false

/-- `hasFault`. -/
def hasFault (id : MotorID) : Proto MtCan Bool := getCached id (fun st => st.error) false

/-! ## set-up -/

/-- One more refreshed motor. -/
def addMotor (s : MtCan) (motorId : MotorID) : MtCan :=
  { s.remember motorId with refreshMotorIds := s.refreshMotorIds ++ [toMtProtocolNodeId motorId] }

/-- The motors of `initializeMotorRefresh`, and no others. -/
def loadMotors (motorIds : List MotorID) (s : MtCan) : MtCan :=
  motorIds.foldl addMotor
    { s with refreshMotorIds := [], systemMotorIdsByNodeId := fun _ => none }

/-- `initializeMotorRefresh`. -/
def initializeMotorRefresh (motorIds : List MotorID) : Proto MtCan Unit := do
  modify (loadMotors motorIds)
  let s ← gets id
  if s.publishes then
    modifyShared fun shared =>
      motorIds.foldl (fun shared m => shared.registerAxis (makeAxisKey s.deviceName .MT m)) shared
  resetReadTracking
  if motorIds.isEmpty then
    pure ()
  else
    let _ ← setCommunicationTimeout s.communicationTimeoutOnInitMs
    pure ()

/-- `setCommunicationTimeoutOnInit`. -/
def setCommunicationTimeoutOnInit (timeoutMs : UInt32) : Proto MtCan Unit :=
  modify fun s => { s with communicationTimeoutOnInitMs := timeoutMs }

/-- `setRefreshRateHz`: anything but a positive finite rate means the default. -/
def setRefreshRateHz (hz : Double) : Proto MtCan Unit :=
  modify fun s =>
    { s with
      refreshRateHz := match hz with
        | .finite q => if q ≤ 0 then 0 else q
        | _ => 0 }

end MtCan

end CanDriver
