import CanDriver.Double
import CanDriver.Port
import CanDriver.RefreshScheduler

/-!
# CanDriver.EyouCan

The PP (Eyou) protocol: register writes and reads of one node each travel in
frames whose CAN id is the bare node id.

Left out are the log texts, the ROS parameters with the write counters, and the
bookkeeping behind the stale-feedback warning, none of which any other function
reads.
-/

namespace CanDriver

open Interact

/-- `EyouCan::MotorState`. -/
structure EyouMotorState where
  position : Int32 := 0
  commandedPosition : Int32 := 0
  commandedVelocity : Int32 := 0
  actualVelocity : Int32 := 0
  current : Int32 := 0
  lastPositionVelocityRaw : Int32 := 0x2AAA
  enabled : Bool := false
  fault : Bool := false
  positionReceived : Bool := false
  positionOffsetReceived : Bool := false
  serialNumberReceived : Bool := false
  velocityReceived : Bool := false
  currentReceived : Bool := false
  modeReceived : Bool := false
  enabledReceived : Bool := false
  faultReceived : Bool := false
  positionVelocityConfigured : Bool := false
  positionOffset : Int32 := 0
  serialNumber : UInt32 := 0
  mode : MotorMode := .position
deriving DecidableEq, Repr

/-- `EyouCan::PendingReadRequest`. -/
structure EyouPendingRead where
  lastSent : Time := 0
  lastResponse : Time := 0
  queued : Bool := false
  inFlight : Bool := false
deriving DecidableEq, Repr

/-- `EyouCan::PendingWriteAck`. -/
structure EyouWriteAck where
  received : Bool := false
  state : UInt8 := 0
deriving DecidableEq, Repr

/-- `EyouCan`.  The three flags tell which of the pointers it was built with are set. -/
structure EyouCan where
  canController : Bool := true
  txDispatcher : Bool := true
  sharedState : Bool := true
  deviceName : String
  motorStates : UInt8 → Option EyouMotorState := fun _ => none
  refreshMotorIds : List UInt8 := []
  refreshRateHz : ℚ := 0
  managedMotorIds : List UInt8 := []
  systemMotorIdsByNodeId : UInt8 → Option MotorID := fun _ => none
  positionVelocityRawByMotorId : UInt8 → Option Int32 := fun _ => none
  cspVelocityRawByMotorId : UInt8 → Option Int32 := fun _ => none
  fastWriteEnabled : Bool := false
  defaultPositionVelocityRaw : Int32 := 0x2AAA
  defaultCspVelocityRaw : Int32 := 0x2AAA
  fastWriteSentCount : Nat := 0
  normalWriteSentCount : Nat := 0
  shuttingDown : Bool := false
  pendingReadRequests : UInt8 × UInt8 → Option EyouPendingRead := fun _ => none
  pendingWriteAcks : UInt8 × UInt8 → Option EyouWriteAck := fun _ => none

namespace EyouCan

open Proto

def kWriteCommand : UInt8 := 0x01
def kFastWriteCommand : UInt8 := 0x05
def kReadCommand : UInt8 := 0x03
def kWriteAck : UInt8 := 0x02
def kReadResponse : UInt8 := 0x04
def kReadSerialNumberSubCommand : UInt8 := 0x02
def kPersistParametersSubCommand : UInt8 := 0x4D
def kPersistWriteAckRetries : Nat := 3
def kQueriesPerMotorPerCycle : Nat := 6

/-! ## decoding -/

/-- `dataByteOrZero`. -/
def dataByteOrZero (f : Frame) (i : Nat) : UInt8 :=
  if f.dlc.toNat ≤ i then 0 else f.byte i

/-- `readUInt32BE`. -/
def readUInt32BE (f : Frame) (i : Nat) : UInt32 :=
  if f.dlc.toNat ≤ i + 3 then 0
  else wordOfBytes (f.byte i) (f.byte (i + 1)) (f.byte (i + 2)) (f.byte (i + 3))

/-- `readInt32BE`. -/
def readInt32BE (f : Frame) (i : Nat) : Int32 := (readUInt32BE f i).toInt32

/-! ## the object's own state -/

/-- `motorStates[motorId]`: a missing entry is created. -/
def motorState (s : EyouCan) (motorId : UInt8) : EyouMotorState :=
  (s.motorStates motorId).getD {}

/-- Update `motorStates[motorId]`. -/
def setMotorState (s : EyouCan) (motorId : UInt8) (f : EyouMotorState → EyouMotorState) :
    EyouCan :=
  { s with motorStates := put s.motorStates motorId (f (s.motorState motorId)) }

/-- `resolveSystemMotorId`. -/
def resolveSystemMotorId (s : EyouCan) (motorId : UInt8) : MotorID :=
  (s.systemMotorIdsByNodeId motorId).getD (motorIdFromProtocolNodeId motorId)

/-- `makeAxisKey`. -/
def axisKey (s : EyouCan) (motorId : UInt8) : AxisKey :=
  makeAxisKey s.deviceName .PP (s.resolveSystemMotorId motorId)

/-- Whether anything is published at all. -/
def publishes (s : EyouCan) : Bool := s.sharedState && s.deviceName != ""

/-- `isManagedMotorId`: before any registration every node is. -/
def isManagedMotorId (s : EyouCan) (motorId : UInt8) : Bool :=
  s.managedMotorIds.isEmpty || s.managedMotorIds.contains motorId

/-- The bookkeeping of `registerManagedMotorId`. -/
def remember (s : EyouCan) (motorId : MotorID) : EyouCan :=
  { s with
    managedMotorIds := s.managedMotorIds.insert (toProtocolNodeId motorId)
    systemMotorIdsByNodeId := put s.systemMotorIdsByNodeId (toProtocolNodeId motorId) motorId }

/-! ## publishing -/

/-- Publish something about the axis of a node. -/
def publish (motorId : UInt8) (f : AxisKey → SharedDriverState → SharedDriverState) :
    Proto EyouCan Unit := do
  let s ← gets id
  if s.publishes then
    modifyShared (f (s.axisKey motorId))
  else
    pure ()

/-- `syncSharedFeedback`. -/
def syncSharedFeedback (motorId : UInt8) (st : EyouMotorState) : Proto EyouCan Unit := do
  let nowNs ← now
  publish motorId fun key shared =>
    shared.mutateAxisFeedback key fun feedback =>
      { feedback with
        position := st.position.toInt
        velocity := st.actualVelocity.toInt
        current := st.current.toInt
        mode := st.mode
        positionValid := st.positionReceived
        velocityValid := st.velocityReceived
        currentValid := st.currentReceived
        modeValid := st.modeReceived
        enabled := st.enabled
        fault := st.fault
        enabledValid := st.enabledReceived
        faultValid := st.faultReceived
        feedbackSeen := true
        lastRxSteadyNs := nowNs
        lastValidStateSteadyNs := nowNs
        consecutiveTimeoutCount := 0 }

/-- `syncSharedCommand`. -/
def syncSharedCommand (motorId : UInt8) (targetPosition targetVelocity : Int32)
    (desiredMode : MotorMode) (valid : Bool) : Proto EyouCan Unit := do
  let nowNs ← now
  publish motorId fun key shared =>
    shared.mutateAxisCommand key fun command =>
      { command with
        targetPosition := targetPosition.toInt
        targetVelocity := targetVelocity.toInt
        desiredMode
        desiredModeValid := true
        valid
        lastCommandSteadyNs := if valid then nowNs else 0 }

/-- `syncSharedModeSelection`. -/
def syncSharedModeSelection (motorId : UInt8) (desiredMode : MotorMode) : Proto EyouCan Unit :=
  publish motorId fun key shared =>
    shared.mutateAxisCommand key fun command =>
      { command with
        targetPosition := 0
        targetVelocity := 0
        targetCurrent := 0
        desiredMode
        desiredModeValid := true
        valid := false
        lastCommandSteadyNs := 0 }

/-- `syncSharedIntent`. -/
def syncSharedIntent (motorId : UInt8) (intent : AxisIntent) : Proto EyouCan Unit :=
  publish motorId fun key shared => shared.setAxisIntent key intent

/-- `registerManagedMotorId`. -/
def registerManagedMotorId (motorId : MotorID) : Proto EyouCan Unit := do
  modify fun s => s.remember motorId
  let s ← gets id
  if s.publishes then
    modifyShared fun shared => shared.registerAxis (makeAxisKey s.deviceName .PP motorId)
  else
    pure ()

/-! ## frames -/

/-- The frame of `sendWriteCommand`: the payload is the low `payloadBytes` bytes
of the value, most significant first. -/
def writeFrame (motorId subCommand : UInt8) (value : UInt32) (payloadBytes : Nat)
    (commandType : UInt8) : Frame :=
  let n := min 4 (max 1 payloadBytes)
  dataFrame motorId.toUInt32 8 <| Vector.ofFn fun i =>
    if i.val = 0 then commandType
    else if i.val = 1 then subCommand
    else if i.val < 2 + n then (value >>> (8 * (n - 1 - (i.val - 2))).toUInt32).toUInt8
    else 0

/-- The frame of `sendReadCommand`. -/
def readFrame (motorId subCommand : UInt8) : Frame :=
  dataFrame motorId.toUInt32 2 #v[kReadCommand, subCommand, 0, 0, 0, 0, 0, 0]

/-- The frame of `writeCommandBytesAndWaitForAck`. -/
def writeBytesFrame (motorId subCommand : UInt8) (payload : Vector UInt8 4) : Frame :=
  dataFrame motorId.toUInt32 8
    #v[kWriteCommand, subCommand, payload[0], payload[1], payload[2], payload[3], 0, 0]

/-- `submitTx`. -/
def submitTx (frame : Frame) (category : Category) (source : TxSource) : Proto EyouCan Bool := do
  let s ← gets id
  if s.txDispatcher then
    submit { frame, category, source }
    pure true
  else
    pure false

/-- The category of a write: the fault-reset register goes with the recover frames. -/
def writeCategory (subCommand : UInt8) : Category :=
  if subCommand = 0x15 then .recover else .control

/-- `sendWriteCommand`. -/
def sendWriteCommand (motorId subCommand : UInt8) (value : UInt32) (payloadBytes : Nat)
    (commandType : UInt8 := kWriteCommand) : Proto EyouCan Unit := do
  let s ← gets id
  if s.canController then
    let accepted ← submitTx (writeFrame motorId subCommand value payloadBytes commandType)
      (writeCategory subCommand) .eyouSendWriteCommand
    if accepted then
      modify fun s =>
        if commandType = kFastWriteCommand then
          { s with fastWriteSentCount := s.fastWriteSentCount + 1 }
        else if commandType = kWriteCommand then
          { s with normalWriteSentCount := s.normalWriteSentCount + 1 }
        else s
    else
      pure ()
  else
    pure ()

/-- A register write, fast and then normal when fast writes are enabled. -/
def sendMaybeFast (motorId subCommand : UInt8) (value : UInt32) : Proto EyouCan Unit := do
  let fastWrite ← gets fastWriteEnabled
  if fastWrite then
    sendWriteCommand motorId subCommand value 4 kFastWriteCommand
    sendWriteCommand motorId subCommand value 4 kWriteCommand
  else
    sendWriteCommand motorId subCommand value 4 kWriteCommand

/-! ## reads -/

/-- `onReadDispatchResult`. -/
def onReadDispatchResult (motorId subCommand : UInt8) (attemptedSend : Bool)
    (result : SendResult) (eventTime : Time) (s : EyouCan) : EyouCan :=
  if s.shuttingDown then s
  else
    match s.pendingReadRequests (motorId, subCommand) with
    | none => s
    | some request =>
        let request' :=
          if attemptedSend && result = .ok then
            { request with queued := false, inFlight := true, lastSent := eventTime }
          else
            { request with queued := false, inFlight := false }
        { s with pendingReadRequests := put s.pendingReadRequests (motorId, subCommand) request' }

/-- `sendReadCommand`. -/
def sendReadCommand (motorId subCommand : UInt8) : Proto EyouCan Unit := do
  let s ← gets id
  if s.canController then
    if s.txDispatcher then
      submit { frame := readFrame motorId subCommand, category := .query,
               source := .eyouSendReadCommand, completion := some (.eyouRead motorId subCommand) }
    else do
      let eventTime ← now
      modify (onReadDispatchResult motorId subCommand false .error eventTime)
  else
    pure ()

/-- The check of `tryIssueReadCommand` under its lock: mark the read as queued
unless it already is. -/
def claimRead (motorId subCommand : UInt8) (s : EyouCan) : Bool × EyouCan :=
  let request := (s.pendingReadRequests (motorId, subCommand)).getD {}
  let claimed := { request with queued := true }
  (!request.queued,
    { s with pendingReadRequests := put s.pendingReadRequests (motorId, subCommand) claimed })

/-- `tryIssueReadCommand`. -/
def tryIssueReadCommand (motorId subCommand : UInt8) : Proto EyouCan Bool := do
  let s ← gets id
  if s.shuttingDown || !s.canController then
    pure false
  else
    let claimed ← access (claimRead motorId subCommand)
    if claimed then
      sendReadCommand motorId subCommand
      pure true
    else
      pure false

def requestPosition (motorId : UInt8) : Proto EyouCan Bool := tryIssueReadCommand motorId 0x07
def requestPositionOffset (motorId : UInt8) : Proto EyouCan Bool :=
  tryIssueReadCommand motorId 0x3B
def requestSerialNumber (motorId : UInt8) : Proto EyouCan Bool :=
  tryIssueReadCommand motorId kReadSerialNumberSubCommand
def requestMode (motorId : UInt8) : Proto EyouCan Bool := tryIssueReadCommand motorId 0x0F
def requestEnable (motorId : UInt8) : Proto EyouCan Bool := tryIssueReadCommand motorId 0x10
def requestFault (motorId : UInt8) : Proto EyouCan Bool := tryIssueReadCommand motorId 0x15
def requestCurrent (motorId : UInt8) : Proto EyouCan Bool := tryIssueReadCommand motorId 0x05
def requestVelocity (motorId : UInt8) : Proto EyouCan Bool := tryIssueReadCommand motorId 0x06

/-- `issueRefreshQuery`. -/
def issueRefreshQuery (motorId : MotorID) (query : PpRefreshQuery) : Proto EyouCan Bool := do
  registerManagedMotorId motorId
  match query with
  | .position => requestPosition (toProtocolNodeId motorId)
  | .velocity => requestVelocity (toProtocolNodeId motorId)
  | .mode => requestMode (toProtocolNodeId motorId)
  | .enable => requestEnable (toProtocolNodeId motorId)
  | .fault => requestFault (toProtocolNodeId motorId)
  | .current => requestCurrent (toProtocolNodeId motorId)

/-- `markReadResponseReceived`. -/
def markReadResponseReceived (motorId subCommand : UInt8) : Proto EyouCan Unit := do
  let t ← now
  modify fun s =>
    match s.pendingReadRequests (motorId, subCommand) with
    | none => s
    | some request =>
        let answered :=
          { request with lastResponse := t, queued := false, inFlight := false }
        { s with pendingReadRequests := put s.pendingReadRequests (motorId, subCommand) answered }

/-- `resetReadTracking`. -/
def resetReadTracking : Proto EyouCan Unit :=
  modify fun s => { s with pendingReadRequests := fun _ => none }

/-! ## commands -/

/-- The guard in front of every command: without a transport nothing happens. -/
def withController (p : Proto EyouCan Bool) : Proto EyouCan Bool := do
  let s ← gets id
  if s.canController then p else pure false

/-- The value register 0x0F takes for a mode. -/
def modeValue : MotorMode → UInt32
  | .position => 0x1
  | .velocity => 0x3
  | .csp => 0x5

/-- `setMode`: the velocity preload has to be written again after a mode switch. -/
def setMode (id : MotorID) (mode : MotorMode) : Proto EyouCan Bool := withController do
  let motorId := toProtocolNodeId id
  registerManagedMotorId id
  modify fun s => s.setMotorState motorId fun st =>
    { st with mode, positionVelocityConfigured := false }
  syncSharedModeSelection motorId mode
  sendWriteCommand motorId 0x0F (modeValue mode) 4
  pure true

/-- `setVelocity`. -/
def setVelocity (id : MotorID) (velocity : Int32) : Proto EyouCan Bool := withController do
  let motorId := toProtocolNodeId id
  registerManagedMotorId id
  modify fun s => s.setMotorState motorId fun st =>
    { st with
      commandedVelocity := velocity
      lastPositionVelocityRaw := velocity
      positionVelocityConfigured := true }
  syncSharedCommand motorId 0 velocity .velocity true
  sendMaybeFast motorId 0x09 velocity.toUInt32
  pure true

/-- The decision of `ensurePositionVelocityConfigured`: whether 0x09 has to be
written, and the state that remembers it. -/
def notePositionVelocity (motorId : UInt8) (velocityRaw : Int32) (forceWrite : Bool)
    (s : EyouCan) : Bool × EyouCan :=
  let st := { s.motorState motorId with commandedVelocity := velocityRaw }
  if forceWrite || !st.positionVelocityConfigured || st.lastPositionVelocityRaw != velocityRaw then
    (true, s.setMotorState motorId fun _ =>
      { st with lastPositionVelocityRaw := velocityRaw, positionVelocityConfigured := true })
  else
    (false, s.setMotorState motorId fun _ => st)

/-- `ensurePositionVelocityConfigured`. -/
def ensurePositionVelocityConfigured (motorId : UInt8) (velocityRaw : Int32)
    (forceWrite : Bool) : Proto EyouCan Bool :=
  if velocityRaw ≤ 0 then
    pure false
  else do
    let shouldWrite ← access (notePositionVelocity motorId velocityRaw forceWrite)
    if shouldWrite then
      sendMaybeFast motorId 0x09 velocityRaw.toUInt32
      pure true
    else
      pure true

/-- `setAcceleration`. -/
def setAcceleration (id : MotorID) (acceleration : Int32) : Proto EyouCan Bool :=
  withController do
    registerManagedMotorId id
    sendWriteCommand (toProtocolNodeId id) 0x0B acceleration.toUInt32 4
    pure true

/-- `setDeceleration`. -/
def setDeceleration (id : MotorID) (deceleration : Int32) : Proto EyouCan Bool :=
  withController do
    registerManagedMotorId id
    sendWriteCommand (toProtocolNodeId id) 0x0C deceleration.toUInt32 4
    pure true

/-- `setPosition`: the velocity preload is always written before the target. -/
def setPosition (id : MotorID) (position : Int32) : Proto EyouCan Bool := withController do
  let motorId := toProtocolNodeId id
  registerManagedMotorId id
  modify fun s => s.setMotorState motorId fun st => { st with commandedPosition := position }
  syncSharedCommand motorId position 0 .position true
  let positionVelocityRaw ← gets fun s =>
    (s.positionVelocityRawByMotorId motorId).getD s.defaultPositionVelocityRaw
  let configured ← ensurePositionVelocityConfigured motorId positionVelocityRaw true
  if configured then
    sendMaybeFast motorId 0x0A position.toUInt32
    pure true
  else
    pure false

/-- `quickSetPosition`: the velocity preload is written only when it is not
known to be in place. -/
def quickSetPosition (id : MotorID) (position : Int32) : Proto EyouCan Bool := withController do
  let motorId := toProtocolNodeId id
  registerManagedMotorId id
  modify fun s => s.setMotorState motorId fun st => { st with commandedPosition := position }
  syncSharedCommand motorId position 0 .csp true
  let positionVelocityRaw ← gets fun s =>
    (s.cspVelocityRawByMotorId motorId).getD s.defaultCspVelocityRaw
  let configured ← ensurePositionVelocityConfigured motorId positionVelocityRaw false
  if configured then
    sendWriteCommand motorId 0x0A position.toUInt32 4 kFastWriteCommand
    pure true
  else
    pure false

/-- `Enable`. -/
def enable (id : MotorID) : Proto EyouCan Bool := withController do
  let motorId := toProtocolNodeId id
  registerManagedMotorId id
  modify fun s => s.setMotorState motorId fun st =>
    { st with positionVelocityConfigured := false, enabledReceived := false }
  syncSharedIntent motorId .enable
  sendWriteCommand motorId 0x10 1 4
  let _ ← requestEnable motorId
  pure true

/-- `Disable`. -/
def disable (id : MotorID) : Proto EyouCan Bool := withController do
  let motorId := toProtocolNodeId id
  registerManagedMotorId id
  modify fun s => s.setMotorState motorId fun st => { st with enabledReceived := false }
  syncSharedIntent motorId .disable
  sendWriteCommand motorId 0x10 0 4
  let _ ← requestEnable motorId
  pure true

/-- `Stop`. -/
def stop (id : MotorID) : Proto EyouCan Bool := withController do
  let motorId := toProtocolNodeId id
  registerManagedMotorId id
  syncSharedIntent motorId .hold
  sendWriteCommand motorId 0x11 1 4
  pure true

/-- `ResetFault`. -/
def resetFault (id : MotorID) : Proto EyouCan Bool := withController do
  let motorId := toProtocolNodeId id
  registerManagedMotorId id
  syncSharedIntent motorId .recover
  sendWriteCommand motorId 0x15 0 4
  markReadResponseReceived motorId 0x15
  let _ ← requestFault motorId
  pure true

/-- `configurePositionLimits`: upper limit, lower limit, limit switch, one after
another to the same node. -/
def configurePositionLimits (id : MotorID) (minPositionRaw maxPositionRaw : Int32)
    (enable : Bool) : Proto EyouCan Bool := withController <|
  if maxPositionRaw < minPositionRaw then
    pure false
  else do
    let motorId := toProtocolNodeId id
    registerManagedMotorId id
    sendWriteCommand motorId 0x39 maxPositionRaw.toUInt32 4 kWriteCommand
    sendWriteCommand motorId 0x3A minPositionRaw.toUInt32 4 kWriteCommand
    sendWriteCommand motorId 0x38 (if enable then 1 else 0) 4 kWriteCommand
    pure true

/-! ## writes that wait for their acknowledgement -/

/-- Forget an earlier acknowledgement. -/
def clearWriteAck (motorId subCommand : UInt8) (s : EyouCan) : EyouCan :=
  { s with pendingWriteAcks := put s.pendingWriteAcks (motorId, subCommand) {} }

/-- The end of a wait: the acknowledgement as it is when the wait is over,
because it came or because the time is up. -/
def awaitWriteAck (motorId subCommand : UInt8) : Proto EyouCan Bool := do
  let ack ← gets fun s => (s.pendingWriteAcks (motorId, subCommand)).getD {}
  if ack.received then
    pure (ack.state = 0x01 || ack.state = 0x05)
  else
    pure false

/-- `writeCommandAndWaitForAck`. -/
def writeCommandAndWaitForAck (motorId subCommand : UInt8) (value : UInt32)
    (payloadBytes : Nat) : Proto EyouCan Bool := do
  let s ← gets id
  if s.canController && s.txDispatcher then
    modify (clearWriteAck motorId subCommand)
    sendWriteCommand motorId subCommand value payloadBytes kWriteCommand
    awaitWriteAck motorId subCommand
  else
    pure false

/-- `writeCommandBytesAndWaitForAck`. -/
def writeCommandBytesAndWaitForAck (motorId subCommand : UInt8) (payload : Vector UInt8 4) :
    Proto EyouCan Bool := do
  let s ← gets id
  if s.canController && s.txDispatcher then
    modify (clearWriteAck motorId subCommand)
    let accepted ← submitTx (writeBytesFrame motorId subCommand payload) .control
      .eyouPersistParameters
    if accepted then
      modify fun s => { s with normalWriteSentCount := s.normalWriteSentCount + 1 }
      awaitWriteAck motorId subCommand
    else
      pure false
  else
    pure false

/-- `setPositionOffset`. -/
def setPositionOffset (id : MotorID) (offsetRaw : Int32) : Proto EyouCan Bool :=
  withController do
    registerManagedMotorId id
    writeCommandAndWaitForAck (toProtocolNodeId id) 0x3B offsetRaw.toUInt32 4

/-- The polling loop of the two blocking reads: look every 10 ms until the value
is there or 200 ms are over, so at most twenty times. -/
def pollState (motorId : UInt8) (found : EyouMotorState → Option α) (deadline : Time) :
    Nat → Proto EyouCan (Option α)
  | 0 => pure none
  | polls + 1 => do
      let t ← now
      if t < deadline then
        let st ← gets fun s => s.motorStates motorId
        match st.bind found with
        | some a => pure (some a)
        | none => pollState motorId found deadline polls
      else
        pure none

/-- `readPositionOffset`. -/
def readPositionOffset (id : MotorID) : Proto EyouCan (Option Int32) := do
  let s ← gets fun s => s
  if s.canController then
    let motorId := toProtocolNodeId id
    registerManagedMotorId id
    modify fun s => s.setMotorState motorId fun st => { st with positionOffsetReceived := false }
    let issued ← requestPositionOffset motorId
    if issued then
      let t ← now
      pollState motorId
        (fun st => if st.positionOffsetReceived then some st.positionOffset else none)
        (t + ms 200) 20
    else
      pure none
  else
    pure none

/-- `readSerialNumber`. -/
def readSerialNumber (id : MotorID) : Proto EyouCan (Option UInt32) := do
  let s ← gets fun s => s
  if s.canController then
    let motorId := toProtocolNodeId id
    registerManagedMotorId id
    modify fun s => s.setMotorState motorId fun st => { st with serialNumberReceived := false }
    let issued ← requestSerialNumber motorId
    if issued then
      let t ← now
      pollState motorId
        (fun st => if st.serialNumberReceived then some st.serialNumber else none)
        (t + ms 200) 20
    else
      pure none
  else
    pure none

/-- The attempts of `persistParameters`. -/
def persistAttempts (motorId : UInt8) (payload : Vector UInt8 4) : Nat → Proto EyouCan Bool
  | 0 => pure false
  | attempts + 1 => do
      let ok ← writeCommandBytesAndWaitForAck motorId kPersistParametersSubCommand payload
      if ok then pure true else persistAttempts motorId payload attempts

/-- `persistParameters`: the payload is the low three bytes of the serial number
and a one. -/
def persistParameters (id : MotorID) : Proto EyouCan Bool := withController do
  let serial ← readSerialNumber id
  match serial with
  | none => pure false
  | some serialNumber => do
      registerManagedMotorId id
      let payload := #v[(serialNumber >>> 16).toUInt8, (serialNumber >>> 8).toUInt8,
        serialNumber.toUInt8, 1]
      persistAttempts (toProtocolNodeId id) payload kPersistWriteAckRetries

/-! ## responses -/

/-- What a read response says about the motor. -/
def decodeRead (frame : Frame) (st : EyouMotorState) : EyouMotorState :=
  match (frame.byte 1).toNat with
  | 0x02 => { st with serialNumber := readUInt32BE frame 2, serialNumberReceived := true }
  | 0x05 => { st with current := readInt32BE frame 2, currentReceived := true }
  | 0x06 => { st with actualVelocity := readInt32BE frame 2, velocityReceived := true }
  | 0x07 => { st with position := readInt32BE frame 2, positionReceived := true }
  | 0x3B => { st with positionOffset := readInt32BE frame 2, positionOffsetReceived := true }
  | 0x0F =>
      { st with
        mode :=
          if dataByteOrZero frame 5 = 0x03 then .velocity
          else if dataByteOrZero frame 5 = 0x05 then .csp
          else .position
        modeReceived := true }
  | 0x10 => { st with enabled := dataByteOrZero frame 5 != 0, enabledReceived := true }
  | 0x15 => { st with fault := readUInt32BE frame 2 != 0, faultReceived := true }
  | _ => st

/-- `markWriteAckReceived`. -/
def markWriteAckReceived (motorId subCommand writeState : UInt8) : Proto EyouCan Unit :=
  modify fun s =>
    { s with
      pendingWriteAcks :=
        put s.pendingWriteAcks (motorId, subCommand) { received := true, state := writeState } }

/-- The read that follows a rejected write, if any. -/
def resyncAfter (motorId subCommand : UInt8) : Proto EyouCan Bool :=
  match subCommand.toNat with
  | 0x09 => requestVelocity motorId
  | 0x0A => requestPosition motorId
  | 0x0F => requestMode motorId
  | 0x10 => requestEnable motorId
  | 0x15 => requestFault motorId
  | _ => pure false

/-- The id filter of `handleResponse`: the node a frame comes from. -/
def responseNode (frame : Frame) : Option UInt8 :=
  if frame.isExtended || frame.dlc < 2 then none
  else
    let canId := frame.id &&& 0x7FF
    if 0x100 ≤ canId then none else some canId.toUInt8

/-- `handleResponse`. -/
def handleResponse (frame : Frame) : Proto EyouCan Unit := do
  let s ← gets id
  if s.shuttingDown then
    pure ()
  else
    match responseNode frame with
    | none => pure ()
    | some motorId =>
        if s.isManagedMotorId motorId then
          let subCommand := frame.byte 1
          modify fun s => s.setMotorState motorId fun st => st
          if frame.byte 0 = kWriteAck then
            let writeState := dataByteOrZero frame 2
            markWriteAckReceived motorId subCommand writeState
            if writeState != 0x01 && writeState != 0x05 then
              let _ ← resyncAfter motorId subCommand
              pure ()
            else
              pure ()
          else if frame.byte 0 = kReadResponse then
            markReadResponseReceived motorId subCommand
            let snapshot ← access fun s =>
              (decodeRead frame (s.motorState motorId), s.setMotorState motorId (decodeRead frame))
            syncSharedFeedback motorId snapshot
          else
            pure ()
        else
          pure ()

/-! ## cached values -/

/-- The getters re-register the id they are asked about. -/
def getCached (id : MotorID) (f : EyouMotorState → α) (default : α) : Proto EyouCan α := do
  registerManagedMotorId id
  gets fun s => ((s.motorStates (toProtocolNodeId id)).map f).getD default

/-- `getPosition`. -/
def getPosition (id : MotorID) : Proto EyouCan Int :=
  getCached id (fun st => if st.positionReceived then st.position.toInt else 0) 0

/-- `getVelocity`. -/
def getVelocity (id : MotorID) : Proto EyouCan Int :=
  getCached id (fun st => if st.velocityReceived then st.actualVelocity.toInt else 0) 0

/-- `getCurrent`, clamped to the int16 range. -/
def getCurrent (id : MotorID) : Proto EyouCan Int :=
  getCached id
    (fun st => if st.currentReceived then max (-32768) (min 32767 st.current.toInt) else 0) 0

/-- `isEnabled`. -/
def isEnabled (id : MotorID) : Proto EyouCan Bool := getCached id (fun st => st.enabled) false

/-- `hasFault`. -/
def hasFault (id : MotorID) : Proto EyouCan Bool := getCached id (fun st => st.fault) false

/-! ## set-up -/

/-- One more refreshed motor. -/
def addMotor (s : EyouCan) (motorId : MotorID) : EyouCan :=
  { s.remember motorId with refreshMotorIds := s.refreshMotorIds ++ [toProtocolNodeId motorId] }

/-- The motors of `initializeMotorRefresh`, and no others. -/
def loadMotors (motorIds : List MotorID) (s : EyouCan) : EyouCan :=
  motorIds.foldl addMotor
    { s with refreshMotorIds := [], managedMotorIds := [], systemMotorIdsByNodeId := fun _ => none }

/-- `initializeMotorRefresh`. -/
def initializeMotorRefresh (motorIds : List MotorID) : Proto EyouCan Unit := do
  modify (loadMotors motorIds)
  let s ← gets id
  if s.publishes then
    modifyShared fun shared =>
      motorIds.foldl (fun shared m => shared.registerAxis (makeAxisKey s.deviceName .PP m)) shared
  else
    pure ()
  resetReadTracking

/-- `setRefreshRateHz`: anything but a positive finite rate means the default. -/
def setRefreshRateHz (hz : Double) : Proto EyouCan Unit :=
  modify fun s =>
    { s with
      refreshRateHz := match hz with
        | .finite q => if q ≤ 0 then 0 else q
        | _ => 0 }

/-- `computeRefreshSleep`, in milliseconds. -/
def computeRefreshSleep (s : EyouCan) (motorCount : Nat) : Int :=
  if 0 < s.refreshRateHz then max 1 (Double.roundAway (1000 / s.refreshRateHz))
  else max 5 (motorCount * kQueriesPerMotorPerCycle)

/-- `refreshSleepInterval`, in milliseconds. -/
def refreshSleepInterval (s : EyouCan) : Int :=
  s.computeRefreshSleep (max 1 s.refreshMotorIds.length)

/-- `setFastWriteEnabled`. -/
def setFastWriteEnabled (enabled : Bool) : Proto EyouCan Unit :=
  modify fun s => { s with fastWriteEnabled := enabled }

/-- `setDefaultPositionVelocityRaw`. -/
def setDefaultPositionVelocityRaw (velocityRaw : Int32) : Proto EyouCan Unit :=
  if velocityRaw ≤ 0 then pure ()
  else modify fun s => { s with defaultPositionVelocityRaw := velocityRaw }

/-- `setDefaultCspVelocityRaw`. -/
def setDefaultCspVelocityRaw (velocityRaw : Int32) : Proto EyouCan Unit :=
  if velocityRaw ≤ 0 then pure ()
  else modify fun s => { s with defaultCspVelocityRaw := velocityRaw }

/-- `setMotorDefaultPositionVelocityRaw`. -/
def setMotorDefaultPositionVelocityRaw (id : MotorID) (velocityRaw : Int32) :
    Proto EyouCan Unit :=
  if velocityRaw ≤ 0 then pure ()
  else do
    registerManagedMotorId id
    modify fun s =>
      { s with
        positionVelocityRawByMotorId :=
          put s.positionVelocityRawByMotorId (toProtocolNodeId id) velocityRaw }

/-- `setMotorDefaultCspVelocityRaw`. -/
def setMotorDefaultCspVelocityRaw (id : MotorID) (velocityRaw : Int32) : Proto EyouCan Unit :=
  if velocityRaw ≤ 0 then pure ()
  else do
    registerManagedMotorId id
    modify fun s =>
      { s with
        cspVelocityRawByMotorId :=
          put s.cspVelocityRawByMotorId (toProtocolNodeId id) velocityRaw }

end EyouCan

end CanDriver
