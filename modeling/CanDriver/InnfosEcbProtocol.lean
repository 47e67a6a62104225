import CanDriver.Double
import CanDriver.Lib.Prog
import CanDriver.SharedDriverState
import Mathlib.Data.List.Dedup

/-!
# CanDriver.InnfosEcbProtocol

The ECB protocol: actuators behind Ethernet bridges, which are reached through the vendor's
`ActuatorController`.

Its member functions are programs over `EcbOp`: accesses of the members and of the shared driver
state, looks at the clock, and calls of the controller, which answers as it likes.  Each public
function holds `mutex_` from its first access to its last.  Only `Stop` goes on without it, to
publish its intent.
-/

namespace CanDriver

open Interact

/-! ## the vendor's controller -/

/-- `Actuator::ActuatorMode`. -/
inductive ActuatorMode where
  | none | cur | vel | pos | teaching | profilePos | profileVel | homing
deriving DecidableEq, Repr

/-- `ActuatorController::UnifiedID`. -/
structure UnifiedID where
  actuatorID : UInt8
  ipAddress : String
deriving DecidableEq, Repr

/-- The calls of `ActuatorController` that are addressed to one actuator. -/
inductive ActuatorCall where
  | isOnline
  | reconnect
  | getPosition
  | getVelocity
  | getCurrent
  | isEnable
  | getErrorCode
  | getActuatorMode
  | activateActuatorMode (mode : ActuatorMode)
  | setVelocity (rpm : Double)
  | setPosition (rev : Double)
  | enableActuator
  | disableActuator
  | clearError
  | setMinimumPosition (rev : Double)
  | setMaximumPosition (rev : Double)
  | enablePositionLimit (enable : Bool)
  | setPositionOffset (rev : Double)
  | setProfileVelocityAcceleration (rpmS : Double)
  | setProfileVelocityDeceleration (rpmS : Double)
  | setProfilePositionAcceleration (rpmS : Double)
  | setProfilePositionDeceleration (rpmS : Double)
  | setProfilePositionMaxVelocity (rpm : Double)

/-- The answers; whatever else the controller returns is not looked at. -/
@[reducible] def ActuatorCall.Ans : ActuatorCall → Type
  | .isOnline => Bool
  | .getPosition => Double
  | .getVelocity => Double
  | .getCurrent => Double
  | .isEnable => Bool
  | .getErrorCode => UInt32
  | .getActuatorMode => ActuatorMode
  | .enableActuator => Bool
  | .disableActuator => Bool
  | _ => Unit

/-! ## the object -/

/-- `InnfosEcbProtocol::MotorRoute`. -/
structure MotorRoute where
  autoDiscovery : Bool := false
  fixedIp : String := ""
deriving DecidableEq, Repr

/-- `InnfosEcbProtocol::MotorEndpoint`. -/
structure MotorEndpoint where
  actuatorId : UInt8 := 0
  ipAddress : String := ""
  resolved : Bool := false
  enabled : Bool := false
deriving DecidableEq, Repr

/-- `InnfosEcbProtocol::MotorCache`. -/
structure MotorCache where
  positionRaw : Int := 0
  velocityRaw : Int16 := 0
  currentRaw : Int16 := 0
  errorCode : UInt32 := 0
  mode : MotorMode := .position
  enabled : Bool := false
  fault : Bool := false
  modeValid : Bool := false
  valid : Bool := false
deriving DecidableEq, Repr

/-- `InnfosEcbProtocol::MotionProfile`. -/
structure MotionProfile where
  positionMaxRpm : Double := .finite 500
  positionAccelerationRpmS : Double := .finite 300
  positionDecelerationRpmS : Double := .finite (-300)
  velocityAccelerationRpmS : Double := .finite 300
  velocityDecelerationRpmS : Double := .finite (-300)

/-- `InnfosEcbProtocol`.  `controller` and `sharedState` tell whether the pointers are set. -/
structure InnfosEcbProtocol where
  controller : Bool := false
  defaultIp : String := ""
  defaultAutoDiscovery : Bool := false
  routes : UInt16 → Option MotorRoute := fun _ => none
  endpoints : UInt16 → Option MotorEndpoint := fun _ => none
  caches : UInt16 → Option MotorCache := fun _ => none
  nextRecoveryTry : UInt16 → Option Time := fun _ => none
  motionProfiles : UInt16 → Option MotionProfile := fun _ => none
  modeCache : UInt16 → Option MotorMode := fun _ => none
  refreshIds : List UInt16 := []
  sharedState : Bool := true
  deviceName : String
  refreshIntervalMs : Int := 20
  refreshRunning : Bool := false

/-- What the protocol does to the outside, step by step. -/
inductive EcbOp where
  | members (f : InnfosEcbProtocol → InnfosEcbProtocol)
  | shared (f : SharedDriverState → SharedDriverState)
  | clock
  | sleep (duration : Time)
  | initController
  | processEvents
  | lookupActuators
  | actuator (id : UInt8) (ip : String) (call : ActuatorCall)

/-- The answers: an access the state it found, `initController` whether there is one. -/
@[reducible] def EcbOp.Ans : EcbOp → Type
  | .members _ => InnfosEcbProtocol
  | .shared _ => SharedDriverState
  | .clock => Time
  | .sleep _ => Unit
  | .initController => Bool
  | .processEvents => Unit
  | .lookupActuators => List UnifiedID
  | .actuator _ _ call => call.Ans

/-- The interface of the ECB protocol. -/
abbrev ecbSig : Sig := ⟨EcbOp, EcbOp.Ans⟩

/-- A program of the ECB protocol. -/
abbrev Ecb (α : Type) := Prog ecbSig α

/-- Ask for one operation. -/
def askEcb (op : EcbOp) : Ecb op.Ans := Prog.vis (S := ecbSig) op .ret

namespace InnfosEcbProtocol

/-- The members as they are. -/
def members : Ecb InnfosEcbProtocol := askEcb (.members id)

/-- Change the members. -/
def modify (f : InnfosEcbProtocol → InnfosEcbProtocol) : Ecb Unit := do
  let _ ← askEcb (.members f)
  pure ()

/-- Change the shared driver state. -/
def modifyShared (f : SharedDriverState → SharedDriverState) : Ecb Unit := do
  let _ ← askEcb (.shared f)
  pure ()

/-- `steady_clock::now`. -/
def now : Ecb Time := askEcb .clock

/-- `sleep_for`. -/
def sleep (milliseconds : Int) : Ecb Unit := askEcb (.sleep (ms milliseconds))

/-- `ActuatorController::initController`. -/
def initController : Ecb Bool := askEcb .initController

/-- `ActuatorController::processEvents`. -/
def processEvents : Ecb Unit := askEcb .processEvents

/-- `lookupActuators`. -/
def lookupActuators : Ecb (List UnifiedID) := askEcb .lookupActuators

/-- Ask the actuator of an endpoint. -/
def ask (endpoint : MotorEndpoint) (call : ActuatorCall) : Ecb call.Ans :=
  askEcb (.actuator endpoint.actuatorId endpoint.ipAddress call)

/-- `isOnline`. -/
def isOnline (endpoint : MotorEndpoint) : Ecb Bool := ask endpoint .isOnline

/-- Tell the actuator of an endpoint something, whatever it answers. -/
def tell (endpoint : MotorEndpoint) (call : ActuatorCall) : Ecb Unit := do
  let _ ← ask endpoint call
  pure ()

/-- Do something on a condition. -/
def onlyIf (c : Bool) (p : Ecb Unit) : Ecb Unit := if c then p else pure ()

def kPositionRawPerRevolution : Double := .finite 10000
def kVelocityRawPerRpm : Double := .finite 10
def kCurrentRawPerAmp : Double := .finite 1000
def kResolveRetryCount : Nat := 3
def kResolveRetrySleepMs : Int := 120
def kReconnectRetryCount : Nat := 2
def kReconnectRetrySleepMs : Int := 80
def kRecoveryCooldownMs : Int := 500

/-- `clampToFinite`. -/
def clampToFinite (value fallback : Double) : Double := if value.isFinite then value else fallback

/-- `std::llround`, of what is finite. -/
def llround : Double → Int
  | .finite q => Double.roundAway q
  | _ => 0

/-- `std::clamp` to the range of `int16_t`. -/
def clampToInt16 (value : Int) : Int16 := Int16.ofInt (max (-32768) (min 32767 value))

/-- `sdkModeToMotorMode`. -/
def sdkModeToMotorMode : ActuatorMode → Option MotorMode
  | .profileVel => some .velocity
  | .vel => some .velocity
  | .profilePos => some .position
  | .pos => some .position
  | _ => none

/-- The mode of the actuator that serves a mode of the motor. -/
def sdkMode (mode : MotorMode) : ActuatorMode :=
  if mode = .velocity then .profileVel else .profilePos

/-- The constructor: an `ecb://` specification names a default address, or discovery. -/
def ofSpec (deviceSpec : String) (sharedState : Bool) (deviceName : String) :
    InnfosEcbProtocol :=
  let name := if deviceName = "" then deviceSpec else deviceName
  match deviceSpec.dropPrefix? "ecb://" with
  | none => { sharedState, deviceName := name }
  | some payload =>
      if payload.toString = "auto" || payload.toString = "" then
        { sharedState, deviceName := name, defaultAutoDiscovery := true }
      else
        { sharedState, deviceName := name, defaultIp := payload.toString }

/-! ## the shared driver state -/

/-- `makeAxisKey`. -/
def axisKey (s : InnfosEcbProtocol) (motorId : UInt16) : AxisKey :=
  makeAxisKey s.deviceName .ECB motorId

/-- Whether anything is published at all. -/
def publishes (s : InnfosEcbProtocol) : Bool := s.sharedState && s.deviceName != ""

/-- What `syncSharedFeedbackLocked` makes of a feedback record. -/
def publishedFeedback (cache : MotorCache) (nowNs : Time) (feedback : AxisFeedbackState) :
    AxisFeedbackState :=
  { feedback with
    position := cache.positionRaw
    velocity := cache.velocityRaw.toInt
    current := cache.currentRaw.toInt
    mode := if cache.modeValid then cache.mode else feedback.mode
    modeValid := cache.modeValid || feedback.modeValid
    positionValid := true
    velocityValid := true
    currentValid := true
    enabled := cache.enabled
    fault := cache.fault
    enabledValid := true
    faultValid := true
    feedbackSeen := true
    lastRxSteadyNs := nowNs
    lastValidStateSteadyNs := nowNs
    consecutiveTimeoutCount := 0 }

/-- `syncSharedFeedbackLocked`. -/
def syncSharedFeedback (motorId : UInt16) (cache : MotorCache) : Ecb Unit := do
  let s ← members
  if s.publishes && cache.valid then
    let nowNs ← now
    modifyShared fun shared =>
      shared.mutateAxisFeedback (s.axisKey motorId) (publishedFeedback cache nowNs)
  else
    pure ()

/-- `syncSharedCommandLocked`. -/
def syncSharedCommand (motorId : UInt16) (targetPosition targetVelocity : Int)
    (desiredMode : MotorMode) (valid : Bool) : Ecb Unit := do
  let s ← members
  if s.publishes then
    let nowNs ← now
    modifyShared fun shared =>
      shared.mutateAxisCommand (s.axisKey motorId) fun command =>
        { command with
          targetPosition
          targetVelocity
          desiredMode
          desiredModeValid := true
          valid
          lastCommandSteadyNs := nowNs }
  else
    pure ()

/-- `syncSharedIntentLocked`. -/
def syncSharedIntent (motorId : UInt16) (intent : AxisIntent) : Ecb Unit := do
  let s ← members
  if s.publishes then
    modifyShared fun shared => shared.setAxisIntent (s.axisKey motorId) intent
  else
    pure ()

/-! ## finding an actuator -/

/-- `ensureControllerLocked`. -/
def ensureController : Ecb Bool := do
  let s ← members
  if s.controller then
    pure true
  else
    let controller ← initController
    modify fun s => { s with controller }
    pure controller

/-- The loop of `reconnectEndpointLocked`. -/
def reconnectAttempts (endpoint : MotorEndpoint) : Nat → Ecb Bool
  | 0 => pure false
  | attempts + 1 => do
      tell endpoint .reconnect
      processEvents
      sleep kReconnectRetrySleepMs
      let online ← isOnline endpoint
      if online then pure true else reconnectAttempts endpoint attempts

/-- `reconnectEndpointLocked`. -/
def reconnectEndpoint (motorId : UInt16) : Ecb Bool := do
  let s ← members
  match s.endpoints motorId with
  | none => pure false
  | some endpoint =>
      if endpoint.resolved then
        let ready ← ensureController
        if ready then reconnectAttempts endpoint kReconnectRetryCount else pure false
      else
        pure false

/-- `canAttemptRecoveryLocked`. -/
def canAttemptRecovery (motorId : UInt16) : Ecb Bool := do
  let time ← now
  let s ← members
  if (s.nextRecoveryTry motorId).any fun next => decide (time < next) then
    pure false
  else
    modify fun s =>
      { s with nextRecoveryTry := put s.nextRecoveryTry motorId (time + ms kRecoveryCooldownMs) }
    pure true

/-- The body of both halves of a resolve attempt: note the endpoint, and see whether it is, or
comes, online. -/
def tryEndpoint (motorId : UInt16) (endpoint : MotorEndpoint) : Ecb Bool := do
  modify fun s => { s with endpoints := put s.endpoints motorId endpoint }
  let online ← isOnline endpoint
  if online then
    pure true
  else
    let _ ← reconnectEndpoint motorId
    isOnline endpoint

/-- Half of a resolve attempt, where there is an endpoint to be tried. -/
def tryEndpointIf (c : Bool) (motorId : UInt16) (endpoint : MotorEndpoint) : Ecb Bool :=
  if c then tryEndpoint motorId endpoint else pure false

/-- The endpoint at an address. -/
def endpointAt (actuatorId : UInt8) (ipAddress : String) : MotorEndpoint :=
  { actuatorId, ipAddress, resolved := true }

/-- The search of a resolve attempt through what `lookupActuators` found.  In the last attempt
an actuator at another address than the one asked for will do, too. -/
def discover (motorId : UInt16) (routeAuto : Bool) (routeIp : String) (attempt : Nat) :
    List UnifiedID → MotorEndpoint → MotorEndpoint
  | [], discovered => discovered
  | u :: ids, discovered =>
      if u.actuatorID ≠ motorId.toUInt8 then
        discover motorId routeAuto routeIp attempt ids discovered
      else if routeIp ≠ "" ∧ u.ipAddress ≠ routeIp then
        discover motorId routeAuto routeIp attempt ids
          (if !routeAuto && attempt + 1 == kResolveRetryCount then
            endpointAt u.actuatorID u.ipAddress
          else discovered)
      else
        endpointAt u.actuatorID u.ipAddress

/-- The loop of `resolveEndpointLocked`. -/
def resolveAttempts (motorId : UInt16) (routeAuto : Bool) (routeIp : String) :
    List Nat → Ecb Bool
  | [] => pure false
  | attempt :: attempts => do
      let fixed ← tryEndpointIf (!routeAuto && routeIp != "") motorId
        (endpointAt motorId.toUInt8 routeIp)
      if fixed then
        pure true
      else
        let unifiedIds ← lookupActuators
        let discovered := discover motorId routeAuto routeIp attempt unifiedIds {}
        let found ← tryEndpointIf discovered.resolved motorId discovered
        if found then
          pure true
        else
          sleep kResolveRetrySleepMs
          resolveAttempts motorId routeAuto routeIp attempts

/-- The route of a motor. -/
def route (s : InnfosEcbProtocol) (motorId : UInt16) : MotorRoute :=
  (s.routes motorId).getD { autoDiscovery := s.defaultAutoDiscovery, fixedIp := s.defaultIp }

/-- `resolveEndpointLocked`: an endpoint that was resolved once is not looked for again. -/
def resolveEndpoint (motorId : UInt16) : Ecb Bool := do
  let s ← members
  if (s.endpoints motorId).any MotorEndpoint.resolved then
    pure true
  else
    let ready ← ensureController
    if !ready then
      pure false
    else if 255 < motorId then
      pure false
    else
      let s ← members
      resolveAttempts motorId (s.route motorId).autoDiscovery (s.route motorId).fixedIp
        (List.range kResolveRetryCount)

/-- The end of `ensureEndpointReadyLocked`, behind a resolved endpoint. -/
def recheckEndpoint (motorId : UInt16) : Ecb Bool := do
  let s ← members
  match s.endpoints motorId with
  | none => pure false
  | some endpoint =>
      if endpoint.resolved then
        let online ← isOnline endpoint
        if online then
          pure true
        else
          let allowed ← canAttemptRecovery motorId
          if allowed then
            let _ ← reconnectEndpoint motorId
            isOnline endpoint
          else
            pure false
      else
        pure false

/-- The second half of `ensureEndpointReadyLocked`. -/
def resolveAndRecheck (motorId : UInt16) : Ecb Bool := do
  let resolved ← resolveEndpoint motorId
  if resolved then recheckEndpoint motorId else pure false

/-- `ensureEndpointReadyLocked`. -/
def ensureEndpointReady (motorId : UInt16) : Ecb Bool := do
  let ready ← ensureController
  if !ready then
    pure false
  else
    let s ← members
    match (s.endpoints motorId).filter MotorEndpoint.resolved with
    | none => resolveAndRecheck motorId
    | some endpoint => do
        let online ← isOnline endpoint
        if online then
          pure true
        else
          let allowed ← canAttemptRecovery motorId
          if !allowed then
            pure false
          else
            let _ ← reconnectEndpoint motorId
            let online ← isOnline endpoint
            if online then pure true else resolveAndRecheck motorId

/-! ## reading an actuator -/

/-- The position of a reading, in raw counts. -/
def positionRawOf (posRev : Double) : Int :=
  llround ((clampToFinite posRev (.finite 0)).mul kPositionRawPerRevolution)

/-- The velocity of a reading, in raw counts. -/
def velocityRawOf (velRpm : Double) : Int16 :=
  clampToInt16 (llround ((clampToFinite velRpm (.finite 0)).mul kVelocityRawPerRpm))

/-- The current of a reading, in raw counts. -/
def currentRawOf (curAmp : Double) : Int16 :=
  clampToInt16 (llround ((clampToFinite curAmp (.finite 0)).mul kCurrentRawPerAmp))

/-- What `updateCacheLocked` makes of its readings. -/
def cacheOf (posRev velRpm curAmp : Double) (enabled : Bool) (errorCode : UInt32)
    (mode : ActuatorMode) : MotorCache where
  positionRaw := positionRawOf posRev
  velocityRaw := velocityRawOf velRpm
  currentRaw := currentRawOf curAmp
  errorCode := errorCode
  mode := (sdkModeToMotorMode mode).getD .position
  enabled := enabled
  fault := errorCode != 0
  modeValid := (sdkModeToMotorMode mode).isSome
  valid := true

/-- What `updateCacheLocked` does to the members. -/
def storeCache (motorId : UInt16) (cache : MotorCache) (s : InnfosEcbProtocol) :
    InnfosEcbProtocol :=
  { s with
    caches := put s.caches motorId cache
    endpoints := put s.endpoints motorId
      { (s.endpoints motorId).getD {} with enabled := cache.enabled }
    modeCache := if cache.modeValid then put s.modeCache motorId cache.mode else s.modeCache }

/-- `updateCacheLocked`. -/
def updateCache (motorId : UInt16) : Ecb Bool := do
  if 255 < motorId then
    pure false
  else
    let ready ← ensureEndpointReady motorId
    if !ready then
      pure false
    else
      let s ← members
      let endpoint := (s.endpoints motorId).getD {}
      let posRev ← ask endpoint .getPosition
      let velRpm ← ask endpoint .getVelocity
      let curAmp ← ask endpoint .getCurrent
      let enabled ← ask endpoint .isEnable
      let errorCode ← ask endpoint .getErrorCode
      let mode ← ask endpoint .getActuatorMode
      let cache := cacheOf posRev velRpm curAmp enabled errorCode mode
      modify (storeCache motorId cache)
      syncSharedFeedback motorId cache
      pure true

/-! ## moving an actuator -/

/-- `motionProfileLocked`. -/
def motionProfile (s : InnfosEcbProtocol) (motorId : UInt16) : MotionProfile :=
  (s.motionProfiles motorId).getD {}

/-- `applyProfileForModeLocked`. -/
def applyProfileForMode (motorId : UInt16) (mode : MotorMode) : Ecb Unit := do
  let s ← members
  match (s.endpoints motorId).filter fun endpoint => endpoint.resolved && s.controller with
  | none => pure ()
  | some endpoint =>
      let profile := s.motionProfile motorId
      if mode = .velocity then
        tell endpoint (.setProfileVelocityAcceleration profile.velocityAccelerationRpmS)
        tell endpoint (.setProfileVelocityDeceleration profile.velocityDecelerationRpmS)
      else
        tell endpoint (.setProfilePositionAcceleration profile.positionAccelerationRpmS)
        tell endpoint (.setProfilePositionDeceleration profile.positionDecelerationRpmS)
        tell endpoint (.setProfilePositionMaxVelocity profile.positionMaxRpm)

/-- How a command begins: the id fits an actuator's, and its endpoint is ready. -/
def withEndpoint (motorId : MotorID) (body : MotorEndpoint → Ecb Bool) : Ecb Bool :=
  if 255 < motorId then
    pure false
  else do
    let ready ← ensureEndpointReady motorId
    if ready then
      let s ← members
      body ((s.endpoints motorId).getD {})
    else
      pure false

/-- Note the mode of a motor. -/
def noteMode (motorId : UInt16) (mode : MotorMode) : Ecb Unit :=
  modify fun s => { s with modeCache := put s.modeCache motorId mode }

/-- `setMode`. -/
def setMode (motorId : MotorID) (mode : MotorMode) : Ecb Bool :=
  withEndpoint motorId fun endpoint => do
    tell endpoint (.activateActuatorMode (sdkMode mode))
    applyProfileForMode motorId mode
    processEvents
    noteMode motorId mode
    syncSharedCommand motorId 0 0 mode false
    let _ ← updateCache motorId
    pure true

/-- The mode a target needs is activated, unless it is already noted. -/
def enterMode (motorId : UInt16) (endpoint : MotorEndpoint) (mode : MotorMode) : Ecb Unit := do
  let s ← members
  if s.modeCache motorId = some mode then
    pure ()
  else
    tell endpoint (.activateActuatorMode (sdkMode mode))
    applyProfileForMode motorId mode
    noteMode motorId mode

/-- `setVelocity`. -/
def setVelocity (motorId : MotorID) (velocity : Int32) : Ecb Bool :=
  withEndpoint motorId fun endpoint => do
    enterMode motorId endpoint .velocity
    tell endpoint (.setVelocity ((Double.ofInt velocity.toInt).div kVelocityRawPerRpm))
    processEvents
    syncSharedCommand motorId 0 velocity.toInt .velocity true
    syncSharedIntent motorId .run
    pure true

/-- `setAcceleration`: nothing is done. -/
def setAcceleration (_motorId : MotorID) (_acceleration : Int32) : Ecb Bool := pure true

/-- `setDeceleration`: nothing is done. -/
def setDeceleration (_motorId : MotorID) (_deceleration : Int32) : Ecb Bool := pure true

/-- `setPosition`. -/
def setPosition (motorId : MotorID) (position : Int32) : Ecb Bool :=
  withEndpoint motorId fun endpoint => do
    enterMode motorId endpoint .position
    tell endpoint (.setPosition ((Double.ofInt position.toInt).div kPositionRawPerRevolution))
    processEvents
    syncSharedCommand motorId position.toInt 0 .position true
    syncSharedIntent motorId .run
    pure true

/-- `quickSetPosition`. -/
def quickSetPosition (motorId : MotorID) (position : Int32) : Ecb Bool :=
  setPosition motorId position

/-- Note in the endpoint whether the motor is enabled. -/
def noteEnabled (motorId : UInt16) (enabled : Bool) : Ecb Unit :=
  modify fun s =>
    { s with
      endpoints := put s.endpoints motorId { (s.endpoints motorId).getD {} with enabled } }

/-- The mode that was noted is activated again, with its profile. -/
def reactivateMode (motorId : UInt16) (endpoint : MotorEndpoint) : Ecb Unit := do
  let s ← members
  match s.modeCache motorId with
  | none => pure ()
  | some mode => do
      tell endpoint (.activateActuatorMode (sdkMode mode))
      applyProfileForMode motorId mode
      processEvents

/-- `Enable`.  What is returned is what the endpoint says in the end, where the update of the
cache has put what the actuator reports. -/
def enable (motorId : MotorID) : Ecb Bool :=
  withEndpoint motorId fun endpoint => do
    let enabled ← ask endpoint .enableActuator
    noteEnabled motorId enabled
    processEvents
    onlyIf enabled (reactivateMode motorId endpoint)
    syncSharedIntent motorId .enable
    let _ ← updateCache motorId
    let s ← members
    pure ((s.endpoints motorId).any MotorEndpoint.enabled)

/-- `Disable`. -/
def disable (motorId : MotorID) : Ecb Bool :=
  withEndpoint motorId fun endpoint => do
    let ok ← ask endpoint .disableActuator
    processEvents
    onlyIf ok (noteEnabled motorId false)
    syncSharedIntent motorId .disable
    let _ ← updateCache motorId
    pure ok

/-- `Stop`: the intent is published after `setVelocity` has let go of the mutex. -/
def stop (motorId : MotorID) : Ecb Bool := do
  let ok ← setVelocity motorId 0
  if ok then
    syncSharedIntent motorId .hold
    pure ok
  else
    pure ok

/-- The error code in the cache, `0` while there is none. -/
def cachedErrorCode (s : InnfosEcbProtocol) (motorId : UInt16) : UInt32 :=
  ((s.caches motorId).filter MotorCache.valid).elim 0 MotorCache.errorCode

/-- `ResetFault`. -/
def resetFault (motorId : MotorID) : Ecb Bool :=
  withEndpoint motorId fun endpoint => do
    tell endpoint .clearError
    processEvents
    syncSharedIntent motorId .recover
    let _ ← updateCache motorId
    let s ← members
    pure (s.cachedErrorCode motorId == 0)

/-- `configurePositionLimits`. -/
def configurePositionLimits (motorId : MotorID) (minPositionRaw maxPositionRaw : Int32)
    (enable : Bool) : Ecb Bool :=
  withEndpoint motorId fun endpoint => do
    tell endpoint
      (.setMinimumPosition ((Double.ofInt minPositionRaw.toInt).div kPositionRawPerRevolution))
    tell endpoint
      (.setMaximumPosition ((Double.ofInt maxPositionRaw.toInt).div kPositionRawPerRevolution))
    tell endpoint (.enablePositionLimit enable)
    pure true

/-- `setPositionOffset`. -/
def setPositionOffset (motorId : MotorID) (offsetRaw : Int32) : Ecb Bool :=
  withEndpoint motorId fun endpoint => do
    tell endpoint
      (.setPositionOffset ((Double.ofInt offsetRaw.toInt).div kPositionRawPerRevolution))
    pure true

/-! ## asking the cache -/

/-- A getter: what the cache says, which is read first only while it is not valid. -/
def getCached (f : MotorCache → α) (absent : α) (motorId : MotorID) : Ecb α := do
  let s ← members
  match (s.caches motorId).filter MotorCache.valid with
  | some cache => pure (f cache)
  | none => do
      let updated ← updateCache motorId
      if updated then
        let s ← members
        pure (f ((s.caches motorId).getD {}))
      else
        pure absent

/-- `getPosition`. -/
def getPosition (motorId : MotorID) : Ecb Int := getCached MotorCache.positionRaw 0 motorId

/-- `getCurrent`. -/
def getCurrent (motorId : MotorID) : Ecb Int16 := getCached MotorCache.currentRaw 0 motorId

/-- `getVelocity`. -/
def getVelocity (motorId : MotorID) : Ecb Int16 := getCached MotorCache.velocityRaw 0 motorId

/-- `hasFault`. -/
def hasFault (motorId : MotorID) : Ecb Bool := getCached MotorCache.fault false motorId

/-- `isEnabled`: the endpoint answers while the cache is not valid. -/
def isEnabled (motorId : MotorID) : Ecb Bool := do
  let s ← members
  match (s.caches motorId).filter MotorCache.valid with
  | some cache => pure cache.enabled
  | none => pure ((s.endpoints motorId).any MotorEndpoint.enabled)

/-! ## configuration and refresh -/

/-- `stopRefreshThread`, up to the join. -/
def stopRefreshThread : Ecb Unit := modify fun s => { s with refreshRunning := false }

/-- `initializeMotorRefresh`. -/
def initializeMotorRefresh (motorIds : List MotorID) : Ecb Unit := do
  modify fun s => { s with refreshIds := motorIds.dedup.mergeSort fun a b => decide (a ≤ b) }
  if motorIds.isEmpty then stopRefreshThread
  else modify fun s => { s with refreshRunning := true }

/-- `configureMotorRouting`. -/
def configureMotorRouting (motorId : MotorID) (ipAddress : String) (autoDiscovery : Bool) :
    Ecb Unit :=
  modify fun s =>
    { s with
      routes := put s.routes motorId
        { autoDiscovery := autoDiscovery || s.defaultAutoDiscovery
          fixedIp := if ipAddress = "" then s.defaultIp else ipAddress } }

/-- The profile `configureMotionProfile` stores: what is not finite is replaced by its default. -/
def finiteProfile (profile : MotionProfile) : MotionProfile :=
  let absent : MotionProfile := {}
  { positionMaxRpm := clampToFinite profile.positionMaxRpm absent.positionMaxRpm
    positionAccelerationRpmS :=
      clampToFinite profile.positionAccelerationRpmS absent.positionAccelerationRpmS
    positionDecelerationRpmS :=
      clampToFinite profile.positionDecelerationRpmS absent.positionDecelerationRpmS
    velocityAccelerationRpmS :=
      clampToFinite profile.velocityAccelerationRpmS absent.velocityAccelerationRpmS
    velocityDecelerationRpmS :=
      clampToFinite profile.velocityDecelerationRpmS absent.velocityDecelerationRpmS }

/-- `configureMotionProfile`. -/
def configureMotionProfile (motorId : MotorID) (profile : MotionProfile) : Ecb Unit :=
  modify fun s =>
    { s with motionProfiles := put s.motionProfiles motorId (finiteProfile profile) }

/-- The interval `setRefreshRateHz` sets. -/
def refreshIntervalOf : Double → Int
  | .finite hz => if hz ≤ 0 then 20 else max 1 (Double.roundAway (1000 / hz))
  | _ => 20

/-- `setRefreshRateHz`. -/
def setRefreshRateHz (hz : Double) : Ecb Unit :=
  modify fun s => { s with refreshIntervalMs := refreshIntervalOf hz }

/-- The first critical section of a round of `refreshLoop`: whom to refresh, and how long to
sleep after it. -/
def refreshRound : Ecb (List UInt16 × Int) := do
  let s ← members
  let ready ← ensureController
  if ready then
    processEvents
    pure (s.refreshIds, s.refreshIntervalMs)
  else
    pure (s.refreshIds, s.refreshIntervalMs)

/-! ## the critical sections -/

/-- What is done under `mutex_` at once. -/
inductive Section where
  | setMode (id : MotorID) (mode : MotorMode)
  | setVelocity (id : MotorID) (velocity : Int32)
  | setPosition (id : MotorID) (position : Int32)
  | enable (id : MotorID)
  | disable (id : MotorID)
  | resetFault (id : MotorID)
  | getPosition (id : MotorID)
  | getCurrent (id : MotorID)
  | getVelocity (id : MotorID)
  | isEnabled (id : MotorID)
  | hasFault (id : MotorID)
  | configurePositionLimits (id : MotorID) (minPositionRaw maxPositionRaw : Int32) (enable : Bool)
  | setPositionOffset (id : MotorID) (offsetRaw : Int32)
  | initializeMotorRefresh (ids : List MotorID)
  | configureMotorRouting (id : MotorID) (ipAddress : String) (autoDiscovery : Bool)
  | configureMotionProfile (id : MotorID) (profile : MotionProfile)
  | setRefreshRateHz (hz : Double)
  | refreshRound
  | refresh (id : UInt16)
  | stopRefreshThread
  | publishHold (id : MotorID)

/-- The program of a critical section.  `Stop` is `setVelocity` and, later, `publishHold`; a
round of `refreshLoop` is `refreshRound` and a `refresh` for each of its motors. -/
def Section.code : Section → Ecb Unit
  | .setMode id mode => discard (InnfosEcbProtocol.setMode id mode)
  | .setVelocity id velocity => discard (InnfosEcbProtocol.setVelocity id velocity)
  | .setPosition id position => discard (InnfosEcbProtocol.setPosition id position)
  | .enable id => discard (InnfosEcbProtocol.enable id)
  | .disable id => discard (InnfosEcbProtocol.disable id)
  | .resetFault id => discard (InnfosEcbProtocol.resetFault id)
  | .getPosition id => discard (InnfosEcbProtocol.getPosition id)
  | .getCurrent id => discard (InnfosEcbProtocol.getCurrent id)
  | .getVelocity id => discard (InnfosEcbProtocol.getVelocity id)
  | .isEnabled id => discard (InnfosEcbProtocol.isEnabled id)
  | .hasFault id => discard (InnfosEcbProtocol.hasFault id)
  | .configurePositionLimits id minPositionRaw maxPositionRaw on =>
      discard (InnfosEcbProtocol.configurePositionLimits id minPositionRaw maxPositionRaw on)
  | .setPositionOffset id offsetRaw => discard (InnfosEcbProtocol.setPositionOffset id offsetRaw)
  | .initializeMotorRefresh ids => InnfosEcbProtocol.initializeMotorRefresh ids
  | .configureMotorRouting id ipAddress autoDiscovery =>
      InnfosEcbProtocol.configureMotorRouting id ipAddress autoDiscovery
  | .configureMotionProfile id profile => InnfosEcbProtocol.configureMotionProfile id profile
  | .setRefreshRateHz hz => InnfosEcbProtocol.setRefreshRateHz hz
  | .refreshRound => discard InnfosEcbProtocol.refreshRound
  | .refresh id => discard (updateCache id)
  | .stopRefreshThread => InnfosEcbProtocol.stopRefreshThread
  | .publishHold id => syncSharedIntent id .hold

end InnfosEcbProtocol

end CanDriver
