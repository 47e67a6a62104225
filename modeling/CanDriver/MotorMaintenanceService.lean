import CanDriver.AxisCommandSemantics
import CanDriver.LifecycleDriverOps

/-!
# CanDriver.MotorMaintenanceService

The zero, the limits and the mode of a joint: what the service that sets them asks of the
joints, of the published feedback and of the drive.

A member function is a program over `MaintenanceOp`; the calls it makes of a protocol inside
`MotorActionExecutor::execute` may succeed, be rejected or throw.
-/

namespace CanDriver

open Interact

/-! ## the operations of a request -/

/-- How a call of a protocol ends. -/
inductive CallOutcome where
  | ok | rejected | thrown
deriving DecidableEq, Repr

/-- What a request does to the outside, step by step. -/
inductive MaintenanceOp where
  | active
  | lookupJoint (motorId : MotorID)
  | freshFeedback (joint : CanDriverJointConfig)
  | isDeviceReady (device : String)
  | hasProtocol (device : String) (protocol : CanType)
  | getPosition (target : CanDriverJointConfig)
  | readPositionOffset (target : CanDriverJointConfig)
  | setPositionOffset (target : CanDriverJointConfig) (rawOffset : Int32)
  | persistParameters (target : CanDriverJointConfig)
  | getZeroOffset (motorId : MotorID)
  | commitZero (motorId : MotorID) (zeroOffset previousZeroOffset : Double) (applyToMotor : Bool)

/-- The answers: feedback that is missing or stale is `none`, and so is an offset that could
not be read. -/
@[reducible] def MaintenanceOp.Ans : MaintenanceOp → Type
  | .active => Bool
  | .lookupJoint _ => Option CanDriverJointConfig
  | .freshFeedback _ => Option AxisFeedbackState
  | .isDeviceReady _ => Bool
  | .hasProtocol _ _ => Bool
  | .getPosition _ => Int
  | .readPositionOffset _ => Option Int32
  | .setPositionOffset _ _ => CallOutcome
  | .persistParameters _ => CallOutcome
  | .getZeroOffset _ => Option Double
  | .commitZero _ _ _ _ => Bool

/-- The interface of the service. -/
abbrev maintenanceSig : Sig := ⟨MaintenanceOp, MaintenanceOp.Ans⟩

/-- A program of the service. -/
abbrev Maintenance (α : Type) := Prog maintenanceSig α

namespace MotorMaintenanceService

/-- Ask for one operation. -/
def askService (op : MaintenanceOp) : Maintenance op.Ans := Prog.vis (S := maintenanceSig) op .ret

/-! ## actions on a drive -/

/-- How an action ends: with a message if the protocol rejected it. -/
inductive ActionOutcome where
  | done
  | failed (message : String)
  | thrown
deriving DecidableEq, Repr

/-- `MotorActionExecutor::execute`, with the message of a rejected action. -/
def execute (target : CanDriverJointConfig) (action : Maintenance ActionOutcome) :
    Maintenance (Status × String) := do
  let ready ← askService (.isDeviceReady target.canDevice)
  if !ready then pure (.deviceNotReady, "")
  else
    let available ← askService (.hasProtocol target.canDevice target.protocol)
    if !available then pure (.protocolUnavailable, "")
    else
      match ← action with
      | .done => pure (.ok, "")
      | .failed message => pure (.rejected, message)
      | .thrown => pure (.exception, "")

/-- `writePositionOffset`. -/
def writePositionOffset (target : CanDriverJointConfig) (rawOffset : Int32) (persistToMotor : Bool) :
    Maintenance ActionOutcome := do
  match ← askService (.setPositionOffset target rawOffset) with
  | .thrown => pure .thrown
  | .rejected => pure (.failed "Protocol rejected zero offset setting.")
  | .ok =>
      if !persistToMotor then pure .done
      else
        match ← askService (.persistParameters target) with
        | .thrown => pure .thrown
        | .rejected => pure (.failed "Protocol rejected zero offset persistence.")
        | .ok => pure .done

/-- The action of `SetZeroByMotorId`: write the new offset, and the previous one if that fails. -/
def writeOrRollBack (target : CanDriverJointConfig) (rawOffset previousRawOffset : Int32)
    (persistToMotor : Bool) : Maintenance ActionOutcome := do
  match ← writePositionOffset target rawOffset persistToMotor with
  | .done => pure .done
  | .thrown => pure .thrown
  | .failed persistError =>
      match ← writePositionOffset target previousRawOffset persistToMotor with
      | .done => pure (.failed (persistError ++ " Rolled back previous zero offset."))
      | .failed rollbackError =>
          pure (.failed (persistError ++ " Rollback failed: " ++ rollbackError))
      | .thrown => pure .thrown

/-! ## what a request starts from -/

/-- `requireAxisDisabledForConfiguration`: the message, if the axis does not say that it is
disabled. -/
def requireAxisDisabledForConfiguration (joint : CanDriverJointConfig) (operation : String) :
    Maintenance (Option String) := do
  match ← askService (.freshFeedback joint) with
  | none =>
      pure (some (operation ++ " requires fresh enable-state feedback while the motor is disabled."))
  | some feedback =>
      if !feedback.enabledValid then
        pure (some (operation ++
          " requires fresh enable-state feedback while the motor is disabled."))
      else if feedback.enabled then
        pure (some (operation ++ " requires the motor to be disabled first."))
      else pure none

/-- The position is asked for `n` times; the last answer counts. -/
def pollPosition (target : CanDriverJointConfig) (rawPos : Int) : Nat → Maintenance Int
  | 0 => pure rawPos
  | n + 1 => do
      let rawPos ← askService (.getPosition target)
      pollPosition target rawPos n

/-- `resolveCurrentReportedPosition`: the position of the joint, and whether it comes from
fresh feedback. -/
def resolveCurrentReportedPosition (target : CanDriverJointConfig) :
    Maintenance (Option (Double × Bool)) := do
  let available ← askService (.hasProtocol target.canDevice target.protocol)
  if !available then pure none
  else
    let feedback ← askService (.freshFeedback target)
    match feedback.filter AxisFeedbackState.positionValid with
    | some feedback =>
        pure (some (rawPositionToJointPosition target (Double.ofInt feedback.position), true))
    | none =>
        let rawPos ← pollPosition target 0 5
        pure (some (rawPositionToJointPosition target (Double.ofInt rawPos), false))

/-- The offset kept for the motor of a joint, zero if there is none. -/
def keptZeroOffset (target : CanDriverJointConfig) : Maintenance Double := do
  let zeroOffset ← askService (.getZeroOffset target.motorId)
  pure (zeroOffset.getD (.finite 0))

/-- `resolveCurrentZeroOffset`. -/
def resolveCurrentZeroOffset (target : CanDriverJointConfig) (applyToMotor : Bool) :
    Maintenance Double :=
  if !applyToMotor then keptZeroOffset target
  else do
    let available ← askService (.hasProtocol target.canDevice target.protocol)
    if !available then keptZeroOffset target
    else
      match ← askService (.readPositionOffset target) with
      | some offsetRaw =>
          pure ((Double.ofInt offsetRaw.toInt).mul (effectivePositionScale target))
      | none => keptZeroOffset target

/-! ## setting the zero -/

/-- A request to set a zero. -/
structure SetZeroRequest where
  motorId : MotorID
  zeroOffsetRad : Double := .finite 0
  useCurrentPositionAsZero : Bool := false
  applyToMotor : Bool := false

/-- What `SetZeroByMotorId` returns, with its output parameters. -/
structure SetZeroResult where
  success : Bool := false
  previousZeroOffsetRad : Double := .finite 0
  currentPositionRad : Double := .finite 0
  appliedZeroOffsetRad : Double := .finite 0
  message : String := ""
deriving DecidableEq, Repr

/-- The message of a write of the zero offset, if it failed. -/
def writeFailure : Status × String → Option String
  | (.ok, _) => none
  | (.deviceNotReady, _) => some "CAN device not ready."
  | (.protocolUnavailable, _) => some "Protocol not available."
  | (.rejected, message) => some message
  | (.exception, _) => some "Set zero execution failed."

/-- Write the zero offset to the drive; returns the message if this fails. -/
def applyZeroToMotor (persistToMotor : Bool) (target : CanDriverJointConfig)
    (resolvedZeroOffset previousZeroOffset : Double) : Maintenance (Option String) := do
  match ← requireAxisDisabledForConfiguration target "Writing zero offset" with
  | some message => pure (some message)
  | none =>
      match scaleAndClampToInt32 resolvedZeroOffset (effectivePositionScale target) with
      | none => pure (some "Failed to convert zero offset to protocol raw value.")
      | some rawOffset =>
          match scaleAndClampToInt32 previousZeroOffset (effectivePositionScale target) with
          | none => pure (some "Failed to convert previous zero offset to protocol raw value.")
          | some previousRawOffset => do
              let status ← execute target
                (writeOrRollBack target rawOffset previousRawOffset persistToMotor)
              pure (writeFailure status)

/-- The end of a request: the joint takes the zero. -/
def commitZeroRequest (request : SetZeroRequest) (result : SetZeroResult) :
    Maintenance SetZeroResult := do
  let committed ← askService (.commitZero request.motorId result.appliedZeroOffsetRad
    result.previousZeroOffsetRad request.applyToMotor)
  if committed then pure { result with success := true, message := "OK" }
  else pure { result with message := "Failed to update local zero state." }

/-- What follows once the position of the joint is known. -/
def setZeroFrom (persistToMotor : Bool) (request : SetZeroRequest) (target : CanDriverJointConfig)
    (currentReportedPosition : Double) : Maintenance SetZeroResult := do
  let previousZeroOffset ← resolveCurrentZeroOffset target request.applyToMotor
  let resolvedZeroOffset :=
    if request.useCurrentPositionAsZero then (currentReportedPosition.sub previousZeroOffset).neg
    else request.zeroOffsetRad
  let result : SetZeroResult :=
    { previousZeroOffsetRad := previousZeroOffset
      currentPositionRad := currentReportedPosition
      appliedZeroOffsetRad := resolvedZeroOffset }
  if !request.applyToMotor then commitZeroRequest request result
  else
    match ← applyZeroToMotor persistToMotor target resolvedZeroOffset previousZeroOffset with
    | some message => pure { result with message }
    | none => commitZeroRequest request result

/-- `SetZeroByMotorId`. -/
def setZeroByMotorId (persistToMotor : Bool) (request : SetZeroRequest) : Maintenance SetZeroResult := do
  let active ← askService .active
  if !active then pure { message := "Driver inactive." }
  else
    match ← askService (.lookupJoint request.motorId) with
    | none => pure { message := "Motor ID not found." }
    | some target =>
        if !controlModeUsesPositionSemantics target.controlMode then
          pure { message := "Only position-semantic joints support zero/position limits." }
        else if request.useCurrentPositionAsZero && !request.applyToMotor then
          pure { message := "Automatic zeroing requires apply_to_motor=true." }
        else
          match ← resolveCurrentReportedPosition target with
          | none => pure { message := "Protocol not available." }
          | some (currentReportedPosition, hasFreshFeedback) =>
              if request.useCurrentPositionAsZero && !hasFreshFeedback then
                pure
                  { currentPositionRad := currentReportedPosition
                    message :=
                      "Current position feedback unavailable or stale; cannot auto-zero." }
              else setZeroFrom persistToMotor request target currentReportedPosition

end MotorMaintenanceService

/-! ## setting the limits -/

/-- What the robot description says of the limits of a joint. -/
inductive UrdfLimits where
  | noDescription
  | noJoint
  | noLimits
  | limits (minPosition maxPosition : Double)
deriving DecidableEq, Repr

/-- What a request about limits does to the outside: what any request does, within the call
of `SetZeroByMotorId` or of `ApplyLimitsByMotorId`, and what only the limits need. -/
inductive LimitsOp where
  | zero (op : MaintenanceOp)
  | service (op : MaintenanceOp)
  | urdfLimits (jointName : String)
  | configurePositionLimits (target : CanDriverJointConfig) (minPositionRaw maxPositionRaw : Int32)
  | commitLimits (motorId : MotorID) (baseMin baseMax zeroOffset : Double) (applyToMotor : Bool)

/-- The answers. -/
@[reducible] def LimitsOp.Ans : LimitsOp → Type
  | .zero op => op.Ans
  | .service op => op.Ans
  | .urdfLimits _ => UrdfLimits
  | .configurePositionLimits _ _ _ => CallOutcome
  | .commitLimits _ _ _ _ _ => Bool

/-- The interface of the service, with limits. -/
abbrev limitsSig : Sig := ⟨LimitsOp, LimitsOp.Ans⟩

/-- A program about limits. -/
abbrev Limits (α : Type) := Prog limitsSig α

namespace MotorMaintenanceService

/-- Ask for one operation. -/
def askLimits (op : LimitsOp) : Limits op.Ans := Prog.vis (S := limitsSig) op .ret

/-- What `SetZeroByMotorId` does. -/
def inZero (p : Maintenance α) : Limits α := p.mapOp LimitsOp.zero fun _ r => r

/-- What `ApplyLimitsByMotorId` does like any other request. -/
def inLimits (p : Maintenance α) : Limits α := p.mapOp LimitsOp.service fun _ r => r

/-- A request to set the limits. -/
structure ApplyLimitsRequest where
  motorId : MotorID
  minPositionRad : Double := .finite 0
  maxPositionRad : Double := .finite 0
  useUrdfLimits : Bool := false
  applyToMotor : Bool := false
  requireCurrentInsideLimits : Bool := false

/-- What `ApplyLimitsByMotorId` returns, with its output parameters. -/
structure ApplyLimitsResult where
  success : Bool := false
  currentPositionRad : Double := .finite 0
  activeZeroOffsetRad : Double := .finite 0
  appliedMinRad : Double := .finite 0
  appliedMaxRad : Double := .finite 0
  message : String := ""
deriving DecidableEq, Repr

/-- `resolveBaseLimits`: the requested limits, or those of the robot description. -/
def resolveBaseLimits (target : CanDriverJointConfig) (request : ApplyLimitsRequest) :
    Limits (Except String (Double × Double)) :=
  if !request.useUrdfLimits then pure (.ok (request.minPositionRad, request.maxPositionRad))
  else do
    match ← askLimits (.urdfLimits target.name) with
    | .noDescription => pure (.error "robot_description not found; cannot read URDF limits.")
    | .noJoint => pure (.error ("Joint not found in URDF: " ++ target.name))
    | .noLimits => pure (.error ("URDF has no position limits for joint: " ++ target.name))
    | .limits minPosition maxPosition => pure (.ok (minPosition, maxPosition))

/-- The limits in raw values, the smaller one first. -/
def rawLimits (target : CanDriverJointConfig) (resolvedMin resolvedMax : Double) :
    Option (Int32 × Int32) :=
  match scaleAndClampToInt32 resolvedMin (effectivePositionScale target) with
  | none => none
  | some rawLimitA =>
      match scaleAndClampToInt32 resolvedMax (effectivePositionScale target) with
      | none => none
      | some rawLimitB =>
          some (if rawLimitB < rawLimitA then (rawLimitB, rawLimitA) else (rawLimitA, rawLimitB))

/-- `MotorActionExecutor::execute`, on the call of `configurePositionLimits`. -/
def executeLimits (target : CanDriverJointConfig) (rawMin rawMax : Int32) : Limits Status := do
  let ready ← inLimits (askService (.isDeviceReady target.canDevice))
  if !ready then pure .deviceNotReady
  else
    let available ← inLimits (askService (.hasProtocol target.canDevice target.protocol))
    if !available then pure .protocolUnavailable
    else
      match ← askLimits (.configurePositionLimits target rawMin rawMax) with
      | .ok => pure .ok
      | .rejected => pure .rejected
      | .thrown => pure .exception

/-- The message of a write of the limits, if it failed. -/
def limitsFailure : Status → Option String
  | .ok => none
  | .deviceNotReady => some "CAN device not ready."
  | .protocolUnavailable => some "Protocol not available."
  | .rejected => some "Protocol rejected position limit setting."
  | .exception => some "Set limits execution failed."

/-- Write the limits to the drive; returns the message if this fails. -/
def applyLimitsToMotor (target : CanDriverJointConfig) (resolvedMin resolvedMax : Double) :
    Limits (Option String) := do
  match ← inLimits (requireAxisDisabledForConfiguration target "Writing hardware limits") with
  | some message => pure (some message)
  | none =>
      match rawLimits target resolvedMin resolvedMax with
      | none => pure (some "Failed to convert limits to protocol raw values.")
      | some (rawMin, rawMax) => do
          let status ← executeLimits target rawMin rawMax
          pure (limitsFailure status)

/-- The end of a request: the joint takes the limits. -/
def commitLimitsRequest (request : ApplyLimitsRequest) (result : ApplyLimitsResult) :
    Limits ApplyLimitsResult := do
  let committed ← askLimits (.commitLimits request.motorId result.appliedMinRad
    result.appliedMaxRad result.activeZeroOffsetRad request.applyToMotor)
  if committed then pure { result with success := true, message := "OK" }
  else pure { result with message := "Failed to update local limit state." }

/-- The limits are written to the drive if this is wanted, then the joint takes them. -/
def finishLimits (request : ApplyLimitsRequest) (target : CanDriverJointConfig)
    (result : ApplyLimitsResult) : Limits ApplyLimitsResult :=
  if !request.applyToMotor then commitLimitsRequest request result
  else do
    match ← applyLimitsToMotor target result.appliedMinRad result.appliedMaxRad with
    | some message => pure { result with message }
    | none => commitLimitsRequest request result

/-- What follows once the limits and the position of the joint are known. -/
def applyLimitsFrom (request : ApplyLimitsRequest) (target : CanDriverJointConfig)
    (resolvedMin resolvedMax currentReportedPosition : Double) : Limits ApplyLimitsResult := do
  let activeZeroOffset ← inLimits (resolveCurrentZeroOffset target request.applyToMotor)
  let result : ApplyLimitsResult :=
    { currentPositionRad := currentReportedPosition, activeZeroOffsetRad := activeZeroOffset }
  if !resolvedMin.isFinite || !resolvedMax.isFinite || resolvedMax.le resolvedMin then
    pure { result with message := "Invalid limit range." }
  else
    let result := { result with appliedMinRad := resolvedMin, appliedMaxRad := resolvedMax }
    if request.requireCurrentInsideLimits && (currentReportedPosition.lt resolvedMin ||
        resolvedMax.lt currentReportedPosition) then
      pure { result with message := "Current position is outside requested limit range." }
    else finishLimits request target result

/-- `ApplyLimitsByMotorId`. -/
def applyLimitsByMotorId (request : ApplyLimitsRequest) : Limits ApplyLimitsResult := do
  let active ← inLimits (askService .active)
  if !active then pure { message := "Driver inactive." }
  else
    match ← inLimits (askService (.lookupJoint request.motorId)) with
    | none => pure { message := "Motor ID not found." }
    | some target =>
        if !controlModeUsesPositionSemantics target.controlMode then
          pure { message := "Only position-semantic joints support zero/position limits." }
        else
          match ← resolveBaseLimits target request with
          | .error message => pure { message }
          | .ok (resolvedMin, resolvedMax) =>
              match ← inLimits (resolveCurrentReportedPosition target) with
              | none => pure { message := "Protocol not available." }
              | some (currentReportedPosition, _) =>
                  applyLimitsFrom request target resolvedMin resolvedMax currentReportedPosition

/-! ## both at once -/

/-- `SetZeroLimit::Request`. -/
structure SetZeroLimitRequest where
  motorId : MotorID
  zeroOffsetRad : Double := .finite 0
  useCurrentPositionAsZero : Bool := false
  minPositionRad : Double := .finite 0
  maxPositionRad : Double := .finite 0
  useUrdfLimits : Bool := false
  applyToMotor : Bool := false

/-- The part of a request about the zero. -/
def SetZeroLimitRequest.setZero (request : SetZeroLimitRequest) : SetZeroRequest where
  motorId := request.motorId
  zeroOffsetRad := request.zeroOffsetRad
  useCurrentPositionAsZero := request.useCurrentPositionAsZero
  applyToMotor := request.applyToMotor

/-- The part of a request about the limits; the current position has to be inside. -/
def SetZeroLimitRequest.applyLimits (request : SetZeroLimitRequest) : ApplyLimitsRequest where
  motorId := request.motorId
  minPositionRad := request.minPositionRad
  maxPositionRad := request.maxPositionRad
  useUrdfLimits := request.useUrdfLimits
  applyToMotor := request.applyToMotor
  requireCurrentInsideLimits := true

/-- `SetZeroLimit::Response`. -/
structure SetZeroLimitResponse where
  success : Bool := false
  message : String := ""
  appliedZeroOffsetRad : Double := .finite 0
  appliedMinRad : Double := .finite 0
  appliedMaxRad : Double := .finite 0
  currentPositionRad : Double := .finite 0
deriving DecidableEq, Repr

/-- `onSetZeroLimit`: the zero, then the limits. -/
def onSetZeroLimit (persistToMotor : Bool) (request : SetZeroLimitRequest) :
    Limits SetZeroLimitResponse := do
  let zero ← inZero (setZeroByMotorId persistToMotor request.setZero)
  if !zero.success then
    pure
      { message := zero.message
        appliedZeroOffsetRad := zero.appliedZeroOffsetRad
        currentPositionRad := zero.currentPositionRad }
  else
    let limits ← applyLimitsByMotorId request.applyLimits
    pure
      { success := limits.success
        message := limits.message
        appliedZeroOffsetRad := limits.activeZeroOffsetRad
        appliedMinRad := limits.appliedMinRad
        appliedMaxRad := limits.appliedMaxRad
        currentPositionRad := limits.currentPositionRad }

end MotorMaintenanceService

/-! ## switching the mode -/

/-- The calls of a protocol that a mode switch makes. -/
inductive ModeCall where
  | setMode (mode : MotorMode)
  | setPosition (position : Int32)
  | setVelocity (velocity : Int32)
  | quickSetPosition (position : Int32)
deriving DecidableEq, Repr

/-- What a mode switch does to the outside: what any request does, the calls of the protocol
inside `MotorActionExecutor::execute`, and the wait for a PP drive to confirm. -/
inductive ModeSwitchOp where
  | service (op : MaintenanceOp)
  | isDeviceReady (device : String)
  | call (target : CanDriverJointConfig) (call : ModeCall)
  | beforeDeadline
  | issueModeQuery (joint : CanDriverJointConfig)
  | commitModeSwitch (motorId : MotorID) (mode : AxisControlMode)

/-- The answers. -/
@[reducible] def ModeSwitchOp.Ans : ModeSwitchOp → Type
  | .service op => op.Ans
  | .isDeviceReady _ => Bool
  | .call _ _ => CallOutcome
  | .beforeDeadline => Bool
  | .issueModeQuery _ => Unit
  | .commitModeSwitch _ _ => Bool

/-- The interface of the service, with modes. -/
abbrev modeSwitchSig : Sig := ⟨ModeSwitchOp, ModeSwitchOp.Ans⟩

/-- A program about modes. -/
abbrev ModeSwitch (α : Type) := Prog modeSwitchSig α

/-- `protocolMotorModeFromAxisControlMode`. -/
def protocolMotorModeFromAxisControlMode : AxisControlMode → MotorMode
  | .velocity => .velocity
  | .csp => .csp
  | .position => .position
  | .unknown => .position

namespace MotorMaintenanceService

/-- Ask for one operation. -/
def askSwitch (op : ModeSwitchOp) : ModeSwitch op.Ans := Prog.vis (S := modeSwitchSig) op .ret

/-- What a mode switch does like any other request. -/
def inSwitch (p : Maintenance α) : ModeSwitch α := p.mapOp ModeSwitchOp.service fun _ r => r

/-- What a request about the mode returns. -/
structure SetModeResult where
  success : Bool := false
  message : String := ""
deriving DecidableEq, Repr

/-- `decodeModeSelection`: the mode a value selects. -/
def decodeModeSelection (value : Double) : Option AxisControlMode :=
  if value = .finite 0 then some .position
  else if value = .finite 1 then some .velocity
  else if value = .finite 2 then some .csp
  else none

/-- `modeSwitchRequiresDisabledAxis`. -/
def modeSwitchRequiresDisabledAxis (protocol : CanType) : Bool :=
  decide (protocol = .PP) || decide (protocol = .ECB)

/-- `MotorActionExecutor::execute`, on a call of a mode switch. -/
def executeModeCall (target : CanDriverJointConfig) (call : ModeCall) : ModeSwitch Status := do
  let ready ← askSwitch (.isDeviceReady target.canDevice)
  if !ready then pure .deviceNotReady
  else
    let available ← inSwitch (askService (.hasProtocol target.canDevice target.protocol))
    if !available then pure .protocolUnavailable
    else
      match ← askSwitch (.call target call) with
      | .ok => pure .ok
      | .rejected => pure .rejected
      | .thrown => pure .exception

/-- The message of a call, if it failed. -/
def modeCallFailure (rejected : String) : Status → Option String
  | .ok => none
  | .deviceNotReady => some "CAN device not ready."
  | .protocolUnavailable => some "Protocol not available."
  | .rejected => some rejected
  | .exception => some "Command execution failed."

/-- The published feedback shows a mode. -/
def showsMode (mode : MotorMode) (feedback : Option AxisFeedbackState) : Bool :=
  feedback.any fun feedback => feedback.modeValid && decide (feedback.mode = mode)

/-- The loop of `waitForPpModeConfirmation`: look every 20 ms until 500 ms are over, so at most
25 times. -/
def pollModeConfirmation (joint : CanDriverJointConfig) (expectedMode : MotorMode) :
    Nat → ModeSwitch Bool
  | 0 => pure false
  | polls + 1 => do
      let waiting ← askSwitch .beforeDeadline
      if !waiting then pure false
      else
        askSwitch (.issueModeQuery joint)
        let feedback ← inSwitch (askService (.freshFeedback joint))
        if showsMode expectedMode feedback then pure true
        else pollModeConfirmation joint expectedMode polls

/-- `waitForPpModeConfirmation`. -/
def waitForPpModeConfirmation (joint : CanDriverJointConfig) (expectedMode : MotorMode) :
    ModeSwitch Bool :=
  if joint.protocol ≠ .PP then pure true
  else do
    let available ← inSwitch (askService (.hasProtocol joint.canDevice joint.protocol))
    if !available then pure true else pollModeConfirmation joint expectedMode 25

/-- The command a joint is given in its new mode: standing still, or the position it reports.
An MT joint without fresh feedback is given none, any other one is not switched. -/
def preloadCall (joint : CanDriverJointConfig) (mode : MotorMode) :
    ModeSwitch (Except String (Option ModeCall)) :=
  if mode = .velocity then pure (.ok (some (.setVelocity 0)))
  else do
    let feedback ← inSwitch (askService (.freshFeedback joint))
    match feedback.filter AxisFeedbackState.positionValid with
    | none =>
        if joint.protocol = .MT then pure (.ok none)
        else pure (.error "Current position feedback unavailable or stale for mode preload.")
    | some feedback =>
        let preloadRaw := clampToInt32 (Double.ofInt feedback.position)
        if mode = .csp then pure (.ok (some (.quickSetPosition preloadRaw)))
        else pure (.ok (some (.setPosition preloadRaw)))

/-- The end of a mode switch: the joint takes the mode. -/
def commitModeRequest (motorId : MotorID) (mode : AxisControlMode) : ModeSwitch SetModeResult := do
  let committed ← askSwitch (.commitModeSwitch motorId mode)
  if committed then pure { success := true, message := "OK" }
  else pure { message := "Failed to update local joint mode state." }

/-- What follows once the drive is in the new mode: the preload, then the joint. -/
def preloadAndCommit (joint : CanDriverJointConfig) (motorId : MotorID) (mode : AxisControlMode) :
    ModeSwitch SetModeResult := do
  match ← preloadCall joint (protocolMotorModeFromAxisControlMode mode) with
  | .error message => pure { message }
  | .ok none => commitModeRequest motorId mode
  | .ok (some call) =>
      let status ← executeModeCall joint call
      match modeCallFailure "Set mode preload command rejected." status with
      | some message => pure { message }
      | none => commitModeRequest motorId mode

/-- What follows once a mode is selected that the axis may take. -/
def switchTo (target : CanDriverJointConfig) (motorId : MotorID) (mode : AxisControlMode) :
    ModeSwitch SetModeResult := do
  let status ← executeModeCall target (.setMode (protocolMotorModeFromAxisControlMode mode))
  match modeCallFailure "Set mode command rejected." status with
  | some message => pure { message }
  | none =>
      let confirmed ← waitForPpModeConfirmation target (protocolMotorModeFromAxisControlMode mode)
      if !confirmed then
        pure { message := "Timed out waiting for mode confirmation from PP feedback." }
      else
        match ← inSwitch (askService (.lookupJoint motorId)) with
        | none => pure { message := "Motor ID not found." }
        | some targetSnapshot => preloadAndCommit targetSnapshot motorId mode

/-- `handleSetModeRequest`. -/
def handleSetModeRequest (target : CanDriverJointConfig) (motorId : MotorID) (modeValue : Double) :
    ModeSwitch SetModeResult :=
  match decodeModeSelection modeValue with
  | none =>
      pure { message := "CMD_SET_MODE value must be 0 (position), 1 (velocity) or 2 (csp)." }
  | some mode =>
      if modeSwitchRequiresDisabledAxis target.protocol then do
        match ← inSwitch (requireAxisDisabledForConfiguration target "Mode switch") with
        | some message => pure { message }
        | none => switchTo target motorId mode
      else switchTo target motorId mode

/-- `SetModeByMotorId`. -/
def setModeByMotorId (motorId : MotorID) (modeValue : Double) : ModeSwitch SetModeResult := do
  let active ← inSwitch (askService .active)
  if !active then pure { message := "Driver inactive." }
  else
    match ← inSwitch (askService (.lookupJoint motorId)) with
    | none => pure { message := "Motor ID not found." }
    | some target => handleSetModeRequest target motorId modeValue

end MotorMaintenanceService

end CanDriver
