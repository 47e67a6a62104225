import CanDriver.Basic
import CanDriver.Double

/-!
# CanDriver.JointConfigParser

The `joints` parameter: from the values the parameter server hands out to one
configuration per joint.

A joint whose fields are missing, out of range or of the wrong kind rejects the
whole list with a text; a conversion that `XmlRpcValue` itself refuses leaves
the parser as an exception.
-/

namespace CanDriver

/-! ## control modes -/

/-- `AxisControlMode`. -/
inductive AxisControlMode where
  | position | velocity | csp | unknown
deriving DecidableEq, Repr

/-- `axisControlModeFromString`. -/
def axisControlModeFromString (controlMode : String) : AxisControlMode :=
  if controlMode = "velocity" then .velocity
  else if controlMode = "csp" then .csp
  else if controlMode = "position" then .position
  else .unknown

/-- `axisControlModeName`. -/
def axisControlModeName : AxisControlMode → String
  | .position => "position"
  | .velocity => "velocity"
  | .csp => "csp"
  | .unknown => "unknown"

@[simp] theorem axisControlModeFromString_name (mode : AxisControlMode) :
    axisControlModeFromString (axisControlModeName mode) = mode := by
  cases mode <;> rfl

/-! ## values of the parameter server -/

/-- `XmlRpc::XmlRpcValue`; of the members of one name the first counts. -/
inductive XmlRpcValue where
  | invalid
  | boolean (value : Bool)
  | int (value : Int32)
  | double (value : Double)
  | string (value : String)
  | dateTime
  | base64
  | array (values : List XmlRpcValue)
  | struct (members : List (String × XmlRpcValue))

/-- Why a list of joints is not accepted: the parser's own text, or an
`XmlRpcException` that leaves it. -/
inductive ParseFailure where
  | errorMsg (text : String)
  | typeError
deriving DecidableEq, Repr

namespace XmlRpcValue

/-- The member of a name, if there is one (`hasMember` and `operator[]`). -/
def member : XmlRpcValue → String → Option XmlRpcValue
  | struct members, name => members.lookup name
  | _, _ => none

/-- `static_cast<std::string>`. -/
def toString : XmlRpcValue → Except ParseFailure String
  | string s => pure s
  | _ => throw .typeError

/-- A `TypeInt` or `TypeDouble` as a `double`. -/
def number : XmlRpcValue → Option Double
  | int n => some (.finite n.toInt)
  | double x => some x
  | _ => none

end XmlRpcValue

/-! ## numbers in strings -/

/-- `isspace` in the C locale. -/
def isSpace (c : Char) : Bool :=
  c = ' ' || c = '\t' || c = '\n' || c = '\r' || c = '\x0b' || c = '\x0c'

/-- The value of a digit in any base up to 36. -/
def digitValue (c : Char) : Option Nat :=
  if '0' ≤ c ∧ c ≤ '9' then some (c.toNat - '0'.toNat)
  else if 'a' ≤ c ∧ c ≤ 'z' then some (c.toNat - 'a'.toNat + 10)
  else if 'A' ≤ c ∧ c ≤ 'Z' then some (c.toNat - 'A'.toNat + 10)
  else none

/-- Whether a character is a digit in this base. -/
def isDigit (base : Nat) (c : Char) : Bool := (digitValue c).any fun d => decide (d < base)

/-- The digits a text begins with, most significant first. -/
def leadingDigits (base : Nat) (cs : List Char) : List Nat :=
  (cs.takeWhile (isDigit base)).map fun c => (digitValue c).getD 0

/-- The number written by these digits. -/
def ofDigits (base : Nat) (digits : List Nat) : Nat := digits.foldl (fun n d => n * base + d) 0

/-- Base detection of `strtoul` with base 0: the base, and where the digits begin. -/
def detectBase : List Char → Nat × List Char
  | '0' :: x :: c :: cs =>
      if (x = 'x' || x = 'X') && isDigit 16 c then (16, c :: cs) else (8, '0' :: x :: c :: cs)
  | '0' :: cs => (8, '0' :: cs)
  | cs => (10, cs)

/-- `std::stoul(s, nullptr, 0)`: what follows the digits is ignored, a minus sign wraps
around; `none` when it throws. -/
def stoul (s : String) : Option UInt64 :=
  let cs := s.toList.dropWhile isSpace
  let (negative, cs) := match cs with
    | '+' :: cs => (false, cs)
    | '-' :: cs => (true, cs)
    | cs => (false, cs)
  let (base, cs) := detectBase cs
  let digits := leadingDigits base cs
  let value := ofDigits base digits
  if digits.isEmpty then none
  else if 2 ^ 64 ≤ value then none
  else if negative then some (0 - value.toUInt64)
  else some value.toUInt64

/-! ## joints -/

/-- `ParsedJointConfig`. -/
structure ParsedJointConfig where
  name : String
  canDevice : String
  controlMode : String
  motorId : MotorID := 0x141
  protocol : CanType := .MT
  positionScale : Double := .finite 1
  velocityScale : Double := .finite 1
  directionSign : Double := .finite 1
  zeroOffsetRad : Double := .finite 0
  ipMaxVelocity : Double := .finite 1
  ipMaxAcceleration : Double := .finite 2
  ipMaxJerk : Double := .finite 10
  ipGoalTolerance : Double := .finite (1 / 1000)
  ecbIp : String := ""
  ecbAutoDiscovery : Bool := false
  ecbRefreshMs : Int32 := 20
  ecbProfilePositionMaxRpm : Double := .finite 500
  ecbProfilePositionAccelerationRpmS : Double := .finite 300
  ecbProfilePositionDecelerationRpmS : Double := .finite (-300)
  ecbProfileVelocityAccelerationRpmS : Double := .finite 300
  ecbProfileVelocityDecelerationRpmS : Double := .finite (-300)
deriving DecidableEq, Repr

namespace JointConfigParser

def kDamiaoSiScale : ℚ := 1 / 10000

/-- `M_PI`. -/
def kPi : ℚ := 884279719003555 / 281474976710656

/-- Reject a joint with a text that begins with its name. -/
def reject (jointName text : String) : Except ParseFailure α :=
  throw (.errorMsg ("Joint '" ++ jointName ++ "': " ++ text))

/-- An optional number that has to pass a test; a member of another kind, like a number
that does not pass, is rejected. -/
def parseOptionalDouble (test : Double → Bool) (text : String) (jointValue : XmlRpcValue)
    (fieldName jointName : String) (out : Double) : Except ParseFailure Double :=
  match jointValue.member fieldName with
  | none => pure out
  | some value =>
      match value.number with
      | none => reject jointName text
      | some parsed => if test parsed then pure parsed else reject jointName text

/-- `parsePositiveOptionalDouble`. -/
def parsePositiveOptionalDouble (jointValue : XmlRpcValue) (fieldName jointName : String)
    (out : Double) : Except ParseFailure Double :=
  parseOptionalDouble (fun x => x.isFinite && !x.le (.finite 0)) ("invalid " ++ fieldName ++ ".")
    jointValue fieldName jointName out

/-- `parseNonNegativeOptionalDouble`. -/
def parseNonNegativeOptionalDouble (jointValue : XmlRpcValue) (fieldName jointName : String)
    (out : Double) : Except ParseFailure Double :=
  parseOptionalDouble (fun x => x.isFinite && !x.lt (.finite 0)) ("invalid " ++ fieldName ++ ".")
    jointValue fieldName jointName out

/-- `parseFiniteOptionalDouble`. -/
def parseFiniteOptionalDouble (jointValue : XmlRpcValue) (fieldName jointName : String)
    (out : Double) : Except ParseFailure Double :=
  parseOptionalDouble Double.isFinite ("invalid " ++ fieldName ++ ".") jointValue fieldName
    jointName out

/-- `parseDirectionSign`. -/
def parseDirectionSign (jointValue : XmlRpcValue) (jointName : String) (out : Double) :
    Except ParseFailure Double :=
  parseOptionalDouble (fun x => x = .finite 1 || x = .finite (-1))
    "direction_sign must be either 1 or -1." jointValue "direction_sign" jointName out

/-- `parseMotorId`: an integer or a string of one, in the range of 16 bits. -/
def parseMotorId (value : XmlRpcValue) (jointName : String) : Except ParseFailure MotorID := do
  let rawId : Int32 ← match value with
    | .int n => pure n
    | .string s =>
        match stoul s with
        | some n => pure n.toUInt32.toInt32
        | none => reject jointName ("invalid motor_id '" ++ s ++ "' (stoul).")
    | _ => reject jointName "motor_id must be int or string."
  if rawId < 0 ∨ 65535 < rawId then
    reject jointName ("motor_id out of range [0, 65535]: " ++ toString rawId.toInt ++ ".")
  else
    pure rawId.toUInt32.toUInt16

/-- A scale is given directly, or from 2 on as the pulses of one revolution. -/
def parseScale (jointValue : XmlRpcValue) (fieldName : String) (out : Double) :
    Except ParseFailure Double :=
  match jointValue.member fieldName with
  | none => pure out
  | some value =>
      match value.number with
      | none => throw .typeError
      | some x => pure (if (Double.finite 2).le x then (Double.finite (2 * kPi)).div x else x)

/-- The name of the protocol. -/
def parseProtocol (protoStr jointName : String) : Except ParseFailure CanType :=
  if protoStr = "MT" then pure .MT
  else if protoStr = "PP" then pure .PP
  else if protoStr = "DM" then pure .DM
  else if protoStr = "ECB" then pure .ECB
  else reject jointName ("unknown protocol '" ++ protoStr ++ "' (use MT/PP/DM/ECB).")

/-- The `ecb_*` members. -/
def parseEcb (jv : XmlRpcValue) (jc : ParsedJointConfig) :
    Except ParseFailure ParsedJointConfig := do
  let ecbIp ← match jv.member "ecb_ip" with
    | none => pure jc.ecbIp
    | some (.string ip) => pure ip
    | some _ => reject jc.name "ecb_ip must be string."
  let ecbAutoDiscovery ← match jv.member "ecb_discovery" with
    | none => pure jc.ecbAutoDiscovery
    | some (.boolean auto) => pure auto
    | some (.string mode) =>
        if mode = "auto" then pure true
        else if mode = "fixed" then pure false
        else reject jc.name "ecb_discovery must be auto/fixed/bool."
    | some _ => reject jc.name "ecb_discovery must be auto/fixed/bool."
  let ecbRefreshMs ← match jv.member "ecb_refresh_ms" with
    | none => pure jc.ecbRefreshMs
    | some (.int n) => if n ≤ 0 then reject jc.name "ecb_refresh_ms must be > 0." else pure n
    | some _ => reject jc.name "ecb_refresh_ms must be int."
  let ecbProfilePositionMaxRpm ← parsePositiveOptionalDouble jv "ecb_profile_position_max_rpm"
    jc.name jc.ecbProfilePositionMaxRpm
  let ecbProfilePositionAccelerationRpmS ← parsePositiveOptionalDouble jv
    "ecb_profile_position_acceleration_rpm_s" jc.name jc.ecbProfilePositionAccelerationRpmS
  let ecbProfilePositionDecelerationRpmS ← parseFiniteOptionalDouble jv
    "ecb_profile_position_deceleration_rpm_s" jc.name jc.ecbProfilePositionDecelerationRpmS
  let ecbProfileVelocityAccelerationRpmS ← parsePositiveOptionalDouble jv
    "ecb_profile_velocity_acceleration_rpm_s" jc.name jc.ecbProfileVelocityAccelerationRpmS
  let ecbProfileVelocityDecelerationRpmS ← parseFiniteOptionalDouble jv
    "ecb_profile_velocity_deceleration_rpm_s" jc.name jc.ecbProfileVelocityDecelerationRpmS
  -- the device name may carry the address
  let payload := (jc.canDevice.drop 6).toString
  let ecbIp :=
    if jc.protocol = .ECB && !ecbAutoDiscovery && ecbIp = "" && jc.canDevice.startsWith "ecb://" &&
        payload != "" && payload != "auto" then payload
    else ecbIp
  pure
    { jc with
      ecbIp, ecbAutoDiscovery, ecbRefreshMs, ecbProfilePositionMaxRpm,
      ecbProfilePositionAccelerationRpmS, ecbProfilePositionDecelerationRpmS,
      ecbProfileVelocityAccelerationRpmS, ecbProfileVelocityDecelerationRpmS }

/-- The five required members. -/
def requiredMembers (jv : XmlRpcValue) :
    Option (XmlRpcValue × XmlRpcValue × XmlRpcValue × XmlRpcValue × XmlRpcValue) := do
  let name ← jv.member "name"
  let motorId ← jv.member "motor_id"
  let protocol ← jv.member "protocol"
  let canDevice ← jv.member "can_device"
  let controlMode ← jv.member "control_mode"
  pure (name, motorId, protocol, canDevice, controlMode)

/-- What identifies a joint: name, device, control mode, protocol and motor id. -/
def parseIdentity (i : Nat) (jv : XmlRpcValue) : Except ParseFailure ParsedJointConfig := do
  match requiredMembers jv with
  | none =>
      throw (.errorMsg ("Joint [" ++ toString i ++
        "] missing required field (name/motor_id/protocol/can_device/control_mode)."))
  | some (name, motorId, protocol, canDevice, controlMode) => do
      let name ← name.toString
      let canDevice ← canDevice.toString
      let controlMode ← controlMode.toString
      let axisMode := axisControlModeFromString controlMode
      if axisMode = .unknown then
        reject name ("unknown control_mode '" ++ controlMode ++
          "' (use velocity, position, or csp).")
      let protoStr ← protocol.toString
      let protocol ← parseProtocol protoStr name
      let motorId ← parseMotorId motorId name
      if protocol = .DM ∧ 0x0F < toProtocolNodeId motorId then
        reject name ("DM protocol currently requires motor_id low byte in [0, 15] " ++
          "so feedback can be matched reliably.")
      if protocol = .DM ∧ axisMode ≠ .velocity then
        reject name "DM protocol currently only supports control_mode 'velocity'."
      pure { name, canDevice, controlMode, motorId, protocol }

/-- How a joint is scaled and limited. -/
def parseScaling (jv : XmlRpcValue) (jc : ParsedJointConfig) :
    Except ParseFailure ParsedJointConfig := do
  let siScale := Double.finite kDamiaoSiScale
  let positionScale ← parseScale jv "position_scale"
    (if jc.protocol = .DM then siScale else jc.positionScale)
  let velocityScale ← parseScale jv "velocity_scale"
    (if jc.protocol = .DM then siScale else jc.velocityScale)
  if !positionScale.isFinite || positionScale.le (.finite 0) then
    reject jc.name "invalid position_scale."
  if !velocityScale.isFinite || velocityScale.le (.finite 0) then
    reject jc.name "invalid velocity_scale."
  let directionSign ← parseDirectionSign jv jc.name jc.directionSign
  let zeroOffsetRad ← parseFiniteOptionalDouble jv "zero_offset_rad" jc.name jc.zeroOffsetRad
  let ipMaxVelocity ← parsePositiveOptionalDouble jv "ip_max_velocity" jc.name jc.ipMaxVelocity
  let ipMaxAcceleration ←
    parsePositiveOptionalDouble jv "ip_max_acceleration" jc.name jc.ipMaxAcceleration
  let ipMaxJerk ← parsePositiveOptionalDouble jv "ip_max_jerk" jc.name jc.ipMaxJerk
  let ipGoalTolerance ←
    parseNonNegativeOptionalDouble jv "ip_goal_tolerance" jc.name jc.ipGoalTolerance
  pure
    { jc with
      positionScale, velocityScale, directionSign, zeroOffsetRad, ipMaxVelocity,
      ipMaxAcceleration, ipMaxJerk, ipGoalTolerance }

/-- One round of the loop of `parse`. -/
def parseJoint (i : Nat) (jv : XmlRpcValue) : Except ParseFailure ParsedJointConfig := do
  let jc ← parseIdentity i jv
  let jc ← parseScaling jv jc
  parseEcb jv jc

/-- The loop of `parse`, from index `i` on. -/
def parseJoints : Nat → List XmlRpcValue → Except ParseFailure (List ParsedJointConfig)
  | _, [] => pure []
  | i, jv :: jvs => do
      let jc ← parseJoint i jv
      let jcs ← parseJoints (i + 1) jvs
      pure (jc :: jcs)

/-- `joint_config_parser::parse`. -/
def parse (jointList : XmlRpcValue) : Except ParseFailure (List ParsedJointConfig) :=
  match jointList with
  | .array (jv :: jvs) => parseJoints 0 (jv :: jvs)
  | _ => throw (.errorMsg "'joints' must be a non-empty list.")

end JointConfigParser

end CanDriver
