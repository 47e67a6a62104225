import CanDriver.JointConfigParser

/-!
# CanDriver.CanDriverHW

The joints of the robot as `CanDriverHW` keeps them, and the entry points that
find one by its motor id.

Every entry point searches the joints with `motorIdMatchesJoint` and acts only
if exactly one matches.  Zero offsets are also kept by motor id; that map is
what the offset file holds.
-/

namespace CanDriver

/-! ## joints -/

/-- `joint_limits_interface::JointLimits`, the position and velocity limits. -/
structure JointLimits where
  hasPositionLimits : Bool := false
  minPosition : Double := .finite 0
  maxPosition : Double := .finite 0
  hasVelocityLimits : Bool := false
  maxVelocity : Double := .finite 0
deriving DecidableEq, Repr

/-- `CanDriverJointConfig`: the parsed configuration and the state of the joint. -/
structure CanDriverJointConfig extends ParsedJointConfig where
  pos : Double := .finite 0
  vel : Double := .finite 0
  posCmd : Double := .finite 0
  velCmd : Double := .finite 0
  directPosCmd : Double := .finite 0
  directVelCmd : Double := .finite 0
  hasDirectPosCmd : Bool := false
  hasDirectVelCmd : Bool := false
  lastDirectPosTime : Time := 0
  lastDirectVelTime : Time := 0
  limits : JointLimits := {}
  hasLimits : Bool := false
  stopIssuedOnFault : Bool := false
  requireCommandAlignment : Bool := false
deriving DecidableEq, Repr

/-- `controlModeUsesVelocitySemantics`. -/
def controlModeUsesVelocitySemantics (controlMode : String) : Bool :=
  axisControlModeFromString controlMode = .velocity

/-- `controlModeUsesPositionSemantics`. -/
def controlModeUsesPositionSemantics (controlMode : String) : Bool :=
  !controlModeUsesVelocitySemantics controlMode

/-- `effectivePositionScale`. -/
def effectivePositionScale (joint : CanDriverJointConfig) : Double :=
  joint.positionScale.mul joint.directionSign

/-- `rawPositionToJointPosition`. -/
def rawPositionToJointPosition (joint : CanDriverJointConfig) (rawPosition : Double) : Double :=
  (rawPosition.mul (effectivePositionScale joint)).add joint.zeroOffsetRad

/-- The joint after a mode switch: it holds its position until the command is aligned. -/
def CanDriverJointConfig.switchMode (joint : CanDriverJointConfig) (mode : AxisControlMode) :
    CanDriverJointConfig :=
  { joint with
    controlMode := axisControlModeName mode
    hasDirectPosCmd := false
    hasDirectVelCmd := false
    posCmd := joint.pos
    velCmd := .finite 0
    requireCommandAlignment := true }

/-- The joint with another local zero offset. -/
def CanDriverJointConfig.withZero (joint : CanDriverJointConfig) (zeroOffset : Double) :
    CanDriverJointConfig :=
  { joint with zeroOffsetRad := zeroOffset }

/-- The joint with other position limits. -/
def CanDriverJointConfig.withLimits (joint : CanDriverJointConfig) (lower upper : Double) :
    CanDriverJointConfig :=
  { joint with
    hasLimits := true
    limits :=
      { joint.limits with hasPositionLimits := true, minPosition := lower, maxPosition := upper } }

/-! ## offsets by motor id -/

/-- `std::map<uint16_t, double>`, its entries in the order of their keys. -/
abbrev OffsetMap := List (MotorID × Double)

namespace OffsetMap

/-- `m[motorId] = value`. -/
def assign : OffsetMap → MotorID → Double → OffsetMap
  | [], motorId, value => [(motorId, value)]
  | (k, v) :: m, motorId, value =>
      if motorId < k then (motorId, value) :: (k, v) :: m
      else if motorId = k then (motorId, value) :: m
      else (k, v) :: assign m motorId value

@[simp] theorem lookup_assign_self (m : OffsetMap) (motorId : MotorID) (value : Double) :
    (m.assign motorId value).lookup motorId = some value := by
  induction m with
  | nil => simp [assign]
  | cons entry m ih =>
      obtain ⟨k, v⟩ := entry
      unfold assign
      split
      · simp
      · split
        · simp
        · next hne => simp [List.lookup_cons, beq_false_of_ne hne, ih]

@[simp] theorem lookup_assign_of_ne (m : OffsetMap) {motorId other : MotorID} (value : Double)
    (hne : other ≠ motorId) : (m.assign motorId value).lookup other = m.lookup other := by
  have hb : (other == motorId) = false := by simpa using hne
  induction m with
  | nil => simp [assign, List.lookup_cons, hb]
  | cons entry m ih =>
      obtain ⟨k, v⟩ := entry
      unfold assign
      split
      · simp [List.lookup_cons, hb]
      · split
        · next hk => simp [List.lookup_cons, hb, ← hk]
        · simp [List.lookup_cons, ih]

end OffsetMap

/-! ## the offset file -/

/-- A line of the offset file, as `std::getline` and the stream operators take it. -/
inductive OffsetLine where
  | comment
  | entry (motorId : MotorID) (zeroOffset : ℚ)
  | malformed
deriving DecidableEq, Repr

/-- The line written for an offset: 17 decimals; `inf` and `nan` are not read back. -/
def OffsetLine.write (motorId : MotorID) : Double → OffsetLine
  | .finite z => entry motorId (Single.roundEven (z * 10 ^ 17) / 10 ^ 17)
  | _ => malformed

/-- Read the lines of the file, in order. -/
def readOffsets : List OffsetLine → OffsetMap → Option OffsetMap
  | [], loaded => some loaded
  | .comment :: lines, loaded => readOffsets lines loaded
  | .entry motorId zeroOffset :: lines, loaded =>
      readOffsets lines (loaded.assign motorId (.finite zeroOffset))
  | .malformed :: _, _ => none

/-! ## the state -/

/-- `CanDriverHW`: the joints, which of their commands are valid, the zero offsets and
the file they are kept in (`none`: there is no file). -/
structure CanDriverHW where
  joints : List CanDriverJointConfig := []
  commandValidBuffer : List Bool := []
  jointZeroOffsetRadByMotorId : OffsetMap := []
  ppLocalZeroOffsetPersistenceEnabled : Bool := false
  offsetFile : Option (List OffsetLine) := none

namespace CanDriverHW

/-! ## setting the joints up -/

/-- What the loop of `parseAndSetupJoints` keeps. -/
structure Setup where
  seenJointNames : List String := []
  seenProtocolNodes : List (String × CanType × UInt8) := []
  hw : CanDriverHW

/-- The zero offset a joint starts with: the one kept for its motor id, if any. -/
def initialZeroOffset (hw : CanDriverHW) (p : ParsedJointConfig) : Double :=
  (hw.jointZeroOffsetRadByMotorId.lookup p.motorId).getD p.zeroOffsetRad

/-- A joint without a kept offset has its configured one kept, unless that is zero. -/
def noteZeroOffset (hw : CanDriverHW) (p : ParsedJointConfig) : OffsetMap :=
  if (hw.jointZeroOffsetRadByMotorId.lookup p.motorId).isNone && p.zeroOffsetRad.isFinite &&
      p.zeroOffsetRad != .finite 0 then
    hw.jointZeroOffsetRadByMotorId.assign p.motorId p.zeroOffsetRad
  else hw.jointZeroOffsetRadByMotorId

/-- The joint made from a parsed configuration. -/
def makeJoint (hw : CanDriverHW) (p : ParsedJointConfig) : CanDriverJointConfig :=
  { p with zeroOffsetRad := hw.initialZeroOffset p }

/-- One round of the loop of `parseAndSetupJoints`: the joint name and the protocol node,
which is the low byte of the motor id whatever the protocol, have to be new. -/
def setupJoint (st : Setup) (p : ParsedJointConfig) : Option Setup :=
  let node := (p.canDevice, p.protocol, toProtocolNodeId p.motorId)
  if p.name ∈ st.seenJointNames then none
  else if node ∈ st.seenProtocolNodes then none
  else
    some
      { seenJointNames := p.name :: st.seenJointNames
        seenProtocolNodes := node :: st.seenProtocolNodes
        hw :=
          { st.hw with
            joints := st.hw.joints ++ [st.hw.makeJoint p]
            jointZeroOffsetRadByMotorId := st.hw.noteZeroOffset p } }

/-- The loop of `parseAndSetupJoints`. -/
def setupJoints : Setup → List ParsedJointConfig → Option Setup
  | st, [] => some st
  | st, p :: parsed =>
      match setupJoint st p with
      | none => none
      | some st => setupJoints st parsed

/-- `parseAndSetupJoints`, for a node with these joints on the parameter server; `none`
when it returns false or an exception leaves it. -/
def parseAndSetupJoints (hw : CanDriverHW) (param : Option XmlRpcValue) : Option CanDriverHW :=
  match param with
  | none => none
  | some jointList =>
      match JointConfigParser.parse jointList with
      | .error _ => none
      | .ok parsed =>
          match setupJoints { hw } parsed with
          | none => none
          | some st =>
              some { st.hw with commandValidBuffer := List.replicate st.hw.joints.length false }

/-- `resetInternalState`. -/
def resetInternalState (hw : CanDriverHW) : CanDriverHW :=
  { hw with joints := [], commandValidBuffer := [], jointZeroOffsetRadByMotorId := [] }

/-- `loadPersistedLocalZeroOffsets`, of a file that can be opened if it is there. -/
def loadPersistedLocalZeroOffsets (hw : CanDriverHW) : Option CanDriverHW :=
  match hw.offsetFile with
  | none => some hw
  | some lines =>
      match readOffsets lines [] with
      | none => none
      | some loaded => some { hw with jointZeroOffsetRadByMotorId := loaded }

/-- The part of `loadRuntimeParams` about zero offsets. -/
def loadRuntimeParams (hw : CanDriverHW) (persistenceEnabled : Bool) : Option CanDriverHW :=
  let hw :=
    { hw with
      ppLocalZeroOffsetPersistenceEnabled := persistenceEnabled
      jointZeroOffsetRadByMotorId := [] }
  if persistenceEnabled then hw.loadPersistedLocalZeroOffsets else some hw

/-- `init`, as far as the joints go; `none` when it fails. -/
def init (hw : CanDriverHW) (persistenceEnabled : Bool) (param : Option XmlRpcValue) :
    Option CanDriverHW :=
  match hw.resetInternalState.loadRuntimeParams persistenceEnabled with
  | none => none
  | some hw => hw.parseAndSetupJoints param

/-! ## finding a joint -/

/-- `motorIdMatchesJoint`: the configured id, or for an MT joint any id of its node. -/
def motorIdMatchesJoint (requestedMotorId : MotorID) (candidate : CanDriverJointConfig) : Bool :=
  if candidate.motorId = requestedMotorId then true
  else if candidate.protocol ≠ .MT then false
  else toMtProtocolNodeId requestedMotorId = toMtProtocolNodeId candidate.motorId

/-- The search every entry point makes, from index `i` on: the first match and the number
of matches. -/
def matchJoints (motorId : MotorID) :
    Nat → List CanDriverJointConfig → Option (Nat × CanDriverJointConfig) × Nat
  | _, [] => (none, 0)
  | i, joint :: joints =>
      let (matched, matchCount) := matchJoints motorId (i + 1) joints
      if motorIdMatchesJoint motorId joint then (some (i, joint), matchCount + 1)
      else (matched, matchCount)

/-- The joint an entry point acts on, with its index, if exactly one matches. -/
def matchedJoint (hw : CanDriverHW) (motorId : MotorID) : Option (Nat × CanDriverJointConfig) :=
  match matchJoints motorId 0 hw.joints with
  | (some found, 1) => some found
  | _ => none

/-- Write a joint back. -/
def setJoint (hw : CanDriverHW) (index : Nat) (joint : CanDriverJointConfig) : CanDriverHW :=
  { hw with joints := hw.joints.set index joint }

/-- `lookupJointByMotorId`. -/
def lookupJointByMotorId (hw : CanDriverHW) (motorId : MotorID) : Option CanDriverJointConfig :=
  (hw.matchedJoint motorId).map Prod.snd

/-- `commitModeSwitch`. -/
def commitModeSwitch (hw : CanDriverHW) (motorId : MotorID) (mode : AxisControlMode) :
    Bool × CanDriverHW :=
  match hw.matchedJoint motorId with
  | none => (false, hw)
  | some (index, joint) =>
      (true,
        { hw.setJoint index (joint.switchMode mode) with
          commandValidBuffer := hw.commandValidBuffer.set index false })

/-- `getZeroOffset`: zero for an id that matches nothing, `none` for an ambiguous one. -/
def getZeroOffset (hw : CanDriverHW) (motorId : MotorID) : Option Double :=
  match matchJoints motorId 0 hw.joints with
  | (none, _) => some (.finite 0)
  | (some (_, joint), matchCount) =>
      if 1 < matchCount then none
      else
        match hw.jointZeroOffsetRadByMotorId.lookup joint.motorId with
        | some offset => some offset
        | none =>
            some ((hw.jointZeroOffsetRadByMotorId.lookup motorId).getD joint.zeroOffsetRad)

/-- `savePersistedLocalZeroOffsets`, if the directory, the temporary file and the renaming
all work out (`writable`). -/
def savePersistedLocalZeroOffsets (hw : CanDriverHW) (writable : Bool) : Bool × CanDriverHW :=
  if writable then
    (true,
      { hw with
        offsetFile := some (hw.jointZeroOffsetRadByMotorId.map fun e => .write e.1 e.2) })
  else (false, hw)

/-- `commitZero`. -/
def commitZero (hw : CanDriverHW) (motorId : MotorID) (zeroOffset previousZeroOffset : Double)
    (applyToMotor writable : Bool) : Bool × CanDriverHW :=
  match hw.matchedJoint motorId with
  | none => (false, hw)
  | some (index, joint) =>
      let storedZeroOffset := if applyToMotor then .finite 0 else zeroOffset
      let rollbackZeroOffset := if applyToMotor then .finite 0 else previousZeroOffset
      let hw₁ :=
        { hw.setJoint index (joint.withZero storedZeroOffset) with
          jointZeroOffsetRadByMotorId :=
            hw.jointZeroOffsetRadByMotorId.assign joint.motorId storedZeroOffset }
      let saved := hw₁.savePersistedLocalZeroOffsets writable
      if !hw.ppLocalZeroOffsetPersistenceEnabled then (true, hw₁)
      else if saved.1 then (true, saved.2)
      else
        (false,
          { saved.2.setJoint index joint with
            jointZeroOffsetRadByMotorId :=
              saved.2.jointZeroOffsetRadByMotorId.assign joint.motorId rollbackZeroOffset })

/-- `commitLimits`. -/
def commitLimits (hw : CanDriverHW) (motorId : MotorID) (baseMin baseMax zeroOffset : Double)
    (applyToMotor : Bool) : Bool × CanDriverHW :=
  match hw.matchedJoint motorId with
  | none => (false, hw)
  | some (index, joint) =>
      let storedZeroOffset := if applyToMotor then .finite 0 else zeroOffset
      (true,
        { hw.setJoint index ((joint.withLimits baseMin baseMax).withZero storedZeroOffset) with
          jointZeroOffsetRadByMotorId :=
            hw.jointZeroOffsetRadByMotorId.assign joint.motorId storedZeroOffset })

end CanDriverHW

end CanDriver
