import CanDriver.CanDriverIoRuntime
import CanDriver.Feedback.Velocity

/-!
# CanDriver.ControlLoop

What the node does with its joints around a control cycle: `CanDriverHW::read` with the
synchronisation of the feedback, the direct commands, and the calls of other threads that change
a joint between two steps of a cycle.

All of them are programs over one interface, so that the threads of the node can be interleaved.
-/

namespace CanDriver

open Interact

/-! ## direct commands -/

/-- A joint that was sent a direct command. -/
def CanDriverJointConfig.acceptDirect (joint : CanDriverJointConfig) (isVelocity : Bool)
    (value : Double) (stamp : Time) : CanDriverJointConfig :=
  if isVelocity then
    { joint with directVelCmd := value, hasDirectVelCmd := true, lastDirectVelTime := stamp }
  else
    { joint with directPosCmd := value, hasDirectPosCmd := true, lastDirectPosTime := stamp }

/-- A joint without direct commands. -/
def CanDriverJointConfig.dropDirect (joint : CanDriverJointConfig) : CanDriverJointConfig :=
  { joint with hasDirectPosCmd := false, hasDirectVelCmd := false }

namespace CanDriverHW

/-- The critical section of `acceptDirectCommand`. -/
def acceptDirectCommand (hw : CanDriverHW) (jointIndex : Nat) (isVelocity : Bool) (value : Double)
    (stamp : Time) : CanDriverHW :=
  { hw with
    joints := hw.joints.modify jointIndex fun joint => joint.acceptDirect isVelocity value stamp }

/-- `jointIndexByName_.find`; the names of the joints are all different. -/
def jointIndexByName (hw : CanDriverHW) (jointName : String) : Option Nat :=
  hw.joints.findIdx? fun joint => joint.name == jointName

/-- `clearDirectCommand`. -/
def clearDirectCommand (hw : CanDriverHW) (jointName : String) : CanDriverHW :=
  match hw.jointIndexByName jointName with
  | none => hw
  | some index => { hw with joints := hw.joints.modify index CanDriverJointConfig.dropDirect }

end CanDriverHW

/-! ## feedback -/

/-- What a joint makes of the raw values of its motor. -/
def CanDriverJointConfig.snapshot (joint : CanDriverJointConfig) (position velocity current : Int) :
    JointSnapshot where
  pos := rawPositionToJointPosition joint (.ofInt position)
  vel := (Double.ofInt velocity).mul joint.effectiveVelocityScale
  eff := .ofInt current

/-- The critical section of `SyncJointFeedback`; the effort of a joint is not modelled. -/
def CanDriverHW.syncFeedback (hw : CanDriverHW) (snapshots : Nat → Option JointSnapshot) :
    CanDriverHW :=
  { hw with
    joints := hw.joints.mapIdx fun index joint =>
      match snapshots index with
      | none => joint
      | some snapshot => { joint with pos := snapshot.pos, vel := snapshot.vel } }

/-! ## the interface of the node -/

/-- The critical sections of `jointStateMutex_` outside of a control cycle.  With `command` the
controllers store their commands in the joints. -/
inductive JointStateOp where
  | accept (jointIndex : Nat) (isVelocity : Bool) (value : Double) (stamp : Time)
  | clear (jointName : String)
  | commitMode (motorId : MotorID) (mode : AxisControlMode)
  | commitZero (motorId : MotorID) (zeroOffset previousZeroOffset : Double)
      (applyToMotor writable : Bool)
  | commitLimits (motorId : MotorID) (baseMin baseMax zeroOffset : Double) (applyToMotor : Bool)
  | hold
  | sync (snapshots : Nat → Option JointSnapshot)
  | command (commands : CommandLimiter)

/-- What a critical section does to the joints. -/
def JointStateOp.apply : JointStateOp → CanDriverHW → CanDriverHW
  | .accept jointIndex isVelocity value stamp, hw =>
      hw.acceptDirectCommand jointIndex isVelocity value stamp
  | .clear jointName, hw => hw.clearDirectCommand jointName
  | .commitMode motorId mode, hw => (hw.commitModeSwitch motorId mode).2
  | .commitZero motorId zeroOffset previousZeroOffset applyToMotor writable, hw =>
      (hw.commitZero motorId zeroOffset previousZeroOffset applyToMotor writable).2
  | .commitLimits motorId baseMin baseMax zeroOffset applyToMotor, hw =>
      (hw.commitLimits motorId baseMin baseMax zeroOffset applyToMotor).2
  | .hold, hw => hw.holdCommandsForLifecycleTransition
  | .sync snapshots, hw => hw.syncFeedback snapshots
  | .command commands, hw => hw.enforceLimits commands

/-- What a thread of the node does: an operation of a control cycle, a critical section, a
question to a protocol. -/
inductive ControlOp where
  | cycle (op : ModeOp hwSig)
  | jointState (op : JointStateOp)
  | getPosition (device : String) (protocol : CanType) (motorId : MotorID)
  | getVelocity (device : String) (protocol : CanType) (motorId : MotorID)
  | getCurrent (device : String) (protocol : CanType) (motorId : MotorID)

/-- The answers: a critical section the state it found. -/
@[reducible] def ControlOp.Ans : ControlOp → Type
  | .cycle op => op.Ans
  | .jointState _ => CanDriverHW
  | .getPosition _ _ _ => Int
  | .getVelocity _ _ _ => Int
  | .getCurrent _ _ _ => Int

/-- The interface of the node. -/
abbrev controlSig : Sig := ⟨ControlOp, ControlOp.Ans⟩

/-- A program of the node. -/
abbrev Control (α : Type) := Prog controlSig α

/-- Ask for one operation. -/
def askControl (op : ControlOp) : Control op.Ans := Prog.vis (S := controlSig) op .ret

/-- A program of the control cycle, run by the node. -/
def inCycle (p : Coord hwSig α) : Control α :=
  p.mapOp (S := controlSig) ControlOp.cycle fun _ r => r

/-- A critical section. -/
def modifyJoints (op : JointStateOp) : Control Unit := do
  let _ ← askControl (.jointState op)
  pure ()

/-! ## reading the feedback -/

/-- `SyncJointFeedback`, one joint. -/
def snapshotJoint (group : CanDriverDeviceProtocolGroup) (index : Nat) :
    Control (Option JointSnapshot) := do
  let hw ← inCycle (driver readHw)
  match hw.joints[index]? with
  | none => pure none
  | some joint => do
      let position ← askControl (.getPosition group.canDevice group.protocol joint.motorId)
      let velocity ← askControl (.getVelocity group.canDevice group.protocol joint.motorId)
      let current ← askControl (.getCurrent group.canDevice group.protocol joint.motorId)
      pure (some (joint.snapshot position velocity current))

/-- `SyncJointFeedback`, the joints of a group. -/
def snapshotJoints (group : CanDriverDeviceProtocolGroup) :
    List Nat → (Nat → Option JointSnapshot) → Control (Nat → Option JointSnapshot)
  | [], snapshots => pure snapshots
  | index :: indices, snapshots => do
      let snapshot ← snapshotJoint group index
      snapshotJoints group indices (Function.update snapshots index snapshot)

/-- `SyncJointFeedback`, the groups; one without a protocol is left out. -/
def snapshotGroups : List CanDriverDeviceProtocolGroup → (Nat → Option JointSnapshot) →
    Control (Nat → Option JointSnapshot)
  | [], snapshots => pure snapshots
  | group :: groups, snapshots => do
      let hasProtocol ← inCycle (driver (askHw (.hasProtocol group.canDevice group.protocol)))
      if !hasProtocol then
        snapshotGroups groups snapshots
      else
        inCycle (driver (askHw (.lockDevice group.canDevice)))
        let snapshots ← snapshotJoints group group.jointIndices snapshots
        inCycle (driver (askHw (.unlockDevice group.canDevice)))
        snapshotGroups groups snapshots

/-- `SyncJointFeedback`, all joints. -/
def syncJoints (groups : List CanDriverDeviceProtocolGroup) : Control Unit := do
  let snapshots ← snapshotGroups groups fun _ => none
  modifyJoints (.sync snapshots)

/-! ## the calls -/

/-- `CanDriverHW::read`. -/
def read (groups : List CanDriverDeviceProtocolGroup) : Control Unit := do
  let active ← inCycle (driver (askHw .active))
  if active then syncJoints groups else pure ()

/-- `CanDriverHW::acceptDirectCommand`, called by the endpoints of the direct commands with the
time of reception. -/
def acceptDirectCommand (jointIndex : Nat) (isVelocity : Bool) (value : Double) (stamp : Time) :
    Control Unit := do
  let active ← inCycle (driver (askHw .active))
  if active then modifyJoints (.accept jointIndex isVelocity value stamp) else pure ()

/-- What the threads of the node call.  An `update` is what happens in one critical section:
the services, the lifecycle transitions and the controllers. -/
inductive ControlCall where
  | read
  | write (limiter : CommandLimiter)
  | acceptDirectCommand (jointIndex : Nat) (isVelocity : Bool) (value : Double) (stamp : Time)
  | update (op : JointStateOp)

/-- The program of a call. -/
def ControlCall.code (config : WriteConfig) (groups : List CanDriverDeviceProtocolGroup) :
    ControlCall → Control Unit
  | .read => CanDriver.read groups
  | .write limiter => inCycle (CanDriver.write config limiter groups)
  | .acceptDirectCommand jointIndex isVelocity value stamp =>
      CanDriver.acceptDirectCommand jointIndex isVelocity value stamp
  | .update op => modifyJoints op

end CanDriver
