import CanDriver.AxisCommandSemantics

/-!
# CanDriver.CommandGate

The latch that keeps old commands from being sent after the lifecycle has stopped and
released the axes: it is armed with a snapshot of all commands, and satisfied once one of
them has changed or is where its axis is.
-/

namespace CanDriver

/-- `CommandGate::Snapshot`. -/
structure CommandSnapshot where
  controlMode : AxisControlMode := .unknown
  commandValue : Double := .finite 0
  hasDirectCommand : Bool := false
  targetNearActual : Bool := false
deriving DecidableEq, Repr

/-- The snapshot of one joint. -/
def CommandSnapshot.ofJoint (joint : CanDriverJointConfig) : CommandSnapshot where
  controlMode := joint.mode
  commandValue := joint.selectedCommandValue
  hasDirectCommand := joint.hasDirectCommand
  targetNearActual := joint.targetNearActual

/-- `snapshotCommandChanged`. -/
def snapshotCommandChanged (current baseline : CommandSnapshot) : Bool :=
  if current.controlMode ≠ baseline.controlMode then true
  else if current.hasDirectCommand ≠ baseline.hasDirectCommand then true
  else Double.lt (.finite (1 / 10 ^ 12)) (current.commandValue.sub baseline.commandValue).abs

/-- What satisfies the latch for one joint. -/
def snapshotFresh (current baseline : CommandSnapshot) : Bool :=
  snapshotCommandChanged current baseline || current.targetNearActual

/-- What the mutex of `CommandGate` guards. -/
structure CommandGate where
  baselines : List CommandSnapshot := []
  lastDeviceReadyState : String → Option Bool := fun _ => none
  freshCommandRequired : Bool := false

/-- `CommandGate::DeviceEvent`. -/
inductive DeviceEvent where
  | none | lost | recovered
deriving DecidableEq, Repr

namespace CommandGate

/-- The critical section of `armFreshCommandLatch`. -/
def arm (snapshots : List CommandSnapshot) (gate : CommandGate) : CommandGate :=
  { gate with baselines := snapshots, freshCommandRequired := true }

/-- Whether the latch is satisfied by these snapshots. -/
def satisfiedBy (gate : CommandGate) (snapshots : List CommandSnapshot) : Bool :=
  if gate.baselines.length ≠ snapshots.length then true
  else (snapshots.zip gate.baselines).any fun e => snapshotFresh e.1 e.2

/-- The critical section of `consumeFreshCommandLatchIfSatisfied` after the snapshots. -/
def consume (snapshots : List CommandSnapshot) (gate : CommandGate) : CommandGate :=
  if gate.baselines.length ≠ snapshots.length then
    { gate with freshCommandRequired := false, baselines := [] }
  else if gate.satisfiedBy snapshots then { gate with freshCommandRequired := false }
  else gate

/-- A latch that is not satisfied is left as it is. -/
theorem consume_of_not_satisfied {snapshots : List CommandSnapshot} {gate : CommandGate}
    (h : gate.satisfiedBy snapshots = false) : gate.consume snapshots = gate := by
  rw [consume]
  split
  · next hlength =>
    rw [satisfiedBy, if_pos hlength] at h
    exact absurd h (by decide)
  · rw [h, if_neg Bool.false_ne_true]

/-- Consuming the latch leaves the devices alone. -/
@[simp] theorem lastDeviceReadyState_consume (snapshots : List CommandSnapshot)
    (gate : CommandGate) :
    (gate.consume snapshots).lastDeviceReadyState = gate.lastDeviceReadyState := by
  rw [consume]
  split
  · rfl
  · split <;> rfl

/-- `observeDeviceReady`, the event. -/
def deviceEvent (gate : CommandGate) (device : String) (isReady : Bool) : DeviceEvent :=
  let wasReady := gate.lastDeviceReadyState device
  if isReady then (if wasReady = some false then .recovered else .none)
  else if wasReady = some false then .none
  else .lost

/-- A ready device has come back if it was not ready when last seen. -/
theorem deviceEvent_ready {gate : CommandGate} {device : String} :
    gate.deviceEvent device true = .recovered ↔ gate.lastDeviceReadyState device = some false := by
  rw [deviceEvent, if_pos rfl]
  split
  · next hknown => exact iff_of_true rfl hknown
  · next hknown => exact iff_of_false (by decide) hknown

/-- `observeDeviceReady`, the state. -/
def observeDeviceReady (device : String) (isReady : Bool) (gate : CommandGate) : CommandGate :=
  { gate with lastDeviceReadyState := put gate.lastDeviceReadyState device isReady }

end CommandGate

/-- `captureCommandSnapshots`. -/
def CanDriverHW.captureCommandSnapshots (hw : CanDriverHW) : List CommandSnapshot :=
  hw.joints.map CommandSnapshot.ofJoint

/-- `holdCommandsForLifecycleTransition`. -/
def CanDriverHW.holdCommandsForLifecycleTransition (hw : CanDriverHW) : CanDriverHW :=
  { hw with
    joints := hw.joints.map fun joint => { joint.holdCommand with requireCommandAlignment := false }
    commandValidBuffer := hw.commandValidBuffer.map fun _ => false }

end CanDriver
