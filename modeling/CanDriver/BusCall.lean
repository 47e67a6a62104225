import CanDriver.Bus
import CanDriver.DeviceManager
import CanDriver.Lib.Pool

/-!
# CanDriver.BusCall

The threads of a device.

Controllers, services, the receive thread, the dispatcher's worker and the
refresh worker each make calls, which interleave one critical section at a time.
-/

namespace CanDriver

open Interact

/-- The calls every protocol understands (`CanProtocol`). -/
inductive MotorCall where
  | setMode (mode : MotorMode)
  | setVelocity (velocity : Int32)
  | setAcceleration (acceleration : Int32)
  | setDeceleration (deceleration : Int32)
  | setPosition (position : Int32)
  | quickSetPosition (position : Int32)
  | enable
  | disable
  | stop
  | resetFault
  | getPosition
  | getVelocity
  | getCurrent
  | isEnabled
  | hasFault
deriving DecidableEq, Repr

/-- A motor call, as the PP protocol serves it. -/
def EyouCan.motorCall (id : MotorID) : MotorCall → Proto EyouCan Unit
  | .setMode mode => discard (EyouCan.setMode id mode)
  | .setVelocity v => discard (EyouCan.setVelocity id v)
  | .setAcceleration a => discard (EyouCan.setAcceleration id a)
  | .setDeceleration d => discard (EyouCan.setDeceleration id d)
  | .setPosition x => discard (EyouCan.setPosition id x)
  | .quickSetPosition x => discard (EyouCan.quickSetPosition id x)
  | .enable => discard (EyouCan.enable id)
  | .disable => discard (EyouCan.disable id)
  | .stop => discard (EyouCan.stop id)
  | .resetFault => discard (EyouCan.resetFault id)
  | .getPosition => discard (EyouCan.getPosition id)
  | .getVelocity => discard (EyouCan.getVelocity id)
  | .getCurrent => discard (EyouCan.getCurrent id)
  | .isEnabled => discard (EyouCan.isEnabled id)
  | .hasFault => discard (EyouCan.hasFault id)

/-- A motor call, as the MT protocol serves it. -/
def MtCan.motorCall (id : MotorID) : MotorCall → Proto MtCan Unit
  | .setMode mode => discard (MtCan.setMode id mode)
  | .setVelocity v => discard (MtCan.setVelocity id v)
  | .setAcceleration a => discard (MtCan.setAcceleration id a)
  | .setDeceleration d => discard (MtCan.setDeceleration id d)
  | .setPosition x => discard (MtCan.setPosition id x)
  | .quickSetPosition x => discard (MtCan.quickSetPosition id x)
  | .enable => discard (MtCan.enable id)
  | .disable => discard (MtCan.disable id)
  | .stop => discard (MtCan.stop id)
  | .resetFault => discard (MtCan.resetFault id)
  | .getPosition => discard (MtCan.getPosition id)
  | .getVelocity => discard (MtCan.getVelocity id)
  | .getCurrent => discard (MtCan.getCurrent id)
  | .isEnabled => discard (MtCan.isEnabled id)
  | .hasFault => discard (MtCan.hasFault id)

/-- A motor call, as the DM protocol serves it. -/
def DamiaoCan.motorCall (id : MotorID) : MotorCall → Proto DamiaoCan Unit
  | .setMode mode => discard (DamiaoCan.setMode id mode)
  | .setVelocity v => discard (DamiaoCan.setVelocity id v)
  | .setAcceleration a => discard (DamiaoCan.setAcceleration id a)
  | .setDeceleration d => discard (DamiaoCan.setDeceleration id d)
  | .setPosition x => discard (DamiaoCan.setPosition id x)
  | .quickSetPosition x => discard (DamiaoCan.quickSetPosition id x)
  | .enable => discard (DamiaoCan.enable id)
  | .disable => discard (DamiaoCan.disable id)
  | .stop => discard (DamiaoCan.stop id)
  | .resetFault => discard (DamiaoCan.resetFault id)
  | .getPosition => discard (DamiaoCan.getPosition id)
  | .getVelocity => discard (DamiaoCan.getVelocity id)
  | .getCurrent => discard (DamiaoCan.getCurrent id)
  | .isEnabled => discard (DamiaoCan.isEnabled id)
  | .hasFault => discard (DamiaoCan.hasFault id)

/-- What a thread may be asked to do on a device. -/
inductive BusCall where
  | eyou (id : MotorID) (call : MotorCall)
  | mt (id : MotorID) (call : MotorCall)
  | dm (id : MotorID) (call : MotorCall)
  | eyouConfigurePositionLimits (id : MotorID) (minRaw maxRaw : Int32) (enable : Bool)
  | eyouSetPositionOffset (id : MotorID) (offsetRaw : Int32)
  | eyouReadPositionOffset (id : MotorID)
  | eyouReadSerialNumber (id : MotorID)
  | eyouPersistParameters (id : MotorID)
  | eyouSetFastWriteEnabled (enabled : Bool)
  | eyouSetDefaultPositionVelocityRaw (velocityRaw : Int32)
  | eyouSetDefaultCspVelocityRaw (velocityRaw : Int32)
  | eyouSetMotorDefaultPositionVelocityRaw (id : MotorID) (velocityRaw : Int32)
  | eyouSetMotorDefaultCspVelocityRaw (id : MotorID) (velocityRaw : Int32)
  | mtSetCommunicationTimeout (timeoutMs : UInt32)
  | mtSetPositionAcceleration (id : MotorID) (dpsPerSec : UInt32)
  | mtSetPositionDeceleration (id : MotorID) (dpsPerSec : UInt32)
  | eyouInitializeMotorRefresh (ids : List MotorID)
  | mtInitializeMotorRefresh (ids : List MotorID)
  | dmInitializeMotorRefresh (ids : List MotorID)
  | eyouIssueRefreshQuery (id : MotorID) (query : PpRefreshQuery)
  | mtIssueRefreshQuery (id : MotorID) (query : MtRefreshQuery)
  | dmIssueRefreshQuery (id : MotorID) (query : DmRefreshQuery)
  | eyouReceive (frame : Frame)
  | mtReceive (frame : Frame)
  | dmReceive (frame : Frame)
  | work
  | refreshTick
  | initDevice (motors : List (CanType × MotorID))
  | shutdownDevice
deriving DecidableEq, Repr

/-- The program of a call. -/
def BusCall.code (cfg : DeviceManagerConfig) (deviceName : String) : BusCall → BusProg Unit
  | eyou id call => Proto.onBus (EyouCan.motorCall id call)
  | mt id call => Proto.onBus (MtCan.motorCall id call)
  | dm id call => Proto.onBus (DamiaoCan.motorCall id call)
  | eyouConfigurePositionLimits id minRaw maxRaw enable =>
      Proto.onBus (discard (EyouCan.configurePositionLimits id minRaw maxRaw enable))
  | eyouSetPositionOffset id offsetRaw =>
      Proto.onBus (discard (EyouCan.setPositionOffset id offsetRaw))
  | eyouReadPositionOffset id => Proto.onBus (discard (EyouCan.readPositionOffset id))
  | eyouReadSerialNumber id => Proto.onBus (discard (EyouCan.readSerialNumber id))
  | eyouPersistParameters id => Proto.onBus (discard (EyouCan.persistParameters id))
  | eyouSetFastWriteEnabled enabled => Proto.onBus (EyouCan.setFastWriteEnabled enabled)
  | eyouSetDefaultPositionVelocityRaw v =>
      Proto.onBus (EyouCan.setDefaultPositionVelocityRaw v)
  | eyouSetDefaultCspVelocityRaw v => Proto.onBus (EyouCan.setDefaultCspVelocityRaw v)
  | eyouSetMotorDefaultPositionVelocityRaw id v =>
      Proto.onBus (EyouCan.setMotorDefaultPositionVelocityRaw id v)
  | eyouSetMotorDefaultCspVelocityRaw id v =>
      Proto.onBus (EyouCan.setMotorDefaultCspVelocityRaw id v)
  | mtSetCommunicationTimeout timeoutMs =>
      Proto.onBus (discard (MtCan.setCommunicationTimeout timeoutMs))
  | mtSetPositionAcceleration id a => Proto.onBus (discard (MtCan.setPositionAcceleration id a))
  | mtSetPositionDeceleration id d => Proto.onBus (discard (MtCan.setPositionDeceleration id d))
  | eyouInitializeMotorRefresh ids => Proto.onBus (EyouCan.initializeMotorRefresh ids)
  | mtInitializeMotorRefresh ids => Proto.onBus (MtCan.initializeMotorRefresh ids)
  | dmInitializeMotorRefresh ids => Proto.onBus (DamiaoCan.initializeMotorRefresh ids)
  | eyouIssueRefreshQuery id query => Proto.onBus (discard (EyouCan.issueRefreshQuery id query))
  | mtIssueRefreshQuery id query => Proto.onBus (discard (MtCan.issueRefreshQuery id query))
  | dmIssueRefreshQuery id query =>
      Proto.onBus (discard (DamiaoCan.issueRefreshQuery id query))
  | eyouReceive frame => Proto.onBus (EyouCan.handleResponse frame)
  | mtReceive frame => Proto.onBus (MtCan.handleResponse frame)
  | dmReceive frame => Proto.onBus (DamiaoCan.handleResponse frame)
  | work => DeviceRuntime.workerStep deviceName
  | refreshTick => discard (CanDriver.refreshTick deviceName)
  | initDevice motors => discard (CanDriver.initDevice cfg deviceName motors)
  | shutdownDevice => CanDriver.shutdownDevice deviceName

/-! ## steps -/

/-- How the device serves an operation. -/
def Bus.serves (b : Bus) (op : BusOp) (r : op.Ans) (b' : Bus) : Prop :=
  b.admits op r ∧ b' = b.after op r

section

variable {ι : Type} [DecidableEq ι]

/-- A device and the threads working on it. -/
abbrev BusPool (ι : Type) := Pool busSig ι BusCall Unit Bus

/-- What happens in one step on a device. -/
abbrev BusEvent (ι : Type) := Event busSig ι BusCall Unit

/-- One step on the device `deviceName`. -/
abbrev BusStep (cfg : DeviceManagerConfig) (deviceName : String) :
    BusPool ι → BusEvent ι → BusPool ι → Prop :=
  Pool.Step (BusCall.code cfg deviceName) fun b _ => b.serves

end

/-- Serve an operation with the answer of `Bus.answer`. -/
def Bus.serve (b : Bus) (op : BusOp) : Option (op.Ans × Bus) :=
  match b.answer op with
  | none => none
  | some r => some (r, b.after op r)

theorem serves_of_serve {b b' : Bus} {op : BusOp} {r : op.Ans} (h : b.serve op = some (r, b')) :
    b.serves op r b' := by
  match hr : b.answer op with
  | none => simp [Bus.serve, hr] at h
  | some r' =>
      simp only [Bus.serve, hr, Option.some.injEq, Prod.mk.injEq] at h
      obtain ⟨rfl, rfl⟩ := h
      exact ⟨admits_of_answer hr, rfl⟩

end CanDriver
