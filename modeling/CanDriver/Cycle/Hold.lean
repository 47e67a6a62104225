import CanDriver.Joints.Configuration
import CanDriver.Maintenance.Restore

/-!
# CanDriver.Cycle.Hold

Where a joint stays when its commands are held.

Every lifecycle transition holds the commands: a joint is then commanded to the position it has,
or to no velocity.  The position was made of a raw value of the motor, and the cycle makes the same
raw value of it again, whatever the scale and the zero offset of the joint.
-/

namespace CanDriver

open Interact

/-! ## back and forth -/

section

variable {joint : CanDriverJointConfig}

/-- A well configured joint is scaled. -/
theorem WellConfigured.scaled (h : WellConfigured joint.toParsedJointConfig) :
    JointConfigParser.Scaled joint.toParsedJointConfig := by
  obtain ⟨s, hpositive, hs⟩ := Double.exists_of_isPositive h.positionScale
  obtain hsign | hsign := h.directionSign
  · exact ⟨s, 1, hpositive.ne', one_ne_zero, hs, hsign⟩
  · exact ⟨s, -1, hpositive.ne', by norm_num, hs, hsign⟩

/-- So is its velocity. -/
theorem WellConfigured.exists_velocityScale (h : WellConfigured joint.toParsedJointConfig) :
    ∃ s : ℚ, s ≠ 0 ∧ joint.effectiveVelocityScale = .finite s := by
  obtain ⟨s, hpositive, hs⟩ := Double.exists_of_isPositive h.velocityScale
  rw [CanDriverJointConfig.effectiveVelocityScale, hs]
  obtain hsign | hsign := h.directionSign
  · exact ⟨s * 1, by simpa using hpositive.ne', by rw [hsign]; rfl⟩
  · exact ⟨s * -1, by simpa using hpositive.ne', by rw [hsign]; rfl⟩

/-- **Round trip**: the position of a raw value is made that raw value again. -/
theorem rawCommand_rawPosition (h : JointConfigParser.Scaled joint.toParsedJointConfig)
    (hmode : joint.usesVelocity = false) (hzero : joint.zeroOffsetRad.isFinite = true) (r : Int32) :
    rawCommand joint (rawPositionToJointPosition joint (.ofInt r.toInt)) = some r := by
  obtain ⟨s, hs, hscale⟩ := exists_effectivePositionScale h
  cases hz : joint.zeroOffsetRad with
  | finite z =>
      have hjoint : joint.scale = .finite s := by
        rw [CanDriverJointConfig.scale, hmode, if_neg Bool.false_ne_true, hscale]
      have hraw : joint.toRawPositionCommand (rawPositionToJointPosition joint (.ofInt r.toInt)) =
          (Double.ofInt r.toInt).mul (.finite s) := by
        rw [CanDriverJointConfig.toRawPositionCommand, rawPositionToJointPosition, hscale, hz]
        simp [Double.ofInt, Double.mul, Double.add, Double.sub, Double.neg]
      rw [rawCommand, hmode, if_neg Bool.false_ne_true, hraw, hjoint, scaleAndClampToInt32_mul r hs]
  | inf negative => simp [hz, Double.isFinite] at hzero
  | nan => simp [hz, Double.isFinite] at hzero

/-- No velocity is the raw value zero. -/
theorem rawCommand_rest (h : WellConfigured joint.toParsedJointConfig)
    (hmode : joint.usesVelocity = true) : rawCommand joint (.finite 0) = some 0 := by
  obtain ⟨s, hs, hscale⟩ := h.exists_velocityScale
  have hrest : Double.finite 0 = (Double.ofInt (0 : Int32).toInt).mul (.finite s) := by
    simp [Double.ofInt, Double.mul]
  rw [rawCommand, hmode, if_pos rfl, CanDriverJointConfig.scale, hmode, if_pos rfl, hscale, hrest,
    scaleAndClampToInt32_mul 0 hs]

end

/-! ## held joints -/

/-- A joint whose feedback is read and whose commands are held. -/
def CanDriverJointConfig.held (joint : CanDriverJointConfig) (snapshot : JointSnapshot) :
    CanDriverJointConfig :=
  let joint := { joint with pos := snapshot.pos, vel := snapshot.vel }
  { joint.holdCommand with requireCommandAlignment := false }

/-- Where it is held. -/
def CanDriverJointConfig.heldAt (joint : CanDriverJointConfig) (snapshot : JointSnapshot) :
    Double :=
  if joint.usesVelocity then .finite 0 else snapshot.pos

section

variable {joint : CanDriverJointConfig} {snapshot : JointSnapshot} {config : WriteConfig}

theorem held_velocity (hmode : joint.usesVelocity = true) :
    joint.held snapshot =
      { joint with
        pos := snapshot.pos, vel := snapshot.vel, hasDirectPosCmd := false
        hasDirectVelCmd := false, velCmd := .finite 0, requireCommandAlignment := false } := by
  have hheld : controlModeUsesVelocitySemantics joint.controlMode = true := hmode
  simp [CanDriverJointConfig.held, CanDriverJointConfig.holdCommand,
    CanDriverJointConfig.usesVelocity, hheld]

theorem held_position (hmode : joint.usesVelocity = false) :
    joint.held snapshot =
      { joint with
        pos := snapshot.pos, vel := snapshot.vel, hasDirectPosCmd := false
        hasDirectVelCmd := false, posCmd := snapshot.pos, requireCommandAlignment := false } := by
  have hheld : controlModeUsesVelocitySemantics joint.controlMode = false := hmode
  simp [CanDriverJointConfig.held, CanDriverJointConfig.holdCommand,
    CanDriverJointConfig.usesVelocity, hheld]

theorem usesVelocity_held (joint : CanDriverJointConfig) (snapshot : JointSnapshot) :
    (joint.held snapshot).usesVelocity = joint.usesVelocity := by
  cases hmode : joint.usesVelocity with
  | true => rw [held_velocity hmode, ← hmode]; rfl
  | false => rw [held_position hmode, ← hmode]; rfl

/-- A held joint has no direct command. -/
theorem hasDirectCommand_held (joint : CanDriverJointConfig) (snapshot : JointSnapshot) :
    (joint.held snapshot).hasDirectCommand = false := by
  cases hmode : joint.usesVelocity with
  | true => simp [held_velocity hmode, CanDriverJointConfig.hasDirectCommand]
  | false => simp [held_position hmode, CanDriverJointConfig.hasDirectCommand]

/-- Limits look at the configuration only. -/
theorem clampWithJointLimits_held (joint : CanDriverJointConfig) (snapshot : JointSnapshot)
    (value : Double) :
    clampWithJointLimits (joint.held snapshot) value = clampWithJointLimits joint value := by
  cases hmode : joint.usesVelocity with
  | true => rw [held_velocity hmode]; rfl
  | false => rw [held_position hmode]; rfl

/-- The limit of a step does not move a joint that is commanded to where it is. -/
theorem limitPositionStep_held (config : WriteConfig)
    (hlimits : clampWithJointLimits joint (joint.heldAt snapshot) = joint.heldAt snapshot) :
    limitPositionStep config (joint.held snapshot) (joint.heldAt snapshot) =
      joint.heldAt snapshot := by
  cases hmode : joint.usesVelocity with
  | true =>
      rw [limitPositionStep, usesVelocity_held, hmode]
      rfl
  | false =>
      have hat : joint.heldAt snapshot = snapshot.pos := by
        rw [CanDriverJointConfig.heldAt, hmode, if_neg Bool.false_ne_true]
      have hpos : (joint.held snapshot).pos = snapshot.pos := by rw [held_position hmode]
      rw [hat] at hlimits ⊢
      rw [limitPositionStep]
      split
      · next hguard =>
        simp only [Bool.and_eq_true] at hguard
        obtain ⟨⟨⟨-, hstep⟩, hfinite⟩, -⟩ := hguard
        cases hq : snapshot.pos with
        | finite q =>
            have hnear : config.maxPositionStepRad.lt (Double.finite |0|) = false := by
              cases hm : config.maxPositionStepRad with
              | finite m =>
                  rw [hm, Double.lt, decide_eq_true_eq] at hstep
                  simp [Double.lt, hstep.le]
              | inf negative =>
                  cases negative with
                  | true => simp [hm, Double.lt] at hstep
                  | false => rfl
              | nan => simp [hm, Double.lt] at hstep
            rw [hpos, hq]
            simp only [Double.sub, Double.neg, Double.add, Double.abs, add_neg_cancel, hnear,
              if_neg Bool.false_ne_true, clampWithJointLimits_held]
            rw [← hq, hlimits]
        | inf negative => simp [hq, Double.isFinite] at hfinite
        | nan => simp [hq, Double.isFinite] at hfinite
      · rfl

/-- **Cycle**: a held joint is commanded to where it is held. -/
theorem commandValue_held (now : Time) (hbypass : config.debugBypassRosControl = false)
    (hlimits : clampWithJointLimits joint (joint.heldAt snapshot) = joint.heldAt snapshot) :
    commandValue config now false (joint.held snapshot) = some (joint.heldAt snapshot) := by
  have hunused : usesDirectCommand config now (joint.held snapshot) = false := by
    rw [usesDirectCommand, hasDirectCommand_held, Bool.false_and]
  have hfallback : (joint.held snapshot).fallbackCommandValue = joint.heldAt snapshot := by
    rw [CanDriverJointConfig.heldAt, CanDriverJointConfig.fallbackCommandValue, usesVelocity_held]
    cases hmode : joint.usesVelocity with
    | true => rw [held_velocity hmode]; rfl
    | false => rw [held_position hmode]; rfl
  have haligned : (joint.held snapshot).requireCommandAlignment = false := rfl
  simp [commandValue, hunused, hbypass, hfallback, clampWithJointLimits_held, hlimits, haligned,
    limitPositionStep_held config hlimits]

/-- Without direct commands the first loop changes nothing. -/
theorem scannedJoints_of_none (config : WriteConfig) (now : Time)
    {joints : List CanDriverJointConfig} (h : ∀ joint ∈ joints, joint.hasDirectCommand = false) :
    scannedJoints config now joints = (false, joints) := by
  have hscan : scanDirectCommands config now joints = (false, joints) := by
    induction joints with
    | nil => rfl
    | cons joint joints ih =>
        obtain ⟨hjoint, hjoints⟩ := List.forall_mem_cons.1 h
        simp [scanDirectCommands, hjoint, ih hjoints]
  rw [scannedJoints, hscan, ite_self]

/-- A joint after its feedback is read and the commands are held. -/
theorem hold_getElem? {hw : CanDriverHW} {snapshots : Nat → Option JointSnapshot} {index : Nat}
    (hjoint : hw.joints[index]? = some joint) (hsnapshot : snapshots index = some snapshot) :
    (hw.syncFeedback snapshots).holdCommandsForLifecycleTransition.joints[index]? =
      some (joint.held snapshot) := by
  simp [CanDriverHW.holdCommandsForLifecycleTransition, CanDriverHW.syncFeedback, hjoint, hsnapshot,
    CanDriverJointConfig.held]

/-- No direct command is left when the commands are held. -/
theorem hasDirectCommand_hold (hw : CanDriverHW) :
    ∀ joint ∈ hw.holdCommandsForLifecycleTransition.joints, joint.hasDirectCommand = false := by
  intro joint hjoint
  obtain ⟨other, -, rfl⟩ := List.mem_map.1 hjoint
  exact hasDirectCommand_held other ⟨other.pos, other.vel, .nan⟩

/-- **Cycle**: what is prepared for a held joint. -/
theorem preparedCommands_hold {hw : CanDriverHW} {snapshots : Nat → Option JointSnapshot}
    {index : Nat} {r : Int32} (now : Time) (hbypass : config.debugBypassRosControl = false)
    (hjoint : hw.joints[index]? = some joint) (hsnapshot : snapshots index = some snapshot)
    (hlimits : clampWithJointLimits joint (joint.heldAt snapshot) = joint.heldAt snapshot)
    (hraw : rawCommand joint (joint.heldAt snapshot) = some r) :
    (preparedCommands config now
        (hw.syncFeedback snapshots).holdCommandsForLifecycleTransition)[index]? =
      some
        { valid := true
          motorId := joint.motorId
          route := controlModeDispatchRoute joint.mode
          raw := r } := by
  have hscan := scannedJoints_of_none config now
    (hasDirectCommand_hold (hw.syncFeedback snapshots))
  have hheld : rawCommand (joint.held snapshot) (joint.heldAt snapshot) = some r := by
    rw [← hraw]
    cases hmode : joint.usesVelocity with
    | true => rw [held_velocity hmode]; rfl
    | false => rw [held_position hmode]; rfl
  have hprepared : prepareJoint config now false (joint.held snapshot) =
      (preparedJoint config now false (joint.held snapshot), some r) := by
    rw [prepareJoint, commandValue_held now hbypass hlimits, Option.bind_some, hheld]
  obtain ⟨hmode, hmotor⟩ := preparedJoint_mode config now false (joint.held snapshot)
  have hsame : (joint.held snapshot).mode = joint.mode ∧
      (joint.held snapshot).motorId = joint.motorId := by
    cases hmode : joint.usesVelocity with
    | true => rw [held_velocity hmode]; exact ⟨rfl, rfl⟩
    | false => rw [held_position hmode]; exact ⟨rfl, rfl⟩
  rw [preparedCommands, prepareJoints, hscan, List.map_map, List.getElem?_map,
    hold_getElem? hjoint hsnapshot, Option.map_some, Function.comp_apply, hprepared,
    preparedCommand, hmode, hmotor, hsame.1, hsame.2]
  rfl

end

/-! ## runs -/

/-- **Hold**: in every state of every run, if the feedback of the motors is read and the commands
are held, as every lifecycle transition does, the next cycle sends each joint within its limits
the very raw position its motor reported, or the velocity zero. -/
theorem held_commands_repeat_feedback {ι : Type} [DecidableEq ι] {config : WriteConfig}
    {groups : List CanDriverDeviceProtocolGroup} {w : ControlPool ι × ControlLog ι}
    {hw hw' : CanDriverHW} {persistenceEnabled : Bool} {param : Option XmlRpcValue}
    {snapshots : Nat → Option JointSnapshot} {index : Nat} {joint : CanDriverJointConfig}
    {r : Int32} {velocity current : Int} (now : Time)
    (hsetup : hw.init persistenceEnabled param = some hw') (h : ControlRun config groups hw' w)
    (hjoint : w.1.shared.hw.joints[index]? = some joint)
    (hzero : joint.zeroOffsetRad.isFinite = true) (hbypass : config.debugBypassRosControl = false)
    (hsnapshot : snapshots index = some (joint.snapshot r.toInt velocity current))
    (hlimits : clampWithJointLimits joint
        (joint.heldAt (joint.snapshot r.toInt velocity current)) =
      joint.heldAt (joint.snapshot r.toInt velocity current)) :
    (preparedCommands config now
        (w.1.shared.hw.syncFeedback snapshots).holdCommandsForLifecycleTransition)[index]? =
      some
        { valid := true
          motorId := joint.motorId
          route := controlModeDispatchRoute joint.mode
          raw := if joint.usesVelocity then 0 else r } := by
  have hwell := (configuration_kept hsetup h).1 joint (List.mem_of_getElem? hjoint)
  refine preparedCommands_hold now hbypass hjoint hsnapshot hlimits ?_
  rw [CanDriverJointConfig.heldAt]
  cases hmode : joint.usesVelocity with
  | true => exact rawCommand_rest hwell hmode
  | false => exact rawCommand_rawPosition hwell.scaled hmode hzero r

/-- The left arm reports a raw position and is held there. -/
theorem held_commands_repeat_feedback_left :
    ∃ (hw : CanDriverHW) (w : ControlPool Nat × ControlLog Nat) (joint : CanDriverJointConfig),
      CanDriverHW.init {} false (some twoArms) = some hw ∧ ControlRun {} [armsGroup] hw w ∧
      w.1.shared.hw.joints[0]? = some joint ∧
      (preparedCommands {} 0 (w.1.shared.hw.syncFeedback fun _ =>
          some (joint.snapshot (-1000) 0 0)).holdCommandsForLifecycleTransition)[0]? =
        some
          { valid := true
            motorId := joint.motorId
            route := controlModeDispatchRoute joint.mode
            raw := if joint.usesVelocity then 0 else -1000 } := by
  have hscript : (CanDriverHW.init {} false (some twoArms)).any (fun hw =>
      (Pool.followNoting (ControlCall.code {} [armsGroup]) serveControl ControlLog.note
        (Pool.idle { hw }, ⟨fun _ _ => [], fun _ => none⟩) armsSwitched).any (fun w =>
          (w.1.shared.hw.joints[0]?).any fun joint =>
            decide (joint.zeroOffsetRad.isFinite = true ∧ joint.hasLimits = false))) = true := by
    decide +kernel
  obtain ⟨hw, hinit, hscript⟩ := (Option.any_eq_true _ _).1 hscript
  obtain ⟨w, hrun, htest⟩ := Pool.exists_of_followNoting (h := controlAccess)
    (C := fun _ _ => True) (fun _ _ _ _ _ => controlAccess_of_serve) (fun _ _ _ _ _ _ => trivial)
    hscript
  obtain ⟨joint, hjoint, htest⟩ := (Option.any_eq_true _ _).1 htest
  obtain ⟨hzero, hlimits⟩ := of_decide_eq_true htest
  refine ⟨hw, w, joint, hinit, hrun, hjoint, ?_⟩
  refine held_commands_repeat_feedback (r := -1000) 0 hinit hrun hjoint hzero rfl rfl ?_
  rw [clampWithJointLimits, hlimits]
  rfl

end CanDriver
