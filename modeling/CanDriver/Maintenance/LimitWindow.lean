import Mathlib.Algebra.Order.Group.MinMax
import CanDriver.CanDriverIoRuntime
import CanDriver.Maintenance.Limits
import CanDriver.Maintenance.ZeroOffset

/-!
# CanDriver.Maintenance.LimitWindow

What a request for limits makes of the joint and of the window the drive keeps.

The limits are converted with the scale of the joint alone, the commands with its local zero
offset as well; and where the limits go to the drive the joint gives its own offset up.  So the
two agree, and the joint stays where it was, for a joint without a local offset only.
-/

namespace CanDriver

open Interact MotorMaintenanceService CanDriverHW

/-! ## the image of a window -/

/-- The image of two positions under the conversion of the commands, the smaller one first. -/
def CanDriverJointConfig.commandWindow (joint : CanDriverJointConfig) (lower upper : Double) :
    Option (Int32 × Int32) :=
  (rawCommand joint lower).bind fun rawLower =>
    (rawCommand joint upper).map fun rawUpper =>
      if rawUpper < rawLower then (rawUpper, rawLower) else (rawLower, rawUpper)

/-- The exact raw value of a position: what a command for it is rounded from. -/
def CanDriverJointConfig.rawImage (joint : CanDriverJointConfig) (position : Double) : Double :=
  (joint.toRawPositionCommand position).div joint.scale

/-- An exact raw value that the raw values can take. -/
def FitsInt32 (image : Double) : Prop :=
  ∀ u : ℚ, image = .finite u → -2147483648 ≤ u ∧ u ≤ 2147483647

/-- The window is the image of two positions, with each end off by half a count at most. -/
structure ImageWindow (joint : CanDriverJointConfig) (lower upper : Double)
    (limits : DriveLimits) : Prop where
  command : joint.commandWindow lower upper = some (limits.minPositionRaw, limits.maxPositionRaw)
  near : ∃ u v : ℚ, joint.rawImage lower = .finite u ∧ joint.rawImage upper = .finite v ∧
    |(limits.minPositionRaw.toInt : ℚ) - min u v| ≤ 1 / 2 ∧
    |(limits.maxPositionRaw.toInt : ℚ) - max u v| ≤ 1 / 2
  enabled : limits.enabled = true

theorem clampToInt32_near_of_fits {u : ℚ} (hlower : -2147483648 ≤ u) (hupper : u ≤ 2147483647) :
    |((clampToInt32 (.finite u)).toInt : ℚ) - u| ≤ 1 / 2 := by
  have hnear := clampToInt32_near u
  rw [clampQuotient, min_eq_right hupper, max_eq_right hlower] at hnear
  exact hnear

/-- The ends of an ordered pair are as near as what was ordered. -/
theorem ordered_near {a b : Int32} {u v : ℚ} (ha : |(a.toInt : ℚ) - u| ≤ 1 / 2)
    (hb : |(b.toInt : ℚ) - v| ≤ 1 / 2) :
    |((if b < a then (b, a) else (a, b)).1.toInt : ℚ) - min u v| ≤ 1 / 2 ∧
      |((if b < a then (b, a) else (a, b)).2.toInt : ℚ) - max u v| ≤ 1 / 2 := by
  have hmin := (abs_min_sub_min_le_max (a.toInt : ℚ) b.toInt u v).trans (max_le ha hb)
  have hmax := (abs_max_sub_max_le_max (a.toInt : ℚ) b.toInt u v).trans (max_le ha hb)
  by_cases hlt : b < a
  · have hle : (b.toInt : ℚ) ≤ a.toInt := by
      exact_mod_cast (Int32.lt_iff_toInt_lt.1 hlt).le
    rw [min_eq_right hle] at hmin
    rw [max_eq_left hle] at hmax
    rw [if_pos hlt]
    exact ⟨hmin, hmax⟩
  · have hle : (a.toInt : ℚ) ≤ b.toInt := by
      exact_mod_cast not_lt.1 fun h => hlt (Int32.lt_iff_toInt_lt.2 h)
    rw [min_eq_left hle] at hmin
    rw [max_eq_right hle] at hmax
    rw [if_neg hlt]
    exact ⟨hmin, hmax⟩

/-- The raw limits of a joint without a local offset are the image of the window. -/
theorem imageWindow_of_rawLimits {joint : CanDriverJointConfig} {lower upper : Double}
    {raw : Int32 × Int32} (hposition : joint.usesVelocity = false)
    (hzero : joint.zeroOffsetRad = .finite 0) (hlower : FitsInt32 (joint.rawImage lower))
    (hupper : FitsInt32 (joint.rawImage upper)) (hraw : rawLimits joint lower upper = some raw) :
    ImageWindow joint lower upper ⟨raw.1, raw.2, true⟩ := by
  rw [rawLimits] at hraw
  cases hfirst : scaleAndClampToInt32 lower (effectivePositionScale joint) with
  | none => simp [hfirst] at hraw
  | some rawLower =>
      cases hsecond : scaleAndClampToInt32 upper (effectivePositionScale joint) with
      | none => simp [hfirst, hsecond] at hraw
      | some rawUpper =>
          rw [hfirst, hsecond] at hraw
          have hraw := Option.some.inj hraw
          have hscale : joint.scale = effectivePositionScale joint := by
            rw [CanDriverJointConfig.scale, hposition, if_neg Bool.false_ne_true]
          obtain ⟨l, s, rfl, hs, hne, rfl⟩ := scaleAndClampToInt32_eq_some hfirst
          obtain ⟨u, s', rfl, hs', -, rfl⟩ := scaleAndClampToInt32_eq_some hsecond
          rw [hs] at hs'
          obtain rfl := Double.finite.inj hs'
          have hcommand : ∀ q : ℚ, joint.toRawPositionCommand (.finite q) = .finite q := by
            intro q
            rw [CanDriverJointConfig.toRawPositionCommand, hzero, Double.sub, Double.neg,
              Double.add, neg_zero, add_zero]
          have himage : ∀ q : ℚ, joint.rawImage (.finite q) = .finite (q / s) := by
            intro q
            rw [CanDriverJointConfig.rawImage, hcommand, hscale, hs, Double.div, if_neg hne]
          have hrawCommand : ∀ q : ℚ, rawCommand joint (.finite q) =
              scaleAndClampToInt32 (.finite q) (effectivePositionScale joint) := by
            intro q
            rw [rawCommand, hposition, if_neg Bool.false_ne_true, hcommand,
              hscale]
          obtain ⟨hlower₁, hlower₂⟩ := hlower _ (himage l)
          obtain ⟨hupper₁, hupper₂⟩ := hupper _ (himage u)
          have hnear := ordered_near (clampToInt32_near_of_fits hlower₁ hlower₂)
            (clampToInt32_near_of_fits hupper₁ hupper₂)
          rw [hraw] at hnear
          constructor
          · rw [CanDriverJointConfig.commandWindow, hrawCommand, hrawCommand, hfirst, hsecond,
              Option.bind_some, Option.map_some, hraw]
          · exact ⟨_, _, himage l, himage u, hnear⟩
          · rfl

/-! ## limits that go to the drive -/

namespace LimitsEnv

variable (env : LimitsEnv) (hw : CanDriverHW) (register : Int32) (drive : DriveLimits)
  (request : ApplyLimitsRequest)

/-- What a request for limits returns, and what it leaves. -/
def applyLimits : ApplyLimitsResult × LimitsWorld :=
  (applyLimitsByMotorId request).eval env.handle { hw, register, drive }

variable {env hw register drive request}

variable (env hw register drive request) in
theorem applyLimits_ended : env.Ended { hw, register, drive } request
    (env.applyLimits hw register drive request).1
    (env.applyLimits hw register drive request).2 := by
  obtain ⟨result, w', heval, hended⟩ :=
    env.eval_applyLimits request { hw, register, drive } rfl
  rw [applyLimits, heval]
  exact hended

/-- What a request has come to that passes the checks. -/
theorem plan_spec {plan : Plan} (h : env.plan hw register request = some plan) :
    hw.lookupJointByMotorId request.motorId = some plan.target ∧
      plan.target.usesVelocity = false ∧
      env.baseLimits request = some (plan.resolvedMin, plan.resolvedMax) := by
  rw [LimitsEnv.plan, Option.ite_none_right_eq_some] at h
  obtain ⟨target, hlookup, h⟩ := Option.bind_eq_some_iff.1 h.2
  rw [Option.ite_none_right_eq_some] at h
  obtain ⟨hsemantics, h⟩ := h
  obtain ⟨limits, hlimits, h⟩ := Option.bind_eq_some_iff.1 h
  obtain ⟨reported, -, h⟩ := Option.bind_eq_some_iff.1 h
  rw [Option.ite_none_right_eq_some] at h
  rw [← Option.some.inj h.2]
  rw [controlModeUsesPositionSemantics, Bool.not_eq_true'] at hsemantics
  exact ⟨hlookup, hsemantics, hlimits⟩

variable (register) in
/-- A joint without a local offset stays where it is; one with an offset gives it up. -/
theorem positionAt_commitLimits_iff {joint : CanDriverJointConfig} {s : ℚ}
    (hlookup : hw.lookupJointByMotorId request.motorId = some joint)
    (hscale : effectivePositionScale joint = .finite s) (lower upper offset : Double) :
    (∀ shaft, (hw.commitLimits request.motorId lower upper offset true).2.positionAt register
        request.motorId shaft = hw.positionAt register request.motorId shaft) ↔
      joint.zeroOffsetRad = .finite 0 := by
  have hafter := lookup_commitLimits hlookup lower upper offset true
  rw [if_pos rfl] at hafter
  have hbefore : ∀ shaft, hw.positionAt register request.motorId shaft =
      some ((Double.finite ((shaft + register.toInt : Int) * s)).add joint.zeroOffsetRad) := by
    intro shaft
    rw [CanDriverHW.positionAt, hlookup, Option.map_some, rawPositionToJointPosition, hscale,
      Double.ofInt, Double.mul]
  have hthen : ∀ shaft, (hw.commitLimits request.motorId lower upper offset true).2.positionAt
      register request.motorId shaft =
        some (.finite ((shaft + register.toInt : Int) * s)) := by
    intro shaft
    have hkept : effectivePositionScale ((joint.withLimits lower upper).withZero (.finite 0)) =
        .finite s := hscale
    rw [CanDriverHW.positionAt, hafter, Option.map_some, rawPositionToJointPosition, hkept,
      Double.ofInt, Double.mul, CanDriverJointConfig.withZero, Double.add, add_zero]
  constructor
  · intro hsame
    have hzero := hsame 0
    rw [hbefore, hthen] at hzero
    cases hoffset : joint.zeroOffsetRad with
    | inf _ =>
        rw [hoffset] at hzero
        exact absurd (Option.some.inj hzero) (by simp [Double.add])
    | nan =>
        rw [hoffset] at hzero
        exact absurd (Option.some.inj hzero) (by simp [Double.add])
    | finite z =>
        rw [hoffset, Double.add] at hzero
        have hequal := Double.finite.inj (Option.some.inj hzero)
        rw [left_eq_add.1 hequal]
  · intro hzero shaft
    rw [hthen, hbefore, hzero, Double.add, add_zero]

/-- Limits that get to the drive keep the position of the joint, and are the image of what was
asked for, exactly if the joint has no local offset. -/
theorem limits_keep_mapping_iff {joint : CanDriverJointConfig} {lower upper : Double}
    (happly : request.applyToMotor = true)
    (hsuccess : (env.applyLimits hw register drive request).1.success = true)
    (hfound : hw.lookupJointByMotorId request.motorId = some joint)
    (hlimits : env.baseLimits request = some (lower, upper))
    (hlower : FitsInt32 (joint.rawImage lower)) (hupper : FitsInt32 (joint.rawImage upper)) :
    ((∀ shaft, (env.applyLimits hw register drive request).2.hw.positionAt
          (env.applyLimits hw register drive request).2.register request.motorId shaft =
        hw.positionAt register request.motorId shaft) ∧
      ImageWindow joint lower upper (env.applyLimits hw register drive request).2.drive) ↔
      joint.zeroOffsetRad = .finite 0 := by
  have hended := applyLimits_ended env hw register drive request
  have haccepts := hended.success.symm.trans hsuccess
  dsimp only at haccepts
  rw [acceptsLimits, happly, Bool.and_eq_true, Option.isSome_iff_exists] at haccepts
  obtain ⟨⟨plan, hplan⟩, haccepts⟩ := haccepts
  rw [Bool.not_true, Bool.false_or, Bool.and_eq_true, Option.isSome_iff_exists,
    decide_eq_true_eq] at haccepts
  obtain ⟨⟨limits, hwritten⟩, hok⟩ := haccepts
  have hdrive : (env.applyLimits hw register drive request).2.drive = limits := by
    rw [hended.drive, driveAfter, hwritten, Option.map_some, Option.getD_some, writeLimits,
      if_pos (Or.inl hok)]
  obtain ⟨hlookup, hposition, hbase⟩ := plan_spec hplan
  rw [hfound] at hlookup
  obtain rfl := Option.some.inj hlookup
  rw [hlimits] at hbase
  obtain ⟨rfl, rfl⟩ := Prod.mk.inj (Option.some.inj hbase)
  rw [writtenLimits, if_pos happly, hplan, Option.bind_some, rawWindow,
    Option.ite_none_right_eq_some] at hwritten
  obtain ⟨raw, hraw, rfl⟩ := Option.map_eq_some_iff.1 hwritten.2
  obtain ⟨s, hscale⟩ : ∃ s, effectivePositionScale plan.target = .finite s := by
    rw [rawLimits] at hraw
    cases hfirst : scaleAndClampToInt32 plan.resolvedMin (effectivePositionScale plan.target) with
    | none => simp [hfirst] at hraw
    | some rawLower =>
        obtain ⟨v, s, -, hs, -, -⟩ := scaleAndClampToInt32_eq_some hfirst
        exact ⟨s, hs⟩
  have hmapping := positionAt_commitLimits_iff register hfound hscale
    plan.resolvedMin plan.resolvedMax plan.activeZeroOffset
  rw [hended.committed plan hplan hsuccess, hended.register, happly, hdrive]
  dsimp only
  rw [hmapping]
  constructor
  · rintro ⟨hzero, -⟩
    exact hzero
  · intro hzero
    exact ⟨hzero, imageWindow_of_rawLimits hposition hzero hlower hupper hraw⟩

end LimitsEnv

/-! ## an arm with a local offset, and one without -/

/-- The drive of the arm, disabled and at rest; everything asked of it is done. -/
def obedientLimits : LimitsEnv where
  zero := obedientDrive
  service := obedientDrive

/-- The arm is to stay within ten counts, in the drive as well. -/
def tenCounts : ApplyLimitsRequest where
  motorId := 1
  minPositionRad := .finite (-10)
  maxPositionRad := .finite 10
  applyToMotor := true

/-- The arm that is off by one radian is moved by the request. -/
theorem limits_move_joint :
    (obedientLimits.applyLimits (armWithOffset (.finite 1)) 0 {} tenCounts).1.success = true ∧
    ¬ ∀ shaft, (obedientLimits.applyLimits (armWithOffset (.finite 1)) 0 {} tenCounts).2.hw.positionAt
      (obedientLimits.applyLimits (armWithOffset (.finite 1)) 0 {} tenCounts).2.register 1 shaft =
        (armWithOffset (.finite 1)).positionAt 0 1 shaft := by
  refine ⟨by decide +kernel, fun hsame => ?_⟩
  have hmoved := hsame 0
  revert hmoved
  decide +kernel

/-- An arm that turns the other way, with two counts a radian. -/
def reversedArm : CanDriverHW where
  joints := [{ name := "arm", canDevice := "can0", controlMode := "position", motorId := 1
               protocol := .PP, positionScale := .finite (1 / 2), directionSign := .finite (-1) }]
  commandValidBuffer := [false]

/-- Without an offset of its own the arm stays, and its window is the image. -/
theorem limits_keep_reversed_arm :
    ∃ joint, reversedArm.lookupJointByMotorId 1 = some joint ∧
      ((∀ shaft, (obedientLimits.applyLimits reversedArm 3 {} tenCounts).2.hw.positionAt
          (obedientLimits.applyLimits reversedArm 3 {} tenCounts).2.register 1 shaft =
        reversedArm.positionAt 3 1 shaft) ∧
      ImageWindow joint (.finite (-10)) (.finite 10)
        (obedientLimits.applyLimits reversedArm 3 {} tenCounts).2.drive) := by
  have himage : ∀ position ∈ [Double.finite (-10), .finite 10],
      FitsInt32 ((reversedArm.joints.head (by simp [reversedArm])).rawImage position) := by
    intro position hposition u hu
    have hall : [Double.finite (-10), .finite 10].all (fun position => decide
        ((reversedArm.joints.head (by simp [reversedArm])).rawImage position = .finite 20 ∨
          (reversedArm.joints.head (by simp [reversedArm])).rawImage position = .finite (-20))) =
        true := by decide +kernel
    have hcases := of_decide_eq_true (List.all_eq_true.1 hall position hposition)
    rw [hu, Double.finite.injEq, Double.finite.injEq] at hcases
    obtain rfl | rfl := hcases
    · norm_num
    · norm_num
  have hfound : reversedArm.lookupJointByMotorId 1 =
      some (reversedArm.joints.head (by simp [reversedArm])) := by decide +kernel
  exact ⟨_, hfound, (LimitsEnv.limits_keep_mapping_iff rfl (by decide +kernel) hfound rfl
    (himage _ (by simp)) (himage _ (by simp))).2 (by decide +kernel)⟩

end CanDriver
