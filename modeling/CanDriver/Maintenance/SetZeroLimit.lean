import CanDriver.Maintenance.LimitWindow

/-!
# CanDriver.Maintenance.SetZeroLimit

What a request for a zero and for limits leaves behind where it fails.

The zero is set before the limits are looked at, and no failure of the limits takes it back.
So a request that fails has left the joint as it was only if the zero failed and was taken
back, or was the one already in force.
-/

namespace CanDriver

open Interact MotorMaintenanceService CanDriverHW

namespace MaintenanceEnv

variable (env : MaintenanceEnv) (hw : CanDriverHW) (register : Int32) (persistToMotor : Bool)
  (request : SetZeroRequest)

/-! ## the zero that is set -/

/-- A zero that is set: the joint it is for, the result, and the register that goes with it. -/
structure TakenZero where
  target : CanDriverJointConfig
  result : SetZeroResult
  register : Int32

/-- The zero that a request sets: one that gets to the drive if it has to, and into the offset
file if that is kept. -/
def takenZero : Option TakenZero :=
  if hw.ppLocalZeroOffsetPersistenceEnabled && !env.writable then none
  else if request.applyToMotor then
    if env.attempt persistToMotor 0 = .ok then
      (env.zeroWrite hw register request).map fun zw => ⟨zw.target, zw.result, zw.rawOffset⟩
    else none
  else
    (env.resolvedZero hw register request).map fun resolved =>
      ⟨resolved.1, resolved.2, register⟩

/-- The zero that the joint keeps: none of its own if the drive has it. -/
def TakenZero.jointZero (taken : TakenZero) (request : SetZeroRequest) : Double :=
  if request.applyToMotor then .finite 0 else taken.result.appliedZeroOffsetRad

/-- The joints with a zero that is set. -/
def TakenZero.joints (taken : TakenZero) (env : MaintenanceEnv) (hw : CanDriverHW)
    (request : SetZeroRequest) : CanDriverHW :=
  (hw.commitZero request.motorId taken.result.appliedZeroOffsetRad
    taken.result.previousZeroOffsetRad request.applyToMotor env.writable).2

variable {env hw register persistToMotor request} {result : SetZeroResult} {w : MaintenanceWorld}

theorem lookup_of_resolvedZero {resolved : CanDriverJointConfig × SetZeroResult}
    (h : env.resolvedZero hw register request = some resolved) :
    hw.lookupJointByMotorId request.motorId = some resolved.1 := by
  rw [resolvedZero, Option.ite_none_right_eq_some] at h
  obtain ⟨target, hlookup, h⟩ := Option.bind_eq_some_iff.1 h.2
  rw [Option.ite_none_right_eq_some] at h
  obtain ⟨reported, -, h⟩ := Option.bind_eq_some_iff.1 h.2
  rw [Option.ite_none_left_eq_some] at h
  rw [← Option.some.inj h.2]
  exact hlookup

/-- A joint that is found takes its zero unless the offset file has to be written and cannot. -/
theorem commitZero_done_iff {target : CanDriverJointConfig}
    (hlookup : hw.lookupJointByMotorId request.motorId = some target) (offset previous : Double) :
    (hw.commitZero request.motorId offset previous request.applyToMotor env.writable).1 = true ↔
      (hw.ppLocalZeroOffsetPersistenceEnabled && !env.writable) = false := by
  have hfailed := commitZero_failed_iff hlookup offset previous request.applyToMotor env.writable
  rw [← Bool.not_eq_false, hfailed]
  cases hw.ppLocalZeroOffsetPersistenceEnabled with
  | false => simp
  | true =>
      cases env.writable with
      | false => simp
      | true => simp

/-- What a request leaves that sets its zero. -/
structure ZeroSet (env : MaintenanceEnv) (hw : CanDriverHW) (request : SetZeroRequest)
    (taken : TakenZero) (result : SetZeroResult) (w : MaintenanceWorld) : Prop where
  success : result.success = true
  register : w.register = taken.register
  joints : w.hw = taken.joints env hw request
  before : hw.lookupJointByMotorId request.motorId = some taken.target
  after : w.hw.lookupJointByMotorId request.motorId =
    some (taken.target.withZero (taken.jointZero request))

/-- The joint takes a zero that gets to it. -/
theorem ZeroSet.of_commit {taken : TakenZero}
    (hallowed : (hw.ppLocalZeroOffsetPersistenceEnabled && !env.writable) = false)
    (hfound : hw.lookupJointByMotorId request.motorId = some taken.target)
    (hcommit : (result.success, w.hw) = hw.commitZero request.motorId
      taken.result.appliedZeroOffsetRad taken.result.previousZeroOffsetRad request.applyToMotor
      env.writable)
    (hregister : w.register = taken.register) : ZeroSet env hw request taken result w := by
  have hdone := (commitZero_done_iff hfound taken.result.appliedZeroOffsetRad
    taken.result.previousZeroOffsetRad).2 hallowed
  have hjoints : w.hw = taken.joints env hw request := congrArg Prod.snd hcommit
  refine ⟨(congrArg Prod.fst hcommit).trans hdone, hregister, hjoints, hfound, ?_⟩
  rw [hjoints, TakenZero.joints, lookup_commitZero hfound hdone, TakenZero.jointZero]

/-- A request that comes to a zero sets it. -/
theorem Ended.taken (hended : env.Ended hw register persistToMotor request result w)
    {taken : TakenZero}
    (htaken : env.takenZero hw register persistToMotor request = some taken) :
    ZeroSet env hw request taken result w := by
  rw [takenZero, Option.ite_none_left_eq_some, Bool.not_eq_true] at htaken
  obtain ⟨hallowed, htaken⟩ := htaken
  split at htaken
  · rw [Option.ite_none_right_eq_some] at htaken
    obtain ⟨hattempt, htaken⟩ := htaken
    obtain ⟨zw, hzw, rfl⟩ := Option.map_eq_some_iff.1 htaken
    obtain ⟨hregister, -, hcommitted⟩ := hended.written zw hzw
    rw [registerAfter, if_neg (by simp [hattempt]), writeRegister,
      if_pos (Or.inl (write_of_attempt hattempt))] at hregister
    exact .of_commit hallowed (zeroWrite_spec hzw).1 (hcommitted hattempt) hregister
  · next happly =>
    obtain ⟨resolved, hresolved, rfl⟩ := Option.map_eq_some_iff.1 htaken
    have happly := Bool.eq_false_iff.2 happly
    have hnowrite : env.zeroWrite hw register request = none := by simp [zeroWrite, happly]
    exact .of_commit hallowed (lookup_of_resolvedZero hresolved)
      ((hended.unapplied happly).2 resolved hresolved) (hended.unwritten hnowrite).1

/-- A request that comes to no zero fails. -/
theorem Ended.untaken (hended : env.Ended hw register persistToMotor request result w)
    (hnone : env.takenZero hw register persistToMotor request = none) :
    result.success = false := by
  have hblocked : ∀ {target : CanDriverJointConfig} {offset previous : Double},
      hw.lookupJointByMotorId request.motorId = some target →
      (result.success, w.hw) =
        hw.commitZero request.motorId offset previous request.applyToMotor env.writable →
      (hw.ppLocalZeroOffsetPersistenceEnabled && !env.writable) = true →
      result.success = false := by
    intro target offset previous hlookup hcommit hnot
    have hsuccess : result.success = _ := congrArg Prod.fst hcommit
    rw [hsuccess, ← Bool.not_eq_true, commitZero_done_iff hlookup, hnot]
    exact Bool.false_ne_true ∘ Eq.symm
  cases happly : request.applyToMotor with
  | true =>
      cases hzw : env.zeroWrite hw register request with
      | none =>
          rw [← Bool.not_eq_true]
          intro hsuccess
          have hunapplied := (hended.unwritten hzw).2 hsuccess
          rw [happly] at hunapplied
          cases hunapplied
      | some zw =>
          obtain ⟨-, hrejected, hcommitted⟩ := hended.written zw hzw
          by_cases hattempt : env.attempt persistToMotor 0 = .ok
          · refine hblocked (zeroWrite_spec hzw).1 (hcommitted hattempt) ?_
            rw [takenZero, happly, if_pos rfl, if_pos hattempt, hzw, Option.map_some] at hnone
            by_contra hnot
            rw [if_neg hnot] at hnone
            exact absurd hnone (Option.some_ne_none _)
          · exact hrejected hattempt
  | false =>
      cases hresolved : env.resolvedZero hw register request with
      | none => exact (hended.unapplied happly).1 hresolved
      | some resolved =>
          refine hblocked (lookup_of_resolvedZero hresolved)
            ((hended.unapplied happly).2 resolved hresolved) ?_
          rw [takenZero, happly, if_neg Bool.false_ne_true, hresolved, Option.map_some] at hnone
          by_contra hnot
          rw [if_neg hnot] at hnone
          exact absurd hnone (Option.some_ne_none _)

end MaintenanceEnv

/-! ## both steps -/

/-- The joint is as it was, and so is what its drive keeps. -/
structure JointKept (hw : CanDriverHW) (register : Int32) (drive : DriveLimits) (motorId : MotorID)
    (w : LimitsWorld) : Prop where
  joint : w.hw.lookupJointByMotorId motorId = hw.lookupJointByMotorId motorId
  register : w.register = register
  drive : w.drive = drive

namespace LimitsEnv

variable (env : LimitsEnv) (hw : CanDriverHW) (register : Int32) (drive : DriveLimits)
  (persistToMotor : Bool) (request : SetZeroLimitRequest)

/-- What a request for both returns, and what it leaves. -/
def setZeroLimit : SetZeroLimitResponse × LimitsWorld :=
  (onSetZeroLimit persistToMotor request).eval env.handle { hw, register, drive }

/-- Nothing is left behind: a zero that fails is taken back, and a zero that is set is followed
by limits that are accepted, or was in force already with the limits kept away from the drive. -/
structure LeavesNothing : Prop where
  failed : ∀ zw, env.zero.zeroWrite hw register request.setZero = some zw →
    MaintenanceEnv.WriteTakenBack env.zero hw register persistToMotor zw
  set : ∀ taken, env.zero.takenZero hw register persistToMotor request.setZero = some taken →
    env.acceptsLimits (taken.joints env.zero hw request.setZero) taken.register
      request.applyLimits = true ∨
    (taken.target.zeroOffsetRad = taken.jointZero request.setZero ∧ taken.register = register ∧
      env.driveAfter (taken.joints env.zero hw request.setZero) taken.register drive
        request.applyLimits = drive)

variable {env hw register drive persistToMotor request}

theorem eval_inZero (p : Maintenance α) (w : LimitsWorld) :
    (inZero p).eval env.handle w =
      ((p.eval env.zero.handle (w.view w.zero)).1,
        w.afterZero (p.eval env.zero.handle (w.view w.zero)).2) :=
  Prog.eval_mapOp w.afterZero (fun _ _ => ⟨rfl, rfl⟩) p (w.view w.zero)

variable (env hw register drive persistToMotor request) in
/-- A request ends with its zero, or with its limits. -/
theorem eval_setZeroLimit : ∃ result t,
    env.zero.Ended hw register persistToMotor request.setZero result t ∧
    (result.success = false → (env.setZeroLimit hw register drive persistToMotor request).1.success =
        false ∧ (env.setZeroLimit hw register drive persistToMotor request).2 =
          LimitsWorld.afterZero { hw, register, drive } t) ∧
    (result.success = true → ∃ limits w',
      env.Ended (LimitsWorld.afterZero { hw, register, drive } t) request.applyLimits limits w' ∧
      (env.setZeroLimit hw register drive persistToMotor request).1.success = limits.success ∧
      (env.setZeroLimit hw register drive persistToMotor request).2 = w') := by
  obtain ⟨result, t, heval, hended⟩ :=
    env.zero.eval_setZero hw register persistToMotor request.setZero
  have hzero : (inZero (setZeroByMotorId persistToMotor request.setZero)).eval env.handle
      { hw, register, drive } = (result, LimitsWorld.afterZero { hw, register, drive } t) := by
    rw [eval_inZero]
    have hview : LimitsWorld.view { hw, register, drive } {} = { hw, register } := rfl
    dsimp only
    rw [hview, heval]
  refine ⟨result, t, hended, fun hfailed => ?_, fun hsuccess => ?_⟩
  · rw [setZeroLimit, onSetZeroLimit, Prog.eval_bind_of hzero, hfailed]
    exact ⟨rfl, rfl⟩
  · obtain ⟨limits, w', hlimits, hended'⟩ := env.eval_applyLimits request.applyLimits
      (LimitsWorld.afterZero { hw, register, drive } t) rfl
    refine ⟨limits, w', hended', ?_⟩
    rw [setZeroLimit, onSetZeroLimit, Prog.eval_bind_of hzero, hsuccess, Bool.not_true,
      if_neg Bool.false_ne_true, Prog.eval_bind_of hlimits]
    exact ⟨rfl, rfl⟩

/-- Where the zero fails, the joint is kept exactly if the register is. -/
theorem jointKept_of_failed {result : SetZeroResult} {t : MaintenanceWorld}
    (hended : env.zero.Ended hw register persistToMotor request.setZero result t)
    (hfailed : result.success = false) :
    JointKept hw register drive request.motorId
      (LimitsWorld.afterZero { hw, register, drive } t) ↔ t.register = register := by
  constructor
  · intro hkept
    exact hkept.register
  · intro hregister
    refine ⟨?_, hregister, rfl⟩
    have hjoints : t.hw.joints = hw.joints := (hended.kept hfailed).joints
    change t.hw.lookupJointByMotorId request.motorId = hw.lookupJointByMotorId request.motorId
    rw [lookupJointByMotorId, lookupJointByMotorId, matchedJoint_congr hjoints]

/-- Where the limits fail, the joint is kept exactly if the zero was in force already and the
limits have not changed the drive. -/
theorem jointKept_of_set {taken : MaintenanceEnv.TakenZero} {result : SetZeroResult}
    {t : MaintenanceWorld} {limits : ApplyLimitsResult} {w' : LimitsWorld}
    (hset : MaintenanceEnv.ZeroSet env.zero hw request.setZero taken result t)
    (hended : env.Ended (LimitsWorld.afterZero { hw, register, drive } t) request.applyLimits limits
      w') (hfailed : limits.success = false) :
    JointKept hw register drive request.motorId w' ↔
      taken.target.zeroOffsetRad = taken.jointZero request.setZero ∧ taken.register = register ∧
        env.driveAfter (taken.joints env.zero hw request.setZero) taken.register drive
          request.applyLimits = drive := by
  have hhw : w'.hw = t.hw := hended.kept hfailed
  have hregister : w'.register = taken.register := hended.register.trans hset.register
  have hdrive : w'.drive = env.driveAfter (taken.joints env.zero hw request.setZero) taken.register
      drive request.applyLimits := by
    rw [hended.drive, ← hset.joints, ← hset.register]
    rfl
  have hjoint : w'.hw.lookupJointByMotorId request.motorId =
      hw.lookupJointByMotorId request.motorId ↔
      taken.target.zeroOffsetRad = taken.jointZero request.setZero := by
    have hbefore : hw.lookupJointByMotorId request.motorId = some taken.target := hset.before
    have hafter : t.hw.lookupJointByMotorId request.motorId =
      some (taken.target.withZero (taken.jointZero request.setZero)) := hset.after
    rw [hhw, hbefore, hafter, Option.some.injEq]
    constructor
    · intro hsame
      exact (congrArg (fun joint => joint.zeroOffsetRad) hsame).symm
    · intro hsame
      rw [← hsame]
      rfl
  constructor
  · intro hkept
    exact ⟨hjoint.1 hkept.joint, hregister.symm.trans hkept.register,
      hdrive.symm.trans hkept.drive⟩
  · rintro ⟨hzero, hreg, hdr⟩
    exact ⟨hjoint.2 hzero, hregister.trans hreg, hdrive.trans hdr⟩

/-- **Failure**: a request for a zero and for limits that fails, and whose compensating writes
succeed, leaves the joint and its drive as they were exactly if nothing is left behind. -/
theorem failed_zero_limit_keeps_joint_iff
    (hcompensates :
      env.zero.CompensationSucceeds hw register persistToMotor request.setZero) :
    ((env.setZeroLimit hw register drive persistToMotor request).1.success = false →
      JointKept hw register drive request.motorId
        (env.setZeroLimit hw register drive persistToMotor request).2) ↔
    env.LeavesNothing hw register drive persistToMotor request := by
  obtain ⟨result, t, hended, hzeroFailed, hzeroSet⟩ := eval_setZeroLimit env hw
    register drive persistToMotor request
  cases htaken : env.zero.takenZero hw register persistToMotor request.setZero with
  | none =>
      have hfailed := hended.untaken htaken
      obtain ⟨hresponse, hleft⟩ := hzeroFailed hfailed
      rw [hresponse, hleft, jointKept_of_failed hended hfailed]
      constructor
      · intro hkept
        refine ⟨fun zw hzw => ?_, fun taken hsome => ?_⟩
        · exact (MaintenanceEnv.register_kept_iff hended hcompensates hzw).1 fun _ => hkept rfl
        · rw [htaken] at hsome
          exact absurd hsome (Option.some_ne_none taken).symm
      · intro hleaves _
        cases hzw : env.zero.zeroWrite hw register request.setZero with
        | none => exact (hended.unwritten hzw).1
        | some zw =>
            exact (MaintenanceEnv.register_kept_iff hended hcompensates hzw).2
              (hleaves.failed zw hzw) hfailed
  | some taken =>
      have hset := hended.taken htaken
      obtain ⟨limits, w', hended', hresponse, hleft⟩ := hzeroSet hset.success
      have haccepts : limits.success = env.acceptsLimits
          (taken.joints env.zero hw request.setZero) taken.register request.applyLimits := by
        rw [hended'.success, ← hset.joints, ← hset.register]
        rfl
      rw [hresponse, hleft]
      constructor
      · intro hkept
        refine ⟨fun zw hzw => ?_, fun other hsome => ?_⟩
        · refine (MaintenanceEnv.register_kept_iff hended hcompensates hzw).1 fun hfailed => ?_
          rw [hset.success] at hfailed
          cases hfailed
        · rw [htaken] at hsome
          obtain rfl := Option.some.inj hsome
          rw [← haccepts]
          cases hsuccess : limits.success with
          | true => exact Or.inl rfl
          | false => exact Or.inr ((jointKept_of_set hset hended' hsuccess).1 (hkept hsuccess))
      · intro hleaves hsuccess
        have hcases := hleaves.set taken htaken
        rw [← haccepts, hsuccess] at hcases
        exact (jointKept_of_set hset hended' hsuccess).2
          (hcases.resolve_left Bool.false_ne_true)

end LimitsEnv

/-! ### an arm that gets a zero and no limits -/

/-- The arm takes a zero of five counts, and limits the wrong way round. -/
def reversedLimits : SetZeroLimitRequest where
  motorId := 1
  zeroOffsetRad := .finite 5
  minPositionRad := .finite 10
  maxPositionRad := .finite (-10)
  applyToMotor := true

/-- The zero stays in the drive although the request fails. -/
theorem refused_limits_leave_zero :
    obedientLimits.zero.CompensationSucceeds (armWithOffset (.finite 0)) 0 false
      reversedLimits.setZero ∧
    (obedientLimits.setZeroLimit (armWithOffset (.finite 0)) 0 {} false reversedLimits).1.success =
      false ∧
    ¬ JointKept (armWithOffset (.finite 0)) 0 {} 1
      (obedientLimits.setZeroLimit (armWithOffset (.finite 0)) 0 {} false reversedLimits).2 := by
  refine ⟨fun _ hrejected => ?_, by decide +kernel, fun hkept => ?_⟩
  · revert hrejected
    decide +kernel
  · have hmoved := hkept.register
    revert hmoved
    decide +kernel

/-- With the zero that is in force the request leaves nothing behind. -/
theorem refused_limits_keep_zero :
    JointKept (armWithOffset (.finite 0)) 5 {} 1
      (obedientLimits.setZeroLimit (armWithOffset (.finite 0)) 5 {} false reversedLimits).2 := by
  have hcompensates : obedientLimits.zero.CompensationSucceeds (armWithOffset (.finite 0)) 5 false
      reversedLimits.setZero := by
    intro _ hrejected
    revert hrejected
    decide +kernel
  refine (LimitsEnv.failed_zero_limit_keeps_joint_iff hcompensates).2 ⟨fun zw _ => ?_,
    fun taken htaken => Or.inr ?_⟩ (by decide +kernel)
  · exact fun _ hfailed => absurd hfailed (by decide +kernel)
  · have hall : (obedientLimits.zero.takenZero (armWithOffset (.finite 0)) 5 false
        reversedLimits.setZero).all (fun taken => decide
          (taken.target.zeroOffsetRad = taken.jointZero reversedLimits.setZero ∧
            taken.register = 5 ∧ obedientLimits.driveAfter
              (taken.joints obedientLimits.zero (armWithOffset (.finite 0)) reversedLimits.setZero)
              taken.register {} reversedLimits.applyLimits = {})) = true := by decide +kernel
    rw [htaken, Option.all_some, decide_eq_true_eq] at hall
    exact hall

end CanDriver
