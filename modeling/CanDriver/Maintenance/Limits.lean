import CanDriver.Maintenance.SetZero

/-!
# CanDriver.Maintenance.Limits

A request to set the limits, evaluated against the drive of the joint.

`eval_applyLimits` says how such a request ends: with the limits committed where every check
passes and the drive takes them, and with the joints as they were where not.
-/

namespace CanDriver

open Interact MotorMaintenanceService CanDriverHW

/-! ## the drive and everything else that answers -/

/-- The position limits a drive keeps. -/
structure DriveLimits where
  minPositionRaw : Int32 := 0
  maxPositionRaw : Int32 := 0
  enabled : Bool := false
deriving DecidableEq, Repr

/-- The answers to the two calls, what the robot description says, and how the write of the
limits ends; one that throws may have taken effect.  The protocols reject limits before they
send anything. -/
structure LimitsEnv where
  zero : MaintenanceEnv
  service : MaintenanceEnv
  urdf : UrdfLimits := .noDescription
  limitsCall : CallOutcome := .ok
  limitsTook : Bool := true

/-- How much was asked in one call. -/
structure Asked where
  protocol : Nat := 0
  fresh : Nat := 0
  position : Nat := 0
  writes : Nat := 0

/-- The joints, what the drive keeps, and how much was asked in each of the two calls. -/
structure LimitsWorld where
  hw : CanDriverHW
  register : Int32
  drive : DriveLimits
  zero : Asked := {}
  service : Asked := {}

namespace LimitsWorld

/-- The joints and the register, as one call of the service sees them. -/
def view (w : LimitsWorld) (asked : Asked) : MaintenanceWorld where
  hw := w.hw
  register := w.register
  protocolAsked := asked.protocol
  freshAsked := asked.fresh
  positionAsked := asked.position
  writes := asked.writes

/-- What a call has asked. -/
def asked (t : MaintenanceWorld) : Asked :=
  ⟨t.protocolAsked, t.freshAsked, t.positionAsked, t.writes⟩

/-- After a step of the call of `SetZeroByMotorId`. -/
def afterZero (w : LimitsWorld) (t : MaintenanceWorld) : LimitsWorld :=
  { w with hw := t.hw, register := t.register, zero := asked t }

/-- After a step of the call of `ApplyLimitsByMotorId`. -/
def afterService (w : LimitsWorld) (t : MaintenanceWorld) : LimitsWorld :=
  { w with hw := t.hw, register := t.register, service := asked t }

variable (w : LimitsWorld) (t : MaintenanceWorld)

@[simp] theorem afterService_hw : (w.afterService t).hw = t.hw := rfl

@[simp] theorem afterService_register : (w.afterService t).register = t.register := rfl

@[simp] theorem afterService_drive : (w.afterService t).drive = w.drive := rfl

end LimitsWorld

namespace LimitsEnv

variable (env : LimitsEnv)

/-- The limits of the drive after a write that gets to it. -/
def writeLimits (limits drive : DriveLimits) : DriveLimits :=
  if env.limitsCall = .ok ∨ env.limitsCall = .thrown ∧ env.limitsTook = true then limits else drive

/-- How an operation is answered, and what it leaves. -/
def handle : (op : LimitsOp) → LimitsWorld → op.Ans × LimitsWorld
  | .zero op, w =>
      let answered := env.zero.handle op (w.view w.zero)
      (answered.1, w.afterZero answered.2)
  | .service op, w =>
      let answered := env.service.handle op (w.view w.service)
      (answered.1, w.afterService answered.2)
  | .urdfLimits _, w => (env.urdf, w)
  | .configurePositionLimits _ rawMin rawMax, w =>
      (env.limitsCall, { w with drive := env.writeLimits ⟨rawMin, rawMax, true⟩ w.drive })
  | .commitLimits motorId baseMin baseMax zeroOffset applyToMotor, w =>
      let committed := w.hw.commitLimits motorId baseMin baseMax zeroOffset applyToMotor
      (committed.1, { w with hw := committed.2 })

/-! ## what a request comes to -/

/-- The limits that a request asks for. -/
def baseLimits (request : ApplyLimitsRequest) : Option (Double × Double) :=
  if !request.useUrdfLimits then some (request.minPositionRad, request.maxPositionRad)
  else
    match env.urdf with
    | .limits minPosition maxPosition => some (minPosition, maxPosition)
    | _ => none

/-- Limits that pass every check but those of the drive, with the offset in force. -/
structure Plan where
  target : CanDriverJointConfig
  resolvedMin : Double
  resolvedMax : Double
  activeZeroOffset : Double

/-- The range is one, and the joint is inside if it has to be. -/
def rangeAccepted (request : ApplyLimitsRequest) (resolvedMin resolvedMax current : Double) :
    Bool :=
  !(!resolvedMin.isFinite || !resolvedMax.isFinite || resolvedMax.le resolvedMin) &&
    !(request.requireCurrentInsideLimits &&
      (current.lt resolvedMin || resolvedMax.lt current))

/-- What a request comes to that passes these checks. -/
def plan (hw : CanDriverHW) (register : Int32) (request : ApplyLimitsRequest) : Option Plan :=
  if env.service.active then
    (hw.lookupJointByMotorId request.motorId).bind fun target =>
      if controlModeUsesPositionSemantics target.controlMode then
        (env.baseLimits request).bind fun limits =>
          (env.service.reportedPosition target).bind fun reported =>
            if rangeAccepted request limits.1 limits.2 reported.1 then
              some
                { target
                  resolvedMin := limits.1
                  resolvedMax := limits.2
                  activeZeroOffset :=
                    env.service.previousZeroOffset hw register request.applyToMotor target }
            else none
      else none
  else none

/-- The raw limits that get to the drive. -/
def rawWindow (plan : Plan) : Option DriveLimits :=
  if env.service.saysDisabled && env.service.deviceReady && env.service.hasProtocol 2 then
    (rawLimits plan.target plan.resolvedMin plan.resolvedMax).map fun raw => ⟨raw.1, raw.2, true⟩
  else none

/-- The limits that a request gets to the drive. -/
def writtenLimits (hw : CanDriverHW) (register : Int32) (request : ApplyLimitsRequest) :
    Option DriveLimits :=
  if request.applyToMotor then (env.plan hw register request).bind env.rawWindow else none

/-- Every check passes, and the drive takes the limits if it has to. -/
def acceptsLimits (hw : CanDriverHW) (register : Int32) (request : ApplyLimitsRequest) : Bool :=
  (env.plan hw register request).isSome &&
    (!request.applyToMotor ||
      (env.writtenLimits hw register request).isSome && decide (env.limitsCall = .ok))

/-- The limits of the drive after a request. -/
def driveAfter (hw : CanDriverHW) (register : Int32) (drive : DriveLimits)
    (request : ApplyLimitsRequest) : DriveLimits :=
  ((env.writtenLimits hw register request).map fun limits => env.writeLimits limits drive).getD drive

/-- How a request ends. -/
structure Ended (w : LimitsWorld) (request : ApplyLimitsRequest) (result : ApplyLimitsResult)
    (w' : LimitsWorld) : Prop where
  success : result.success = env.acceptsLimits w.hw w.register request
  register : w'.register = w.register
  drive : w'.drive = env.driveAfter w.hw w.register w.drive request
  kept : result.success = false → w'.hw = w.hw
  committed : ∀ plan, env.plan w.hw w.register request = some plan → result.success = true →
    w'.hw = (w.hw.commitLimits request.motorId plan.resolvedMin plan.resolvedMax
      plan.activeZeroOffset request.applyToMotor).2

/-! ## the pieces evaluate to it -/

@[simp] theorem eval_askLimits (op : LimitsOp) (w : LimitsWorld) :
    (askLimits op).eval env.handle w = env.handle op w := rfl

theorem eval_inLimits (p : Maintenance α) (w : LimitsWorld) :
    (inLimits p).eval env.handle w =
      ((p.eval env.service.handle (w.view w.service)).1,
        w.afterService (p.eval env.service.handle (w.view w.service)).2) :=
  Prog.eval_mapOp w.afterService (fun _ _ => ⟨rfl, rfl⟩) p (w.view w.service)

theorem eval_inLimits_of {p : Maintenance α} {w : LimitsWorld} {a : α} {t : MaintenanceWorld}
    (h : p.eval env.service.handle (w.view w.service) = (a, t)) :
    (inLimits p).eval env.handle w = (a, w.afterService t) := by
  rw [eval_inLimits, h]

/-- The limits asked for are found, or a message says why not. -/
theorem eval_resolveBaseLimits (target : CanDriverJointConfig) (request : ApplyLimitsRequest)
    (w : LimitsWorld) : ∃ base, (resolveBaseLimits target request).eval env.handle w = (base, w) ∧
      base.toOption = env.baseLimits request := by
  rw [resolveBaseLimits, baseLimits]
  split
  · exact ⟨_, rfl, rfl⟩
  · rw [Prog.eval_bind_of (env.eval_askLimits (.urdfLimits target.name) w)]
    cases env.urdf with
    | noDescription => exact ⟨_, rfl, rfl⟩
    | noJoint => exact ⟨_, rfl, rfl⟩
    | noLimits => exact ⟨_, rfl, rfl⟩
    | limits minPosition maxPosition => exact ⟨_, rfl, rfl⟩

/-- The action on the drive is reached, or nothing is written. -/
theorem eval_executeLimits (target : CanDriverJointConfig) (rawMin rawMax : Int32)
    (w : LimitsWorld) (hasked : w.service.protocol = 2) :
    ∃ status w', (executeLimits target rawMin rawMax).eval env.handle w = (status, w') ∧
      w'.hw = w.hw ∧ w'.register = w.register ∧
      w'.drive = (if env.service.deviceReady && env.service.hasProtocol 2 then
        env.writeLimits ⟨rawMin, rawMax, true⟩ w.drive else w.drive) ∧
      (limitsFailure status = none ↔ (env.service.deviceReady && env.service.hasProtocol 2) = true ∧
        env.limitsCall = .ok) := by
  rw [executeLimits, Prog.eval_bind_of (env.eval_inLimits_of (env.service.eval_askService _ _))]
  dsimp only
  cases env.service.deviceReady with
  | false => exact ⟨_, _, rfl, rfl, rfl, rfl, by simp [limitsFailure]⟩
  | true =>
      rw [Bool.not_true, if_neg Bool.false_ne_true,
        Prog.eval_bind_of (env.eval_inLimits_of (env.service.eval_askService _ _))]
      simp only [LimitsWorld.view, LimitsWorld.afterService, LimitsWorld.asked, hasked]
      cases env.service.hasProtocol 2 with
      | false => exact ⟨_, _, rfl, rfl, rfl, rfl, by simp [limitsFailure]⟩
      | true =>
          rw [Bool.not_true, if_neg Bool.false_ne_true,
            Prog.eval_bind_of (env.eval_askLimits _ _)]
          dsimp only
          cases env.limitsCall with
          | ok => exact ⟨_, _, rfl, rfl, rfl, rfl, by simp [limitsFailure]⟩
          | rejected => exact ⟨_, _, rfl, rfl, rfl, rfl, by simp [limitsFailure]⟩
          | thrown => exact ⟨_, _, rfl, rfl, rfl, rfl, by simp [limitsFailure]⟩

/-- The write of the limits fails with a message, or is done. -/
theorem eval_applyLimitsToMotor (plan : Plan) (w : LimitsWorld) (hfresh : w.service.fresh = 1)
    (hasked : w.service.protocol = 2) :
    ∃ message w', (applyLimitsToMotor plan.target plan.resolvedMin plan.resolvedMax).eval
        env.handle w = (message, w') ∧ w'.hw = w.hw ∧ w'.register = w.register ∧
      w'.drive = ((env.rawWindow plan).map fun limits => env.writeLimits limits w.drive).getD
        w.drive ∧
      (message = none ↔ (env.rawWindow plan).isSome = true ∧ env.limitsCall = .ok) := by
  obtain ⟨message, hrequire, hdisabled⟩ := env.service.eval_requireDisabled plan.target
    "Writing hardware limits" (w.view w.service) hfresh
  rw [applyLimitsToMotor, Prog.eval_bind_of (env.eval_inLimits_of hrequire), rawWindow]
  cases message with
  | some message =>
      have hnot : env.service.saysDisabled = false := by
        rw [← Bool.not_eq_true, ← hdisabled]
        simp
      rw [hnot]
      exact ⟨_, _, rfl, rfl, rfl, rfl, by simp⟩
  | none =>
      rw [hdisabled.1 rfl, Bool.true_and]
      cases rawLimits plan.target plan.resolvedMin plan.resolvedMax with
      | none => exact ⟨_, _, rfl, rfl, rfl, by simp, by simp⟩
      | some raw =>
          obtain ⟨status, w', hstatus, hhw, hregister, hdrive, hfailure⟩ :=
            env.eval_executeLimits plan.target raw.1 raw.2 (w.afterService
              { w.view w.service with freshAsked := 2 }) hasked
          dsimp only
          rw [Prog.eval_bind_of hstatus]
          refine ⟨_, w', rfl, hhw, hregister, ?_, ?_⟩
          · rw [hdrive]
            split
            · rfl
            · rfl
          · rw [hfailure]
            split
            · next hreached => simp [hreached]
            · next hreached => simp [hreached]

/-- The end of a request: the joint takes the limits. -/
theorem eval_commitLimitsRequest (request : ApplyLimitsRequest) (result : ApplyLimitsResult)
    (w : LimitsWorld) (hfound : (w.hw.lookupJointByMotorId request.motorId).isSome = true) :
    ∃ result', (commitLimitsRequest request result).eval env.handle w =
        (result', { w with
          hw := (w.hw.commitLimits request.motorId result.appliedMinRad result.appliedMaxRad
            result.activeZeroOffsetRad request.applyToMotor).2 }) ∧ result'.success = true := by
  rw [commitLimitsRequest, Prog.eval_bind_of (env.eval_askLimits _ w)]
  have hcommitted : (w.hw.commitLimits request.motorId result.appliedMinRad result.appliedMaxRad
      result.activeZeroOffsetRad request.applyToMotor).1 = true := by
    rw [lookupJointByMotorId, Option.isSome_map] at hfound
    obtain ⟨found, hfound⟩ := Option.isSome_iff_exists.1 hfound
    rw [CanDriverHW.commitLimits, hfound]
  dsimp only
  rw [hcommitted]
  exact ⟨_, rfl, rfl⟩

variable {env} {request : ApplyLimitsRequest} {result : ApplyLimitsResult} {w w' : LimitsWorld}

/-- A request that is given up early fails and changes nothing. -/
theorem Ended.of_unplanned (hnone : env.plan w.hw w.register request = none)
    (hfailed : result.success = false) (hhw : w'.hw = w.hw) (hregister : w'.register = w.register)
    (hdrive : w'.drive = w.drive) : env.Ended w request result w' where
  success := by simp [acceptsLimits, hnone, hfailed]
  register := hregister
  drive := by simp [driveAfter, writtenLimits, hnone, hdrive]
  kept _ := hhw
  committed plan hplan := by
    rw [hnone] at hplan
    exact absurd hplan (Option.some_ne_none plan).symm

variable (env)

/-- A plan is carried out: on the drive if it is wanted there, then on the joint. -/
theorem eval_finishLimits {plan : Plan} {t : MaintenanceWorld} {result : ApplyLimitsResult}
    (hplan : env.plan w.hw w.register request = some plan)
    (hresult : result.appliedMinRad = plan.resolvedMin ∧ result.appliedMaxRad = plan.resolvedMax ∧
      result.activeZeroOffsetRad = plan.activeZeroOffset ∧ result.success = false)
    (hfound : (w.hw.lookupJointByMotorId request.motorId).isSome = true)
    (hhw : t.hw = w.hw) (hregister : t.register = w.register) (hfresh : t.freshAsked = 1)
    (hasked : request.applyToMotor = true → t.protocolAsked = 2) :
    ∃ result' w', (finishLimits request plan.target result).eval env.handle (w.afterService t) =
      (result', w') ∧ env.Ended w request result' w' := by
  obtain ⟨hmin, hmax, hzero, hfailed⟩ := hresult
  have hcommits : ∀ w₁ : LimitsWorld, w₁.hw = w.hw →
      ∃ result', (commitLimitsRequest request result).eval env.handle w₁ = (result', { w₁ with
        hw := (w.hw.commitLimits request.motorId plan.resolvedMin plan.resolvedMax
          plan.activeZeroOffset request.applyToMotor).2 }) ∧ result'.success = true := by
    intro w₁ hw₁
    have hcommitted := env.eval_commitLimitsRequest request result w₁ (by rw [hw₁]; exact hfound)
    rw [hmin, hmax, hzero, hw₁] at hcommitted
    exact hcommitted
  rw [finishLimits]
  cases happly : request.applyToMotor with
  | false =>
      have hnowrite : env.writtenLimits w.hw w.register request = none := by
        simp [writtenLimits, happly]
      have haccepts : env.acceptsLimits w.hw w.register request = true := by
        simp [acceptsLimits, hplan, happly]
      obtain ⟨result', heval, hsuccess⟩ := hcommits (w.afterService t) hhw
      rw [Bool.not_false, if_pos rfl]
      refine ⟨result', _, heval, ?_, hregister, ?_, fun h => ?_, fun plan' hplan' _ => ?_⟩
      · rw [hsuccess, haccepts]
      · simp [driveAfter, hnowrite]
      · rw [hsuccess] at h
        cases h
      · rw [hplan] at hplan'
        rw [← Option.some.inj hplan']
  | true =>
      have hwritten : env.writtenLimits w.hw w.register request = env.rawWindow plan := by
        simp [writtenLimits, happly, hplan]
      obtain ⟨message, w₁, hwrite, hhw₁, hregister₁, hdrive, hdone⟩ :=
        env.eval_applyLimitsToMotor plan (w.afterService t) hfresh (hasked happly)
      have hhw₁ : w₁.hw = w.hw := hhw₁.trans hhw
      have hdriveAfter : w₁.drive = env.driveAfter w.hw w.register w.drive request := by
        rw [hdrive, driveAfter, hwritten]
        rfl
      rw [Bool.not_true, if_neg Bool.false_ne_true, hmin, hmax, Prog.eval_bind_of hwrite]
      cases message with
      | some message =>
          have hrejected : env.acceptsLimits w.hw w.register request = false := by
            rw [acceptsLimits, hwritten, hplan, happly]
            simpa using fun h hok => by simpa using hdone.2 ⟨h, hok⟩
          refine ⟨_, w₁, rfl, ?_, hregister₁.trans hregister, hdriveAfter, fun _ => hhw₁, ?_⟩
          · rw [hrejected]
            exact hfailed
          · intro plan' _ hsuccess
            exact absurd (hfailed.symm.trans hsuccess) Bool.false_ne_true
      | none =>
          have haccepts : env.acceptsLimits w.hw w.register request = true := by
            obtain ⟨hsome, hok⟩ := hdone.1 rfl
            rw [acceptsLimits, hwritten, hplan, hsome, hok]
            simp
          obtain ⟨result', heval, hsuccess⟩ := hcommits w₁ hhw₁
          refine ⟨result', _, heval, ?_, hregister₁.trans hregister, hdriveAfter, fun h => ?_,
            fun plan' hplan' _ => ?_⟩
          · rw [hsuccess, haccepts]
          · rw [hsuccess] at h
            cases h
          · rw [hplan] at hplan'
            rw [← Option.some.inj hplan']

/-- What follows once the limits and the position are known. -/
theorem eval_applyLimitsFrom (request : ApplyLimitsRequest) (target : CanDriverJointConfig)
    (resolvedMin resolvedMax current : Double) (w : LimitsWorld)
    (hasked : w.service.protocol = 1) (hfresh : w.service.fresh = 1)
    (hfound : w.hw.lookupJointByMotorId request.motorId = some target)
    (hplan : env.plan w.hw w.register request =
      if rangeAccepted request resolvedMin resolvedMax current then
        some
          { target, resolvedMin, resolvedMax
            activeZeroOffset :=
              env.service.previousZeroOffset w.hw w.register request.applyToMotor target }
      else none) :
    ∃ result w', (applyLimitsFrom request target resolvedMin resolvedMax current).eval env.handle w =
      (result, w') ∧ env.Ended w request result w' := by
  obtain ⟨t, hoffset, hhw, hregister, -, hfresh', hasked'⟩ :=
    env.service.eval_previousZeroOffset target request.applyToMotor (w.view w.service) hasked
  rw [applyLimitsFrom, Prog.eval_bind_of (env.eval_inLimits_of hoffset)]
  dsimp only
  have hhw : t.hw = w.hw := hhw
  have hregister : t.register = w.register := hregister
  have hprevious : env.service.previousZeroOffset (w.view w.service).hw (w.view w.service).register
      request.applyToMotor target =
      env.service.previousZeroOffset w.hw w.register request.applyToMotor target := rfl
  rw [hprevious]
  generalize env.service.previousZeroOffset w.hw w.register request.applyToMotor target = offset
    at hplan ⊢
  rw [rangeAccepted] at hplan
  cases hrange : !resolvedMin.isFinite || !resolvedMax.isFinite || resolvedMax.le resolvedMin with
  | true =>
      rw [hrange, Bool.not_true, Bool.false_and, if_neg Bool.false_ne_true] at hplan
      rw [if_pos rfl]
      exact ⟨_, _, rfl, .of_unplanned hplan rfl hhw hregister rfl⟩
  | false =>
      rw [hrange, Bool.not_false, Bool.true_and] at hplan
      rw [if_neg Bool.false_ne_true]
      cases houtside : request.requireCurrentInsideLimits &&
          (current.lt resolvedMin || resolvedMax.lt current) with
      | true =>
          rw [houtside, Bool.not_true, if_neg Bool.false_ne_true] at hplan
          rw [if_pos rfl]
          exact ⟨_, _, rfl, .of_unplanned hplan rfl hhw hregister rfl⟩
      | false =>
          rw [houtside, Bool.not_false, if_pos rfl] at hplan
          rw [if_neg Bool.false_ne_true]
          exact env.eval_finishLimits hplan ⟨rfl, rfl, rfl, rfl⟩ (by rw [hfound]; rfl) hhw hregister
            (hfresh'.trans hfresh) hasked'

/-- **Request**: a request for limits ends as its checks say. -/
theorem eval_applyLimits (request : ApplyLimitsRequest) (w : LimitsWorld)
    (hstart : w.service = {}) :
    ∃ result w', (applyLimitsByMotorId request).eval env.handle w = (result, w') ∧
      env.Ended w request result w' := by
  have hview : w.view w.service = { hw := w.hw, register := w.register } := by
    rw [hstart]
    rfl
  have hself : w.afterService { hw := w.hw, register := w.register } = w := by
    rw [← hview]
    rfl
  rw [applyLimitsByMotorId, Prog.eval_bind_of (env.eval_inLimits_of (env.service.eval_askService _ _)),
    hview]
  dsimp only [MaintenanceEnv.handle]
  rw [hself]
  cases hactive : env.service.active with
  | false =>
      have hnone : env.plan w.hw w.register request = none := by simp [plan, hactive]
      exact ⟨_, _, rfl, .of_unplanned hnone rfl rfl rfl rfl⟩
  | true =>
      rw [Bool.not_true, if_neg Bool.false_ne_true,
        Prog.eval_bind_of (env.eval_inLimits_of (env.service.eval_askService _ _)), hview]
      dsimp only [MaintenanceEnv.handle]
      rw [hself]
      cases hfound : w.hw.lookupJointByMotorId request.motorId with
      | none =>
          have hnone : env.plan w.hw w.register request = none := by simp [plan, hactive, hfound]
          exact ⟨_, _, rfl, .of_unplanned hnone rfl rfl rfl rfl⟩
      | some target =>
          dsimp only
          cases hsemantics : controlModeUsesPositionSemantics target.controlMode with
          | false =>
              have hnone : env.plan w.hw w.register request = none := by
                simp [plan, hactive, hfound, hsemantics]
              exact ⟨_, _, rfl, .of_unplanned hnone rfl rfl rfl rfl⟩
          | true =>
              rw [Bool.not_true, if_neg Bool.false_ne_true]
              obtain ⟨base, hbase, hlimits⟩ := env.eval_resolveBaseLimits target request w
              rw [Prog.eval_bind_of hbase]
              cases base with
              | error message =>
                  have hlimits : env.baseLimits request = none := hlimits.symm
                  have hnone : env.plan w.hw w.register request = none := by
                    simp [plan, hactive, hfound, hlimits]
                  exact ⟨_, _, rfl, .of_unplanned hnone rfl rfl rfl rfl⟩
              | ok limits =>
                  obtain ⟨t, hreported, hhw, hregister, -, hasked, hfresh⟩ :=
                    env.service.eval_reportedPosition target w.hw w.register
                  have hlimits : env.baseLimits request = some limits := hlimits.symm
                  have hstep : (inLimits (resolveCurrentReportedPosition target)).eval env.handle w =
                      (env.service.reportedPosition target, w.afterService t) :=
                    env.eval_inLimits_of (by rw [hview]; exact hreported)
                  dsimp only
                  rw [Prog.eval_bind_of hstep]
                  cases hposition : env.service.reportedPosition target with
                  | none =>
                      have hnone : env.plan w.hw w.register request = none := by
                        simp [plan, hactive, hfound, hsemantics, hlimits, hposition]
                      exact ⟨_, _, rfl, .of_unplanned hnone rfl hhw hregister rfl⟩
                  | some reported =>
                      have havailable : env.service.hasProtocol 0 = true := by
                        rw [MaintenanceEnv.reportedPosition,
                          Option.ite_none_right_eq_some] at hposition
                        exact hposition.1
                      obtain ⟨result, w', heval, hended⟩ := env.eval_applyLimitsFrom request target
                        limits.1 limits.2 reported.1 (w.afterService t) hasked (hfresh havailable)
                        (by rw [LimitsWorld.afterService_hw, hhw, hfound])
                        (by simp [plan, hactive, hhw, hregister, hfound, hsemantics, hlimits, hposition])
                      refine ⟨result, w', heval, ?_⟩
                      have hworld : (w.afterService t).hw = w.hw := hhw
                      have hreg : (w.afterService t).register = w.register := hregister
                      exact
                        { success := by rw [hended.success, hworld, hreg]
                          register := hended.register.trans hreg
                          drive := by
                            rw [hended.drive, hworld, hreg]
                            rfl
                          kept := fun h => (hended.kept h).trans hworld
                          committed := by
                            rw [← hworld, ← hreg]
                            exact hended.committed }

end LimitsEnv

end CanDriver
