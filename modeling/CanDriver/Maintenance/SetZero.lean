import CanDriver.Joints.ZeroOffsets
import CanDriver.MotorMaintenanceService

/-!
# CanDriver.Maintenance.SetZero

A request to set a zero, evaluated against the drive of the joint.

The drive keeps an offset register.  A write that is acknowledged has taken effect; one that
is not may have.  `eval_of_zeroWrite` says how a request ends that gets as far as the drive,
`eval_of_noZeroWrite` how any other one does.
-/

namespace CanDriver

open Interact MotorMaintenanceService CanDriverHW

/-! ## the drive and everything else that answers -/

/-- The answers to one request: what the `n`-th question of a kind is answered, and how the
`n`-th write of the register ends. -/
structure MaintenanceEnv where
  active : Bool := true
  fresh : Nat → Option AxisFeedbackState
  hasProtocol : Nat → Bool := fun _ => true
  position : Nat → Int := fun _ => 0
  deviceReady : Bool := true
  readable : Bool := true
  write : Nat → CallOutcome := fun _ => .ok
  took : Nat → Bool := fun _ => true
  persist : Nat → CallOutcome := fun _ => .ok
  writable : Bool := true

/-- The joints, the offset register of the drive, and how much was asked so far. -/
structure MaintenanceWorld where
  hw : CanDriverHW
  register : Int32
  protocolAsked : Nat := 0
  freshAsked : Nat := 0
  positionAsked : Nat := 0
  writes : Nat := 0

namespace MaintenanceEnv

variable (env : MaintenanceEnv)

/-- The register after the `n`-th write. -/
def writeRegister (n : Nat) (register rawOffset : Int32) : Int32 :=
  if env.write n = .ok ∨ env.took n = true then rawOffset else register

/-- How an operation is answered, and what it leaves. -/
def handle : (op : MaintenanceOp) → MaintenanceWorld → op.Ans × MaintenanceWorld
  | .active, w => (env.active, w)
  | .lookupJoint motorId, w => (w.hw.lookupJointByMotorId motorId, w)
  | .freshFeedback _, w => (env.fresh w.freshAsked, { w with freshAsked := w.freshAsked + 1 })
  | .isDeviceReady _, w => (env.deviceReady, w)
  | .hasProtocol _ _, w =>
      (env.hasProtocol w.protocolAsked, { w with protocolAsked := w.protocolAsked + 1 })
  | .getPosition _, w =>
      (env.position w.positionAsked, { w with positionAsked := w.positionAsked + 1 })
  | .readPositionOffset _, w => (if env.readable then some w.register else none, w)
  | .setPositionOffset _ rawOffset, w =>
      (env.write w.writes,
        { w with
          register := env.writeRegister w.writes w.register rawOffset
          writes := w.writes + 1 })
  | .persistParameters _, w => (env.persist (w.writes - 1), w)
  | .getZeroOffset motorId, w => (w.hw.getZeroOffset motorId, w)
  | .commitZero motorId zeroOffset previousZeroOffset applyToMotor, w =>
      let committed := w.hw.commitZero motorId zeroOffset previousZeroOffset applyToMotor env.writable
      (committed.1, { w with hw := committed.2 })

/-! ## what a request starts from -/

/-- The position of the joint, and whether it comes from fresh feedback. -/
def reportedPosition (target : CanDriverJointConfig) : Option (Double × Bool) :=
  if env.hasProtocol 0 then
    match (env.fresh 0).filter AxisFeedbackState.positionValid with
    | some feedback =>
        some (rawPositionToJointPosition target (Double.ofInt feedback.position), true)
    | none => some (rawPositionToJointPosition target (Double.ofInt (env.position 4)), false)
  else none

/-- The offset a request takes for the previous one. -/
def previousZeroOffset (hw : CanDriverHW) (register : Int32) (applyToMotor : Bool)
    (target : CanDriverJointConfig) : Double :=
  if applyToMotor && env.hasProtocol 1 && env.readable then
    (Double.ofInt register.toInt).mul (effectivePositionScale target)
  else (hw.getZeroOffset target.motorId).getD (.finite 0)

/-- The offset a request is about. -/
def resolvedZeroOffset (request : SetZeroRequest) (current previous : Double) : Double :=
  if request.useCurrentPositionAsZero then (current.sub previous).neg else request.zeroOffsetRad

/-- The axis says that it is disabled. -/
def saysDisabled : Bool :=
  (env.fresh 1).any fun feedback => feedback.enabledValid && !feedback.enabled

/-- A write of the register that a request gets to: the joint, its result so far, the new raw
value and the one that counts as the previous one. -/
structure ZeroWrite where
  target : CanDriverJointConfig
  result : SetZeroResult
  rawOffset : Int32
  previousRawOffset : Int32

/-- The result of a request whose offset is about to be written or committed, with its joint. -/
def resolvedZero (hw : CanDriverHW) (register : Int32) (request : SetZeroRequest) :
    Option (CanDriverJointConfig × SetZeroResult) :=
  if env.active then
    (hw.lookupJointByMotorId request.motorId).bind fun target =>
      if controlModeUsesPositionSemantics target.controlMode &&
          (!request.useCurrentPositionAsZero || request.applyToMotor) then
        (env.reportedPosition target).bind fun reported =>
          if request.useCurrentPositionAsZero && !reported.2 then none
          else
            let previous := env.previousZeroOffset hw register request.applyToMotor target
            some (target,
              { previousZeroOffsetRad := previous
                currentPositionRad := reported.1
                appliedZeroOffsetRad := resolvedZeroOffset request reported.1 previous })
      else none
  else none

/-- The raw values of the new and of the previous offset, if the write gets to the drive. -/
def rawOffsets (target : CanDriverJointConfig) (resolved previous : Double) :
    Option (Int32 × Int32) :=
  if env.saysDisabled && env.deviceReady && env.hasProtocol 2 then
    (scaleAndClampToInt32 resolved (effectivePositionScale target)).bind fun rawOffset =>
      (scaleAndClampToInt32 previous (effectivePositionScale target)).map fun previousRawOffset =>
        (rawOffset, previousRawOffset)
  else none

/-- The write of a request that wants one and gets to it. -/
def zeroWrite (hw : CanDriverHW) (register : Int32) (request : SetZeroRequest) : Option ZeroWrite :=
  if request.applyToMotor then
    (env.resolvedZero hw register request).bind fun resolved =>
      (env.rawOffsets resolved.1 resolved.2.appliedZeroOffsetRad
        resolved.2.previousZeroOffsetRad).map fun raw => ⟨resolved.1, resolved.2, raw.1, raw.2⟩
  else none

/-! ## the pieces evaluate to it -/

@[simp] theorem eval_askService (op : MaintenanceOp) (w : MaintenanceWorld) :
    (askService op).eval env.handle w = env.handle op w := rfl

/-- The position is asked for until the last time. -/
theorem eval_pollPosition (target : CanDriverJointConfig) (rawPos : Int) (n : Nat)
    (w : MaintenanceWorld) :
    (pollPosition target rawPos (n + 1)).eval env.handle w =
      (env.position (w.positionAsked + n), { w with positionAsked := w.positionAsked + n + 1 }) := by
  induction n generalizing rawPos w with
  | zero => rfl
  | succ n ih =>
      rw [pollPosition, Prog.eval_bind_of (env.eval_askService (.getPosition target) w)]
      rw [ih]
      dsimp only
      rw [Nat.add_assoc, Nat.add_comm 1 n]

theorem eval_reportedPosition (target : CanDriverJointConfig) (hw : CanDriverHW) (register : Int32) :
    ∃ w, (resolveCurrentReportedPosition target).eval env.handle { hw, register } =
        (env.reportedPosition target, w) ∧ w.hw = hw ∧ w.register = register ∧ w.writes = 0 ∧
        w.protocolAsked = 1 ∧ (env.hasProtocol 0 = true → w.freshAsked = 1) := by
  rw [resolveCurrentReportedPosition, Prog.eval_bind_of (env.eval_askService (.hasProtocol _ _) _)]
  simp only [reportedPosition]
  cases env.hasProtocol 0 with
  | false => exact ⟨_, rfl, rfl, rfl, rfl, rfl, fun h => absurd h Bool.false_ne_true⟩
  | true =>
      rw [Bool.not_true, if_neg Bool.false_ne_true, if_pos rfl,
        Prog.eval_bind_of (env.eval_askService (.freshFeedback target) _)]
      dsimp only
      cases (env.fresh 0).filter AxisFeedbackState.positionValid with
      | some feedback => exact ⟨_, rfl, rfl, rfl, rfl, rfl, fun _ => rfl⟩
      | none =>
          dsimp only
          rw [Prog.eval_bind_of (env.eval_pollPosition target 0 4 _)]
          exact ⟨_, rfl, rfl, rfl, rfl, rfl, fun _ => rfl⟩

theorem eval_previousZeroOffset (target : CanDriverJointConfig) (applyToMotor : Bool)
    (w : MaintenanceWorld) (hasked : w.protocolAsked = 1) :
    ∃ w', (resolveCurrentZeroOffset target applyToMotor).eval env.handle w =
        (env.previousZeroOffset w.hw w.register applyToMotor target, w') ∧ w'.hw = w.hw ∧
        w'.register = w.register ∧ w'.writes = w.writes ∧ w'.freshAsked = w.freshAsked ∧
        (applyToMotor = true → w'.protocolAsked = 2) := by
  rw [resolveCurrentZeroOffset, previousZeroOffset]
  cases applyToMotor with
  | false => exact ⟨w, rfl, rfl, rfl, rfl, rfl, fun h => absurd h Bool.false_ne_true⟩
  | true =>
      rw [Bool.not_true, if_neg Bool.false_ne_true,
        Prog.eval_bind_of (env.eval_askService (.hasProtocol _ _) _)]
      simp only [hasked, Bool.true_and]
      cases env.hasProtocol 1 with
      | false => exact ⟨_, rfl, rfl, rfl, rfl, rfl, fun _ => rfl⟩
      | true =>
          rw [Bool.not_true, if_neg Bool.false_ne_true,
            Prog.eval_bind_of (env.eval_askService (.readPositionOffset _) _)]
          simp only [Bool.true_and]
          cases env.readable with
          | false => exact ⟨_, rfl, rfl, rfl, rfl, rfl, fun _ => rfl⟩
          | true => exact ⟨_, rfl, rfl, rfl, rfl, rfl, fun _ => rfl⟩

/-- The feedback a request looks at for the `n`-th time says that the axis is disabled. -/
def saysDisabledAt (n : Nat) : Bool :=
  (env.fresh n).any fun feedback => feedback.enabledValid && !feedback.enabled

theorem eval_requireDisabled_at (target : CanDriverJointConfig) (operation : String)
    (w : MaintenanceWorld) :
    ∃ message, (requireAxisDisabledForConfiguration target operation).eval env.handle w =
        (message, { w with freshAsked := w.freshAsked + 1 }) ∧
      (message = none ↔ env.saysDisabledAt w.freshAsked = true) := by
  rw [requireAxisDisabledForConfiguration,
    Prog.eval_bind_of (env.eval_askService (.freshFeedback target) w), saysDisabledAt]
  cases env.fresh w.freshAsked with
  | none => exact ⟨_, rfl, by simp⟩
  | some feedback =>
      dsimp only
      rw [Option.any_some]
      cases feedback.enabledValid with
      | false => exact ⟨_, rfl, by simp⟩
      | true =>
          cases feedback.enabled with
          | false => exact ⟨_, rfl, by simp⟩
          | true => exact ⟨_, rfl, by simp⟩

theorem eval_requireDisabled (target : CanDriverJointConfig) (operation : String)
    (w : MaintenanceWorld) (hasked : w.freshAsked = 1) :
    ∃ message, (requireAxisDisabledForConfiguration target operation).eval env.handle w =
        (message, { w with freshAsked := 2 }) ∧ (message = none ↔ env.saysDisabled = true) := by
  obtain ⟨message, heval, hdisabled⟩ := env.eval_requireDisabled_at target operation w
  rw [hasked] at heval hdisabled
  exact ⟨message, heval, hdisabled⟩

/-! ## the writes of the register -/

/-- How the `n`-th write of the register ends, with the saving of the parameters if it is
wanted. -/
def attempt (persistToMotor : Bool) (n : Nat) : CallOutcome :=
  if env.write n = .ok ∧ persistToMotor = true then env.persist n else env.write n

/-- The outcome of an action, without its message. -/
def outcomeOf : ActionOutcome → CallOutcome
  | .done => .ok
  | .failed _ => .rejected
  | .thrown => .thrown

theorem eval_writePositionOffset (target : CanDriverJointConfig) (rawOffset : Int32)
    (persistToMotor : Bool) (w : MaintenanceWorld) :
    ∃ action, (writePositionOffset target rawOffset persistToMotor).eval env.handle w =
        (action, { w with
                   register := env.writeRegister w.writes w.register rawOffset
                   writes := w.writes + 1 }) ∧
      outcomeOf action = env.attempt persistToMotor w.writes := by
  rw [writePositionOffset,
    Prog.eval_bind_of (env.eval_askService (.setPositionOffset _ _) w), attempt]
  cases hwrite : env.write w.writes with
  | rejected => exact ⟨_, rfl, by simp [outcomeOf]⟩
  | thrown => exact ⟨_, rfl, by simp [outcomeOf]⟩
  | ok =>
      cases persistToMotor with
      | false => exact ⟨_, rfl, by simp [outcomeOf]⟩
      | true =>
          dsimp only
          rw [Bool.not_true, if_neg Bool.false_ne_true,
            Prog.eval_bind_of (env.eval_askService (.persistParameters _) _)]
          dsimp only [handle]
          rw [Nat.add_sub_cancel, if_pos ⟨rfl, rfl⟩]
          cases env.persist w.writes with
          | ok => exact ⟨_, rfl, rfl⟩
          | rejected => exact ⟨_, rfl, rfl⟩
          | thrown => exact ⟨_, rfl, rfl⟩

/-- The register after the write of an offset that is taken back if it fails. -/
def registerAfter (persistToMotor : Bool) (register rawOffset previousRawOffset : Int32) : Int32 :=
  if env.attempt persistToMotor 0 = .rejected then
    env.writeRegister 1 (env.writeRegister 0 register rawOffset) previousRawOffset
  else env.writeRegister 0 register rawOffset

theorem eval_writeOrRollBack (target : CanDriverJointConfig) (rawOffset previousRawOffset : Int32)
    (persistToMotor : Bool) (w : MaintenanceWorld) (hwrites : w.writes = 0) :
    ∃ action w', (writeOrRollBack target rawOffset previousRawOffset persistToMotor).eval env.handle w =
        (action, w') ∧ w'.hw = w.hw ∧
      w'.register = env.registerAfter persistToMotor w.register rawOffset previousRawOffset ∧
      (action = .done ↔ env.attempt persistToMotor 0 = .ok) := by
  obtain ⟨first, hfirst, hattempt⟩ :=
    env.eval_writePositionOffset target rawOffset persistToMotor w
  rw [hwrites] at hattempt
  rw [writeOrRollBack, Prog.eval_bind_of hfirst, registerAfter, ← hattempt, hwrites]
  cases first with
  | done => exact ⟨_, _, rfl, rfl, rfl, by simp [outcomeOf]⟩
  | thrown => exact ⟨_, _, rfl, rfl, rfl, by simp [outcomeOf]⟩
  | failed persistError =>
      dsimp only
      obtain ⟨second, hsecond, -⟩ := env.eval_writePositionOffset target previousRawOffset
        persistToMotor { w with register := env.writeRegister 0 w.register rawOffset, writes := 0 + 1 }
      rw [Prog.eval_bind_of hsecond]
      cases second with
      | done => exact ⟨_, _, rfl, rfl, rfl, by simp [outcomeOf]⟩
      | failed rollbackError => exact ⟨_, _, rfl, rfl, rfl, by simp [outcomeOf]⟩
      | thrown => exact ⟨_, _, rfl, rfl, rfl, by simp [outcomeOf]⟩

/-- An action that is reached decides how `execute` ends. -/
theorem eval_execute (target : CanDriverJointConfig) (action : Maintenance ActionOutcome)
    {outcome : ActionOutcome} (w w' : MaintenanceWorld) (hasked : w.protocolAsked = 2)
    (hready : env.deviceReady = true) (havailable : env.hasProtocol 2 = true)
    (haction : action.eval env.handle { w with protocolAsked := 3 } = (outcome, w')) :
    ∃ status, (execute target action).eval env.handle w = (status, w') ∧
      (writeFailure status = none ↔ outcome = .done) := by
  rw [execute, Prog.eval_bind_of (env.eval_askService (.isDeviceReady _) _)]
  rw [hready, Bool.not_true, if_neg Bool.false_ne_true,
    Prog.eval_bind_of (env.eval_askService (.hasProtocol _ _) _)]
  rw [hasked, havailable, Bool.not_true, if_neg Bool.false_ne_true, Prog.eval_bind_of haction]
  cases outcome with
  | done => exact ⟨_, rfl, by simp [writeFailure]⟩
  | failed message => exact ⟨_, rfl, by simp [writeFailure]⟩
  | thrown => exact ⟨_, rfl, by simp [writeFailure]⟩

/-- An action that is not reached leaves everything as it is. -/
theorem eval_execute_unreached (target : CanDriverJointConfig) (action : Maintenance ActionOutcome)
    (w : MaintenanceWorld) (hasked : w.protocolAsked = 2)
    (hunreached : (env.deviceReady && env.hasProtocol 2) = false) :
    ∃ status w', (execute target action).eval env.handle w = (status, w') ∧ w'.hw = w.hw ∧
      w'.register = w.register ∧ writeFailure status ≠ none := by
  rw [execute, Prog.eval_bind_of (env.eval_askService (.isDeviceReady _) _)]
  cases hready : env.deviceReady with
  | false => exact ⟨_, _, rfl, rfl, rfl, by simp [writeFailure]⟩
  | true =>
      rw [hready, Bool.true_and] at hunreached
      rw [Bool.not_true, if_neg Bool.false_ne_true,
        Prog.eval_bind_of (env.eval_askService (.hasProtocol _ _) _)]
      rw [hasked, hunreached]
      exact ⟨_, _, rfl, rfl, rfl, by simp [writeFailure]⟩

/-- The write of a zero fails with a message, or is done. -/
theorem eval_applyZeroToMotor (persistToMotor : Bool) (target : CanDriverJointConfig)
    (resolved previous : Double) (w : MaintenanceWorld) (hfresh : w.freshAsked = 1)
    (hasked : w.protocolAsked = 2) (hwrites : w.writes = 0) :
    ∃ message w', (applyZeroToMotor persistToMotor target resolved previous).eval env.handle w =
        (message, w') ∧ w'.hw = w.hw ∧
      (env.rawOffsets target resolved previous = none →
        w'.register = w.register ∧ message ≠ none) ∧
      ∀ rawOffset previousRawOffset,
        env.rawOffsets target resolved previous = some (rawOffset, previousRawOffset) →
        w'.register = env.registerAfter persistToMotor w.register rawOffset previousRawOffset ∧
        (message = none ↔ env.attempt persistToMotor 0 = .ok) := by
  obtain ⟨message, hrequire, hdisabled⟩ :=
    env.eval_requireDisabled target "Writing zero offset" w hfresh
  rw [applyZeroToMotor, Prog.eval_bind_of hrequire, rawOffsets]
  cases message with
  | some message =>
      have hnot : env.saysDisabled = false := by
        rw [← Bool.not_eq_true, ← hdisabled]
        simp
      rw [hnot]
      exact ⟨_, _, rfl, rfl, fun _ => ⟨rfl, by simp⟩, by simp⟩
  | none =>
      rw [hdisabled.1 rfl, Bool.true_and]
      cases scaleAndClampToInt32 resolved (effectivePositionScale target) with
      | none => exact ⟨_, _, rfl, rfl, fun _ => ⟨rfl, by simp⟩, by simp⟩
      | some rawOffset =>
          cases scaleAndClampToInt32 previous (effectivePositionScale target) with
          | none => exact ⟨_, _, rfl, rfl, fun _ => ⟨rfl, by simp⟩, by simp⟩
          | some previousRawOffset =>
              dsimp only
              cases hreached : env.deviceReady && env.hasProtocol 2 with
              | false =>
                  obtain ⟨status, w', hstatus, hhw, hregister, hfailed⟩ :=
                    env.eval_execute_unreached target
                      (writeOrRollBack target rawOffset previousRawOffset persistToMotor)
                      { w with freshAsked := 2 } hasked hreached
                  rw [Prog.eval_bind_of hstatus]
                  exact ⟨_, _, rfl, hhw, fun _ => ⟨hregister, hfailed⟩, by simp⟩
              | true =>
                  rw [Bool.and_eq_true] at hreached
                  obtain ⟨outcome, w', haction, hhw, hregister, hdone⟩ :=
                    env.eval_writeOrRollBack target rawOffset previousRawOffset persistToMotor
                      { w with freshAsked := 2, protocolAsked := 3 } hwrites
                  obtain ⟨status, hstatus, hfailure⟩ :=
                    env.eval_execute target _ { w with freshAsked := 2 } w' hasked hreached.1
                      hreached.2 haction
                  rw [Prog.eval_bind_of hstatus]
                  refine ⟨_, _, rfl, hhw, by simp, ?_⟩
                  intro raw previousRaw hraw
                  simp only [↓reduceIte, Option.bind_some, Option.map_some, Option.some.injEq,
                    Prod.mk.injEq] at hraw
                  rw [← hraw.1, ← hraw.2]
                  exact ⟨hregister, hfailure.trans hdone⟩

/-! ## the whole request -/

/-- The end of a request asks the joints to take the zero. -/
theorem eval_commitZeroRequest (request : SetZeroRequest) (result : SetZeroResult)
    (w : MaintenanceWorld) : ∃ result', (commitZeroRequest request result).eval env.handle w =
        (result', { w with
          hw := (w.hw.commitZero request.motorId result.appliedZeroOffsetRad
            result.previousZeroOffsetRad request.applyToMotor env.writable).2 }) ∧
      result'.success = (result.success || (w.hw.commitZero request.motorId
        result.appliedZeroOffsetRad result.previousZeroOffsetRad request.applyToMotor
        env.writable).1) := by
  rw [commitZeroRequest, Prog.eval_bind_of (env.eval_askService (.commitZero _ _ _ _) w)]
  cases (w.hw.commitZero request.motorId result.appliedZeroOffsetRad
    result.previousZeroOffsetRad request.applyToMotor env.writable).1 with
  | true => exact ⟨_, rfl, (Bool.or_true _).symm⟩
  | false => exact ⟨_, rfl, (Bool.or_false _).symm⟩

/-- How a request ends. -/
structure Ended (hw : CanDriverHW) (register : Int32) (persistToMotor : Bool)
    (request : SetZeroRequest) (result : SetZeroResult) (w : MaintenanceWorld) : Prop where
  /-- Nothing is written: the register stays, and a request that asks for a write fails. -/
  unwritten : env.zeroWrite hw register request = none →
    w.register = register ∧ (result.success = true → request.applyToMotor = false)
  /-- A write that is done gets to the joints, any other one fails. -/
  written : ∀ zw, env.zeroWrite hw register request = some zw →
    w.register = env.registerAfter persistToMotor register zw.rawOffset zw.previousRawOffset ∧
      (env.attempt persistToMotor 0 ≠ .ok → result.success = false) ∧
      (env.attempt persistToMotor 0 = .ok →
        (result.success, w.hw) = hw.commitZero request.motorId zw.result.appliedZeroOffsetRad
          zw.result.previousZeroOffsetRad request.applyToMotor env.writable)
  /-- A request that asks for no write gets to the joints if it comes to a zero. -/
  unapplied : request.applyToMotor = false →
    (env.resolvedZero hw register request = none → result.success = false) ∧
      ∀ resolved, env.resolvedZero hw register request = some resolved →
        (result.success, w.hw) = hw.commitZero request.motorId resolved.2.appliedZeroOffsetRad
          resolved.2.previousZeroOffsetRad request.applyToMotor env.writable
  /-- A request that fails leaves the joints and the offset file as they are. -/
  kept : result.success = false → w.hw.KeepsJoints hw

variable {env} {hw : CanDriverHW} {register : Int32} {persistToMotor : Bool}
  {request : SetZeroRequest} {result : SetZeroResult} {w : MaintenanceWorld}

/-- A request whose write does not get to the drive fails and changes nothing. -/
theorem Ended.of_unwritten (hnone : env.zeroWrite hw register request = none)
    (happly : request.applyToMotor = true) (hfailed : result.success = false) (hhw : w.hw = hw)
    (hregister : w.register = register) :
    env.Ended hw register persistToMotor request result w where
  unwritten := by
    intro _
    rw [hfailed]
    exact ⟨hregister, fun h => absurd h Bool.false_ne_true⟩
  written := by
    intro zw hzw
    rw [hnone] at hzw
    exact absurd hzw (Option.some_ne_none zw).symm
  unapplied := by
    intro hnot
    rw [happly] at hnot
    cases hnot
  kept := by
    intro _
    rw [hhw]
    exact KeepsJoints.refl hw

/-- A request that is given up early fails and changes nothing. -/
theorem Ended.of_unresolved (hnone : env.resolvedZero hw register request = none)
    (hfailed : result.success = false) (hhw : w.hw = hw) (hregister : w.register = register) :
    env.Ended hw register persistToMotor request result w where
  unwritten := by
    intro _
    rw [hfailed]
    exact ⟨hregister, fun h => absurd h Bool.false_ne_true⟩
  written := by
    intro zw hzw
    rw [zeroWrite, hnone, Option.bind_none, ite_self] at hzw
    exact absurd hzw (Option.some_ne_none zw).symm
  unapplied := by
    intro _
    refine ⟨fun _ => hfailed, fun resolved hresolved => ?_⟩
    rw [hnone] at hresolved
    exact absurd hresolved (Option.some_ne_none resolved).symm
  kept := by
    intro _
    rw [hhw]
    exact KeepsJoints.refl hw

variable (env)

theorem eval_setZeroFrom (persistToMotor : Bool) (request : SetZeroRequest)
    (target : CanDriverJointConfig) (reported : Double × Bool) (w : MaintenanceWorld)
    (hasked : w.protocolAsked = 1) (hfresh : w.freshAsked = 1) (hwrites : w.writes = 0)
    (hresolved : env.resolvedZero w.hw w.register request = some (target,
      { previousZeroOffsetRad := env.previousZeroOffset w.hw w.register request.applyToMotor target
        currentPositionRad := reported.1
        appliedZeroOffsetRad := resolvedZeroOffset request reported.1
          (env.previousZeroOffset w.hw w.register request.applyToMotor target) })) :
    ∃ result w', (setZeroFrom persistToMotor request target reported.1).eval env.handle w =
      (result, w') ∧ env.Ended w.hw w.register persistToMotor request result w' := by
  obtain ⟨w₁, hprevious, hhw₁, hregister₁, hwrites₁, hfresh₁, hasked₁⟩ :=
    env.eval_previousZeroOffset target request.applyToMotor w hasked
  rw [setZeroFrom, Prog.eval_bind_of hprevious]
  dsimp only
  generalize env.previousZeroOffset w.hw w.register request.applyToMotor target = previous
    at hresolved ⊢
  have hresolvedOffset : (if request.useCurrentPositionAsZero = true then
      (reported.1.sub previous).neg else request.zeroOffsetRad) =
      resolvedZeroOffset request reported.1 previous := rfl
  rw [hresolvedOffset]
  generalize resolvedZeroOffset request reported.1 previous = resolved at hresolved ⊢
  cases happly : request.applyToMotor with
  | false =>
      have hnowrite : env.zeroWrite w.hw w.register request = none := by simp [zeroWrite, happly]
      rw [Bool.not_false, if_pos rfl]
      obtain ⟨result, heval, hsuccess⟩ := env.eval_commitZeroRequest request
        { previousZeroOffsetRad := previous, currentPositionRad := reported.1
          appliedZeroOffsetRad := resolved } w₁
      rw [Bool.false_or, happly, hhw₁] at hsuccess
      rw [happly, hhw₁] at heval
      refine ⟨_, _, heval, fun _ => ⟨hregister₁, fun _ => happly⟩, ?_, fun _ => ⟨?_, ?_⟩, ?_⟩
      · rw [hnowrite]
        exact fun zw h => absurd h (Option.some_ne_none zw).symm
      · rw [hresolved]
        exact fun h => absurd h (Option.some_ne_none _)
      · rintro found hfound
        rw [hresolved] at hfound
        rw [← Option.some.inj hfound, happly, hsuccess]
      · rw [hsuccess]
        exact keepsJoints_of_commitZero
  | true =>
      rw [Bool.not_true, if_neg Bool.false_ne_true]
      obtain ⟨message, w₂, happlied, hhw₂, hnowrite, hwrite⟩ := env.eval_applyZeroToMotor
        persistToMotor target resolved previous w₁ (hfresh₁.trans hfresh) (hasked₁ happly)
        (hwrites₁.trans hwrites)
      have hzw : env.zeroWrite w.hw w.register request =
          (env.rawOffsets target resolved previous).map fun raw =>
            ⟨target, { previousZeroOffsetRad := previous, currentPositionRad := reported.1
                       appliedZeroOffsetRad := resolved }, raw.1, raw.2⟩ := by
        rw [zeroWrite, happly, if_pos rfl, hresolved, Option.bind_some]
      rw [Prog.eval_bind_of happlied]
      cases hraw : env.rawOffsets target resolved previous with
      | none =>
          obtain ⟨hregister₂, hmessage⟩ := hnowrite hraw
          obtain ⟨text, rfl⟩ := Option.ne_none_iff_exists'.1 hmessage
          rw [hraw, Option.map_none] at hzw
          exact ⟨_, _, rfl, Ended.of_unwritten hzw happly rfl (hhw₂.trans hhw₁)
            (hregister₂.trans hregister₁)⟩
      | some raw =>
          obtain ⟨hregister₂, hdone⟩ := hwrite raw.1 raw.2 hraw
          rw [hraw, Option.map_some] at hzw
          have hwritten : ∀ zw, env.zeroWrite w.hw w.register request = some zw →
              zw.rawOffset = raw.1 ∧ zw.previousRawOffset = raw.2 ∧
              zw.result.appliedZeroOffsetRad = resolved ∧
              zw.result.previousZeroOffsetRad = previous := by
            intro zw hsome
            rw [hzw] at hsome
            rw [← Option.some.inj hsome]
            exact ⟨rfl, rfl, rfl, rfl⟩
          cases message with
          | some text =>
              refine ⟨_, _, rfl, fun hnone => ?_, fun zw hsome => ?_, fun hnot => ?_, fun _ => ?_⟩
              · rw [hzw] at hnone
                exact absurd hnone (Option.some_ne_none _)
              · obtain ⟨hnew, hold, -, -⟩ := hwritten zw hsome
                have hnot : env.attempt persistToMotor 0 ≠ .ok := by simpa using hdone
                rw [hnew, hold, ← hregister₁]
                exact ⟨hregister₂, fun _ => rfl, fun hok => absurd hok hnot⟩
              · rw [happly] at hnot
                cases hnot
              · rw [hhw₂, hhw₁]
                exact KeepsJoints.refl _
          | none =>
              obtain ⟨result, heval, hsuccess⟩ := env.eval_commitZeroRequest request
                { previousZeroOffsetRad := previous, currentPositionRad := reported.1
                  appliedZeroOffsetRad := resolved } w₂
              rw [Bool.false_or, happly, hhw₂, hhw₁] at hsuccess
              rw [happly, hhw₂, hhw₁] at heval
              refine ⟨_, _, heval, fun hnone => ?_, fun zw hsome => ?_, fun hnot => ?_, ?_⟩
              · rw [hzw] at hnone
                exact absurd hnone (Option.some_ne_none _)
              · obtain ⟨hnew, hold, happlied', hprevious'⟩ := hwritten zw hsome
                rw [hnew, hold, happlied', hprevious', happly, ← hregister₁, hsuccess]
                exact ⟨hregister₂, fun hnot => absurd (hdone.1 rfl) hnot, fun _ => rfl⟩
              · rw [happly] at hnot
                cases hnot
              · rw [hsuccess]
                exact keepsJoints_of_commitZero

/-- **Request**: a request for a zero writes what `zeroWrite` says, and the joints take the zero
only after that. -/
theorem eval_setZero (hw : CanDriverHW) (register : Int32) (persistToMotor : Bool)
    (request : SetZeroRequest) :
    ∃ result w', (setZeroByMotorId persistToMotor request).eval env.handle { hw, register } =
      (result, w') ∧ env.Ended hw register persistToMotor request result w' := by
  rw [setZeroByMotorId, Prog.eval_bind_of (env.eval_askService .active _)]
  cases hactive : env.active with
  | false =>
      exact ⟨_, _, rfl, Ended.of_unresolved (by simp [resolvedZero, hactive]) rfl rfl rfl⟩
  | true =>
      rw [Bool.not_true, if_neg Bool.false_ne_true,
        Prog.eval_bind_of (env.eval_askService (.lookupJoint request.motorId) _)]
      cases hlookup : hw.lookupJointByMotorId request.motorId with
      | none =>
          exact ⟨_, _, rfl,
            Ended.of_unresolved (by simp [resolvedZero, hlookup]) rfl rfl rfl⟩
      | some target =>
          dsimp only
          cases hsemantics : controlModeUsesPositionSemantics target.controlMode with
          | false =>
              exact ⟨_, _, rfl, Ended.of_unresolved
                (by simp [resolvedZero, hlookup, hsemantics]) rfl rfl rfl⟩
          | true =>
              rw [Bool.not_true, if_neg Bool.false_ne_true]
              cases hauto : request.useCurrentPositionAsZero && !request.applyToMotor with
              | true =>
                  have hnot : (!request.useCurrentPositionAsZero || request.applyToMotor) =
                      false := by
                    rw [← Bool.not_not request.applyToMotor, ← Bool.not_and, hauto, Bool.not_true]
                  exact ⟨_, _, rfl, Ended.of_unresolved
                    (by simp [resolvedZero, hlookup, hnot]) rfl rfl rfl⟩
              | false =>
                  have hallowed : (!request.useCurrentPositionAsZero || request.applyToMotor) =
                      true := by
                    rw [← Bool.not_not request.applyToMotor, ← Bool.not_and, hauto, Bool.not_false]
                  rw [if_neg Bool.false_ne_true]
                  obtain ⟨w₁, hposition, hhw₁, hregister₁, hwrites₁, hasked₁, hfresh₁⟩ :=
                    env.eval_reportedPosition target hw register
                  rw [Prog.eval_bind_of hposition]
                  cases hreported : env.reportedPosition target with
                  | none =>
                      exact ⟨_, _, rfl, Ended.of_unresolved
                        (by simp [resolvedZero, hlookup, hreported]) rfl hhw₁ hregister₁⟩
                  | some reported =>
                      dsimp only
                      cases hstale : request.useCurrentPositionAsZero && !reported.2 with
                      | true =>
                          have hnone : env.resolvedZero hw register request = none := by
                            rw [resolvedZero, hactive, if_pos rfl, hlookup, Option.bind_some,
                              hsemantics, hallowed, Bool.and_true, if_pos rfl, hreported,
                              Option.bind_some, hstale, if_pos rfl]
                          exact ⟨_, _, rfl,
                            Ended.of_unresolved hnone rfl hhw₁ hregister₁⟩
                      | false =>
                          rw [if_neg Bool.false_ne_true]
                          have havailable : env.hasProtocol 0 = true := by
                            by_contra hno
                            rw [MaintenanceEnv.reportedPosition, if_neg hno] at hreported
                            exact absurd hreported (Option.some_ne_none reported).symm
                          have hresolved := env.eval_setZeroFrom persistToMotor request target
                            reported w₁ hasked₁ (hfresh₁ havailable) hwrites₁
                          rw [hhw₁, hregister₁] at hresolved
                          refine hresolved ?_
                          rw [resolvedZero, hactive, if_pos rfl, hlookup, Option.bind_some,
                            hsemantics, hallowed, Bool.and_true, if_pos rfl, hreported,
                            Option.bind_some, hstale, if_neg Bool.false_ne_true]

end MaintenanceEnv

end CanDriver
