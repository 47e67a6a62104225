import CanDriver.Maintenance.ModeSwitch

/-!
# CanDriver.Maintenance.ModeAgreement

A request for a mode, and the three places that keep the mode of a joint.

The protocol notes the mode it selected, the shared state the mode that is wanted, and the
joint its own.  `setMode` changes the first two at once, and nothing takes that back when the
confirmation, the preload or a later step fails.
-/

namespace CanDriver

open Interact MotorMaintenanceService CanDriverHW

/-! ## whole switches -/

/-- A switch of the mode gives the joint its mode. -/
theorem lookup_commitModeSwitch {hw : CanDriverHW} {motorId : MotorID} {joint : CanDriverJointConfig}
    (hlookup : hw.lookupJointByMotorId motorId = some joint) (mode : AxisControlMode) :
    (hw.commitModeSwitch motorId mode).2.lookupJointByMotorId motorId =
      some (joint.switchMode mode) := by
  rw [lookupJointByMotorId, Option.map_eq_some_iff] at hlookup
  obtain ⟨⟨index, found⟩, hmatched, rfl⟩ := hlookup
  rw [commitModeSwitch, hmatched]
  exact lookup_setJoint hmatched rfl rfl

/-- The protocol, the shared state and the joint keep the modes they had. -/
structure ModesKept (hw : CanDriverHW) (modes : Modes) (motorId : MotorID)
    (w : ModeSwitchWorld) : Prop where
  modes : w.modes = modes
  joint : (w.base.hw.lookupJointByMotorId motorId).map (fun joint => joint.controlMode) =
    (hw.lookupJointByMotorId motorId).map (fun joint => joint.controlMode)

/-- The protocol, the shared state and the joint agree on a mode. -/
structure ModesAgree (axisMode : AxisControlMode) (motorId : MotorID) (w : ModeSwitchWorld) :
    Prop where
  modes : w.modes = ⟨protocolMotorModeFromAxisControlMode axisMode,
    protocolMotorModeFromAxisControlMode axisMode⟩
  joint : ∃ joint, w.base.hw.lookupJointByMotorId motorId = some joint ∧ joint.mode = axisMode

namespace ModeSwitchEnv

variable (env : ModeSwitchEnv) (hw : CanDriverHW) (register : Int32) (modes : Modes)
  (target : CanDriverJointConfig) (motorId : MotorID) (modeValue : Double)

/-- What a request for a mode returns, and what it leaves. -/
def setMode : SetModeResult × ModeSwitchWorld :=
  (handleSetModeRequest target motorId modeValue).eval env.handle
    { base := { hw, register }, modes }

/-- A mode that is set is the one all three end with, or the one the axis had.  An ECB does not
end with CSP, nor a PP drive with a mode that it does not report last; and a request that fails
later on has set what was set already. -/
structure SwitchesWhole (protocol : CanType) (mode : MotorMode) : Prop where
  setModeThrown : env.answer protocol (.setMode mode) = .thrown → env.setModeEnd.left = modes
  completed : env.answer protocol (.setMode mode) = .ok → env.completes protocol mode = true →
    (protocol = .ECB → mode ≠ .csp) ∧
      (protocol = .PP → env.reported mode (env.waits protocol mode).2 = mode)
  preloadThrown : env.answer protocol (.setMode mode) = .ok →
    env.preloadThrows protocol mode = true → env.preloadEnd.left = modes
  failed : env.answer protocol (.setMode mode) = .ok → env.completes protocol mode = false →
    env.preloadThrows protocol mode = false → modes = ⟨env.cachedLeft protocol mode, mode⟩

variable {env hw register modes target motorId modeValue}

variable (env register modes) in
/-- **Request**: a request for a mode ends before, at or after `setMode`. -/
theorem setMode_ended {axisMode : AxisControlMode}
    (hlookup : hw.lookupJointByMotorId motorId = some target)
    (hdecode : decodeModeSelection modeValue = some axisMode) :
    env.Ended hw modes target.protocol motorId axisMode
      (protocolMotorModeFromAxisControlMode axisMode)
      (env.setMode hw register modes target motorId modeValue).1
      (env.setMode hw register modes target motorId modeValue).2 := by
  rw [setMode, handleSetModeRequest, hdecode]
  dsimp only
  cases hrequires : modeSwitchRequiresDisabledAxis target.protocol with
  | false =>
      have hallowed : env.allowed target.protocol = true := by simp [allowed, hrequires]
      obtain ⟨result, w', heval, hended⟩ := env.eval_switchTo target motorId axisMode _
        { base := { hw, register }, modes } rfl hlookup (by rw [hrequires]; rfl) rfl rfl rfl hallowed
      rw [if_neg Bool.false_ne_true, heval]
      exact hended
  | true =>
      obtain ⟨message, hrequire, hdisabled⟩ := env.service.eval_requireDisabled_at target
        "Mode switch" { hw, register }
      have hallowed : env.allowed target.protocol = env.service.saysDisabledAt 0 := by
        simp [allowed, hrequires]
      rw [if_pos rfl, Prog.eval_bind_of (env.eval_inSwitch_of hrequire)]
      cases message with
      | some message =>
          have hnot : env.service.saysDisabledAt 0 = false := by
            rw [← Bool.not_eq_true, ← hdisabled]
            simp
          exact .unreached (by simp [reaches, hallowed, hnot]) rfl rfl rfl
      | none =>
          obtain ⟨result, w', heval, hended⟩ := env.eval_switchTo target motorId axisMode _
            { base := { hw, register, freshAsked := 1 }, modes } rfl hlookup
            (by rw [hrequires]; rfl) rfl rfl rfl (hallowed.trans (hdisabled.1 rfl))
          rw [heval]
          exact hended

/-- A switch that is accepted keeps the modes or makes all three agree exactly if it is whole. -/
theorem Switched.whole_iff {axisMode : AxisControlMode} {mode : MotorMode} {result : SetModeResult}
    {w' : ModeSwitchWorld} (hmode : protocolMotorModeFromAxisControlMode axisMode = mode)
    (hlookup : hw.lookupJointByMotorId motorId = some target)
    (hanswer : env.answer target.protocol (.setMode mode) = .ok)
    (hswitched : env.Switched hw target.protocol motorId axisMode mode result w') :
    ((result.success = false → ModesKept hw modes motorId w') ∧
      (result.success = true → ModesAgree axisMode motorId w')) ↔
    env.SwitchesWhole modes target.protocol mode := by
  have hkept : result.success = false → (ModesKept hw modes motorId w' ↔ w'.modes = modes) := by
    intro hfailed
    refine ⟨fun hkept => hkept.modes, fun hmodes => ⟨hmodes, ?_⟩⟩
    rw [hswitched.kept hfailed]
  have hagree : result.success = true →
      (ModesAgree axisMode motorId w' ↔ w'.modes = ⟨mode, mode⟩) := by
    intro hdone
    rw [← hmode]
    refine ⟨fun hagree => hagree.modes, fun hmodes => ⟨hmodes, target.switchMode axisMode, ?_, ?_⟩⟩
    · rw [hswitched.committed hdone]
      exact lookup_commitModeSwitch hlookup axisMode
    · exact axisControlModeFromString_name axisMode
  have hexclusive : env.preloadThrows target.protocol mode = true →
      env.completes target.protocol mode = false := by
    intro hthrows
    rw [preloadThrows, Bool.and_eq_true, decide_eq_true_eq] at hthrows
    simp [completes, hthrows.2]
  constructor
  · rintro ⟨hfailed, hdone⟩
    refine ⟨fun h => ?_, fun _ hcompletes => ?_, fun _ hthrows => ?_, fun _ hnot hthrows => ?_⟩
    · rw [hanswer] at h
      cases h
    · have hsuccess := hswitched.success.trans hcompletes
      have hmodes := ((hagree hsuccess).1 (hdone hsuccess))
      rw [hswitched.done hsuccess] at hmodes
      constructor
      · rintro hecb rfl
        rw [if_pos hecb, if_pos rfl] at hmodes
        exact absurd hmodes (by decide)
      · intro hpp
        rw [if_neg (by rw [hpp]; decide), hpp] at hmodes
        rw [hpp]
        exact congrArg Modes.cached hmodes
    · have hsuccess := hswitched.success.trans (hexclusive hthrows)
      rw [← hswitched.thrown hthrows]
      exact (hkept hsuccess).1 (hfailed hsuccess)
    · have hsuccess := hswitched.success.trans hnot
      rw [← hswitched.failed hsuccess hthrows]
      exact ((hkept hsuccess).1 (hfailed hsuccess)).symm
  · intro hwhole
    constructor
    · intro hsuccess
      have hnot := hswitched.success.symm.trans hsuccess
      refine (hkept hsuccess).2 ?_
      cases hthrows : env.preloadThrows target.protocol mode with
      | true => exact (hswitched.thrown hthrows).trans (hwhole.preloadThrown hanswer hthrows)
      | false =>
          exact (hswitched.failed hsuccess hthrows).trans (hwhole.failed hanswer hnot hthrows).symm
    · intro hsuccess
      have hcompletes := hswitched.success.symm.trans hsuccess
      obtain ⟨hecb, hpp⟩ := hwhole.completed hanswer hcompletes
      refine (hagree hsuccess).2 ((hswitched.done hsuccess).trans ?_)
      by_cases he : target.protocol = .ECB
      · rw [if_pos he, if_neg (hecb he)]
      · rw [if_neg he]
        by_cases hp : target.protocol = .PP
        · have hlast := hpp hp
          rw [hp] at hlast ⊢
          rw [cachedLeft, hlast]
        · rw [cachedLeft_eq hp, if_neg he]

/-- **Whole**: a request for a mode leaves all modes as they were where it fails, and makes them
agree where it succeeds, exactly if a switch that it gets to is whole. -/
theorem set_mode_whole_iff (hlookup : hw.lookupJointByMotorId motorId = some target) :
    (((env.setMode hw register modes target motorId modeValue).1.success = false →
        ModesKept hw modes motorId (env.setMode hw register modes target motorId modeValue).2) ∧
      ((env.setMode hw register modes target motorId modeValue).1.success = true →
        ∃ axisMode, decodeModeSelection modeValue = some axisMode ∧ ModesAgree axisMode motorId
          (env.setMode hw register modes target motorId modeValue).2)) ↔
    ∀ axisMode, decodeModeSelection modeValue = some axisMode →
      env.reaches target.protocol = true →
      env.SwitchesWhole modes target.protocol (protocolMotorModeFromAxisControlMode axisMode) := by
  cases hdecode : decodeModeSelection modeValue with
  | none =>
      have heval : env.setMode hw register modes target motorId modeValue =
          ({ message := "CMD_SET_MODE value must be 0 (position), 1 (velocity) or 2 (csp)." },
            { base := { hw, register }, modes }) := by
        rw [setMode, handleSetModeRequest, hdecode]
        rfl
      rw [heval]
      refine ⟨fun _ axisMode h => ?_, fun _ => ⟨fun _ => ⟨rfl, rfl⟩, fun h => ?_⟩⟩
      · exact absurd h (Option.some_ne_none axisMode).symm
      · cases h
  | some axisMode =>
      have hended := setMode_ended env register modes hlookup hdecode
      generalize env.setMode hw register modes target motorId modeValue = r at hended ⊢
      have hagree : (∃ other, some axisMode = some other ∧ ModesAgree other motorId r.2) ↔
          ModesAgree axisMode motorId r.2 := by
        simp only [Option.some.injEq, exists_eq_left']
      have hforall : ∀ P : AxisControlMode → Prop,
          (∀ other, some axisMode = some other → P other) ↔ P axisMode := by
        intro P
        simp only [Option.some.injEq, forall_eq']
      rw [hagree, hforall]
      cases hended with
      | unreached hreach hfailed hhw hmodes =>
          constructor
          · intro _ h
            exact absurd (hreach.symm.trans h) Bool.false_ne_true
          · intro _
            refine ⟨fun _ => ⟨hmodes, by rw [hhw]⟩, fun h => ?_⟩
            exact absurd (hfailed.symm.trans h) Bool.false_ne_true
      | rejected hreach hanswer hfailed hhw hmodes =>
          constructor
          · intro _ _
            refine ⟨fun h => ?_, fun h => ?_, fun h => ?_, fun h => ?_⟩
            all_goals
              rw [hanswer] at h
              cases h
          · intro _
            refine ⟨fun _ => ⟨hmodes, by rw [hhw]⟩, fun h => ?_⟩
            exact absurd (hfailed.symm.trans h) Bool.false_ne_true
      | thrown hreach hanswer hfailed hhw hmodes =>
          constructor
          · rintro ⟨hkept, -⟩ _
            refine ⟨fun _ => hmodes.symm.trans (hkept hfailed).modes, fun h => ?_, fun h => ?_,
              fun h => ?_⟩
            all_goals
              rw [hanswer] at h
              cases h
          · intro hwhole
            refine ⟨fun _ => ⟨hmodes.trans ((hwhole hreach).setModeThrown hanswer), by rw [hhw]⟩,
              fun h => ?_⟩
            exact absurd (hfailed.symm.trans h) Bool.false_ne_true
      | accepted hreach hanswer hswitched =>
          rw [hswitched.whole_iff rfl hlookup hanswer]
          exact ⟨fun hwhole _ => hwhole, fun hwhole => hwhole hreach⟩

end ModeSwitchEnv

/-! ### an MT joint -/

/-- The joint of an MT motor under velocity control. -/
def mtJoint : CanDriverJointConfig where
  name := "wheel"
  canDevice := "can0"
  controlMode := "velocity"
  motorId := 1
  protocol := .MT

/-- The only joint is the one of the MT motor. -/
def mtHardware : CanDriverHW where
  joints := [mtJoint]
  commandValidBuffer := [false]

/-- Feedback of its position. -/
def mtFeedback : AxisFeedbackState where
  key := { device := "can0", protocol := .MT, motorId := 1 }
  positionValid := true

/-- A drive that does all it is told, with fresh feedback. -/
def obedientSwitch : ModeSwitchEnv where
  service := { fresh := fun _ => some mtFeedback }

/-- CSP is set and then cannot be preloaded: the joint stays under velocity control, the protocol
and the shared state do not. -/
theorem csp_on_mt_leaves_modes :
    mtHardware.lookupJointByMotorId 1 = some mtJoint ∧
    (obedientSwitch.setMode mtHardware 0 ⟨.velocity, .velocity⟩ mtJoint 1 (.finite 2)).1.success =
      false ∧
    ¬ ModesKept mtHardware ⟨.velocity, .velocity⟩ 1
      (obedientSwitch.setMode mtHardware 0 ⟨.velocity, .velocity⟩ mtJoint 1 (.finite 2)).2 := by
  refine ⟨by decide +kernel, by decide +kernel, fun hkept => ?_⟩
  have hmoved := hkept.modes
  revert hmoved
  decide +kernel

/-- Position control is switched to as a whole. -/
theorem position_on_mt_agrees :
    ∃ axisMode, decodeModeSelection (.finite 0) = some axisMode ∧ ModesAgree axisMode 1
      (obedientSwitch.setMode mtHardware 0 ⟨.velocity, .velocity⟩ mtJoint 1 (.finite 0)).2 := by
  have hlookup : mtHardware.lookupJointByMotorId 1 = some mtJoint := by decide +kernel
  refine ((ModeSwitchEnv.set_mode_whole_iff hlookup).2 fun axisMode hdecode _ => ?_).2
    (by decide +kernel)
  have hposition : decodeModeSelection (.finite 0) = some .position := by decide +kernel
  rw [hposition] at hdecode
  rw [← Option.some.inj hdecode]
  refine ⟨fun h => ?_, fun _ _ => ⟨fun h => ?_, fun h => ?_⟩, fun _ h => ?_, fun _ h => ?_⟩
  · exact absurd h (by decide +kernel)
  · cases h
  · cases h
  · exact absurd h (by decide +kernel)
  · exact absurd h (by decide +kernel)

end CanDriver
