import CanDriver.Cycle.Health

/-!
# CanDriver.Cycle.AutoFault

When a control cycle puts the system into `Faulted`.

The dispatch of a cycle is evaluated down to the one question that matters here, whether
it meets a fault on an axis it has a command for (`eval_dispatchPreparedCommands`); with the
motion check of `CanDriver.Cycle.Health` this gives the outcome of the whole cycle.
-/

namespace CanDriver

open Interact LifecycleDriverOps AxisReadinessEvaluator

namespace CycleEnv

variable (env : CycleEnv) (config : WriteConfig)

/-! ## the faults a dispatch meets -/

/-- The fault flag the dispatch of a command goes by. -/
def commandFault (group : CanDriverDeviceProtocolGroup) (command : CanDriverPreparedCommand) :
    Bool :=
  match motionStatus config env.shared env.nowNs
      (makeAxisKey group.canDevice group.protocol command.motorId) with
  | some status => status.2
  | none => env.hasFault group.canDevice group.protocol command.motorId

/-- Whether one of the joints has a valid command and a fault that stops it. -/
def jointsMeetFault (group : CanDriverDeviceProtocolGroup)
    (prepared : List CanDriverPreparedCommand) (valid : List Bool) (indices : List Nat) : Bool :=
  indices.any fun index => (prepared[index]?).any fun command =>
    command.valid && valid[index]?.getD false &&
      (config.safetyStopOnFault && env.commandFault config group command)

/-- Whether the groups have a joint with a valid command and a fault.  The commands of a
device that is not ready do not count, and none do once a device has come back. -/
def meetsFault (prepared : List CanDriverPreparedCommand) :
    List Bool → (String → Option Bool) → List CanDriverDeviceProtocolGroup → Bool
  | _, _, [] => false
  | valid, known, group :: groups =>
      let isReady := env.ready group.canDevice
      let known' := put known group.canDevice isReady
      if !isReady then
        meetsFault prepared
          (valid.mapIdx fun index v => if index ∈ group.jointIndices then false else v) known' groups
      else if config.safetyHoldAfterDeviceRecover && known group.canDevice == some false then
        meetsFault prepared (valid.map fun _ => false) known' groups
      else
        env.hasProtocol group.canDevice group.protocol &&
            env.jointsMeetFault config group prepared valid group.jointIndices ||
          meetsFault prepared valid known' groups

/-! ## the dispatch evaluates to it -/

@[simp] theorem eval_askHw (op : HwOp) (s : HwState) :
    (askHw op).eval env.handleHw s = env.handleHw op s := rfl

theorem eval_clock (s : HwState) :
    (askHw (.lifecycle .clock)).eval env.handleHw s = (env.nowNs, s) := rfl

theorem eval_shared (s : HwState) :
    (askHw (.lifecycle .shared)).eval env.handleHw s = (env.shared, s) := rfl

theorem eval_isDeviceReady (device : String) (s : HwState) :
    (askHw (.lifecycle (.isDeviceReady device))).eval env.handleHw s = (env.ready device, s) := rfl

theorem eval_hasProtocol (device : String) (protocol : CanType) (s : HwState) :
    (askHw (.hasProtocol device protocol)).eval env.handleHw s =
      (env.hasProtocol device protocol, s) := rfl

theorem eval_readHw (s : HwState) : readHw.eval env.handleHw s = (s.hw, s) := rfl

theorem eval_modifyHw (op : JointOp) (s : HwState) :
    (modifyHw op).eval env.handleHw s = ((), { s with hw := op.apply s.hw }) := rfl

theorem eval_holdCommands (s : HwState) :
    holdCommands.eval env.handleHw s =
      ((), { s with hw := s.hw.holdCommandsForLifecycleTransition }) := rfl

theorem eval_armFreshCommandLatch (s : HwState) :
    armFreshCommandLatch.eval env.handleHw s =
      ((), { s with gate := s.gate.arm s.hw.captureCommandSnapshots }) := rfl

/-- A ready device has come back if it was last seen not ready. -/
theorem recovered_iff (gate : CommandGate) (device : String) :
    (gate.deviceEvent device true == .recovered) =
      (gate.lastDeviceReadyState device == some false) := by
  rw [CommandGate.deviceEvent, if_pos rfl]
  cases gate.lastDeviceReadyState device with
  | none => rfl
  | some was => cases was <;> rfl

/-- States that differ in nothing the rest of a dispatch or the health check depends on. -/
structure SameDispatch (s s' : HwState) : Prop where
  valid : s'.hw.commandValidBuffer = s.hw.commandValidBuffer
  gate : s'.gate = s.gate
  lifecycle : s'.lifecycle = s.lifecycle

theorem SameDispatch.refl (s : HwState) : SameDispatch s s := ⟨rfl, rfl, rfl⟩

theorem SameDispatch.trans (h : SameDispatch s s') (h' : SameDispatch s' s'') :
    SameDispatch s s'' :=
  ⟨h'.valid.trans h.valid, h'.gate.trans h.gate, h'.lifecycle.trans h.lifecycle⟩

/-- Sending a command changes nothing that matters here. -/
theorem same_sendCommand (group : CanDriverDeviceProtocolGroup) (index : Nat)
    (command : CanDriverPreparedCommand) (status : Option (Bool × Bool)) (s : HwState) :
    SameDispatch s ((sendCommand config group index command status).eval env.handleHw s).2 := by
  have henabled : ∃ enabled, (dispatchEnabled group.canDevice group.protocol command.motorId
      status).eval env.handleHw s = (enabled, s) := by
    cases status with
    | none => exact ⟨_, rfl⟩
    | some status => exact ⟨_, rfl⟩
  obtain ⟨enabled, henabled⟩ := henabled
  rw [sendCommand, Prog.eval_bind_of henabled]
  split
  · exact .refl s
  · exact ⟨rfl, rfl, rfl⟩

/-- The fault flag is looked up without changing anything. -/
theorem eval_dispatchFault (group : CanDriverDeviceProtocolGroup)
    (command : CanDriverPreparedCommand) (s : HwState) :
    (dispatchFault group.canDevice group.protocol command.motorId
      (motionStatus config env.shared env.nowNs
        (makeAxisKey group.canDevice group.protocol command.motorId))).eval env.handleHw s =
      (env.commandFault config group command, s) := by
  rw [commandFault]
  cases motionStatus config env.shared env.nowNs
      (makeAxisKey group.canDevice group.protocol command.motorId) with
  | none => rfl
  | some status => rfl

/-- The dispatch of one joint. -/
theorem eval_dispatchJoint (group : CanDriverDeviceProtocolGroup) (index : Nat)
    (command : CanDriverPreparedCommand) (s : HwState) :
    let dispatched := (dispatchJoint config group index command
      (motionStatus config env.shared env.nowNs
        (makeAxisKey group.canDevice group.protocol command.motorId))).eval env.handleHw s
    dispatched.1 = (command.valid && s.hw.commandValidBuffer[index]?.getD false &&
        (config.safetyStopOnFault && env.commandFault config group command)) ∧
      SameDispatch s dispatched.2 := by
  dsimp only
  rw [dispatchJoint, Prog.eval_bind_of (env.eval_readHw s)]
  cases hvalid : command.valid && s.hw.commandValidBuffer[index]?.getD false with
  | false =>
      have hskip : (!command.valid || !s.hw.commandValidBuffer[index]?.getD false) = true := by
        rw [← Bool.not_and, hvalid]
        rfl
      rw [if_pos hskip]
      exact ⟨rfl, .refl s⟩
  | true =>
      have hskip : (!command.valid || !s.hw.commandValidBuffer[index]?.getD false) = false := by
        rw [← Bool.not_and, hvalid]
        rfl
      rw [if_neg (Bool.eq_false_iff.1 hskip),
        Prog.eval_bind_of (env.eval_dispatchFault config group command s), Bool.true_and]
      cases hfault : config.safetyStopOnFault && env.commandFault config group command with
      | true =>
          rw [if_pos rfl, Prog.eval_bind_of (env.eval_askHw (.hw _) s)]
          split
          · exact ⟨rfl, rfl, rfl, rfl⟩
          · exact ⟨rfl, rfl, rfl, rfl⟩
      | false =>
          rw [if_neg Bool.false_ne_true]
          split
          · rw [Prog.eval_bind_of (env.eval_modifyHw _ s), Prog.eval_bind]
            have hsame := same_sendCommand env config group index command (motionStatus config env.shared
              env.nowNs (makeAxisKey group.canDevice group.protocol command.motorId))
              { s with hw := s.hw.noteStopIssued index false }
            exact ⟨rfl, hsame.valid, hsame.gate, hsame.lifecycle⟩
          · rw [Prog.eval_bind]
            exact ⟨rfl, same_sendCommand env config group index command _ s⟩

/-- The inner loop of a dispatch. -/
theorem eval_dispatchJoints (group : CanDriverDeviceProtocolGroup)
    (prepared : List CanDriverPreparedCommand) (anyFault : Bool) (indices : List Nat)
    (s : HwState) :
    let dispatched := (dispatchJoints config group prepared
      (fun command => motionStatus config env.shared env.nowNs
        (makeAxisKey group.canDevice group.protocol command.motorId)) anyFault indices).eval
      env.handleHw s
    dispatched.1 =
        (anyFault || env.jointsMeetFault config group prepared s.hw.commandValidBuffer indices) ∧
      SameDispatch s dispatched.2 := by
  dsimp only
  induction indices generalizing anyFault s with
  | nil => exact ⟨(Bool.or_false _).symm, .refl s⟩
  | cons index indices ih =>
      rw [dispatchJoints, jointsMeetFault, List.any_cons]
      cases hcommand : prepared[index]? with
      | none => exact ih anyFault s
      | some command =>
          obtain ⟨hfault, hsame⟩ := env.eval_dispatchJoint config group index command s
          dsimp only
          rw [Prog.eval_bind, hfault]
          obtain ⟨hrest, hsame'⟩ := ih (anyFault || (command.valid &&
            s.hw.commandValidBuffer[index]?.getD false &&
            (config.safetyStopOnFault && env.commandFault config group command)))
            ((dispatchJoint config group index command (motionStatus config env.shared env.nowNs
              (makeAxisKey group.canDevice group.protocol command.motorId))).eval env.handleHw s).2
          refine ⟨?_, hsame.trans hsame'⟩
          rw [hrest, hsame.valid, Option.any_some, ← Bool.or_assoc]
          rfl

/-- The dispatch of one group. -/
theorem eval_dispatchGroup (group : CanDriverDeviceProtocolGroup)
    (prepared : List CanDriverPreparedCommand) (anyFault : Bool) (s : HwState) :
    let dispatched := (dispatchGroup config group prepared anyFault).eval env.handleHw s
    dispatched.1 = (anyFault || (env.hasProtocol group.canDevice group.protocol &&
        env.jointsMeetFault config group prepared s.hw.commandValidBuffer group.jointIndices)) ∧
      SameDispatch s dispatched.2 := by
  dsimp only
  rw [dispatchGroup, Prog.eval_bind_of (env.eval_clock s), Prog.eval_bind_of (env.eval_shared s),
    Prog.eval_bind_of (env.eval_hasProtocol _ _ s)]
  cases env.hasProtocol group.canDevice group.protocol with
  | false => exact ⟨(Bool.or_false _).symm, .refl s⟩
  | true =>
      obtain ⟨hfault, hsame⟩ := env.eval_dispatchJoints config group prepared anyFault
        group.jointIndices s
      rw [if_neg (by decide), Prog.eval_bind_of (env.eval_askHw (.lockDevice _) s), Prog.eval_bind]
      exact ⟨hfault, hsame.trans ⟨rfl, rfl, rfl⟩⟩

/-- **The dispatch** observes a fault exactly where it meets one, and touches neither the
target lists nor what the health check keeps. -/
theorem eval_dispatchPreparedCommands (prepared : List CanDriverPreparedCommand)
    (anyFault : Bool) (groups : List CanDriverDeviceProtocolGroup) (s : HwState) :
    let dispatched := (dispatchPreparedCommands config prepared anyFault groups).eval env.handleHw s
    dispatched.1 = (anyFault || env.meetsFault config prepared s.hw.commandValidBuffer
        s.gate.lastDeviceReadyState groups) ∧
      dispatched.2.lifecycle = s.lifecycle := by
  dsimp only
  induction groups generalizing anyFault s with
  | nil => exact ⟨(Bool.or_false _).symm, rfl⟩
  | cons group groups ih =>
      rw [dispatchPreparedCommands, meetsFault,
        Prog.eval_bind_of (env.eval_isDeviceReady _ s),
        Prog.eval_bind_of (env.eval_askHw (.gate _) s)]
      cases hready : env.ready group.canDevice with
      | false =>
          simp only [Bool.not_false, ↓reduceIte]
          rw [Prog.eval_bind_of (env.eval_modifyHw _ _)]
          exact ih anyFault _
      | true =>
          simp only [Bool.not_true, Bool.false_eq_true, ↓reduceIte, recovered_iff]
          split
          · rw [Prog.eval_bind_of (env.eval_holdCommands _),
              Prog.eval_bind_of (env.eval_armFreshCommandLatch _)]
            exact ih anyFault _
          · obtain ⟨hfault, hsame⟩ := env.eval_dispatchGroup config group prepared anyFault
              { s with gate := (GateOp.observe group.canDevice true).apply s.gate }
            rw [Prog.eval_bind, hfault]
            obtain ⟨hrest, hlifecycle⟩ := ih (anyFault ||
              (env.hasProtocol group.canDevice group.protocol &&
                env.jointsMeetFault config group prepared s.hw.commandValidBuffer
                  group.jointIndices))
              ((dispatchGroup config group prepared anyFault).eval env.handleHw
                { s with gate := (GateOp.observe group.canDevice true).apply s.gate }).2
            rw [hrest, hsame.valid, hsame.gate, ← Bool.or_assoc]
            exact ⟨rfl, hlifecycle.trans hsame.lifecycle⟩

/-! ## the cycle -/

/-- Whether the dispatch of a cycle meets a fault, the commands being prepared from the joints
as the limits leave them. -/
def cycleMeetsFault (limiter : CommandLimiter)
    (groups : List CanDriverDeviceProtocolGroup) (s : CycleState) : Bool :=
  let hw := s.hardware.hw.enforceLimits limiter
  env.meetsFault config (preparedCommands config env.rosNow hw)
    (prepareCommands config env.rosNow hw).commandValidBuffer
    s.hardware.gate.lastDeviceReadyState groups

/-- The first target that is not fit to move does not look stale. -/
def firstBlockTriggers (s : LifecycleState) : Bool :=
  (s.targets.lifecycleTargets.find? fun target =>
    !env.fitToMove s.tracking.evaluator target).any fun target =>
      !env.looksStale s.tracking.evaluator target

/-- The commands of a cycle. -/
theorem eval_commandCycle (limiter : CommandLimiter)
    (groups : List CanDriverDeviceProtocolGroup) (s : HwState) :
    let hw := s.hw.enforceLimits limiter
    let commanded := (commandCycle config limiter groups).eval env.handleHw s
    commanded.1 = env.meetsFault config (preparedCommands config env.rosNow hw)
        (prepareCommands config env.rosNow hw).commandValidBuffer s.gate.lastDeviceReadyState
        groups ∧
      commanded.2.lifecycle = s.lifecycle := by
  dsimp only
  rw [commandCycle, Prog.eval_bind_of (env.eval_modifyHw _ s),
    Prog.eval_bind_of (env.eval_askHw .rosNow _), Prog.eval_bind_of (env.eval_askHw (.hw _) _)]
  exact env.eval_dispatchPreparedCommands config _ false groups _

/-- Whether the fresh-command latch lets a cycle pass. -/
def latchPasses (s : HwState) : Bool :=
  !s.gate.freshCommandRequired || s.gate.satisfiedBy s.hw.captureCommandSnapshots

/-- The latch of a cycle. -/
theorem eval_consumeFreshCommandLatch (s : HwState) :
    ∃ gate, consumeFreshCommandLatchIfSatisfied.eval env.handleHw s =
        (latchPasses s, { s with gate }) ∧
      gate.lastDeviceReadyState = s.gate.lastDeviceReadyState := by
  rw [consumeFreshCommandLatchIfSatisfied, Prog.eval_bind_of (env.eval_askHw (.gate .read) s)]
  dsimp only [GateOp.apply]
  rw [latchPasses]
  cases s.gate.freshCommandRequired with
  | false => exact ⟨s.gate, rfl, rfl⟩
  | true =>
      exact ⟨s.gate.consume s.hw.captureCommandSnapshots, rfl,
        CommandGate.lastDeviceReadyState_consume _ _⟩

/-- The report of a cycle made in mode `Running`. -/
theorem eval_updateFromFeedback (unhealthy : Bool) (s : CycleState) (hmode : s.mode = .running) :
    ((updateFromFeedback unhealthy).eval env.handle s).2.mode =
      if unhealthy then .faulted else .running := by
  obtain ⟨mode, hardware⟩ := s
  subst hmode
  cases unhealthy <;> rfl

/-- The health check of a cycle made in mode `Running`. -/
theorem eval_lifecycleHealthHealthy (s : CycleState) (hmode : s.mode = .running)
    (hrequire : config.lifecycleRequireEnabledForRunning = true) :
    let checked := (lifecycleHealthHealthy config).eval env.handle s
    checked.1.any lifecycleDetailIsFaultTrigger =
        env.firstBlockTriggers s.hardware.lifecycle ∧
      checked.2.mode = .running := by
  have hload : load.eval env.handle s = (.running, s) := by rw [← hmode]; rfl
  dsimp only
  rw [lifecycleHealthHealthy, Prog.eval_bind_of hload]
  dsimp only
  rw [if_pos hrequire, eval_driver, eval_onLifecycle]
  refine ⟨?_, hmode⟩
  rw [eval_motionHealthyOnce, firstBlockTriggers, Option.any_map]
  congr 1
  funext target
  exact env.trigger_blockDetail s.hardware.lifecycle.tracking.evaluator target

/-- **The outcome of a cycle** that passes the latch in mode `Running`. -/
theorem eval_write (limiter : CommandLimiter)
    (groups : List CanDriverDeviceProtocolGroup) (s : CycleState)
    (hactive : env.active = true) (hmode : s.mode = .running)
    (hlatch : latchPasses s.hardware = true)
    (hrequire : config.lifecycleRequireEnabledForRunning = true) :
    ((write config limiter groups).eval env.handle s).2.mode =
      if env.cycleMeetsFault config limiter groups s ||
          env.firstBlockTriggers s.hardware.lifecycle then .faulted else .running := by
  have hload : ∀ s : CycleState, s.mode = .running → load.eval env.handle s = (.running, s) := by
    intro s hs
    rw [← hs]
    rfl
  have hactive' : (driver (askHw .active)).eval env.handle s = (true, s) := by
    rw [eval_driver, ← hactive]
    rfl
  obtain ⟨gate, hconsume, hknown⟩ := env.eval_consumeFreshCommandLatch s.hardware
  have hfresh : (driver consumeFreshCommandLatchIfSatisfied).eval env.handle s =
      (true, { s with hardware := { s.hardware with gate } }) := by
    rw [eval_driver, hconsume, hlatch]
  rw [write, Prog.eval_bind_of hactive', if_pos rfl, Prog.eval_bind_of (hload s hmode), if_pos rfl,
    Prog.eval_bind_of hfresh, if_pos rfl, Prog.eval_bind, eval_driver]
  obtain ⟨hfault, hlifecycle⟩ := env.eval_commandCycle config limiter groups
    { s.hardware with gate }
  rw [hfault, reportHealth]
  dsimp only
  rw [cycleMeetsFault, hknown]
  cases env.meetsFault config (preparedCommands config env.rosNow (s.hardware.hw.enforceLimits limiter))
      (prepareCommands config env.rosNow (s.hardware.hw.enforceLimits limiter)).commandValidBuffer
      s.hardware.gate.lastDeviceReadyState groups with
  | true =>
      simp only [↓reduceIte, Bool.true_or]
      rw [eval_updateFromFeedback]
      · rfl
      · exact hmode
  | false =>
      simp only [Bool.false_eq_true, ↓reduceIte, Bool.false_or]
      obtain ⟨hhealth, hmode'⟩ := env.eval_lifecycleHealthHealthy config
        { s with
          hardware := ((commandCycle config limiter groups).eval env.handleHw
            { s.hardware with gate }).2 } hmode hrequire
      rw [Prog.eval_bind, hhealth, eval_updateFromFeedback _ _ _ hmode', hlifecycle]

end CycleEnv

/-- **Auto-fault**: with some target in trouble, a cycle that passes the latch in mode
`Running` ends in `Faulted` if and only if the dispatch meets a fault on an axis it has a
command for, or the first target that is not fit to move does not look stale. -/
theorem autoFault_iff (env : CycleEnv) (config : WriteConfig)
    (limiter : CommandLimiter) (groups : List CanDriverDeviceProtocolGroup)
    (s : CycleState) (hactive : env.active = true) (hmode : s.mode = .running)
    (hlatch : CycleEnv.latchPasses s.hardware = true)
    (hrequire : config.lifecycleRequireEnabledForRunning = true) :
    ((∃ target ∈ s.hardware.lifecycle.targets.lifecycleTargets,
        env.InTrouble s.hardware.lifecycle.tracking.evaluator target) →
      ((write config limiter groups).eval env.handle s).2.mode = .faulted) ↔
    ((∃ target ∈ s.hardware.lifecycle.targets.lifecycleTargets,
        env.InTrouble s.hardware.lifecycle.tracking.evaluator target) →
      env.cycleMeetsFault config limiter groups s = true ∨
        env.firstBlockTriggers s.hardware.lifecycle = true) := by
  refine imp_congr_right fun _ => ?_
  rw [env.eval_write config limiter groups s hactive hmode hlatch hrequire]
  cases env.cycleMeetsFault config limiter groups s <;>
    cases env.firstBlockTriggers s.hardware.lifecycle <;> simp

/-- An axis that has fresh feedback but is not enabled. -/
def disabledTarget : Target := ⟨"lift", "can0", .PP, 2⟩

/-- An axis that has not been heard of for two seconds. -/
def silentTarget : Target := ⟨"wheel", "can0", .PP, 1⟩

/-- Both axes at two seconds: the first one silent, the second one fresh and disabled. -/
def silentAndDisabled : CycleEnv where
  nowNs := 2000000000
  shared :=
    ((SharedDriverState.mutateAxisFeedback {} silentTarget.axisKey fun f =>
      { f with feedbackSeen := true, lastRxSteadyNs := 1, faultValid := true, enabledValid := true,
               enabled := true }).mutateAxisFeedback disabledTarget.axisKey fun f =>
      { f with feedbackSeen := true, lastRxSteadyNs := 2000000000, faultValid := true,
               enabledValid := true }).mutateDeviceHealth "can0" fun health =>
      { health with transportReady := true }

/-- The joint of an axis, in velocity mode. -/
def velocityJoint (target : Target) : CanDriverJointConfig :=
  { name := target.name, motorId := target.motorId, protocol := target.protocol,
    canDevice := target.canDevice, controlMode := "velocity" }

/-- A cycle is about to begin, in mode `Running`, with these axes. -/
def runningWith (targets : List Target) : CycleState where
  mode := .running
  hardware :=
    { hw :=
        { joints := targets.map velocityJoint
          commandValidBuffer := targets.map fun _ => false }
      lifecycle := { targets := { targets } } }

/-- The group of the two axes. -/
def velocityGroup : CanDriverDeviceProtocolGroup := ⟨"can0", .PP, [0, 1]⟩

/-- The disabled axis is in trouble. -/
theorem inTrouble_disabled (evaluator : AxisReadinessEvaluator) (h : evaluator = {}) :
    silentAndDisabled.InTrouble evaluator disabledTarget := by
  subst h
  have hrecord : (silentAndDisabled.shared.getAxisFeedback disabledTarget.axisKey).any (fun f =>
      (silentAndDisabled.readiness {} disabledTarget f).feedbackFresh &&
        !readyForRun (silentAndDisabled.readiness {} disabledTarget f)) = true := by
    decide +kernel
  obtain ⟨feedback, hfeedback, h⟩ := (Option.any_eq_true _ _).1 hrecord
  rw [Bool.and_eq_true, Bool.not_eq_true'] at h
  exact .inr ⟨feedback, hfeedback, h⟩

/-- With the disabled axis first, the cycle notices it. -/
theorem disabled_first_faults :
    ((write {} keepCommands [velocityGroup]).eval silentAndDisabled.handle
      (runningWith [disabledTarget, silentTarget])).2.mode = .faulted :=
  (autoFault_iff silentAndDisabled {} keepCommands [velocityGroup]
    (runningWith [disabledTarget, silentTarget]) rfl rfl rfl rfl).2
    (fun _ => .inr (by decide +kernel))
    ⟨disabledTarget, List.mem_cons_self, inTrouble_disabled _ rfl⟩

/-- With the silent axis first, the cycle passes over the disabled one. -/
theorem silent_first_masks :
    (∃ target ∈ [silentTarget, disabledTarget], silentAndDisabled.InTrouble {} target) ∧
    ((write {} keepCommands [velocityGroup]).eval silentAndDisabled.handle
      (runningWith [silentTarget, disabledTarget])).2.mode = .running := by
  refine ⟨⟨disabledTarget, ?_, inTrouble_disabled _ rfl⟩, ?_⟩
  · exact List.mem_cons_of_mem _ List.mem_cons_self
  · decide +kernel

end CanDriver
