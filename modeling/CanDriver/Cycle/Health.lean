import CanDriver.CanDriverIoRuntime
import Mathlib.Data.List.Infix

/-!
# CanDriver.Cycle.Health

Whether a control cycle notices that an axis is not fit to move.

A cycle that dispatches no command to a faulty axis asks `motionHealthyOnce`, which stops
at the first axis that is blocked, and takes the text of that block for harmless if it
speaks of stale feedback.  So the outcome depends on the first blocked axis alone
(`autoFault_iff`).
-/

namespace CanDriver

open Interact LifecycleDriverOps AxisReadinessEvaluator

/-! ## a cycle in a fixed environment -/

/-- What surrounds a control cycle: the shared state, the clocks, the devices and the
protocols. -/
structure CycleEnv where
  active : Bool := true
  shared : SharedDriverState := {}
  nowNs : Time := 0
  rosNow : Time := 0
  ready : String → Bool := fun _ => true
  hasProtocol : String → CanType → Bool := fun _ _ => true
  hasFault : String → CanType → MotorID → Bool := fun _ _ _ => false
  isEnabled : String → CanType → MotorID → Bool := fun _ _ _ => true

/-- What the lifecycle keeps. -/
structure LifecycleState where
  targets : LifecycleTargets := {}
  tracking : AxisReadinessTracking := {}

/-- What the hardware interface keeps, and the commands it has sent. -/
structure HwState where
  hw : CanDriverHW := {}
  gate : CommandGate := {}
  lifecycle : LifecycleState := {}
  sent : List (Nat × PreparedCommandRoute × Int32) := []

/-- All of it, with the mode of the coordinator. -/
structure CycleState where
  mode : SystemOpMode := .running
  hardware : HwState := {}

namespace CycleEnv

/-- The lifecycle operations of a cycle; the others do not occur in one. -/
def handleLifecycle (env : CycleEnv) : (op : LifecycleOp) → LifecycleState → op.Ans × LifecycleState
  | .targets f, s => (s.targets, { s with targets := f s.targets })
  | .readiness f, s => (s.tracking, { s with tracking := f s.tracking })
  | .isDeviceReady device, s => (env.ready device, s)
  | .hasFault target, s =>
      (if env.hasProtocol target.canDevice target.protocol then
        some (env.hasFault target.canDevice target.protocol target.motorId) else none, s)
  | .isEnabled target, s =>
      (if env.hasProtocol target.canDevice target.protocol then
        some (env.isEnabled target.canDevice target.protocol target.motorId) else none, s)
  | .shared, s => (env.shared, s)
  | .clock, s => (env.nowNs, s)
  | .loopback _, s => (fun _ => none, s)
  | .active _, s => ((), s)
  | .initDevice device _ _, s => (env.ready device, s)
  | .shutdownDevice _, s => ((), s)
  | .shutdownAll, s => ((), s)
  | .execute _ _, s => (.ok, s)
  | .hook _ _, s => (true, s)
  | .setDeviceRefreshRate _ _, s => ((), s)
  | .recoverDevices, s => ([], s)
  | .clearCommandState, s => ((), s)
  | .holdCommands, s => ((), s)
  | .armFreshCommandLatch, s => ((), s)

/-- The operations of the hardware interface. -/
def handleHw (env : CycleEnv) : (op : HwOp) → HwState → op.Ans × HwState
  | .lifecycle op, s =>
      ((env.handleLifecycle op s.lifecycle).1,
        { s with lifecycle := (env.handleLifecycle op s.lifecycle).2 })
  | .active, s => (env.active, s)
  | .hw op, s => (s.hw, { s with hw := op.apply s.hw })
  | .gate op, s => (s.gate, { s with gate := op.apply s.gate })
  | .rosNow, s => (env.rosNow, s)
  | .hasProtocol device protocol, s => (env.hasProtocol device protocol, s)
  | .lockDevice _, s => ((), s)
  | .unlockDevice _, s => ((), s)
  | .hasFault device protocol motorId, s => (env.hasFault device protocol motorId, s)
  | .isEnabled device protocol motorId, s => (env.isEnabled device protocol motorId, s)
  | .stop _ _ _, s => (true, s)
  | .send index route _ _ _ raw, s => (true, { s with sent := s.sent ++ [(index, route, raw)] })

/-- The operations of the coordinator. -/
def handle (env : CycleEnv) : (op : ModeOp hwSig) → CycleState → op.Ans × CycleState
  | .lock, s => ((), s)
  | .unlock, s => ((), s)
  | .load, s => (s.mode, s)
  | .store m, s => ((), { s with mode := m })
  | .exchange m, s => (s.mode, { s with mode := m })
  | .compareExchange expected desired, s =>
      (decide (s.mode = expected), { s with mode := if s.mode = expected then desired else s.mode })
  | .driver op, s =>
      ((env.handleHw op s.hardware).1, { s with hardware := (env.handleHw op s.hardware).2 })

variable (env : CycleEnv)

/-- A lifecycle program runs on what the lifecycle keeps. -/
@[simp] theorem eval_onLifecycle (p : Lifecycle α) (s : HwState) :
    (onLifecycle p).eval env.handleHw s =
      ((p.eval env.handleLifecycle s.lifecycle).1,
        { s with lifecycle := (p.eval env.handleLifecycle s.lifecycle).2 }) :=
  Prog.eval_mapOp (fun lifecycle => { s with lifecycle }) (fun _ _ => ⟨rfl, rfl⟩) p s.lifecycle

/-- A program behind the driver table leaves the mode alone. -/
@[simp] theorem eval_driver (p : Hardware α) (s : CycleState) :
    (driver p).eval env.handle s =
      ((p.eval env.handleHw s.hardware).1,
        { s with hardware := (p.eval env.handleHw s.hardware).2 }) :=
  Prog.eval_mapOp (fun hardware => { s with hardware }) (fun _ _ => ⟨rfl, rfl⟩) p s.hardware

/-! ## the health of an axis -/

/-- The fault flag `queryMotorFault` finds. -/
def fault (target : Target) : Option Bool :=
  let protocolFault :=
    if env.hasProtocol target.canDevice target.protocol then
      some (env.hasFault target.canDevice target.protocol target.motorId) else none
  match env.shared.getAxisFeedback target.axisKey with
  | some feedback =>
      if feedback.feedbackSeen && feedback.faultValid then some feedback.fault else protocolFault
  | none => protocolFault

/-- The enable flag `queryMotorEnabled` finds. -/
def enabled (target : Target) : Option Bool :=
  let protocolEnabled :=
    if env.hasProtocol target.canDevice target.protocol then
      some (env.isEnabled target.canDevice target.protocol target.motorId) else none
  match env.shared.getAxisFeedback target.axisKey with
  | some feedback =>
      if feedback.feedbackSeen && feedback.enabledValid then some feedback.enabled
      else protocolEnabled
  | none => protocolEnabled

/-- The record of an axis, with the fault flag asked for if it is unknown. -/
def faultFilled (target : Target) (feedback : AxisFeedbackState) : AxisFeedbackState :=
  if feedback.faultValid then feedback
  else
    match env.fault target with
    | some fault => { feedback with fault, faultValid := true }
    | none => feedback

/-- Likewise the enable flag. -/
def enabledFilled (target : Target) (feedback : AxisFeedbackState) : AxisFeedbackState :=
  if !feedback.enabledValid then
    match env.enabled target with
    | some enabled => { feedback with enabled, enabledValid := true }
    | none => feedback
  else feedback

/-- The readiness of an axis as the motion check sees it. -/
def readiness (evaluator : AxisReadinessEvaluator) (target : Target)
    (feedback : AxisFeedbackState) : AxisReadiness :=
  let command := env.shared.getAxisCommand target.axisKey
  evaluator.evaluate
    (withDesiredMode target command (env.enabledFilled target (env.faultFilled target feedback)))
    command (env.shared.getAxisIntent target.axisKey)
    (env.shared.getDeviceHealth target.canDevice) env.nowNs

/-- An axis fit to move: its device is ready, and its record says so, or there is no record
and the protocol reports no fault. -/
def fitToMove (evaluator : AxisReadinessEvaluator) (target : Target) : Bool :=
  env.ready target.canDevice &&
    match env.shared.getAxisFeedback target.axisKey with
    | some feedback => readyForRun (env.readiness evaluator target feedback)
    | none => env.fault target == some false

/-- What the motion check says of an axis that is not fit to move. -/
def blockDetail (evaluator : AxisReadinessEvaluator) (target : Target) : String :=
  if !env.ready target.canDevice then "CAN device not ready."
  else
    match env.shared.getAxisFeedback target.axisKey with
    | some feedback =>
        target.name ++ ": " ++ describeBlockReason (env.readiness evaluator target feedback)
    | none => if (env.fault target).isNone then "Protocol not available." else "Fault still active."

/-- An axis in trouble: its device is not ready, or it has fresh feedback and is still not
ready to run. -/
def InTrouble (evaluator : AxisReadinessEvaluator) (target : Target) : Prop :=
  env.ready target.canDevice = false ∨
    ∃ feedback, env.shared.getAxisFeedback target.axisKey = some feedback ∧
      (env.readiness evaluator target feedback).feedbackFresh = true ∧
      readyForRun (env.readiness evaluator target feedback) = false

/-- An axis whose record is only too old; or an axis with a record whose name reads like
that. -/
def looksStale (evaluator : AxisReadinessEvaluator) (target : Target) : Bool :=
  env.ready target.canDevice &&
    (env.shared.getAxisFeedback target.axisKey).any fun feedback =>
      let readiness := env.readiness evaluator target feedback
      readiness.deviceReady && readiness.feedbackSeen && !readiness.degraded &&
        !readiness.feedbackFresh || contains target.name "Feedback stale."

/-! ## the health check evaluates to it -/

@[simp] theorem eval_askOps (op : LifecycleOp) (s : LifecycleState) :
    (askOps op).eval env.handleLifecycle s = env.handleLifecycle op s := rfl

@[simp] theorem eval_queryMotorFault (target : Target) (s : LifecycleState) :
    (queryMotorFault target).eval env.handleLifecycle s = (env.fault target, s) := by
  rw [queryMotorFault, Prog.eval_bind, eval_askOps]
  dsimp only [handleLifecycle]
  rw [fault]
  cases env.shared.getAxisFeedback target.axisKey with
  | none => rfl
  | some feedback =>
      dsimp only
      split <;> rfl

@[simp] theorem eval_queryMotorEnabled (target : Target) (s : LifecycleState) :
    (queryMotorEnabled target).eval env.handleLifecycle s = (env.enabled target, s) := by
  rw [queryMotorEnabled, Prog.eval_bind, eval_askOps]
  dsimp only [handleLifecycle]
  rw [enabled]
  cases env.shared.getAxisFeedback target.axisKey with
  | none => rfl
  | some feedback =>
      dsimp only
      split <;> rfl

@[simp] theorem eval_withFault (target : Target) (feedback : AxisFeedbackState)
    (s : LifecycleState) :
    (withFault target feedback).eval env.handleLifecycle s =
      (env.faultFilled target feedback, s) := by
  rw [withFault, faultFilled]
  split
  · rfl
  · rw [Prog.eval_bind, eval_queryMotorFault]
    cases env.fault target with
    | none => rfl
    | some fault => rfl

@[simp] theorem eval_withEnabled (target : Target) (feedback : AxisFeedbackState)
    (s : LifecycleState) :
    (withEnabled target (!feedback.enabledValid) feedback).eval env.handleLifecycle s =
      (env.enabledFilled target feedback, s) := by
  rw [withEnabled, enabledFilled]
  split
  · rw [Prog.eval_bind, eval_queryMotorEnabled]
    cases env.enabled target with
    | none => rfl
    | some enabled => rfl
  · rfl

/-- The readiness with another answer to whether the recovery is confirmed. -/
def confirm (readiness : AxisReadiness) (confirmed : Bool) : AxisReadiness :=
  { readiness with recoverConfirmed := confirmed }

@[simp] theorem readyForRun_confirm (readiness : AxisReadiness) (confirmed : Bool) :
    readyForRun (confirm readiness confirmed) = readyForRun readiness := rfl

/-- The tracked evaluation differs from the evaluation in what it says about recovery, and
keeps the evaluator. -/
theorem evaluateAxisReadiness_eq (s : AxisReadinessTracking) (key : AxisKey)
    (feedback : AxisFeedbackState) (command : Option AxisCommandState) (intent : AxisIntent)
    (deviceHealth : Option DeviceHealthState) (nowNs : Time) :
    (∃ confirmed, (s.evaluateAxisReadiness key feedback command intent deviceHealth nowNs).1 =
      confirm (s.evaluator.evaluate feedback command intent deviceHealth nowNs) confirmed) ∧
    (s.evaluateAxisReadiness key feedback command intent deviceHealth nowNs).2.evaluator =
      s.evaluator := by
  rw [AxisReadinessTracking.evaluateAxisReadiness]
  dsimp only
  split
  · exact ⟨⟨_, rfl⟩, rfl⟩
  · split
    · exact ⟨⟨_, rfl⟩, rfl⟩
    · exact ⟨⟨_, rfl⟩, rfl⟩

/-- What is said about recovery does not matter to an axis that is not ready to run. -/
theorem describeBlockReason_confirm {config : AxisReadinessEvaluator}
    {feedback : AxisFeedbackState} {command : Option AxisCommandState} {intent : AxisIntent}
    {deviceHealth : Option DeviceHealthState} {nowNs : Time} (confirmed : Bool)
    (h : readyForRun (config.evaluate feedback command intent deviceHealth nowNs) = false) :
    describeBlockReason
        (confirm (config.evaluate feedback command intent deviceHealth nowNs) confirmed) =
      describeBlockReason (config.evaluate feedback command intent deviceHealth nowNs) := by
  simp only [readyForRun, evaluate, evaluateBase] at h
  simp only [describeBlockReason, confirm, evaluate, evaluateBase, recoverPending]
  grind

/-- States of the lifecycle that a check cannot tell apart: the same targets, judged alike. -/
def SameChecks (s s' : LifecycleState) : Prop :=
  s'.targets = s.targets ∧ s'.tracking.evaluator = s.tracking.evaluator

theorem eval_evaluateAxisReadiness (key : AxisKey) (feedback : AxisFeedbackState)
    (command : Option AxisCommandState) (intent : AxisIntent)
    (deviceHealth : Option DeviceHealthState) (s : LifecycleState) :
    (evaluateAxisReadiness key feedback command intent deviceHealth).eval env.handleLifecycle s =
      ((s.tracking.evaluateAxisReadiness key feedback command intent deviceHealth env.nowNs).1,
        { s with
          tracking := (s.tracking.evaluateAxisReadiness key feedback command intent deviceHealth
            env.nowNs).2 }) := rfl

/-- The motion check of an axis whose device is not ready. -/
theorem eval_motionBlock_down (target : Target) (s : LifecycleState)
    (hready : env.ready target.canDevice = false) :
    (motionBlock target).eval env.handleLifecycle s = (some "CAN device not ready.", s) := by
  rw [motionBlock, Prog.eval_bind, eval_askOps]
  simp only [handleLifecycle, hready, Bool.not_false, ↓reduceIte, Prog.pure_eq, Prog.eval_ret]

/-- The motion check of an axis without a record. -/
theorem eval_motionBlock_unseen (target : Target) (s : LifecycleState)
    (hready : env.ready target.canDevice = true)
    (hfeedback : env.shared.getAxisFeedback target.axisKey = none) :
    (motionBlock target).eval env.handleLifecycle s =
      (if env.fault target = some false then none
        else if (env.fault target).isNone then some "Protocol not available."
        else some "Fault still active.", s) := by
  rw [motionBlock, Prog.eval_bind, eval_askOps]
  simp only [handleLifecycle, hready, Bool.not_true, Bool.false_eq_true, ↓reduceIte]
  rw [Prog.eval_bind, eval_askOps]
  simp only [handleLifecycle, hfeedback]
  rw [faultBlock, Prog.eval_bind, eval_queryMotorFault]
  cases env.fault target with
  | none => rfl
  | some fault => cases fault <;> rfl

/-- The motion check of an axis with a record. -/
theorem eval_motionBlock_seen (target : Target) (s : LifecycleState)
    (hready : env.ready target.canDevice = true)
    (hfeedback : env.shared.getAxisFeedback target.axisKey = some feedback) :
    ((motionBlock target).eval env.handleLifecycle s).1 =
        (if readyForRun (env.readiness s.tracking.evaluator target feedback) then none
          else some (target.name ++ ": " ++
            describeBlockReason (env.readiness s.tracking.evaluator target feedback))) ∧
      SameChecks s ((motionBlock target).eval env.handleLifecycle s).2 := by
  obtain ⟨⟨confirmed, hreadiness⟩, hevaluator⟩ := evaluateAxisReadiness_eq s.tracking target.axisKey
    (withDesiredMode target (env.shared.getAxisCommand target.axisKey)
      (env.enabledFilled target (env.faultFilled target feedback)))
    (env.shared.getAxisCommand target.axisKey) (env.shared.getAxisIntent target.axisKey)
    (env.shared.getDeviceHealth target.canDevice) env.nowNs
  rw [motionBlock, Prog.eval_bind, eval_askOps]
  simp only [handleLifecycle, hready, Bool.not_true, Bool.false_eq_true, ↓reduceIte]
  rw [Prog.eval_bind, eval_askOps]
  simp only [handleLifecycle, hfeedback]
  rw [Prog.eval_bind_of (env.eval_askOps .shared s), Prog.eval_bind_of (env.eval_askOps .shared s),
    Prog.eval_bind_of (env.eval_withFault target feedback s),
    Prog.eval_bind_of (env.eval_withEnabled target _ s),
    Prog.eval_bind_of (env.eval_askOps .shared s),
    Prog.eval_bind_of (env.eval_evaluateAxisReadiness _ _ _ _ _ s)]
  simp only [hreadiness, readyForRun_confirm]
  rw [readiness]
  split
  · exact ⟨rfl, rfl, hevaluator⟩
  · next hnot =>
      rw [describeBlockReason_confirm confirmed (Bool.eq_false_iff.2 hnot)]
      exact ⟨rfl, rfl, hevaluator⟩

/-- **The motion check of an axis** finds what keeps it from moving, if anything. -/
theorem eval_motionBlock (target : Target) (s : LifecycleState) :
    ((motionBlock target).eval env.handleLifecycle s).1 =
        (if env.fitToMove s.tracking.evaluator target then none
          else some (env.blockDetail s.tracking.evaluator target)) ∧
      SameChecks s ((motionBlock target).eval env.handleLifecycle s).2 := by
  rw [fitToMove, blockDetail]
  cases hready : env.ready target.canDevice with
  | false =>
      rw [eval_motionBlock_down env target s hready]
      exact ⟨rfl, rfl, rfl⟩
  | true =>
      cases hfeedback : env.shared.getAxisFeedback target.axisKey with
      | none =>
          rw [eval_motionBlock_unseen env target s hready hfeedback]
          refine ⟨?_, rfl, rfl⟩
          cases env.fault target with
          | none => rfl
          | some fault => cases fault <;> rfl
      | some feedback =>
          have hseen := eval_motionBlock_seen env target s hready hfeedback
          simpa using hseen

/-- The round over the targets finds the first that is not fit to move. -/
theorem eval_firstBlock (targets : List Target) (s : LifecycleState) :
    ((firstBlock motionBlock targets).eval env.handleLifecycle s).1 =
        (targets.find? fun target => !env.fitToMove s.tracking.evaluator target).map
          (env.blockDetail s.tracking.evaluator) ∧
      SameChecks s ((firstBlock motionBlock targets).eval env.handleLifecycle s).2 := by
  induction targets generalizing s with
  | nil => exact ⟨rfl, rfl, rfl⟩
  | cons target targets ih =>
      obtain ⟨hdetail, htargets, hevaluator⟩ := env.eval_motionBlock target s
      rw [firstBlock, Prog.eval_bind, hdetail, List.find?_cons]
      cases env.fitToMove s.tracking.evaluator target with
      | false => exact ⟨rfl, htargets, hevaluator⟩
      | true =>
          obtain ⟨hrest, hsame⟩ := ih ((motionBlock target).eval env.handleLifecycle s).2
          rw [hevaluator] at hrest
          exact ⟨hrest, hsame.1.trans htargets, hsame.2.trans hevaluator⟩

/-- **The motion check** reports the first target that is not fit to move. -/
theorem eval_motionHealthyOnce (s : LifecycleState) :
    (motionHealthyOnce.eval env.handleLifecycle s).1 =
      (s.targets.lifecycleTargets.find? fun target =>
        !env.fitToMove s.tracking.evaluator target).map
          (env.blockDetail s.tracking.evaluator) := by
  rw [motionHealthyOnce, Prog.eval_bind]
  exact (env.eval_firstBlock s.targets.lifecycleTargets s).1

/-! ## what the text of a block gives away -/

end CycleEnv

/-- A text contains another one if it is an infix. -/
theorem contains_iff (text part : String) :
    contains text part = true ↔ part.toList <:+: text.toList := by
  simp only [contains, List.any_eq_true, List.mem_tails, List.isPrefixOf_iff_prefix,
    List.infix_iff_prefix_suffix]
  exact exists_congr fun tail => and_comm

/-- What does not contain a separator lies on one side of it. -/
theorem infix_of_infix_separated {c : Char} {part xs ys : List Char}
    (h : part <:+: xs ++ c :: ys) (hc : c ∉ part) : part <:+: xs ∨ part <:+: ys := by
  obtain ⟨s, t, heq⟩ := h
  rw [List.append_assoc] at heq
  rcases List.append_eq_append_iff.1 heq with ⟨a, rfl, hpart⟩ | ⟨a, rfl, hpart⟩
  · rcases List.append_eq_append_iff.1 hpart with ⟨b, rfl, _⟩ | ⟨b, rfl, hb⟩
    · exact .inl ⟨s, b, by simp⟩
    · cases b with
      | nil => exact .inl ⟨s, [], by simp⟩
      | cons d b =>
          rw [List.cons_append, List.cons.injEq] at hb
          exact absurd (hb.1 ▸ by simp) hc
  · cases a with
    | nil =>
        cases part with
        | nil => exact .inr (List.nil_infix)
        | cons d part =>
            simp only [List.nil_append, List.cons_append, List.cons.injEq] at hpart
            exact absurd (hpart.1 ▸ List.mem_cons_self) hc
    | cons d a =>
        rw [List.cons_append, List.cons.injEq] at hpart
        exact .inr ⟨a, t, by rw [hpart.2, List.append_assoc]⟩

/-- The text of a block speaks of stale feedback if the name or the reason does. -/
theorem contains_stale (name reason : String) :
    contains (name ++ ": " ++ reason) "Feedback stale." =
      (contains name "Feedback stale." || contains reason "Feedback stale.") := by
  rw [Bool.eq_iff_iff, Bool.or_eq_true, contains_iff, contains_iff, contains_iff]
  have hlist : (name ++ ": " ++ reason).toList = name.toList ++ ':' :: ' ' :: reason.toList := by
    simp
  rw [hlist]
  constructor
  · intro h
    rcases infix_of_infix_separated h (by decide) with h | h
    · exact .inl h
    · rcases List.infix_cons_iff.1 h with h | h
      · obtain ⟨t, ht⟩ := h
        exact absurd (List.cons.inj ht).1 (by decide)
      · exact .inr h
  · rintro (⟨s, t, h⟩ | ⟨s, t, h⟩)
    · exact ⟨s, t ++ ':' :: ' ' :: reason.toList, by rw [← h]; simp⟩
    · exact ⟨name.toList ++ ':' :: ' ' :: s, t, by rw [← h]; simp⟩

/-- The reason speaks of stale feedback if the record is only too old. -/
theorem contains_describeBlockReason (readiness : AxisReadiness) :
    contains (describeBlockReason readiness) "Feedback stale." =
      (readiness.deviceReady && readiness.feedbackSeen && !readiness.degraded &&
        !readiness.feedbackFresh) := by
  have hstale : contains "Feedback stale." "Feedback stale." = true := by decide +kernel
  have hother : ∀ reason ∈ ["Feedback offline.", "Feedback degraded.", "Fault state unknown.",
      "Fault still active.", "Enable state unknown.", "Axis not enabled.", "Mode not ready.",
      "Axis still recovering.", ""], contains reason "Feedback stale." = false := by
    decide +kernel
  simp only [List.forall_mem_cons] at hother
  rw [describeBlockReason]
  grind

namespace CycleEnv

variable (env : CycleEnv)

/-- **The text of a block**: it is taken for harmless exactly where the axis looks stale. -/
theorem trigger_blockDetail (evaluator : AxisReadinessEvaluator) (target : Target) :
    lifecycleDetailIsFaultTrigger (env.blockDetail evaluator target) =
      !env.looksStale evaluator target := by
  rw [lifecycleDetailIsFaultTrigger, blockDetail, looksStale]
  cases hready : env.ready target.canDevice with
  | false =>
      simp only [Bool.not_false, ↓reduceIte, Bool.false_and]
      decide +kernel
  | true =>
      simp only [Bool.not_true, Bool.false_eq_true, ↓reduceIte, Bool.true_and]
      cases hfeedback : env.shared.getAxisFeedback target.axisKey with
      | none =>
          dsimp only [Option.any_none]
          split_ifs <;> decide +kernel
      | some feedback =>
          dsimp only [Option.any_some]
          rw [contains_stale, contains_describeBlockReason, Bool.or_comm]

end CycleEnv

end CanDriver
