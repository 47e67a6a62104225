import CanDriver.LifecycleDriverOps

/-!
# CanDriver.Lifecycle.Questions

What a lifecycle request asks without acting on anything: the checks of one axis, the
rounds over all targets, and the loops that repeat them.

The programs of this module stay within `Asking`; whatever such an operation cannot change
is not changed by them (`Prog.wp_of_only`).
-/

namespace CanDriver

open Interact LifecycleDriverOps

/-- The operations that ask: the records, the protocols, the clock, the readiness evaluator. -/
def Asking : LifecycleOp → Prop
  | .readiness _ | .isDeviceReady _ | .hasFault _ | .isEnabled _ | .shared | .clock => True
  | _ => False

theorem stays_askOps {A : LifecycleOp → Prop} {op : LifecycleOp} (h : A op) :
    (askOps op).Stays A :=
  .vis (S := lifecycleSig) h fun _ => trivial

/-! ## one axis -/

theorem stays_evaluateAxisReadiness (axisKey : AxisKey) (feedback : AxisFeedbackState)
    (command : Option AxisCommandState) (intent : AxisIntent)
    (deviceHealth : Option DeviceHealthState) :
    (evaluateAxisReadiness axisKey feedback command intent deviceHealth).Stays Asking :=
  (stays_askOps trivial).bind fun _ => (stays_askOps trivial).bind fun _ => trivial

theorem stays_queryMotorFault (target : Target) : (queryMotorFault target).Stays Asking := by
  refine (stays_askOps trivial).bind fun shared => ?_
  cases shared.getAxisFeedback target.axisKey with
  | none => exact stays_askOps trivial
  | some feedback => exact .ite trivial (stays_askOps trivial)

theorem stays_queryMotorEnabled (target : Target) : (queryMotorEnabled target).Stays Asking := by
  refine (stays_askOps trivial).bind fun shared => ?_
  cases shared.getAxisFeedback target.axisKey with
  | none => exact stays_askOps trivial
  | some feedback => exact .ite trivial (stays_askOps trivial)

theorem stays_withFault (target : Target) (feedback : AxisFeedbackState) :
    (withFault target feedback).Stays Asking := by
  refine .ite trivial <| (stays_queryMotorFault target).bind fun fault => ?_
  cases fault with
  | none => trivial
  | some fault => trivial

theorem stays_withEnabled (target : Target) (needed : Bool) (feedback : AxisFeedbackState) :
    (withEnabled target needed feedback).Stays Asking := by
  refine .ite ?_ trivial
  refine (stays_queryMotorEnabled target).bind fun enabled => ?_
  cases enabled with
  | none => trivial
  | some enabled => trivial

theorem stays_faultBlock (target : Target) : (faultBlock target).Stays Asking := by
  refine (stays_queryMotorFault target).bind fun fault => ?_
  cases fault with
  | none => trivial
  | some fault => cases fault <;> trivial

theorem stays_enableBlock (target : Target) : (enableBlock target).Stays Asking := by
  refine (stays_askOps trivial).bind fun ready => .ite trivial ?_
  refine (stays_askOps trivial).bind fun shared => ?_
  cases shared.getAxisFeedback target.axisKey with
  | none => exact stays_faultBlock target
  | some feedback =>
      exact (stays_askOps trivial).bind fun _ => (stays_askOps trivial).bind fun _ =>
        (stays_withFault target feedback).bind fun _ =>
        (stays_evaluateAxisReadiness _ _ _ _ _).bind fun _ => .ite trivial trivial

theorem stays_motionBlock (target : Target) : (motionBlock target).Stays Asking := by
  refine (stays_askOps trivial).bind fun ready => .ite trivial ?_
  refine (stays_askOps trivial).bind fun shared => ?_
  cases shared.getAxisFeedback target.axisKey with
  | none => exact stays_faultBlock target
  | some feedback =>
      exact (stays_askOps trivial).bind fun _ => (stays_askOps trivial).bind fun _ =>
        (stays_withFault target feedback).bind fun _ => (stays_withEnabled target _ _).bind fun _ =>
        (stays_askOps trivial).bind fun _ =>
        (stays_evaluateAxisReadiness _ _ _ _ _).bind fun _ => .ite trivial trivial

theorem stays_unconfirmedEnable (target : Target) : (unconfirmedEnable target).Stays Asking := by
  refine (stays_askOps trivial).bind fun ready => .ite trivial ?_
  refine (stays_askOps trivial).bind fun shared => ?_
  cases shared.getAxisFeedback target.axisKey with
  | none =>
      refine (stays_queryMotorEnabled target).bind fun enabled => ?_
      cases enabled with
      | none => trivial
      | some enabled => cases enabled <;> trivial
  | some feedback =>
      exact (stays_askOps trivial).bind fun _ => (stays_askOps trivial).bind fun _ =>
        (stays_withFault target feedback).bind fun _ => (stays_withEnabled target _ _).bind fun _ =>
        (stays_evaluateAxisReadiness _ _ _ _ _).bind fun _ => .ite trivial trivial

theorem stays_unrecovered (target : Target) : (unrecovered target).Stays Asking := by
  refine (stays_askOps trivial).bind fun ready => .ite trivial ?_
  refine (stays_askOps trivial).bind fun shared => ?_
  cases shared.getAxisFeedback target.axisKey with
  | none =>
      refine (stays_queryMotorFault target).bind fun fault => ?_
      cases fault with
      | none => trivial
      | some fault => cases fault <;> trivial
  | some feedback =>
      exact (stays_askOps trivial).bind fun _ => (stays_askOps trivial).bind fun _ =>
        (stays_withFault target feedback).bind fun _ =>
        (stays_evaluateAxisReadiness _ _ _ _ _).bind fun _ => trivial

/-! ## all axes -/

theorem stays_firstBlock {A : LifecycleOp → Prop} {check : Target → Lifecycle (Option α)}
    (hcheck : ∀ target, (check target).Stays A) (targets : List Target) :
    (firstBlock check targets).Stays A := by
  induction targets with
  | nil => trivial
  | cons target targets ih =>
      refine (hcheck target).bind fun reason => ?_
      cases reason with
      | none => exact ih
      | some reason => trivial

theorem stays_healthyUntil {A : LifecycleOp → Prop} {once : Lifecycle (Option String)}
    (honce : once.Stays A) (hclock : A .clock) (deadline : Time) (polls : Nat) :
    (healthyUntil once deadline polls).Stays A := by
  induction polls with
  | zero => trivial
  | succ polls ih =>
      refine honce.bind fun detail => ?_
      cases detail with
      | none => trivial
      | some detail => exact .ite ((stays_askOps hclock).bind fun _ => .ite trivial ih) trivial

theorem stays_faultAmong (targets : List Target) : (faultAmong targets).Stays Asking := by
  refine (stays_firstBlock (fun target => ?_) targets).bind fun _ => trivial
  exact (stays_queryMotorFault target).bind fun _ => trivial

theorem stays_waitForEnabledUntil (targets : List Target) (deadline : Time) (detail : String)
    (polls : Nat) : (waitForEnabledUntil targets deadline detail polls).Stays Asking := by
  induction polls generalizing detail with
  | zero => trivial
  | succ polls ih =>
      refine (stays_askOps trivial).bind fun t => .ite ?_ trivial
      refine (stays_firstBlock stays_unconfirmedEnable targets).bind fun reason => ?_
      cases reason with
      | none => trivial
      | some reason => exact ih reason

/-- Waiting for the targets to show that they are enabled asks only. -/
theorem stays_waitForEnabledTargets (targets : List Target) :
    (waitForEnabledTargets targets).Stays Asking :=
  (stays_askOps trivial).bind fun _ => stays_waitForEnabledUntil targets _ _ _

theorem stays_recoverUntil (targets : List Target) (deadline : Time) (polls : Nat) :
    (recoverUntil targets deadline polls).Stays Asking := by
  induction polls with
  | zero => trivial
  | succ polls ih =>
      refine (stays_askOps trivial).bind fun t => .ite ?_ trivial
      refine (stays_firstBlock stays_unrecovered targets).bind fun reason => ?_
      cases reason with
      | none => trivial
      | some failure =>
          cases failure with
          | none => exact ih
          | some failure => trivial

end CanDriver
