import CanDriver.CanDriverRuntime
import CanDriver.Lifecycle.Questions
import CanDriver.Lib.Pool

/-!
# CanDriver.Lifecycle.Targets

Which axes a lifecycle request acts on.

`LifecycleDriverOps` keeps a list of active targets, filled by `initializeDevice`, and
falls back on all configured targets when it is empty.  The lifecycle path brings its
devices up through `prepareDevice` instead, so the list stays empty over every run
(`noneActive_reached`) and every request acts on every configured target.  That is what
it should do exactly while all configured devices are up (`requests_actOn_up_iff`).
-/

namespace CanDriver

open Interact LifecycleDriverOps CanDriverRuntime

/-! ## the outside of the lifecycle -/

/-- What the lifecycle works on: the target lists, which devices are up (initialised,
and not shut down since), and the motor actions carried out so far. -/
structure LifecycleWorld where
  lists : LifecycleTargets := {}
  up : String → Bool := fun _ => false
  acted : List (MotorAction × Target) := []

namespace LifecycleWorld

/-- The world after an operation has been answered. -/
def after (w : LifecycleWorld) : (op : LifecycleOp) → op.Ans → LifecycleWorld
  | .targets f, _ => { w with lists := f w.lists }
  | .initDevice device _ _, ok => { w with up := Function.update w.up device ok }
  | .shutdownDevice device, _ => { w with up := Function.update w.up device false }
  | .shutdownAll, _ => { w with up := fun _ => false }
  | .execute action target, _ => { w with acted := w.acted ++ [(action, target)] }
  | _, _ => w

/-- The target lists are what was stored; everything else may be answered at will. -/
def Admits (w : LifecycleWorld) : (op : LifecycleOp) → op.Ans → Prop
  | .targets _, r => r = w.lists
  | _, _ => True

/-- The configured targets whose device is up. -/
def upTargets (w : LifecycleWorld) : List Target :=
  w.lists.targets.filter fun target => w.up target.canDevice

end LifecycleWorld

/-- The lifecycle meets its world. -/
def lifecycleWorld : Protocol lifecycleSig LifecycleWorld where
  allow _ _ := True
  accepts := LifecycleWorld.Admits
  next := LifecycleWorld.after

/-- Every operation has an answer. -/
theorem lifecycleWorld_answers (w : LifecycleWorld) (op : LifecycleOp) :
    ∃ r, lifecycleWorld.accepts w op r := by
  cases op with
  | targets f => exact ⟨w.lists, rfl⟩
  | readiness f => exact ⟨{}, trivial⟩
  | loopback f => exact ⟨fun _ => none, trivial⟩
  | active b => exact ⟨(), trivial⟩
  | initDevice device motors loopback => exact ⟨true, trivial⟩
  | shutdownDevice device => exact ⟨(), trivial⟩
  | shutdownAll => exact ⟨(), trivial⟩
  | execute action target => exact ⟨.ok, trivial⟩
  | isDeviceReady device => exact ⟨true, trivial⟩
  | hasFault target => exact ⟨none, trivial⟩
  | isEnabled target => exact ⟨none, trivial⟩
  | shared => exact ⟨{}, trivial⟩
  | clock => exact ⟨0, trivial⟩
  | hook hook device => exact ⟨true, trivial⟩
  | setDeviceRefreshRate device startup => exact ⟨(), trivial⟩
  | recoverDevices => exact ⟨[], trivial⟩
  | clearCommandState => exact ⟨(), trivial⟩
  | holdCommands => exact ⟨(), trivial⟩
  | armFreshCommandLatch => exact ⟨(), trivial⟩

/-! ## requests -/

/-- The requests and health checks that look for their targets themselves. -/
inductive LifecycleRequest where
  | enableAll | disableAll | haltAll | recoverAll | enableHealthy | motionHealthy | anyFaultActive
deriving DecidableEq, Repr

/-- A health check as a result. -/
def healthResult (check : Lifecycle (Bool × String)) : Lifecycle Result := do
  let (ok, detail) ← check
  pure ⟨ok, detail⟩

/-- A question as a result. -/
def faultResult (check : Lifecycle Bool) : Lifecycle Result := do
  let fault ← check
  pure ⟨fault, ""⟩

/-- A health check that is repeated until its time is up. -/
def healthyFor (once : Lifecycle (Option String)) (timeoutMs : Int) (polls : Nat) :
    Lifecycle (Bool × String) := do
  let t ← askOps .clock
  healthyUntil once (t + ms timeoutMs) polls

/-- The program of a request. -/
def LifecycleRequest.code : LifecycleRequest → Lifecycle Result
  | .enableAll => LifecycleDriverOps.enableAll
  | .disableAll => LifecycleDriverOps.disableAll
  | .haltAll => LifecycleDriverOps.haltAll
  | .recoverAll => LifecycleDriverOps.recoverAll
  | .enableHealthy => healthResult LifecycleDriverOps.enableHealthy
  | .motionHealthy => healthResult LifecycleDriverOps.motionHealthy
  | .anyFaultActive => faultResult LifecycleDriverOps.anyFaultActive

/-- What a request should do when it is to act on these targets. -/
def LifecycleRequest.on (targets : List Target) : LifecycleRequest → Lifecycle Result
  | .enableAll => enableTargets targets
  | .disableAll => disableTargets targets
  | .haltAll => haltTargets targets
  | .recoverAll => recoverTargets targets
  | .enableHealthy => healthResult (healthyFor (firstBlock enableBlock targets) 750 16)
  | .motionHealthy => healthResult (healthyFor (firstBlock motionBlock targets) 1250 26)
  | .anyFaultActive => faultResult (faultAmong targets)

/-- In this world a request acts on exactly these targets: it does whatever the request
for these targets would do, and nothing else. -/
def LifecycleRequest.ActsOn (r : LifecycleRequest) (w : LifecycleWorld) (targets : List Target) :
    Prop :=
  ∀ a w', Prog.Runs lifecycleWorld r.code w a w' ↔ Prog.Runs lifecycleWorld (r.on targets) w a w'

/-- The calls of a lifecycle: the joints are configured, a list of devices is brought up,
the devices are recovered, all is shut down, or a request is made. -/
inductive LifecycleCall where
  | setTargets (targets : List Target)
  | init (device : String) (loopback : Bool)
  | recover
  | shutdown
  | request (r : LifecycleRequest)

/-- The program of a call. -/
def LifecycleCall.code (configured : StandbyHook → Bool) : LifecycleCall → Lifecycle Result
  | .setTargets targets => do
      LifecycleDriverOps.setTargets targets
      pure ⟨true, ""⟩
  | .init device loopback => initializeLifecycleDevice configured device loopback
  | .recover => recoverLifecycleDevices configured
  | .shutdown => shutdownLifecycleDriver
  | .request r => r.code

/-- A call is made and runs to its end. -/
def LifecycleCall.Step (configured : StandbyHook → Bool) (w : LifecycleWorld) (c : LifecycleCall)
    (w' : LifecycleWorld) : Prop :=
  ∃ a, Prog.Runs lifecycleWorld (c.code configured) w a w'

/-- The worlds any sequence of calls may lead to. -/
abbrev LifecycleReached (configured : StandbyHook → Bool) : LifecycleWorld → Prop :=
  Reach (LifecycleCall.Step configured) (fun _ _ => True) {}

/-! ## what touches the target lists -/

/-- The operations that only read the target lists. -/
def Reading : LifecycleOp → Prop
  | .targets f => f = id
  | _ => True

/-- The operations that activate no target where none is active. -/
def Inert : LifecycleOp → Prop
  | .targets f => ∀ s, s.activeTargets = [] → (f s).activeTargets = []
  | _ => True

theorem Reading.inert (op : LifecycleOp) (h : Reading op) : Inert op := by
  cases op with
  | targets f =>
      have hf : f = id := h
      intro s hs
      rw [hf]
      exact hs
  | _ => trivial

theorem Asking.reading (op : LifecycleOp) (h : Asking op) : Reading op := by
  cases op with
  | targets f => exact h.elim
  | _ => trivial

theorem stays_lifecycleTargetsSnapshot : lifecycleTargetsSnapshot.Stays Reading :=
  (stays_askOps (A := Reading) (show Reading (.targets id) from rfl)).bind fun _ => trivial

theorem stays_executeFrom (action : MotorAction) (result : BatchResult) (targets : List Target) :
    (executeFrom action result targets).Stays Reading := by
  induction targets generalizing result with
  | nil => trivial
  | cons target targets ih => exact (stays_askOps trivial).bind fun status => ih _

theorem stays_executeBatch (targets : List Target) (action : MotorAction) :
    (executeBatch targets action).Stays Reading :=
  stays_executeFrom action {} targets

theorem stays_runMotorBatchAction (targets : List Target) (action : MotorAction)
    (rejected unavailable : String) :
    (runMotorBatchAction targets action rejected unavailable).Stays Reading :=
  .ite trivial <| (stays_executeBatch targets action).bind fun _ => .ite trivial trivial

theorem stays_enableHealthyOnce : enableHealthyOnce.Stays Reading :=
  stays_lifecycleTargetsSnapshot.bind fun targets =>
    (stays_firstBlock stays_enableBlock targets).mono Asking.reading

theorem stays_motionHealthyOnce : motionHealthyOnce.Stays Reading :=
  stays_lifecycleTargetsSnapshot.bind fun targets =>
    (stays_firstBlock stays_motionBlock targets).mono Asking.reading

theorem stays_rollbackEnable (succeeded : List Target) (failure : Result)
    (rejected unavailable : String) :
    (rollbackEnable succeeded failure rejected unavailable).Stays Reading :=
  .ite trivial <| (stays_executeBatch succeeded .disable).bind fun _ => .ite trivial trivial

theorem stays_enableTargets (targets : List Target) : (enableTargets targets).Stays Reading := by
  refine .ite trivial <| (stays_executeBatch targets .enable).bind fun batch => ?_
  refine .ite (stays_rollbackEnable _ _ _ _) <| .ite trivial ?_
  exact ((stays_waitForEnabledTargets targets).mono Asking.reading).bind fun confirmed =>
    .ite trivial (stays_rollbackEnable _ _ _ _)

theorem stays_recoverTargets (targets : List Target) : (recoverTargets targets).Stays Reading :=
  .ite trivial <| (stays_executeBatch targets .resetFault).bind fun _ => .ite trivial <|
    .ite trivial <| (stays_askOps trivial).bind fun _ =>
    (stays_recoverUntil targets _ _).mono Asking.reading

/-- No request writes to the target lists. -/
theorem stays_request (r : LifecycleRequest) : r.code.Stays Reading := by
  cases r with
  | enableAll => exact stays_lifecycleTargetsSnapshot.bind stays_enableTargets
  | disableAll =>
      exact stays_lifecycleTargetsSnapshot.bind fun _ => stays_runMotorBatchAction _ _ _ _
  | haltAll =>
      exact stays_lifecycleTargetsSnapshot.bind fun _ => stays_runMotorBatchAction _ _ _ _
  | recoverAll => exact stays_lifecycleTargetsSnapshot.bind stays_recoverTargets
  | enableHealthy =>
      exact Prog.Stays.bind ((stays_askOps trivial).bind fun _ =>
        stays_healthyUntil stays_enableHealthyOnce trivial _ _) fun _ => trivial
  | motionHealthy =>
      exact Prog.Stays.bind ((stays_askOps trivial).bind fun _ =>
        stays_healthyUntil stays_motionHealthyOnce trivial _ _) fun _ => trivial
  | anyFaultActive =>
      exact (stays_lifecycleTargetsSnapshot.bind fun targets =>
        (stays_faultAmong targets).mono Asking.reading).bind fun _ => trivial

theorem inert_request (r : LifecycleRequest) : r.code.Stays Inert :=
  (stays_request r).mono Reading.inert

/-! ## bringing devices up and down activates nothing -/

theorem inert_modifyTargets {f : LifecycleTargets → LifecycleTargets}
    (hf : ∀ s, s.activeTargets = [] → (f s).activeTargets = []) :
    (modifyTargets f).Stays Inert :=
  (stays_askOps (A := Inert) (show Inert (.targets f) from hf)).bind fun _ => trivial

theorem inert_clearTrackers : clearTrackers.Stays Inert :=
  (stays_askOps trivial).bind fun _ => trivial

theorem inert_setTargets (targets : List Target) : (setTargets targets).Stays Inert :=
  (inert_modifyTargets fun _ _ => rfl).bind fun _ => inert_clearTrackers

theorem inert_shutdownDevice (device : String) : (shutdownDevice device).Stays Inert := by
  refine (stays_askOps trivial).bind fun _ => Prog.Stays.bind (.bind ?_ fun _ => inert_clearTrackers)
    fun _ => trivial
  refine inert_modifyTargets fun s hs => ?_
  simp [LifecycleTargets.deactivateTargetsForDevice, hs]

theorem inert_shutdownAll : shutdownAll.Stays Inert :=
  (stays_askOps trivial).bind fun _ => Prog.Stays.bind
    ((inert_modifyTargets fun _ _ => rfl).bind fun _ => inert_clearTrackers) fun _ => trivial

theorem inert_targetsSnapshot : targetsSnapshot.Stays Inert :=
  (stays_askOps (A := Inert) (show Inert (.targets id) from fun _ h => h)).bind fun _ => trivial

theorem inert_prepareDevice (device : String) (loopback : Bool) :
    (prepareDevice device loopback).Stays Inert :=
  inert_targetsSnapshot.bind fun _ => .ite trivial <|
    (stays_askOps trivial).bind fun _ => .ite trivial trivial

theorem inert_callHooks (device : String) (hooks : List StandbyHook) :
    (callHooks device hooks).Stays Inert := by
  induction hooks with
  | nil => exact (stays_askOps trivial).bind fun _ => trivial
  | cons hook hooks ih =>
      exact (stays_askOps trivial).bind fun ok => .ite ih <|
        (stays_askOps trivial).bind fun _ => (inert_shutdownDevice device).bind fun _ => trivial

theorem inert_prepareForStandby (configured : StandbyHook → Bool) (device : String)
    (loopback : Bool) :
    (prepareLifecycleDeviceForStandby configured device loopback).Stays Inert :=
  .ite ((stays_askOps trivial).bind fun _ => (inert_prepareDevice device loopback).bind fun _ =>
    .ite (inert_callHooks _ _) ((stays_askOps trivial).bind fun _ => trivial)) trivial

theorem inert_rollbackDevices (devices : List String) : (rollbackDevices devices).Stays Inert := by
  induction devices with
  | nil => trivial
  | cons device devices ih => exact (inert_shutdownDevice device).bind fun _ => ih

theorem inert_initSummary (initialized failures : List String) :
    (initSummary initialized failures).Stays Inert :=
  .ite (.ite trivial trivial) ((stays_askOps trivial).bind fun _ => trivial)

theorem inert_initializeSpecs (configured : StandbyHook → Bool) (loopback : Bool)
    (initialized failures : List String) (specs : List (String × Bool)) :
    (initializeSpecs configured loopback initialized failures specs).Stays Inert := by
  induction specs generalizing initialized failures with
  | nil => exact inert_initSummary initialized failures
  | cons spec specs ih =>
      exact .ite (ih _ _) <| (stays_askOps trivial).bind fun _ =>
        (inert_prepareForStandby configured spec.1 loopback).bind fun prepareResult =>
        .ite (ih _ _) <| .ite (ih _ _) <| (inert_rollbackDevices _).bind fun _ => trivial

theorem inert_prepareAgain (configured : StandbyHook → Bool) (devices : List String) :
    (prepareAgain configured devices).Stays Inert := by
  induction devices with
  | nil => trivial
  | cons device devices ih =>
      exact (stays_askOps trivial).bind fun _ => (inert_prepareForStandby _ _ _).bind fun _ =>
        .ite ih trivial

theorem inert_recoverLifecycleDevices (configured : StandbyHook → Bool) :
    (recoverLifecycleDevices configured).Stays Inert := by
  refine (stays_askOps trivial).bind fun devices => .ite trivial ?_
  refine (inert_prepareAgain configured devices).bind fun failure => ?_
  cases failure with
  | some failure => trivial
  | none =>
      exact (inert_request .recoverAll).bind fun _ =>
        .ite ((stays_askOps trivial).bind fun _ => trivial) trivial

/-- No call of the lifecycle activates a target. -/
theorem inert_code (configured : StandbyHook → Bool) (c : LifecycleCall) :
    (c.code configured).Stays Inert := by
  cases c with
  | setTargets targets => exact (inert_setTargets targets).bind fun _ => trivial
  | init device loopback => exact inert_initializeSpecs configured loopback [] [] _
  | recover => exact inert_recoverLifecycleDevices configured
  | shutdown =>
      exact (stays_askOps trivial).bind fun _ => inert_shutdownAll.bind fun _ =>
        (stays_askOps trivial).bind fun _ => trivial
  | request r => exact inert_request r

/-- **Step**: where no target is active, none is after a call. -/
theorem noneActive_step (hw : w.lists.activeTargets = [])
    (hs : LifecycleCall.Step configured w c w') : w'.lists.activeTargets = [] := by
  obtain ⟨a, hrun⟩ := hs
  have hwp := Prog.wp_of_only (P := lifecycleWorld) (I := fun w => w.lists.activeTargets = [])
    (inert_code configured c) (fun w op hI hop => ⟨trivial, fun r _ => ?_⟩) hw
  · exact (hrun.of_wp hwp).2
  · cases op with
    | targets f => exact hop w.lists hI
    | _ => exact hI

/-- **Run**: over the whole lifecycle no target is ever active. -/
theorem noneActive_reached (hr : LifecycleReached configured w) : w.lists.activeTargets = [] :=
  Reach.invariant (I := fun w => w.lists.activeTargets = []) rfl
    (fun _ _ _ h _ hs => noneActive_step h hs) hr

/-! ## what a request acts on -/

/-- A program that only reads the target lists ends with the lists it began with. -/
theorem lists_of_reading {p : Lifecycle α} (hp : p.Stays Reading)
    (hrun : Prog.Runs lifecycleWorld p w a w') : w'.lists = w.lists := by
  have hwp := Prog.wp_of_only (P := lifecycleWorld) (I := fun w' => w'.lists = w.lists)
    hp (fun w' op hI hop => ⟨trivial, fun r _ => ?_⟩) rfl
  · exact (hrun.of_wp hwp).2
  · cases op with
    | targets f =>
        have hf : f = id := hop
        rw [hf]
        exact hI
    | _ => exact hI

/-- What follows a look at the target lists runs with the targets seen there. -/
theorem runs_snapshot {f : List Target → Lifecycle α} :
    Prog.Runs lifecycleWorld (lifecycleTargetsSnapshot >>= f) w a w' ↔
      Prog.Runs lifecycleWorld (f w.lists.lifecycleTargets) w a w' := by
  constructor
  · intro h
    cases h with
    | vis _ _ r _ _ _ hr hk =>
        have hr : r = w.lists := hr
        rw [hr] at hk
        exact hk
  · exact fun h => .vis (S := lifecycleSig) (.targets id) _ w.lists w a w' rfl h

/-- Where two checks run alike from the same lists, so do their repetitions. -/
theorem runs_healthyUntil {once once' : Lifecycle (Option String)} {lists : LifecycleTargets}
    (honce : ∀ w, w.lists = lists → ∀ a w', Prog.Runs lifecycleWorld once w a w' ↔
      Prog.Runs lifecycleWorld once' w a w')
    (hread : once'.Stays Reading) (deadline : Time) (polls : Nat) (hw : w.lists = lists) :
    Prog.Runs lifecycleWorld (healthyUntil once deadline polls) w a w' ↔
      Prog.Runs lifecycleWorld (healthyUntil once' deadline polls) w a w' := by
  induction polls generalizing w with
  | zero => exact Iff.rfl
  | succ polls ih =>
      rw [healthyUntil, healthyUntil, Prog.runs_bind, Prog.runs_bind]
      refine exists_congr fun detail => exists_congr fun w₁ => ?_
      rw [honce w hw]
      refine and_congr_right fun h₁ => ?_
      have hw₁ : w₁.lists = lists := (lists_of_reading hread h₁).trans hw
      cases detail with
      | none => exact Iff.rfl
      | some detail =>
          dsimp only
          split
          · rw [Prog.runs_bind, Prog.runs_bind]
            refine exists_congr fun t => exists_congr fun w₂ => and_congr_right fun h₂ => ?_
            have hw₂ : w₂.lists = lists :=
              (lists_of_reading (stays_askOps (show Reading .clock from trivial)) h₂).trans hw₁
            split
            · exact Iff.rfl
            · exact ih hw₂
          · exact Iff.rfl

/-- A repeated check runs as the check of the targets there are. -/
theorem runs_healthyFor {check : Target → Lifecycle (Option String)}
    (hcheck : ∀ target, (check target).Stays Reading) (timeoutMs : Int) (polls : Nat) :
    Prog.Runs lifecycleWorld (healthResult (healthyFor
        (lifecycleTargetsSnapshot >>= fun targets => firstBlock check targets) timeoutMs polls))
        w a w' ↔
      Prog.Runs lifecycleWorld (healthResult (healthyFor
        (firstBlock check w.lists.lifecycleTargets) timeoutMs polls)) w a w' := by
  rw [healthResult, healthResult, Prog.runs_bind, Prog.runs_bind]
  refine exists_congr fun outcome => exists_congr fun w₁ => and_congr_left fun _ => ?_
  rw [healthyFor, healthyFor, Prog.runs_bind, Prog.runs_bind]
  refine exists_congr fun t => exists_congr fun w₂ => and_congr_right fun h₂ => ?_
  have hw₂ : w₂.lists = w.lists := lists_of_reading (stays_askOps (show Reading .clock from trivial)) h₂
  refine runs_healthyUntil (fun w' hw' a w'' => ?_) (stays_firstBlock hcheck _) _ _ hw₂
  rw [runs_snapshot, hw']

/-- A request acts on the targets `lifecycleTargetsSnapshot` would show. -/
theorem actsOn_lifecycleTargets (r : LifecycleRequest) (w : LifecycleWorld) :
    r.ActsOn w w.lists.lifecycleTargets := by
  intro a w'
  cases r with
  | enableAll => exact runs_snapshot
  | disableAll => exact runs_snapshot
  | haltAll => exact runs_snapshot
  | recoverAll => exact runs_snapshot
  | enableHealthy => exact runs_healthyFor (fun target => (stays_enableBlock target).mono Asking.reading) 750 16
  | motionHealthy => exact runs_healthyFor (fun target => (stays_motionBlock target).mono Asking.reading) 1250 26
  | anyFaultActive =>
      rw [LifecycleRequest.code, LifecycleRequest.on, faultResult, faultResult, Prog.runs_bind,
        Prog.runs_bind]
      refine exists_congr fun fault => exists_congr fun w₁ => and_congr_left fun _ => ?_
      exact runs_snapshot

/-! ## which targets a request has acted on -/

/-- The loop of a batch acts on every target it is given. -/
theorem acted_executeFrom (action : MotorAction) (result : BatchResult) (targets : List Target)
    (hrun : Prog.Runs lifecycleWorld (executeFrom action result targets) w a w') :
    w'.acted = w.acted ++ targets.map fun target => (action, target) := by
  induction targets generalizing result w with
  | nil =>
      cases hrun
      simp
  | cons target targets ih =>
      cases hrun with
      | vis _ _ status _ _ _ _ hk =>
          rw [ih _ hk]
          simp [lifecycleWorld, LifecycleWorld.after]

/-- `disableAll` acts on every target it is given. -/
theorem acted_disableTargets (targets : List Target)
    (hrun : Prog.Runs lifecycleWorld (disableTargets targets) w a w') :
    w'.acted = w.acted ++ targets.map fun target => (.disable, target) := by
  rw [disableTargets, runMotorBatchAction] at hrun
  split at hrun
  · next hnone =>
      cases hrun
      simp [List.isEmpty_iff.1 hnone]
  · rw [Prog.runs_bind] at hrun
    obtain ⟨batch, w₁, hbatch, hrest⟩ := hrun
    have hacted := acted_executeFrom .disable {} targets hbatch
    split at hrest <;> cases hrest <;> exact hacted

/-- Two lists a request acts on in the same world are the same, for `disableAll`. -/
theorem disableAll_actsOn_inj (h : LifecycleRequest.disableAll.ActsOn w targets)
    (h' : LifecycleRequest.disableAll.ActsOn w targets') : targets = targets' := by
  obtain ⟨a, w', hrun⟩ := Prog.exists_runs lifecycleWorld_answers
    LifecycleRequest.disableAll.code w
  have hacted := acted_disableTargets targets ((h a w').1 hrun)
  have hacted' := acted_disableTargets targets' ((h' a w').1 hrun)
  rw [hacted, List.append_cancel_left_eq] at hacted'
  exact List.map_injective_iff.2 (fun _ _ heq => (Prod.mk.inj heq).2) hacted'

/-- **Targets of a request**: in every world a lifecycle reaches, the requests act on exactly
the targets of the devices that are up if and only if all configured targets are such. -/
theorem requests_actOn_up_iff (configured : StandbyHook → Bool) (w : LifecycleWorld)
    (hr : LifecycleReached configured w) :
    (∀ r : LifecycleRequest, r.ActsOn w w.upTargets) ↔
      ∀ target ∈ w.lists.targets, w.up target.canDevice = true := by
  have hall : w.lists.lifecycleTargets = w.lists.targets := by
    simp [LifecycleTargets.lifecycleTargets, noneActive_reached hr]
  constructor
  · intro h
    have hacts := actsOn_lifecycleTargets .disableAll w
    rw [hall] at hacts
    have heq := disableAll_actsOn_inj (h .disableAll) hacts
    exact List.filter_eq_self.1 heq
  · intro hup r
    have heq : w.upTargets = w.lists.targets := List.filter_eq_self.2 hup
    rw [heq, ← hall]
    exact actsOn_lifecycleTargets r w

/-! ## runs -/

/-- Answers for a run in which only these devices can be brought up. -/
def answerWith (present : String → Bool) (w : LifecycleWorld) : (op : LifecycleOp) → Option op.Ans
  | .targets _ => some w.lists
  | .readiness _ => some {}
  | .loopback _ => some fun _ => none
  | .active _ => some ()
  | .initDevice device _ _ => some (present device)
  | .shutdownDevice _ => some ()
  | .shutdownAll => some ()
  | .execute _ target => some (if w.up target.canDevice then .ok else .deviceNotReady)
  | .isDeviceReady device => some (w.up device)
  | .hasFault _ => some none
  | .isEnabled _ => some none
  | .shared => some {}
  | .clock => some 0
  | .hook _ _ => some true
  | .setDeviceRefreshRate _ _ => some ()
  | .recoverDevices => some []
  | .clearCommandState => some ()
  | .holdCommands => some ()
  | .armFreshCommandLatch => some ()

theorem admits_of_answerWith (h : answerWith present w op = some r) :
    lifecycleWorld.accepts w op r := by
  cases op with
  | targets f => exact (Option.some.inj h).symm
  | _ => trivial

/-- Make calls one after another. -/
def runLifecycle (configured : StandbyHook → Bool) (present : String → Bool) :
    List LifecycleCall → LifecycleWorld → Option LifecycleWorld
  | [], w => some w
  | c :: cs, w =>
      ((c.code configured).run lifecycleWorld (answerWith present) w).bind fun (_, w') =>
        runLifecycle configured present cs w'

/-- Calls that run one after another reach their last world. -/
theorem reached_of_runLifecycle (hw : LifecycleReached configured w)
    (h : runLifecycle configured present cs w = some w') : LifecycleReached configured w' := by
  induction cs generalizing w with
  | nil => exact Option.some.inj h ▸ hw
  | cons c cs ih =>
      obtain ⟨⟨a, w₁⟩, hrun, hrest⟩ := Option.bind_eq_some_iff.1 h
      have hstep : LifecycleCall.Step configured w c w₁ :=
        ⟨a, Prog.runs_of_run (fun _ _ _ => admits_of_answerWith) hrun⟩
      exact ih (hw.step trivial hstep) hrest

/-- A test of where calls lead holds of a world that is reached. -/
theorem exists_reached (configured : StandbyHook → Bool) (present : String → Bool)
    (cs : List LifecycleCall) (test : LifecycleWorld → Bool)
    (h : (runLifecycle configured present cs {}).any test = true) :
    ∃ w, LifecycleReached configured w ∧ test w = true := by
  obtain ⟨w, hrun, htest⟩ := (Option.any_eq_true _ _).1 h
  exact ⟨w, reached_of_runLifecycle .refl hrun, htest⟩

/-- An axis on `can0` and one on `can1`. -/
def twoTargets : List Target :=
  [⟨"lift", "can0", .PP, 1⟩, ⟨"wheel", "can1", .MT, 2⟩]

/-- With both devices up, every request acts on the targets of the devices that are up. -/
theorem both_up_actOn : ∃ w, LifecycleReached (fun _ => true) w ∧
    w.upTargets = twoTargets ∧ ∀ r : LifecycleRequest, r.ActsOn w w.upTargets := by
  obtain ⟨w, hr, htest⟩ := exists_reached (fun _ => true) (fun _ => true)
    [.setTargets twoTargets, .init "can0, optional:can1" false]
    (fun w => w.upTargets == twoTargets && w.lists.targets.all fun target => w.up target.canDevice)
    (by decide +kernel)
  rw [Bool.and_eq_true, List.all_eq_true] at htest
  exact ⟨w, hr, eq_of_beq htest.1, (requests_actOn_up_iff (fun _ => true) w hr).2 htest.2⟩

/-- An optional device fails to come up; `disableAll` acts on its axis all the same. -/
theorem absent_device_touched : ∃ w, LifecycleReached (fun _ => true) w ∧
    w.upTargets = [⟨"lift", "can0", .PP, 1⟩] ∧
    (¬ ∀ r : LifecycleRequest, r.ActsOn w w.upTargets) ∧
    ∃ w', LifecycleCall.Step (fun _ => true) w (.request .disableAll) w' ∧
      (MotorAction.disable, ⟨"wheel", "can1", .MT, 2⟩) ∈ w'.acted := by
  obtain ⟨w, hr, htest⟩ := exists_reached (fun _ => true) (fun device => device == "can0")
    [.setTargets twoTargets, .init "can0, optional:can1" false]
    (fun w => w.upTargets == [⟨"lift", "can0", .PP, 1⟩] &&
      (w.lists.lifecycleTargets == twoTargets &&
      ((LifecycleRequest.disableAll.code.run lifecycleWorld
        (answerWith fun device => device == "can0") w).any fun (_, w') =>
          w'.acted.contains (.disable, ⟨"wheel", "can1", .MT, 2⟩))))
    (by decide +kernel)
  rw [Bool.and_eq_true, Bool.and_eq_true] at htest
  obtain ⟨hup, hlists, hrun⟩ := htest
  have hup := eq_of_beq hup
  have hlists := eq_of_beq hlists
  refine ⟨w, hr, hup, fun h => ?_, ?_⟩
  · have hacts := actsOn_lifecycleTargets .disableAll w
    have heq := disableAll_actsOn_inj (h .disableAll) hacts
    rw [hup, hlists] at heq
    exact absurd heq (by decide)
  · obtain ⟨⟨a, w'⟩, hrun, hacted⟩ := (Option.any_eq_true _ _).1 hrun
    exact ⟨w', ⟨a, Prog.runs_of_run (fun _ _ _ => admits_of_answerWith) hrun⟩,
      List.contains_iff_mem.1 hacted⟩

end CanDriver
