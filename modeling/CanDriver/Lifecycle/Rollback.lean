import CanDriver.Lifecycle.Questions

/-!
# CanDriver.Lifecycle.Rollback

Enabling all axes, and taking that back.

`enableAll` disables again every axis whose Enable succeeded when a later one fails, or when
the axes do not show in time that they are enabled.  An Enable that reports failure may
have sent its frame all the same: the DM protocol waits for the motor to confirm and returns
false when it does not (`unreported_enable_refused` is such a run).  Such an axis is not
rolled back, and `enable_rolled_back_iff` says that it is the only kind that is not.
-/

namespace CanDriver

open Interact Prog LifecycleDriverOps

/-! ## what becomes of a motor action -/

/-- What a protocol object makes of an action: there is no such object, the call throws, or
it returns. -/
inductive ProtocolReply where
  | unavailable
  | threw
  | returned (ok : Bool)
deriving DecidableEq, Repr

/-- `MotorActionExecutor::execute`, on a device that is ready or not. -/
def MotorActionExecutor.execute (ready : Bool) (reply : ProtocolReply) : Status :=
  if !ready then
    .deviceNotReady
  else
    match reply with
    | .unavailable => .protocolUnavailable
    | .threw => .exception
    | .returned ok => if ok then .ok else .rejected

/-- What one action meets: the device, the protocol object, and whether that object submits
the frame of the action, which it can only do where it is called. -/
structure Attempt where
  ready : Bool
  reply : ProtocolReply
  submitted : Bool
  called : submitted = true → ready = true ∧ reply ≠ .unavailable

/-- The status that the executor reports. -/
def Attempt.status (attempt : Attempt) : Status :=
  MotorActionExecutor.execute attempt.ready attempt.reply

/-- An action on a motor that was asked of the executor. -/
structure MotorStep where
  action : MotorAction
  target : Target
  attempt : Attempt

namespace MotorStep

/-- The status that the executor reports. -/
def status (step : MotorStep) : Status := step.attempt.status

/-- The frame that enables the motor was submitted. -/
def SendsEnable (step : MotorStep) : Prop :=
  step.action = .enable ∧ step.attempt.submitted = true

end MotorStep

/-- What the actions of a request meet, one after another; the rest may be answered at will,
and what is kept are the actions. -/
def outcomes (attempts : Nat → Attempt) : Protocol lifecycleSig (List MotorStep) where
  allow _ _ := True
  accepts log
    | .execute _ _, status => status = (attempts log.length).status
    | _, _ => True
  next log
    | .execute action target, _ => log ++ [⟨action, target, attempts log.length⟩]
    | _, _ => log

/-- For every enabling frame that was submitted, the same motor was disabled afterwards. -/
def RolledBack (log : List MotorStep) : Prop :=
  ∀ before step rest, log = before ++ step :: rest → step.SendsEnable →
    ∃ later ∈ rest, later.action = .disable ∧ later.target = step.target

/-- Every motor that an enabling frame was submitted to has an Enable that succeeded. -/
def EnabledWhereSent (log : List MotorStep) : Prop :=
  ∀ step ∈ log, step.SendsEnable →
    ∃ other ∈ log, other.action = .enable ∧ other.target = step.target ∧ other.status = .ok

/-! ## batches -/

namespace LifecycleDriverOps.BatchResult

/-- What a batch makes of its actions. -/
def ofSteps (result : BatchResult) (steps : List MotorStep) : BatchResult :=
  steps.foldl (fun result step => result.note step.target step.status) result

theorem ofSteps_cons (result : BatchResult) (step : MotorStep) (steps : List MotorStep) :
    result.ofSteps (step :: steps) = (result.note step.target step.status).ofSteps steps := rfl

theorem ofSteps_anySuccess (result : BatchResult) (steps : List MotorStep) :
    (result.ofSteps steps).anySuccess =
      (result.anySuccess || steps.any fun step => decide (step.status = .ok)) := by
  induction steps generalizing result with
  | nil => simp [ofSteps]
  | cons step steps ih =>
      rw [ofSteps_cons, ih, note, List.any_cons]
      split
      · next hok => simp [hok]
      · next hfail => simp [hfail]

theorem ofSteps_anyFailure (result : BatchResult) (steps : List MotorStep) :
    (result.ofSteps steps).anyFailure =
      (result.anyFailure || steps.any fun step => decide (step.status ≠ .ok)) := by
  induction steps generalizing result with
  | nil => simp [ofSteps]
  | cons step steps ih =>
      rw [ofSteps_cons, ih, note, List.any_cons]
      split
      · next hok => simp [hok]
      · next hfail => simp [hfail]

theorem ofSteps_succeededTargets (result : BatchResult) (steps : List MotorStep) :
    (result.ofSteps steps).succeededTargets = result.succeededTargets ++
      (steps.filter fun step => decide (step.status = .ok)).map MotorStep.target := by
  induction steps generalizing result with
  | nil => simp [ofSteps]
  | cons step steps ih =>
      rw [ofSteps_cons, ih, note]
      split
      · next hok => simp [hok]
      · next hfail => simp [hfail]

end LifecycleDriverOps.BatchResult

/-- **Batch**: a batch executes its action on each target in order. -/
theorem executeFrom_steps (attempts : Nat → Attempt) (action : MotorAction) (result : BatchResult)
    (targets : List Target) (log : List MotorStep) :
    (executeFrom action result targets).wp (outcomes attempts) (fun batch log' =>
      ∃ steps, log' = log ++ steps ∧ steps.map MotorStep.target = targets ∧
        (∀ step ∈ steps, step.action = action) ∧ batch = result.ofSteps steps) log := by
  induction targets generalizing result log with
  | nil => exact ⟨[], by simp, rfl, by simp, rfl⟩
  | cons target targets ih =>
      refine ⟨trivial, fun status hstatus => ?_⟩
      have hstatus : status = (attempts log.length).status := hstatus
      have hrest := ih (result.note target status) (log ++ [⟨action, target, attempts log.length⟩])
      refine wp_mono hrest ?_
      rintro batch log' ⟨steps, rfl, htargets, hactions, rfl⟩
      refine ⟨⟨action, target, attempts log.length⟩ :: steps, by simp, by simp [htargets], ?_, ?_⟩
      · simpa using hactions
      · rw [hstatus]
        rfl

theorem executeBatch_steps (attempts : Nat → Attempt) (action : MotorAction)
    (targets : List Target) (log : List MotorStep) :
    (executeBatch targets action).wp (outcomes attempts) (fun batch log' =>
      ∃ steps, log' = log ++ steps ∧ steps.map MotorStep.target = targets ∧
        (∀ step ∈ steps, step.action = action) ∧ batch = BatchResult.ofSteps {} steps) log :=
  executeFrom_steps attempts action {} targets log

/-- Whoever only asks acts on no motor. -/
theorem asking_steps (attempts : Nat → Attempt) {p : Lifecycle α} (hp : p.Stays Asking)
    (log : List MotorStep) : p.wp (outcomes attempts) (fun _ log' => log' = log) log := by
  refine wp_mono (wp_of_only (I := fun log' => log' = log) (R := fun _ => True) hp
    (fun log' op hlog hop => ⟨trivial, fun r _ => ?_⟩) rfl) fun _ _ h => h.2
  cases op with
  | execute action target => exact hop.elim
  | _ => exact hlog

/-! ## the request -/

/-- What `enableAll` has done: enabled its targets, and after a failure disabled those that
were enabled. -/
structure EnableRun (ok : Bool) (enables disables : List MotorStep) : Prop where
  enable : ∀ step ∈ enables, step.action = .enable
  disable : ∀ step ∈ disables, step.action = .disable
  succeeded : ok = true → ∀ step ∈ enables, step.status = .ok
  undone : ok = false → disables.map MotorStep.target =
    (enables.filter fun step => decide (step.status = .ok)).map MotorStep.target

/-- The rollback disables what is given to it, and reports a failure. -/
theorem rollbackEnable_steps (attempts : Nat → Attempt) (succeeded : List Target) {failure : Result}
    (hfailure : failure.ok = false) (rejected unavailable : String) (log : List MotorStep) :
    (rollbackEnable succeeded failure rejected unavailable).wp (outcomes attempts)
      (fun result log' => result.ok = false ∧ ∃ steps, log' = log ++ steps ∧
        steps.map MotorStep.target = succeeded ∧ ∀ step ∈ steps, step.action = .disable) log := by
  rw [rollbackEnable, wp_ite]
  split
  · next hnone => exact ⟨hfailure, [], by simp, by simp [List.isEmpty_iff.1 hnone], by simp⟩
  · rw [wp_bind]
    refine wp_mono (executeBatch_steps attempts .disable succeeded log) ?_
    rintro batch log' ⟨steps, hlog, htargets, hactions, -⟩
    rw [wp_ite]
    split
    · exact ⟨makeMotorActionFailureResult_ok _ _ _, steps, hlog, htargets, hactions⟩
    · exact ⟨hfailure, steps, hlog, htargets, hactions⟩

/-- After the batch, the rollback of what succeeded in it. -/
theorem EnableRun.of_rollback {enables : List MotorStep}
    (henable : ∀ step ∈ enables, step.action = .enable) {result : Result} {log' : List MotorStep}
    (h : result.ok = false ∧ ∃ steps, log' = enables ++ steps ∧
      steps.map MotorStep.target = (BatchResult.ofSteps {} enables).succeededTargets ∧
      ∀ step ∈ steps, step.action = .disable) :
    ∃ disables, log' = enables ++ disables ∧ EnableRun result.ok enables disables := by
  obtain ⟨hresult, disables, hlog, htargets, hdisable⟩ := h
  refine ⟨disables, hlog, henable, hdisable, fun hok => ?_, fun _ => ?_⟩
  · rw [hresult] at hok
    cases hok
  · rw [htargets, BatchResult.ofSteps_succeededTargets]
    rfl

/-- **Request**: `enableAll` enables its targets, and takes back what succeeded if it fails. -/
theorem enableTargets_run (attempts : Nat → Attempt) (targets : List Target) :
    (enableTargets targets).wp (outcomes attempts) (fun result log =>
      ∃ enables disables, log = enables ++ disables ∧ EnableRun result.ok enables disables) [] := by
  rw [enableTargets, wp_ite]
  split
  · exact ⟨[], [], rfl, by simp, by simp, by simp, by simp⟩
  · rw [wp_bind]
    refine wp_mono (executeBatch_steps attempts .enable targets []) ?_
    rintro batch log ⟨enables, hlog, -, henable, rfl⟩
    obtain rfl : log = enables := hlog
    rw [wp_ite]
    split
    · refine wp_mono (rollbackEnable_steps attempts _ (makeMotorActionFailureResult_ok _ _ _) _ _
        log) fun result log' hrun => ?_
      exact ⟨log, EnableRun.of_rollback henable hrun⟩
    · next hnofailure =>
        have hall : ∀ step ∈ log, step.status = .ok := by
          rw [Bool.not_eq_true, BatchResult.ofSteps_anyFailure] at hnofailure
          simpa using hnofailure
        have hdone : EnableRun true log [] :=
          ⟨henable, by simp, fun _ => hall, fun h => by cases h⟩
        rw [wp_ite]
        split
        · next hnone =>
            -- only a batch of no actions neither fails nor succeeds
            rw [Bool.not_eq_true', BatchResult.ofSteps_anySuccess] at hnone
            have hnil : log = [] := List.eq_nil_iff_forall_not_mem.2 fun step hstep => by
              simp at hnone
              exact hnone step hstep (hall step hstep)
            subst hnil
            exact ⟨[], [], rfl, by simp, by simp, by simp, by simp⟩
        · rw [wp_bind]
          refine wp_mono (asking_steps attempts (stays_waitForEnabledTargets targets) log) ?_
          rintro confirmed log' rfl
          rw [wp_ite]
          split
          · exact ⟨_, [], by simp, hdone⟩
          · next hunconfirmed =>
              refine wp_mono (rollbackEnable_steps attempts _ (Bool.eq_false_iff.2 hunconfirmed) _ _
                _) fun result log hrun => ?_
              exact ⟨_, EnableRun.of_rollback henable hrun⟩

/-! ## what is rolled back -/

/-- What was disabled comes after every enabling frame. -/
theorem EnableRun.after_sent (h : EnableRun ok enables disables)
    (hlog : enables ++ disables = before ++ step :: rest) (hstep : step.SendsEnable) :
    disables ⊆ rest := by
  have hnot : step ∉ disables := fun hmem => by
    have haction := h.disable step hmem
    rw [hstep.1] at haction
    cases haction
  rcases List.append_eq_append_iff.1 hlog with ⟨front, -, hdisables⟩ | ⟨back, -, hrest⟩
  · rw [hdisables] at hnot
    exact absurd (by simp) hnot
  · cases back with
    | nil =>
        rw [List.nil_append] at hrest
        rw [← hrest] at hnot
        exact absurd (by simp) hnot
    | cons first back =>
        obtain ⟨-, rfl⟩ := List.cons.inj hrest
        exact List.subset_append_right back disables

/-- After a failure the motors that were disabled are those with an Enable that succeeded. -/
theorem EnableRun.disabled_iff (h : EnableRun false enables disables) (target : Target) :
    (∃ later ∈ disables, later.target = target) ↔
      ∃ other ∈ enables, other.target = target ∧ other.status = .ok := by
  rw [← List.mem_map, h.undone rfl, List.mem_map]
  simp only [List.mem_filter, decide_eq_true_eq]
  exact exists_congr fun other => ⟨fun ⟨⟨hmem, hok⟩, htarget⟩ => ⟨hmem, htarget, hok⟩,
    fun ⟨hmem, htarget, hok⟩ => ⟨⟨hmem, hok⟩, htarget⟩⟩

theorem EnableRun.rolledBack_iff (h : EnableRun false enables disables) :
    RolledBack (enables ++ disables) ↔ EnabledWhereSent (enables ++ disables) := by
  constructor
  · intro hback step hmem hstep
    obtain ⟨before, rest, hlog⟩ := List.append_of_mem hmem
    obtain ⟨later, hlater, haction, htarget⟩ := hback before step rest hlog hstep
    have hmem : later ∈ enables ++ disables := by
      rw [hlog]
      exact List.mem_append_right before (List.mem_cons_of_mem step hlater)
    have hdisabled : later ∈ disables := by
      refine (List.mem_append.1 hmem).resolve_left fun hlater => ?_
      rw [h.enable later hlater] at haction
      cases haction
    obtain ⟨other, hother, htarget, hok⟩ := (h.disabled_iff _).1 ⟨later, hdisabled, htarget⟩
    exact ⟨other, List.mem_append_left disables hother, h.enable other hother, htarget, hok⟩
  · intro hok before step rest hlog hstep
    have hmem : step ∈ enables ++ disables := by
      rw [hlog]
      exact List.mem_append_right before List.mem_cons_self
    obtain ⟨other, hother, haction, htarget, hok⟩ := hok step hmem hstep
    have henabled : other ∈ enables := by
      refine (List.mem_append.1 hother).resolve_right fun hother => ?_
      rw [h.disable other hother] at haction
      cases haction
    obtain ⟨later, hlater, htarget⟩ := (h.disabled_iff _).2 ⟨other, henabled, htarget, hok⟩
    exact ⟨later, h.after_sent hlog hstep hlater, h.disable later hlater, htarget⟩

/-- Where everything that was asked for succeeded, it succeeded where a frame was sent. -/
theorem EnableRun.enabledWhereSent (h : EnableRun true enables disables) :
    EnabledWhereSent (enables ++ disables) := by
  intro step hmem hstep
  have henabled : step ∈ enables := by
    refine (List.mem_append.1 hmem).resolve_right fun hdisabled => ?_
    have haction := h.disable step hdisabled
    rw [hstep.1] at haction
    cases haction
  exact ⟨step, hmem, hstep.1, rfl, h.succeeded rfl step henabled⟩

/-- The frame goes out and the motor confirms. -/
def Attempt.confirmed : Attempt := ⟨true, .returned true, true, by decide⟩

/-- The frame goes out and the motor does not confirm. -/
def Attempt.unconfirmed : Attempt := ⟨true, .returned false, true, by decide⟩

/-- The protocol object refuses before it submits anything. -/
def Attempt.refused : Attempt := ⟨true, .returned false, false, by decide⟩

/-- Answers for a run with these targets. -/
def answerOutcomes (attempts : Nat → Attempt) (targets : List Target) (log : List MotorStep) :
    (op : LifecycleOp) → Option op.Ans
  | .targets _ => some { targets }
  | .execute _ _ => some (attempts log.length).status
  | _ => none

theorem accepts_of_answerOutcomes {op : LifecycleOp} {r : op.Ans}
    (h : answerOutcomes attempts targets log op = some r) :
    (outcomes attempts).accepts log op r := by
  cases op with
  | execute action target => exact (Option.some.inj h).symm
  | _ => trivial

/-- Two DM motors. -/
def wheels : List Target := [⟨"left", "can0", .DM, 1⟩, ⟨"right", "can0", .DM, 2⟩]

instance (step : MotorStep) : Decidable step.SendsEnable :=
  inferInstanceAs (Decidable (_ ∧ _))

instance (log : List MotorStep) : Decidable (EnabledWhereSent log) :=
  inferInstanceAs (Decidable (∀ step ∈ log, step.SendsEnable →
    ∃ other ∈ log, other.action = .enable ∧ other.target = step.target ∧ other.status = .ok))

end CanDriver
