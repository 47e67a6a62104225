import CanDriver.Cycle.Direct
import CanDriver.Joints.Nodes
import CanDriver.Lib.Record

/-!
# CanDriver.Cycle.Arbitration

Control cycles among direct commands, mode switches and holds.

Each call is a thread that takes one step at a time, so that the joints may change between any two
operations of a cycle, and more than one cycle may be under way.  `commands_arbitrated` says that
whatever is sent was decided on as `Preparation.Sends` says, at one moment of its own cycle.
-/

namespace CanDriver

open Interact

/-! ## what a cycle does -/

/-- What a dispatch may do: send commands that were prepared valid. -/
def SendsPrepared (prepared : List CanDriverPreparedCommand) : HwOp → Prop
  | .send index route _ _ motorId raw => ∃ command, prepared[index]? = some command ∧
      command.valid = true ∧ route = command.route ∧ motorId = command.motorId ∧ raw = command.raw
  | .hw (.prepare _ _) => False
  | _ => True

section

variable {prepared : List CanDriverPreparedCommand}

theorem stays_sendCommand (config : WriteConfig) (group : CanDriverDeviceProtocolGroup)
    {index : Nat} {command : CanDriverPreparedCommand} (hcommand : prepared[index]? = some command)
    (hvalid : command.valid = true) (status : Option (Bool × Bool)) :
    (sendCommand config group index command status).Stays (SendsPrepared prepared) := by
  have henabled : (dispatchEnabled group.canDevice group.protocol command.motorId status).Stays
      (SendsPrepared prepared) := by
    cases status with
    | some status => trivial
    | none => exact .vis trivial fun _ => trivial
  rw [sendCommand]
  refine henabled.bind fun enabled => .ite trivial (.vis ?_ fun _ => trivial)
  exact ⟨command, hcommand, hvalid, rfl, rfl, rfl⟩

theorem stays_dispatchJoint (config : WriteConfig) (group : CanDriverDeviceProtocolGroup)
    {index : Nat} {command : CanDriverPreparedCommand} (hcommand : prepared[index]? = some command)
    (status : Option (Bool × Bool)) :
    (dispatchJoint config group index command status).Stays (SendsPrepared prepared) := by
  have hfault : (dispatchFault group.canDevice group.protocol command.motorId status).Stays
      (SendsPrepared prepared) := by
    cases status with
    | some status => trivial
    | none => exact .vis trivial fun _ => trivial
  have hread : readHw.Stays (SendsPrepared prepared) := .vis trivial fun _ => trivial
  rw [dispatchJoint]
  refine hread.bind fun hw => ?_
  rw [Prog.Stays, Prog.wp_ite]
  split
  · trivial
  · next hskip =>
    have hvalid : command.valid = true := by
      rw [Bool.or_eq_true, Bool.not_eq_true', Bool.not_eq_true', not_or, Bool.not_eq_false] at hskip
      exact hskip.1
    have hsend := stays_sendCommand config group hcommand hvalid status
    refine hfault.bind fun fault => .ite (.vis trivial fun hw => .ite trivial ?_) (.ite ?_ ?_)
    · exact .vis trivial fun _ => trivial
    · exact .vis trivial fun _ => hsend.bind fun _ => trivial
    · exact hsend.bind fun _ => trivial

theorem stays_dispatchJoints (config : WriteConfig) (group : CanDriverDeviceProtocolGroup)
    (statuses : CanDriverPreparedCommand → Option (Bool × Bool)) (anyFault : Bool)
    (indices : List Nat) :
    (dispatchJoints config group prepared statuses anyFault indices).Stays
      (SendsPrepared prepared) := by
  induction indices generalizing anyFault with
  | nil => trivial
  | cons index indices ih =>
      rw [dispatchJoints]
      cases hcommand : prepared[index]? with
      | none => exact ih anyFault
      | some command =>
          exact (stays_dispatchJoint config group hcommand _).bind fun fault => ih _

theorem stays_dispatchGroup (config : WriteConfig) (group : CanDriverDeviceProtocolGroup)
    (anyFault : Bool) :
    (dispatchGroup config group prepared anyFault).Stays (SendsPrepared prepared) := by
  rw [dispatchGroup]
  refine .vis trivial fun nowNs => .vis trivial fun shared => .vis trivial fun hasProtocol => ?_
  refine .ite trivial (.vis trivial fun _ => ?_)
  refine (stays_dispatchJoints config group _ anyFault _).bind fun anyFault => ?_
  exact .vis trivial fun _ => trivial

/-- **Dispatch**: nothing is sent but what was prepared. -/
theorem stays_dispatchPreparedCommands (prepared : List CanDriverPreparedCommand)
    (config : WriteConfig) (anyFault : Bool) (groups : List CanDriverDeviceProtocolGroup) :
    (dispatchPreparedCommands config prepared anyFault groups).Stays (SendsPrepared prepared) := by
  induction groups generalizing anyFault with
  | nil => trivial
  | cons group groups ih =>
      rw [dispatchPreparedCommands]
      refine .vis trivial fun isReady => .vis trivial fun gate => ?_
      refine .ite (.vis trivial fun _ => ih anyFault) (.ite (.vis trivial fun _ => ?_) ?_)
      · exact .vis trivial fun hw => .vis trivial fun _ => ih anyFault
      · exact (stays_dispatchGroup config group anyFault).bind fun anyFault => ih anyFault

end

/-- What is left of a cycle beside the preparation and the sending of commands. -/
def Harmless : ModeOp hwSig → Prop
  | .driver (.send _ _ _ _ _ _) => False
  | .driver (.hw (.prepare _ _)) => False
  | _ => True

theorem stays_lifecycle (p : Lifecycle α) : (driver (onLifecycle p)).Stays Harmless :=
  (Prog.Stays.mapOp (Prog.wp_only_of_forall (fun _ => trivial) p)).mapOp

theorem stays_updateFromFeedback (unhealthy : Bool) :
    (updateFromFeedback (D := hwSig) unhealthy).Stays Harmless := by
  rw [updateFromFeedback]
  refine .ite (.vis trivial fun mode => .ite (.vis trivial fun _ => ?_) trivial) trivial
  trivial

theorem stays_reportHealth (config : WriteConfig) (anyFault : Bool) :
    (reportHealth config anyFault).Stays Harmless := by
  have hhealth : (lifecycleHealthHealthy config).Stays Harmless := by
    refine .vis trivial fun mode => ?_
    cases mode with
    | armed => exact stays_lifecycle _
    | running => exact .ite (stays_lifecycle _) (stays_lifecycle _)
    | _ => trivial
  rw [reportHealth]
  exact .ite (stays_updateFromFeedback _) (hhealth.bind fun detail => stays_updateFromFeedback _)

theorem stays_consumeFresh : (driver consumeFreshCommandLatchIfSatisfied).Stays Harmless := by
  refine Prog.Stays.mapOp (.vis trivial fun gate => .ite trivial ?_)
  exact .vis trivial fun hw => .vis trivial fun gate => trivial

/-- What the commands of a thread were prepared from, and that it sends these only. -/
def sendingHw (config : WriteConfig) : Protocol hwSig (Option (Time × CanDriverHW)) where
  allow prepared op :=
    match op with
    | .hw (.prepare config' _) => config' = config
    | .send index route _ _ motorId raw => ∃ now hw command, prepared = some (now, hw) ∧
        (preparedCommands config now hw)[index]? = some command ∧ command.valid = true ∧
        route = command.route ∧ motorId = command.motorId ∧ raw = command.raw
    | _ => True
  accepts _ _ _ := True
  next prepared op r :=
    match op, r with
    | .hw (.prepare _ now), hw => some (now, hw)
    | _, _ => prepared

/-- The same in the coordinator. -/
def sendingCycle (config : WriteConfig) :
    Protocol (coordSig hwSig) (Option (Time × CanDriverHW)) where
  allow prepared op :=
    match op with
    | .driver op => (sendingHw config).allow prepared op
    | _ => True
  accepts _ _ _ := True
  next prepared op r :=
    match op, r with
    | .driver op, r => (sendingHw config).next prepared op r
    | _, _ => prepared

/-- And in the node. -/
def sending (config : WriteConfig) : Protocol controlSig (Option (Time × CanDriverHW)) where
  allow prepared op :=
    match op with
    | .cycle op => (sendingCycle config).allow prepared op
    | _ => True
  accepts _ _ _ := True
  next prepared op r :=
    match op, r with
    | .cycle op, r => (sendingCycle config).next prepared op r
    | _, _ => prepared

section

variable {config : WriteConfig} {prepared : Option (Time × CanDriverHW)}

theorem wp_of_harmless {p : Coord hwSig α} (h : p.Stays Harmless) :
    p.wp (sendingCycle config) (fun _ _ => True) prepared := by
  refine Prog.Stays.wp (h.mono fun op hop prepared => ?_)
  cases op with
  | driver op =>
      cases op with
      | hw op =>
          cases op with
          | prepare => exact hop.elim
          | _ => trivial
      | send => exact hop.elim
      | _ => trivial
  | _ => trivial

/-- The commands of a cycle: what is sent was prepared in this cycle. -/
theorem sending_commandCycle (limiter : CommandLimiter)
    (groups : List CanDriverDeviceProtocolGroup) :
    (commandCycle config limiter groups).wp (sendingHw config) (fun _ _ => True) prepared := by
  refine ⟨trivial, fun _ _ => ⟨trivial, fun now _ => ⟨rfl, fun hw _ => ?_⟩⟩⟩
  have hdispatch := stays_dispatchPreparedCommands (preparedCommands config now hw) config false
    groups
  refine Prog.wp_mono (Prog.wp_of_only (I := fun g => g = some (now, hw)) (R := fun _ => True)
    hdispatch ?_ rfl) fun _ _ _ => trivial
  rintro g op rfl hop
  cases op with
  | hw op =>
      cases op with
      | prepare => exact hop.elim
      | _ => exact ⟨trivial, fun _ _ => rfl⟩
  | send index route device protocol motorId raw =>
      obtain ⟨command, hcommand⟩ := hop
      exact ⟨⟨now, hw, command, rfl, hcommand⟩, fun _ _ => rfl⟩
  | _ => exact ⟨trivial, fun _ _ => rfl⟩

/-- A cycle. -/
theorem sending_write (limiter : CommandLimiter) (groups : List CanDriverDeviceProtocolGroup) :
    (write config limiter groups).wp (sendingCycle config) (fun _ _ => True) prepared := by
  have hinvalidate : (driver invalidateCommands).Stays Harmless :=
    Prog.Stays.mapOp (.vis trivial fun _ => trivial)
  rw [write, Prog.wp_bind]
  refine Prog.wp_mono (wp_of_harmless (.vis trivial fun _ => trivial)) fun active prepared _ => ?_
  rw [Prog.wp_ite]
  split
  · rw [Prog.wp_bind]
    refine Prog.wp_mono (wp_of_harmless (.vis trivial fun _ => trivial)) fun mode prepared _ => ?_
    rw [Prog.wp_ite]
    split
    · rw [Prog.wp_bind]
      refine Prog.wp_mono (wp_of_harmless stays_consumeFresh) fun fresh kept _ => ?_
      rw [Prog.wp_ite]
      split
      · rw [Prog.wp_bind]
        have hcycle := Prog.wp_mapOp (P := sendingCycle config) (f := ModeOp.driver)
          (h := fun _ r => r) (g := kept) (fun _ _ hop => hop) (fun _ _ _ _ => ⟨trivial, rfl⟩)
          (sending_commandCycle limiter groups)
        exact Prog.wp_mono hcycle fun anyFault prepared _ =>
          wp_of_harmless (stays_reportHealth config anyFault)
      · exact wp_of_harmless hinvalidate
    · exact wp_of_harmless hinvalidate
  · trivial

/-- What is not a cycle prepares and sends nothing. -/
def SendsNothing : ControlOp → Prop
  | .cycle op => Harmless op
  | _ => True

theorem sendsNothing_driver {p : Hardware α} (h : p.Stays fun op => Harmless (.driver op)) :
    (inCycle (driver p)).Stays SendsNothing :=
  Prog.Stays.mapOp (Prog.Stays.mapOp h)

theorem sendsNothing_snapshotJoint (group : CanDriverDeviceProtocolGroup) (index : Nat) :
    (snapshotJoint group index).Stays SendsNothing := by
  have hread : (inCycle (driver readHw)).Stays SendsNothing :=
    sendsNothing_driver (.vis trivial fun _ => trivial)
  rw [snapshotJoint]
  refine hread.bind fun hw => ?_
  cases hw.joints[index]? with
  | none => trivial
  | some joint =>
      refine .vis trivial fun position => .vis trivial fun velocity => ?_
      exact .vis trivial fun current => trivial

theorem sendsNothing_snapshotJoints (group : CanDriverDeviceProtocolGroup) (indices : List Nat)
    (snapshots : Nat → Option JointSnapshot) :
    (snapshotJoints group indices snapshots).Stays SendsNothing := by
  induction indices generalizing snapshots with
  | nil => trivial
  | cons index indices ih =>
      exact (sendsNothing_snapshotJoint group index).bind fun snapshot => ih _

theorem sendsNothing_snapshotGroups (groups : List CanDriverDeviceProtocolGroup)
    (snapshots : Nat → Option JointSnapshot) :
    (snapshotGroups groups snapshots).Stays SendsNothing := by
  have hask : ∀ op, Harmless (.driver op) → (inCycle (driver (askHw op))).Stays SendsNothing :=
    fun op hop => sendsNothing_driver (.vis hop fun _ => trivial)
  induction groups generalizing snapshots with
  | nil => trivial
  | cons group groups ih =>
      rw [snapshotGroups]
      refine (hask (.hasProtocol _ _) trivial).bind fun hasProtocol => .ite (ih snapshots) ?_
      refine (hask (.lockDevice _) trivial).bind fun _ => ?_
      refine (sendsNothing_snapshotJoints group _ snapshots).bind fun snapshots => ?_
      exact (hask (.unlockDevice _) trivial).bind fun _ => ih snapshots

theorem sendsNothing_modifyJoints (op : JointStateOp) : (modifyJoints op).Stays SendsNothing :=
  .vis trivial fun _ => trivial

/-- **Calls**: every call sends only what it has prepared itself. -/
theorem sending_controlCall (groups : List CanDriverDeviceProtocolGroup) (c : ControlCall) :
    (c.code config groups).wp (sending config) (fun _ _ => True) prepared := by
  have hquiet : ∀ p : Control Unit, p.Stays SendsNothing →
      p.wp (sending config) (fun _ _ => True) prepared := by
    refine fun p hp => Prog.Stays.wp (hp.mono fun op hop prepared => ?_)
    cases op with
    | cycle op =>
        have hone : (Prog.vis (S := coordSig hwSig) op Prog.ret).wp (sendingCycle config)
            (fun _ _ => True) prepared := wp_of_harmless ⟨hop, fun _ _ => trivial⟩
        exact hone.1
    | _ => trivial
  have hactive : (inCycle (driver (askHw .active))).Stays SendsNothing :=
    sendsNothing_driver (.vis trivial fun _ => trivial)
  cases c with
  | read =>
      refine hquiet _ (hactive.bind fun active => .ite ?_ trivial)
      exact (sendsNothing_snapshotGroups groups _).bind fun snapshots => sendsNothing_modifyJoints _
  | write limiter =>
      exact Prog.wp_mapOp (fun _ _ hop => hop) (fun _ _ _ _ => ⟨trivial, rfl⟩)
        (sending_write limiter groups)
  | acceptDirectCommand jointIndex isVelocity value stamp =>
      exact hquiet _ (hactive.bind fun active => .ite (sendsNothing_modifyJoints _) trivial)
  | update op => exact hquiet _ (sendsNothing_modifyJoints op)

end

/-! ## runs -/

section

variable {ι : Type} [DecidableEq ι]

/-- The threads of the node, and the joints and the gate they share. -/
abbrev ControlPool (ι : Type) := Pool controlSig ι ControlCall Unit HwCore

/-- What happens in one step. -/
abbrev ControlEvent (ι : Type) := Event controlSig ι ControlCall Unit

/-- Everything but the joints and the gate is answered at will, the mode of the system included. -/
def controlAccess (c : HwCore) (_ : ι) : (op : ControlOp) → op.Ans → HwCore → Prop
  | .cycle (.driver op), r, c' => c.Admits op r ∧ c' = c.after op
  | .jointState op, hw, c' => hw = c.hw ∧ c' = { c with hw := op.apply c.hw }
  | _, _, c' => c' = c

/-- When an operation prepares commands: the time it does so. -/
def ControlOp.prepares : ControlOp → Option Time
  | .cycle (.driver (.hw (.prepare _ now))) => some now
  | _ => none

/-- What is recorded: what happened to the direct commands, and what each thread has prepared its
commands from since it was called. -/
structure ControlLog (ι : Type) where
  events : DirectEvents
  preparation : ι → Option Preparation

/-- What a step adds to it. -/
def ControlLog.note (p : ControlPool ι) (e : ControlEvent ι) (_p' : ControlPool ι)
    (log : ControlLog ι) : ControlLog ι :=
  match e with
  | .call i _ => { log with preparation := Function.update log.preparation i none }
  | .act i op =>
      { events := log.events.after op p.shared.hw
        preparation := op.prepares.elim log.preparation fun now =>
          Function.update log.preparation i (some ⟨now, p.shared.hw, log.events⟩) }
  | .ret _ _ => log

/-- One step, and what is recorded of it. -/
abbrev ControlStep (config : WriteConfig) (groups : List CanDriverDeviceProtocolGroup) :
    ControlPool ι × ControlLog ι → ControlEvent ι → ControlPool ι × ControlLog ι → Prop :=
  Recording (Pool.Step (ControlCall.code config groups) controlAccess) ControlLog.note

/-- The runs of the node from joints that are just set up. -/
abbrev ControlRun (config : WriteConfig) (groups : List CanDriverDeviceProtocolGroup)
    (hw : CanDriverHW) (w : ControlPool ι × ControlLog ι) : Prop :=
  Reach (ControlStep config groups) (fun _ _ => True)
    (Pool.idle { hw }, ⟨fun _ _ => [], fun _ => none⟩) w

variable {config : WriteConfig} {groups : List CanDriverDeviceProtocolGroup}
  {w w' : ControlPool ι × ControlLog ι}

/-- Joints and preparations hold the direct commands of their registers, and every thread sends
what it has prepared. -/
def Arbitrated (config : WriteConfig) (w : ControlPool ι × ControlLog ι) : Prop :=
  Pool.Attends (fun _ => sending config)
    (fun log c => Registered config c.hw log.events ∧
      ∀ i prep, log.preparation i = some prep → Registered config prep.hw prep.events)
    (fun log i _ prepared => prepared = (log.preparation i).map fun prep => (prep.now, prep.hw))
    w.2 w.1

omit [DecidableEq ι] in
/-- The joints after a step. -/
theorem hw_of_access {c c' : HwCore} {i : ι} {op : ControlOp} {r : op.Ans}
    (h : controlAccess c i op r c') : c'.hw = op.apply c.hw := by
  cases op with
  | cycle op =>
      cases op with
      | driver op =>
          obtain ⟨-, rfl⟩ := h
          cases op <;> rfl
      | _ =>
          have h : c' = c := h
          exact h ▸ rfl
  | jointState op =>
      obtain ⟨-, rfl⟩ := h
      rfl
  | _ =>
      have h : c' = c := h
      exact h ▸ rfl

theorem configured_of_allow {prepared : Option (Time × CanDriverHW)} {op : ControlOp}
    (h : (sending config).allow prepared op) : op.Configured config := by
  cases op with
  | cycle op =>
      cases op with
      | driver op =>
          cases op with
          | hw op =>
              cases op with
              | prepare => exact h
              | _ => trivial
          | _ => trivial
      | _ => trivial
  | _ => trivial

omit [DecidableEq ι] in
/-- What a thread has prepared is the joints it found. -/
theorem next_sending (config : WriteConfig) (prepared : Option (Time × CanDriverHW))
    {c c' : HwCore} {i : ι} {op : ControlOp} {r : op.Ans} (h : controlAccess c i op r c') :
    (sending config).next prepared op r =
      op.prepares.elim prepared fun now => some (now, c.hw) := by
  cases op with
  | cycle op =>
      cases op with
      | driver op =>
          cases op with
          | hw op =>
              obtain ⟨hr, -⟩ := h
              have hr : r = c.hw := hr
              subst hr
              cases op <;> rfl
          | _ => rfl
      | _ => rfl
  | _ => rfl

/-- **Step**: that stays so. -/
theorem Arbitrated.step {e : ControlEvent ι} (h : Arbitrated config w)
    (hs : ControlStep config groups w e w') : Arbitrated config w' := by
  obtain ⟨p, log⟩ := w
  obtain ⟨p', log'⟩ := w'
  obtain ⟨hs, hlog⟩ := hs
  have hlog : log' = ControlLog.note p e p' log := hlog
  subst hlog
  obtain ⟨hregistered, hpreparations⟩ := h.shared
  refine Pool.Attends.step h ?_ ?_ ?_ ?_ hs
  · rintro i c rfl _
    refine ⟨⟨hregistered, fun j prep hprep => ?_⟩, none, ?_, sending_controlCall groups c⟩
    · by_cases hj : j = i
      · simp [ControlLog.note, hj] at hprep
      · exact hpreparations j prep (by simpa [ControlLog.note, hj] using hprep)
    · simp [ControlLog.note]
  · rintro i c op k prepared r s' rfl hi hprepared hallow hop hp'
    have hkept := hregistered.apply (configured_of_allow hallow)
    rw [← hw_of_access hop] at hkept
    have hnext := next_sending config prepared hop
    refine ⟨trivial, ⟨hkept, fun j prep hprep => ?_⟩, ?_⟩
    · cases hprepares : op.prepares with
      | none => exact hpreparations j prep (by simpa [ControlLog.note, hprepares] using hprep)
      | some now =>
          by_cases hj : j = i
          · obtain rfl : _ = prep := by simpa [ControlLog.note, hprepares, hj] using hprep
            exact hregistered
          · exact hpreparations j prep (by simpa [ControlLog.note, hprepares, hj] using hprep)
    · rw [hnext, hprepared]
      cases hprepares : op.prepares with
      | none => simp [ControlLog.note, hprepares]
      | some now => simp [ControlLog.note, hprepares]
  · rintro i a rfl
    exact h.shared
  · intro j c prepared hj hprepared
    cases e with
    | call i c =>
        have hne : j ≠ i := hj
        simpa [ControlLog.note, hne] using hprepared
    | act i op =>
        have hne : j ≠ i := hj
        cases hprepares : op.prepares with
        | none => simpa [ControlLog.note, hprepares] using hprepared
        | some now => simpa [ControlLog.note, hprepares, hne] using hprepared
    | ret i a => exact hprepared

/-! ### joints that are just set up -/

/-- A joint that is just set up has no direct commands. -/
theorem setupJoints_direct {parsed : List ParsedJointConfig} {st st' : CanDriverHW.Setup}
    (hst : ∀ joint ∈ st.hw.joints, joint.direct = none)
    (h : CanDriverHW.setupJoints st parsed = some st') :
    ∀ joint ∈ st'.hw.joints, joint.direct = none := by
  induction parsed generalizing st with
  | nil => exact Option.some.inj h ▸ hst
  | cons p parsed ih =>
      rw [CanDriverHW.setupJoints] at h
      split at h
      · cases h
      · next st₁ hst₁ =>
        refine ih ?_ h
        rw [CanDriverHW.setupJoint] at hst₁
        obtain ⟨-, hst₁⟩ := Option.ite_none_left_eq_some.1 hst₁
        obtain ⟨-, hst₁⟩ := Option.ite_none_left_eq_some.1 hst₁
        obtain rfl := Option.some.inj hst₁
        intro joint hjoint
        obtain hold | hnew := List.mem_append.1 hjoint
        · exact hst joint hold
        · obtain rfl := List.mem_singleton.1 hnew
          exact direct_eq_none rfl rfl

/-- What `init` sets up, with or without an offset file. -/
theorem exists_setup_of_init {hw hw' : CanDriverHW} {persistenceEnabled : Bool}
    {param : Option XmlRpcValue} (h : hw.init persistenceEnabled param = some hw') :
    ∃ loaded : CanDriverHW, loaded.joints = [] ∧ loaded.parseAndSetupJoints param = some hw' := by
  rw [CanDriverHW.init] at h
  split at h
  · cases h
  · next loaded hloaded =>
    refine ⟨loaded, ?_, h⟩
    rw [CanDriverHW.loadRuntimeParams] at hloaded
    split at hloaded
    · rw [CanDriverHW.loadPersistedLocalZeroOffsets] at hloaded
      split at hloaded
      · exact Option.some.inj hloaded ▸ rfl
      · split at hloaded
        · cases hloaded
        · exact Option.some.inj hloaded ▸ rfl
    · exact Option.some.inj hloaded ▸ rfl

theorem registered_of_init {hw hw' : CanDriverHW} {persistenceEnabled : Bool}
    {param : Option XmlRpcValue} (h : hw.init persistenceEnabled param = some hw') :
    Registered config hw' fun _ _ => [] := by
  obtain ⟨loaded, hempty, h⟩ := exists_setup_of_init h
  obtain ⟨_, parsed, st, _, _, hst, rfl⟩ := exists_of_parseAndSetupJoints h
  have hdirect := setupJoints_direct (fun joint hjoint => by simp [hempty] at hjoint) hst
  exact fun index joint hjoint => hdirect joint (List.mem_of_getElem? hjoint)

/-- **Run**: it is so in every run. -/
theorem arbitrated_of_run {hw : CanDriverHW} (hsetup : Registered config hw fun _ _ => [])
    (h : ControlRun config groups hw w) : Arbitrated config w :=
  Reach.invariant (I := Arbitrated config)
    (by exact Pool.Attends.idle ⟨hsetup, fun i prep hprep => by cases hprep⟩)
    (fun _ _ _ hw _ hs => hw.step hs) h

/-- **Arbitration**: in every interleaving of control cycles, direct commands, mode switches,
holds and whatever else changes the joints, what a cycle sends for a joint is either its direct
command, accepted last, not dropped since and recent enough, or what the controllers command, and
then no joint has such a direct command. -/
theorem commands_arbitrated {hw hw' : CanDriverHW} {persistenceEnabled : Bool}
    {param : Option XmlRpcValue} {i : ι} {index : Nat} {route : PreparedCommandRoute}
    {device : String} {protocol : CanType} {motorId : MotorID} {raw : Int32}
    (hsetup : hw.init persistenceEnabled param = some hw') (h : ControlRun config groups hw' w)
    (hs : ControlStep config groups w
      (.act i (.cycle (.driver (.send index route device protocol motorId raw)))) w') :
    ∃ prep, w.2.preparation i = some prep ∧ prep.Sends config index route motorId raw := by
  have harbitrated := arbitrated_of_run (registered_of_init hsetup) h
  obtain ⟨p, log⟩ := w
  obtain ⟨p', log'⟩ := w'
  obtain ⟨hs, -⟩ := hs
  cases hs with
  | act _ c _ k r s' hi hop =>
      obtain ⟨prepared, hprepared, hwp⟩ := harbitrated.thread i _ hi
      obtain ⟨now, found, command, hsome, hcommand, hvalid, rfl, rfl, rfl⟩ := hwp.1
      rw [hsome] at hprepared
      obtain ⟨prep, hprep, heq⟩ := Option.map_eq_some_iff.1 hprepared.symm
      obtain ⟨rfl, rfl⟩ := Prod.mk.inj heq
      exact ⟨prep, hprep, sends_of_prepared (harbitrated.shared.2 i prep hprep) hcommand hvalid⟩

/-! ### two arms, one of them commanded directly -/

/-- Two joints of one device. -/
def twoArms : XmlRpcValue :=
  .array [jointParam "left" 1 "PP" "can0" "position", jointParam "right" 2 "PP" "can0" "position"]

/-- Their group. -/
def armsGroup : CanDriverDeviceProtocolGroup where
  canDevice := "can0"
  protocol := .PP
  jointIndices := [0, 1]

/-- Devices that are ready, and motors that stand at zero. -/
def serveControl (c : HwCore) (_ : ι) : (op : ControlOp) → Option (op.Ans × HwCore)
  | .cycle .load => some (.running, c)
  | .cycle (.driver op) => (c.answer op).map fun r => (r, c.after op)
  | .cycle _ => none
  | .jointState op => some (c.hw, { c with hw := op.apply c.hw })
  | .getPosition _ _ _ => some (0, c)
  | .getVelocity _ _ _ => some (0, c)
  | .getCurrent _ _ _ => some (0, c)

omit [DecidableEq ι] in
theorem controlAccess_of_serve {c c' : HwCore} {i : ι} {op : ControlOp} {r : op.Ans}
    (h : serveControl c i op = some (r, c')) : controlAccess c i op r c' := by
  cases op with
  | cycle op =>
      cases op with
      | driver op =>
          obtain ⟨a, ha, heq⟩ := Option.map_eq_some_iff.1 h
          obtain ⟨rfl, rfl⟩ := Prod.mk.inj heq
          exact ⟨admits_of_answer_core ha, rfl⟩
      | load => exact (Prod.mk.inj (Option.some.inj h)).2.symm
      | _ => cases h
  | jointState op =>
      obtain ⟨rfl, rfl⟩ := Prod.mk.inj (Option.some.inj h)
      exact ⟨rfl, rfl⟩
  | _ => exact (Prod.mk.inj (Option.some.inj h)).2.symm

/-- The left arm is commanded directly, then a cycle comes as far as to send it. -/
def leftCommanded : List (Pool.Move Nat ControlCall) :=
  Pool.callFor 1 (.acceptDirectCommand 0 false (.finite 1) 0) 3 ++
    Pool.callFor 0 (.write keepCommands) 16

/-- What a thread is about to send. -/
def pendingSend (w : ControlPool Nat × ControlLog Nat) (i : Nat) :
    Option (Nat × PreparedCommandRoute × String × CanType × MotorID × Int32) :=
  match w.1.thread i with
  | some ⟨_, .vis (.cycle (.driver (.send index route device protocol motorId raw))) _⟩ =>
      some (index, route, device, protocol, motorId, raw)
  | _ => none

theorem step_of_pendingSend (config : WriteConfig) (groups : List CanDriverDeviceProtocolGroup)
    {w : ControlPool Nat × ControlLog Nat} {i index : Nat} {route : PreparedCommandRoute}
    {device : String} {protocol : CanType} {motorId : MotorID} {raw : Int32}
    (h : pendingSend w i = some (index, route, device, protocol, motorId, raw)) :
    ∃ w', ControlStep config groups w
      (.act i (.cycle (.driver (.send index route device protocol motorId raw)))) w' := by
  rw [pendingSend] at h
  split at h
  · next c index' route' device' protocol' motorId' raw' k hi =>
    simp only [Option.some.injEq, Prod.mk.injEq] at h
    obtain ⟨rfl, rfl, rfl, rfl, rfl, rfl⟩ := h
    have hop : controlAccess w.1.shared i
        (.cycle (.driver (.send index' route' device' protocol' motorId' raw'))) true w.1.shared :=
      ⟨trivial, rfl⟩
    have hstep : Pool.Step (ControlCall.code config groups) controlAccess w.1 (.act i _) _ :=
      .act w.1 i c _ k true w.1.shared hi hop
    exact ⟨(_, _), hstep, rfl⟩
  · cases h

/-- The left arm is sent its direct command. -/
theorem commands_arbitrated_left :
    ∃ (hw : CanDriverHW) (w w' : ControlPool Nat × ControlLog Nat),
      CanDriverHW.init {} false (some twoArms) = some hw ∧
      ControlRun {} [armsGroup] hw w ∧
      ControlStep {} [armsGroup] w
        (.act 0 (.cycle (.driver (.send 0 .position "can0" .PP 1 1)))) w' ∧
      ∃ prep, w.2.preparation 0 = some prep ∧ prep.Sends {} 0 .position 1 1 := by
  have hscript : (CanDriverHW.init {} false (some twoArms)).any (fun hw =>
      (Pool.followNoting (ControlCall.code {} [armsGroup]) serveControl ControlLog.note
        (Pool.idle { hw }, ⟨fun _ _ => [], fun _ => none⟩) leftCommanded).any (fun w =>
          decide (pendingSend w 0 = some (0, .position, "can0", .PP, 1, 1)))) = true := by
    decide +kernel
  obtain ⟨hw, hinit, hscript⟩ := (Option.any_eq_true _ _).1 hscript
  obtain ⟨w, hrun, htest⟩ := Pool.exists_of_followNoting (h := controlAccess)
    (C := fun _ _ => True) (fun _ _ _ _ _ => controlAccess_of_serve) (fun _ _ _ _ _ _ => trivial)
    hscript
  obtain ⟨w', hs⟩ := step_of_pendingSend {} [armsGroup] (of_decide_eq_true htest)
  exact ⟨hw, w, w', hinit, hrun, hs, commands_arbitrated hinit hrun hs⟩

end

end CanDriver
