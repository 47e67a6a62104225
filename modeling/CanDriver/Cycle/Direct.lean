import CanDriver.ControlLoop
import CanDriver.Cycle.Bounds
import CanDriver.Joints.Lookup
import CanDriver.Lib.Watchdog

/-!
# CanDriver.Cycle.Direct

Direct commands against the controllers.

A joint may be commanded directly, past the controllers, as long as these commands are renewed;
and while one joint is, the controllers command none.  Direct commands arrive on threads of their
own, and modes, zeros, limits and holds change at any time.

* `KeepsTo` — a joint keeps its direct command in a register with a watchdog;
* `Preparation.Sends` — how it is decided which of the two is sent;
* `sends_of_prepared` — what is prepared was decided so.
-/

namespace CanDriver

open Interact

/-! ## the register of a joint -/

/-- What happens to the direct command of a joint. -/
abbrev DirectEvent := WatchdogEvent Double Time

/-- Whether a direct command with a stamp still counts. -/
def WriteConfig.fresh (config : WriteConfig) (now stamp : Time) : Bool :=
  (Double.finite ((now - stamp : Int) / 1000000000)).le config.directCmdTimeoutSec

/-- The direct command a joint has in its mode, with the time of its reception. -/
def CanDriverJointConfig.direct (joint : CanDriverJointConfig) : Option (Double × Time) :=
  if joint.hasDirectCommand then some (joint.directCommandValue, joint.lastDirectCommandTime)
  else none

/-- What a critical section of a cycle means for the direct commands of the joint at an index. -/
def JointOp.directEvent (index : Nat) : JointOp → Option DirectEvent
  | .hold => some .drop
  | .prepare config now => if config.debugBypassRosControl then none else some (.check now)
  | .clearGroup group => if index ∈ group.jointIndices then some .drop else none
  | _ => none

/-- What a critical section of another thread means for the direct command of the joint at an
index, for positions or for velocities. -/
def JointStateOp.directEvent (hw : CanDriverHW) (index : Nat) (isVelocity : Bool) :
    JointStateOp → Option DirectEvent
  | .accept jointIndex isVelocity' value stamp =>
      if jointIndex = index ∧ isVelocity' = isVelocity then some (.set value stamp) else none
  | .clear jointName => if hw.jointIndexByName jointName = some index then some .drop else none
  | .commitMode motorId _ =>
      if (hw.matchedJoint motorId).any fun found => found.1 == index then some .drop else none
  | .hold => some .drop
  | _ => none

/-- What an operation means for it. -/
def ControlOp.directEvent (hw : CanDriverHW) (index : Nat) (isVelocity : Bool) :
    ControlOp → Option DirectEvent
  | .cycle (.driver (.hw op)) => op.directEvent index
  | .jointState op => op.directEvent hw index isVelocity
  | _ => none

/-- The joints after an operation. -/
def ControlOp.apply : ControlOp → CanDriverHW → CanDriverHW
  | .cycle (.driver (.hw op)), hw => op.apply hw
  | .jointState op, hw => op.apply hw
  | _, hw => hw

/-- A cycle prepares its commands by the configuration there is. -/
def ControlOp.Configured (config : WriteConfig) : ControlOp → Prop
  | .cycle (.driver (.hw (.prepare config' _))) => config' = config
  | _ => True

section

variable {config : WriteConfig} {joint joint' : CanDriverJointConfig}
  {event : Bool → Option DirectEvent}

/-- A joint that holds the direct command of its register still does so after an event. -/
def KeepsTo (config : WriteConfig) (event : Bool → Option DirectEvent)
    (joint joint' : CanDriverJointConfig) : Prop :=
  ∀ events : Bool → List DirectEvent,
    joint.direct = registered config.fresh (events joint.usesVelocity) →
    joint'.direct = registered config.fresh
      ((event joint'.usesVelocity).toList ++ events joint'.usesVelocity)

theorem KeepsTo.same (hmode : joint'.usesVelocity = joint.usesVelocity)
    (hdirect : joint'.direct = joint.direct) (hevent : event joint.usesVelocity = none) :
    KeepsTo config event joint joint' := by
  intro events h
  rw [hmode, hevent, hdirect]
  exact h

theorem KeepsTo.dropped (hdirect : joint'.direct = none)
    (hevent : event joint'.usesVelocity = some .drop) : KeepsTo config event joint joint' := by
  intro events h
  rw [hevent, hdirect]
  rfl

/-- A joint without direct commands has none in its mode. -/
theorem direct_eq_none (hposition : joint.hasDirectPosCmd = false)
    (hvelocity : joint.hasDirectVelCmd = false) : joint.direct = none := by
  have hnone : joint.hasDirectCommand = false := by
    rw [CanDriverJointConfig.hasDirectCommand, hposition, hvelocity, ite_self]
  rw [CanDriverJointConfig.direct, hnone]
  rfl

theorem direct_holdCommand (joint : CanDriverJointConfig) : joint.holdCommand.direct = none := by
  rw [CanDriverJointConfig.holdCommand]
  split
  · exact direct_eq_none rfl rfl
  · exact direct_eq_none rfl rfl

theorem direct_clearDirectCommand (joint : CanDriverJointConfig) :
    joint.clearDirectCommand.usesVelocity = joint.usesVelocity ∧
      joint.clearDirectCommand.direct = none := by
  rw [CanDriverJointConfig.clearDirectCommand]
  split
  · next hvelocity =>
    refine ⟨rfl, ?_⟩
    have hnone : ({ joint with hasDirectVelCmd := false } : CanDriverJointConfig).hasDirectCommand =
        false := if_pos hvelocity
    rw [CanDriverJointConfig.direct, hnone]
    rfl
  · next hposition =>
    refine ⟨rfl, ?_⟩
    have hnone : ({ joint with hasDirectPosCmd := false } : CanDriverJointConfig).hasDirectCommand =
        false := if_neg hposition
    rw [CanDriverJointConfig.direct, hnone]
    rfl

/-- A direct command that is accepted is the one its register is set to. -/
theorem keepsTo_acceptDirect (joint : CanDriverJointConfig) (isVelocity : Bool) (value : Double)
    (stamp : Time) (hevent : event joint.usesVelocity =
      if isVelocity = joint.usesVelocity then some (.set value stamp) else none) :
    KeepsTo config event joint (joint.acceptDirect isVelocity value stamp) := by
  have hmode : (joint.acceptDirect isVelocity value stamp).usesVelocity = joint.usesVelocity := by
    cases isVelocity <;> rfl
  have hdirect : (joint.acceptDirect isVelocity value stamp).direct =
      if isVelocity = joint.usesVelocity then some (value, stamp) else joint.direct := by
    by_cases hvelocity : joint.usesVelocity = true
    · simp only [CanDriverJointConfig.direct, CanDriverJointConfig.hasDirectCommand,
        CanDriverJointConfig.directCommandValue, CanDriverJointConfig.lastDirectCommandTime, hmode,
        hvelocity, if_true]
      cases isVelocity <;> simp [CanDriverJointConfig.acceptDirect]
    · simp only [CanDriverJointConfig.direct, CanDriverJointConfig.hasDirectCommand,
        CanDriverJointConfig.directCommandValue, CanDriverJointConfig.lastDirectCommandTime, hmode,
        hvelocity]
      cases isVelocity <;> simp [CanDriverJointConfig.acceptDirect]
  intro events h
  rw [hmode, hevent, hdirect]
  split
  · rfl
  · exact h

/-! ### the preparation -/

/-- The check of a preparation leaves a direct command that is used, and no other. -/
theorem checked_direct (config : WriteConfig) (now : Time) (joint : CanDriverJointConfig)
    (index : Nat) :
    ((JointOp.prepare config now).directEvent index).elim joint.direct
      (fun event => event.apply config.fresh joint.direct) =
      if usesDirectCommand config now joint then joint.direct else none := by
  have halive : directCommandAlive config now joint =
      config.fresh now joint.lastDirectCommandTime := rfl
  rw [JointOp.directEvent, usesDirectCommand, halive, CanDriverJointConfig.direct]
  cases hbypass : config.debugBypassRosControl with
  | true => cases joint.hasDirectCommand <;> rfl
  | false =>
      cases joint.hasDirectCommand with
      | false => rfl
      | true =>
          cases hfresh : config.fresh now joint.lastDirectCommandTime <;>
            simp [WatchdogEvent.apply, hfresh]

/-- What a joint is left with, in the second loop. -/
theorem direct_preparedJoint (config : WriteConfig) (now : Time) (present : Bool)
    (joint : CanDriverJointConfig) :
    (preparedJoint config now present joint).usesVelocity = joint.usesVelocity ∧
      (preparedJoint config now present joint).direct =
        if usesDirectCommand config now joint then joint.direct else none := by
  obtain ⟨hmode, hnone⟩ := direct_clearDirectCommand joint
  have hcleared : ∀ cleared, cleared = (if joint.hasDirectCommand &&
        !usesDirectCommand config now joint then joint.clearDirectCommand else joint) →
      cleared.usesVelocity = joint.usesVelocity ∧
        cleared.direct = if usesDirectCommand config now joint then joint.direct else none := by
    rintro cleared rfl
    cases huses : usesDirectCommand config now joint with
    | true => simp
    | false =>
        cases hdirect : joint.hasDirectCommand with
        | true => exact ⟨hmode, hnone⟩
        | false => simp [CanDriverJointConfig.direct, hdirect]
  obtain ⟨hmode', hdirect'⟩ := hcleared _ rfl
  rw [preparedJoint]
  split
  · exact ⟨hmode', hdirect'⟩
  · exact ⟨hmode', hdirect'⟩

theorem length_scannedJoints (config : WriteConfig) (now : Time)
    (joints : List CanDriverJointConfig) :
    (scannedJoints config now joints).2.length = joints.length := by
  rw [scannedJoints]
  split
  · rfl
  · induction joints with
    | nil => rfl
    | cons joint joints ih =>
        rw [scanDirectCommands]
        split
        · exact congrArg (· + 1) ih
        · split
          · rfl
          · exact congrArg (· + 1) ih

/-- What is prepared is prepared from a joint. -/
theorem prepareJoints_getElem? {config : WriteConfig} {now : Time}
    {joints : List CanDriverJointConfig} {index : Nat}
    {prepared : CanDriverJointConfig × Option Int32}
    (h : (prepareJoints config now joints)[index]? = some prepared) :
    ∃ joint scanned, joints[index]? = some joint ∧
      (scanned = joint ∨ usesDirectCommand config now joint = false ∧
        scanned = joint.clearDirectCommand) ∧
      prepared = prepareJoint config now (scannedJoints config now joints).1 scanned := by
  rw [prepareJoints, List.getElem?_map, Option.map_eq_some_iff] at h
  obtain ⟨scanned, hscanned, rfl⟩ := h
  obtain ⟨hlt, -⟩ := List.getElem?_eq_some_iff.1 hscanned
  rw [length_scannedJoints] at hlt
  have hjoint := List.getElem?_eq_getElem hlt
  refine ⟨_, scanned, hjoint, ?_, rfl⟩
  obtain hsame | ⟨hunused, hcleared⟩ := scannedJoints_cases config now hjoint
  · exact .inl (Option.some.inj (hscanned.symm.trans hsame))
  · exact .inr ⟨hunused, Option.some.inj (hscanned.symm.trans hcleared)⟩

/-- **Preparation**: a joint keeps its direct command as long as it passes the check. -/
theorem keepsTo_prepare (config : WriteConfig) (now : Time) {hw : CanDriverHW} {index : Nat}
    (h : (prepareCommands config now hw).joints[index]? = some joint') :
    ∃ joint, hw.joints[index]? = some joint ∧
      KeepsTo config (fun _ => (JointOp.prepare config now).directEvent index) joint joint' := by
  simp only [prepareCommands, List.getElem?_map, Option.map_eq_some_iff] at h
  obtain ⟨prepared, hprepared, rfl⟩ := h
  obtain ⟨joint, scanned, hjoint, hscanned, rfl⟩ := prepareJoints_getElem? hprepared
  refine ⟨joint, hjoint, fun events hevents => ?_⟩
  have hchecked := checked_direct config now joint index
  obtain ⟨hmode, hdirect⟩ :=
    direct_preparedJoint config now (scannedJoints config now hw.joints).1 scanned
  have hleft : (prepareJoint config now (scannedJoints config now hw.joints).1
      scanned).1.usesVelocity = joint.usesVelocity ∧
      (prepareJoint config now (scannedJoints config now hw.joints).1 scanned).1.direct =
        if usesDirectCommand config now joint then joint.direct else none := by
    obtain rfl | ⟨hunused, rfl⟩ := hscanned
    · exact ⟨hmode, hdirect⟩
    · obtain ⟨hmode', -⟩ := direct_clearDirectCommand joint
      rw [usesDirectCommand_clearDirectCommand] at hdirect
      rw [hunused]
      exact ⟨hmode.trans hmode', hdirect⟩
  rw [hleft.1, hleft.2, ← hchecked, hevents]
  cases (JointOp.prepare config now).directEvent index with
  | none => rfl
  | some event => rfl

/-! ### every operation -/

theorem keepsTo_jointOp {op : JointOp}
    (hop : (ControlOp.cycle (.driver (.hw op))).Configured config) {hw : CanDriverHW}
    {index : Nat} (h : (op.apply hw).joints[index]? = some joint') :
    ∃ joint, hw.joints[index]? = some joint ∧
      KeepsTo config (fun _ => op.directEvent index) joint joint' := by
  cases op with
  | read => exact ⟨joint', h, .same rfl rfl rfl⟩
  | invalidate => exact ⟨joint', h, .same rfl rfl rfl⟩
  | hold =>
      simp only [JointOp.apply, CanDriverHW.holdCommandsForLifecycleTransition, List.getElem?_map,
        Option.map_eq_some_iff] at h
      obtain ⟨joint, hjoint, rfl⟩ := h
      exact ⟨joint, hjoint, .dropped (direct_holdCommand joint) rfl⟩
  | limit limiter =>
      simp only [JointOp.apply, CanDriverHW.enforceLimits, List.getElem?_mapIdx,
        Option.map_eq_some_iff] at h
      obtain ⟨joint, hjoint, rfl⟩ := h
      exact ⟨joint, hjoint, .same rfl rfl rfl⟩
  | prepare config' now =>
      obtain rfl : config' = config := hop
      exact keepsTo_prepare config' now h
  | clearGroup group =>
      simp only [JointOp.apply, clearGroupCommands, List.getElem?_mapIdx,
        Option.map_eq_some_iff] at h
      obtain ⟨joint, hjoint, rfl⟩ := h
      refine ⟨joint, hjoint, ?_⟩
      split
      · next hmem => exact .dropped (direct_holdCommand joint) (if_pos hmem)
      · next hmem => exact .same rfl rfl (if_neg hmem)
  | noteStopIssued index' issued =>
      simp only [JointOp.apply, CanDriverHW.noteStopIssued, List.getElem?_modify,
        Option.map_eq_map, Option.map_eq_some_iff] at h
      obtain ⟨joint, hjoint, rfl⟩ := h
      refine ⟨joint, hjoint, ?_⟩
      split
      · exact .same rfl rfl rfl
      · exact .same rfl rfl rfl

/-- One joint is replaced, and nothing happens to the others. -/
theorem keepsTo_set {hw : CanDriverHW} {index found : Nat} {target other : CanDriverJointConfig}
    (htarget : hw.joints[found]? = some target)
    (hother : index = found → KeepsTo config event target other)
    (hsame : index ≠ found → ∀ v, event v = none)
    (h : (hw.joints.set found other)[index]? = some joint') :
    ∃ joint, hw.joints[index]? = some joint ∧ KeepsTo config event joint joint' := by
  by_cases hindex : index = found
  · obtain ⟨hlt, -⟩ := List.getElem?_eq_some_iff.1 htarget
    rw [hindex, List.getElem?_set_self hlt] at h
    exact ⟨target, hindex ▸ htarget, Option.some.inj h ▸ hother hindex⟩
  · rw [List.getElem?_set_ne (Ne.symm hindex)] at h
    exact ⟨joint', h, .same rfl rfl (hsame hindex _)⟩

/-- What `commitZero` leaves: another zero of one joint at most. -/
theorem joints_commitZero (hw : CanDriverHW) (motorId : MotorID)
    (zeroOffset previousZeroOffset : Double) (applyToMotor writable : Bool) :
    (hw.commitZero motorId zeroOffset previousZeroOffset applyToMotor writable).2.joints =
        hw.joints ∨
      ∃ index joint stored, hw.matchedJoint motorId = some (index, joint) ∧
        (hw.commitZero motorId zeroOffset previousZeroOffset applyToMotor writable).2.joints =
          hw.joints.set index (joint.withZero stored) := by
  rw [CanDriverHW.commitZero]
  cases hmatched : hw.matchedJoint motorId with
  | none => exact .inl rfl
  | some found =>
      obtain ⟨index, joint⟩ := found
      have hback : ∀ other, (hw.joints.set index other).set index joint = hw.joints := by
        intro other
        rw [List.set_set, CanDriverHW.set_matchedJoint hmatched]
      dsimp only
      split
      · exact .inr ⟨index, joint, _, rfl, rfl⟩
      · cases writable with
        | true => exact .inr ⟨index, joint, _, rfl, rfl⟩
        | false => exact .inl (hback _)

theorem keepsTo_jointStateOp {op : JointStateOp} {hw : CanDriverHW} {index : Nat}
    (h : (op.apply hw).joints[index]? = some joint') :
    ∃ joint, hw.joints[index]? = some joint ∧
      KeepsTo config (fun v => op.directEvent hw index v) joint joint' := by
  cases op with
  | accept jointIndex isVelocity value stamp =>
      simp only [JointStateOp.apply, CanDriverHW.acceptDirectCommand, List.getElem?_modify,
        Option.map_eq_map, Option.map_eq_some_iff] at h
      obtain ⟨joint, hjoint, rfl⟩ := h
      refine ⟨joint, hjoint, ?_⟩
      split
      · next hindex =>
        exact keepsTo_acceptDirect joint isVelocity value stamp
          (by simp [JointStateOp.directEvent, hindex])
      · next hindex => exact .same rfl rfl (if_neg fun hc => hindex hc.1)
  | clear jointName =>
      simp only [JointStateOp.apply, CanDriverHW.clearDirectCommand] at h
      split at h
      · next hnone => exact ⟨joint', h, .same rfl rfl (by simp [JointStateOp.directEvent, hnone])⟩
      · next index' hfound =>
        simp only [List.getElem?_modify, Option.map_eq_map, Option.map_eq_some_iff] at h
        obtain ⟨joint, hjoint, rfl⟩ := h
        refine ⟨joint, hjoint, ?_⟩
        split
        · next hindex =>
          exact .dropped (direct_eq_none rfl rfl)
            (by simp [JointStateOp.directEvent, hfound, hindex])
        · next hindex => exact .same rfl rfl (by simp [JointStateOp.directEvent, hfound, hindex])
  | commitMode motorId mode =>
      simp only [JointStateOp.apply, CanDriverHW.commitModeSwitch] at h
      split at h
      · next hnone => exact ⟨joint', h, .same rfl rfl (by simp [JointStateOp.directEvent, hnone])⟩
      · next found target hfound =>
        refine keepsTo_set (CanDriverHW.matchedJoint_getElem? hfound) (fun hindex => ?_)
          (fun hindex v => ?_) h
        · exact .dropped (direct_eq_none rfl rfl)
            (by simp [JointStateOp.directEvent, hfound, hindex])
        · simp [JointStateOp.directEvent, hfound, Ne.symm hindex]
  | commitZero motorId zeroOffset previousZeroOffset applyToMotor writable =>
      rw [JointStateOp.apply] at h
      obtain hsame | ⟨found, target, stored, hfound, hset⟩ :=
        joints_commitZero hw motorId zeroOffset previousZeroOffset applyToMotor writable
      · exact ⟨joint', hsame ▸ h, .same rfl rfl rfl⟩
      · rw [hset] at h
        refine keepsTo_set (CanDriverHW.matchedJoint_getElem? hfound) (fun _ => ?_)
          (fun _ _ => rfl) h
        exact .same rfl rfl rfl
  | commitLimits motorId baseMin baseMax zeroOffset applyToMotor =>
      simp only [JointStateOp.apply, CanDriverHW.commitLimits] at h
      split at h
      · exact ⟨joint', h, .same rfl rfl rfl⟩
      · next found target hfound =>
        refine keepsTo_set (CanDriverHW.matchedJoint_getElem? hfound) (fun _ => ?_)
          (fun _ _ => rfl) h
        exact .same rfl rfl rfl
  | hold =>
      simp only [JointStateOp.apply, CanDriverHW.holdCommandsForLifecycleTransition,
        List.getElem?_map, Option.map_eq_some_iff] at h
      obtain ⟨joint, hjoint, rfl⟩ := h
      exact ⟨joint, hjoint, .dropped (direct_holdCommand joint) rfl⟩
  | sync snapshots =>
      simp only [JointStateOp.apply, CanDriverHW.syncFeedback, List.getElem?_mapIdx,
        Option.map_eq_some_iff] at h
      obtain ⟨joint, hjoint, rfl⟩ := h
      refine ⟨joint, hjoint, ?_⟩
      split
      · exact .same rfl rfl rfl
      · exact .same rfl rfl rfl
  | command commands =>
      simp only [JointStateOp.apply, CanDriverHW.enforceLimits, List.getElem?_mapIdx,
        Option.map_eq_some_iff] at h
      obtain ⟨joint, hjoint, rfl⟩ := h
      exact ⟨joint, hjoint, .same rfl rfl rfl⟩

end

/-! ## the registers of all joints -/

/-- What happened to the direct commands, by joint and for positions and velocities, newest
first. -/
abbrev DirectEvents := Nat → Bool → List DirectEvent

/-- What has happened after an operation. -/
def DirectEvents.after (events : DirectEvents) (op : ControlOp) (hw : CanDriverHW) : DirectEvents :=
  fun index isVelocity => (op.directEvent hw index isVelocity).toList ++ events index isVelocity

/-- Every joint holds the direct command of its register. -/
def Registered (config : WriteConfig) (hw : CanDriverHW) (events : DirectEvents) : Prop :=
  ∀ index joint, hw.joints[index]? = some joint →
    joint.direct = registered config.fresh (events index joint.usesVelocity)

/-- **Step**: it does so after every operation. -/
theorem Registered.apply {config : WriteConfig} {hw : CanDriverHW} {events : DirectEvents}
    (h : Registered config hw events) {op : ControlOp} (hop : op.Configured config) :
    Registered config (op.apply hw) (events.after op hw) := by
  have hkept : ∀ index joint', (op.apply hw).joints[index]? = some joint' →
      ∃ joint, hw.joints[index]? = some joint ∧
        KeepsTo config (fun v => op.directEvent hw index v) joint joint' := by
    intro index joint' hjoint'
    cases op with
    | cycle op =>
        cases op with
        | driver op =>
            cases op with
            | hw op => exact keepsTo_jointOp hop hjoint'
            | _ => exact ⟨joint', hjoint', .same rfl rfl rfl⟩
        | _ => exact ⟨joint', hjoint', .same rfl rfl rfl⟩
    | jointState op => exact keepsTo_jointStateOp hjoint'
    | _ => exact ⟨joint', hjoint', .same rfl rfl rfl⟩
  intro index joint' hjoint'
  obtain ⟨joint, hjoint, hkeeps⟩ := hkept index joint' hjoint'
  exact hkeeps (events index) (h index joint hjoint)

/-! ## what is sent -/

/-- What the commands of a cycle are prepared from: the time, the joints, and what had happened to
their direct commands. -/
structure Preparation where
  now : Time
  hw : CanDriverHW
  events : DirectEvents

namespace Preparation

/-- The direct command of a joint counts: it was accepted last, nothing has happened to it since
but checks that it passed, and it is recent enough, unless that is not asked for. -/
def Direct (config : WriteConfig) (prep : Preparation) (index : Nat)
    (joint : CanDriverJointConfig) (value : Double) : Prop :=
  ∃ stamp newer older, prep.events index joint.usesVelocity = newer ++ .set value stamp :: older ∧
    (∀ event ∈ newer, event.Spares config.fresh stamp) ∧
    (config.debugBypassRosControl = true ∨ config.fresh prep.now stamp = true)

/-- The controllers command: they may, and there is no joint whose direct command counts. -/
def Controlled (config : WriteConfig) (prep : Preparation) (joint : CanDriverJointConfig)
    (value : Double) : Prop :=
  value = joint.fallbackCommandValue ∧ config.debugBypassRosControl = false ∧
    ∀ index joint' value', prep.hw.joints[index]? = some joint' →
      ¬ prep.Direct config index joint' value'

/-- A command that may be sent for the joint at an index: the direct command of the joint or the
one of the controllers, within the limits of the joint. -/
def Sends (config : WriteConfig) (prep : Preparation) (index : Nat) (route : PreparedCommandRoute)
    (motorId : MotorID) (raw : Int32) : Prop :=
  ∃ joint value, prep.hw.joints[index]? = some joint ∧
    route = controlModeDispatchRoute joint.mode ∧ motorId = joint.motorId ∧
    rawCommand joint (limitPositionStep config joint (clampWithJointLimits joint value)) =
      some raw ∧
    (prep.Direct config index joint value ∨ prep.Controlled config joint value)

end Preparation

/-- The first loop finds a direct command that counts if there is one. -/
theorem scanDirectCommands_present {config : WriteConfig} {now : Time}
    {joints : List CanDriverJointConfig} {joint : CanDriverJointConfig} (h : joint ∈ joints)
    (hdirect : joint.hasDirectCommand = true)
    (halive : directCommandAlive config now joint = true) :
    (scanDirectCommands config now joints).1 = true := by
  induction joints with
  | nil => cases h
  | cons first joints ih =>
      rw [scanDirectCommands]
      obtain rfl | hrest := List.mem_cons.1 h
      · simp [hdirect, halive]
      · split
        · exact ih hrest
        · split
          · rfl
          · exact ih hrest

section

variable {config : WriteConfig} {prep : Preparation} {index : Nat} {joint : CanDriverJointConfig}

/-- A direct command counts if the joint is moved by it. -/
theorem direct_of_uses (h : Registered config prep.hw prep.events)
    (hjoint : prep.hw.joints[index]? = some joint)
    (huses : usesDirectCommand config prep.now joint = true) :
    prep.Direct config index joint joint.directCommandValue := by
  obtain ⟨hdirect, hcounts⟩ := Bool.and_eq_true_iff.1 huses
  have hheld := h index joint hjoint
  rw [CanDriverJointConfig.direct, if_pos hdirect] at hheld
  obtain ⟨newer, older, hevents, hspared⟩ := registered_eq_some_iff.1 hheld.symm
  exact ⟨_, newer, older, hevents, hspared, Bool.or_eq_true_iff.1 hcounts⟩

/-- A direct command that counts is found by the first loop. -/
theorem present_of_direct {value : Double} (h : Registered config prep.hw prep.events)
    (hjoint : prep.hw.joints[index]? = some joint) (hbypass : config.debugBypassRosControl = false)
    (hdirect : prep.Direct config index joint value) :
    (scannedJoints config prep.now prep.hw.joints).1 = true := by
  obtain ⟨stamp, newer, older, hevents, hspared, hcounts⟩ := hdirect
  have hheld := h index joint hjoint
  rw [registered_eq_some_iff.2 ⟨newer, older, hevents, hspared⟩,
    CanDriverJointConfig.direct] at hheld
  obtain ⟨hhas, hvalue⟩ := Option.ite_none_right_eq_some.1 hheld
  obtain ⟨-, rfl⟩ := Prod.mk.inj (Option.some.inj hvalue)
  have hfresh : config.fresh prep.now joint.lastDirectCommandTime = true := by
    simpa [hbypass] using hcounts
  rw [scannedJoints, hbypass]
  exact scanDirectCommands_present (List.mem_of_getElem? hjoint) hhas hfresh

theorem clearDirectCommand_mode (joint : CanDriverJointConfig) :
    joint.clearDirectCommand.mode = joint.mode ∧
      joint.clearDirectCommand.motorId = joint.motorId := by
  rw [CanDriverJointConfig.clearDirectCommand]
  split
  · exact ⟨rfl, rfl⟩
  · exact ⟨rfl, rfl⟩

theorem preparedJoint_mode (config : WriteConfig) (now : Time) (present : Bool)
    (joint : CanDriverJointConfig) :
    (preparedJoint config now present joint).mode = joint.mode ∧
      (preparedJoint config now present joint).motorId = joint.motorId := by
  have hcleared : ∀ cleared, cleared = (if joint.hasDirectCommand &&
        !usesDirectCommand config now joint then joint.clearDirectCommand else joint) →
      cleared.mode = joint.mode ∧ cleared.motorId = joint.motorId := by
    rintro cleared rfl
    split
    · exact clearDirectCommand_mode joint
    · exact ⟨rfl, rfl⟩
  obtain ⟨hmode, hmotor⟩ := hcleared _ rfl
  rw [preparedJoint]
  split
  · exact ⟨hmode, hmotor⟩
  · exact ⟨hmode, hmotor⟩

/-- A controller's command is prepared only if the controllers may command. -/
theorem controllers_of_prepared {now : Time} {present : Bool}
    (hvalid : (prepareJoint config now present joint).2.isSome = true)
    (hunused : usesDirectCommand config now joint = false) :
    config.debugBypassRosControl = false ∧ present = false := by
  obtain ⟨raw, hraw⟩ := Option.isSome_iff_exists.1 hvalid
  rw [prepareJoint] at hraw
  obtain ⟨value, hvalue, -⟩ := Option.bind_eq_some_iff.1 hraw
  rw [commandValue] at hvalue
  obtain ⟨hmay, -⟩ := Option.ite_none_left_eq_some.1 hvalue
  simpa [hunused] using hmay

/-- **Arbitration**: a valid command was decided on as it should be. -/
theorem sends_of_prepared (h : Registered config prep.hw prep.events)
    {command : CanDriverPreparedCommand}
    (hcommand : (preparedCommands config prep.now prep.hw)[index]? = some command)
    (hvalid : command.valid = true) :
    prep.Sends config index command.route command.motorId command.raw := by
  have hprepared := hcommand
  rw [preparedCommands, List.getElem?_map, Option.map_eq_some_iff] at hprepared
  obtain ⟨prepared, hprepared, rfl⟩ := hprepared
  obtain ⟨joint, scanned, hjoint, hscanned, rfl⟩ := prepareJoints_getElem? hprepared
  have hraw := preparedCommands_valid config prep.now hjoint hcommand hvalid
  rw [limitedInput, selectedInput] at hraw
  have hsame : scanned.mode = joint.mode ∧ scanned.motorId = joint.motorId ∧
      usesDirectCommand config prep.now scanned = usesDirectCommand config prep.now joint := by
    obtain rfl | ⟨hunused, rfl⟩ := hscanned
    · exact ⟨rfl, rfl, rfl⟩
    · obtain ⟨hmode, hmotor⟩ := clearDirectCommand_mode joint
      exact ⟨hmode, hmotor, by rw [usesDirectCommand_clearDirectCommand, hunused]⟩
  obtain ⟨hmode, hmotor, huses⟩ := hsame
  obtain ⟨hmode', hmotor'⟩ := preparedJoint_mode config prep.now
    (scannedJoints config prep.now prep.hw.joints).1 scanned
  refine ⟨joint, _, hjoint, congrArg controlModeDispatchRoute (hmode'.trans hmode),
    hmotor'.trans hmotor, hraw, ?_⟩
  cases hdirect : usesDirectCommand config prep.now joint with
  | true => exact .inl (direct_of_uses h hjoint hdirect)
  | false =>
      obtain ⟨hbypass, hpresent⟩ := controllers_of_prepared hvalid (huses.trans hdirect)
      refine .inr ⟨rfl, hbypass, fun index' joint' value' hjoint' hcounts => ?_⟩
      have hfound := present_of_direct h hjoint' hbypass hcounts
      rw [hpresent] at hfound
      cases hfound

end

end CanDriver
