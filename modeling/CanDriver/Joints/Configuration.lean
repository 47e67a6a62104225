import CanDriver.Cycle.Arbitration
import CanDriver.Joints.Restart

/-!
# CanDriver.Joints.Configuration

What the node may rely on about its joints.

The parser checks every number of a joint and keeps its defaults where nothing is given; nothing
that happens later touches what it has checked, except for the control mode and the zero offset.
So the joints are well configured in every state of every run, and a raw command can be made of
every position.

A position that was read from a motor and is commanded again is sent as it was read.
-/

namespace CanDriver

open Interact

/-! ## what is checked -/

/-- A number above zero. -/
def Double.isPositive (x : Double) : Bool := x.isFinite && !x.le (.finite 0)

/-- A number that is not below zero. -/
def Double.isNonNegative (x : Double) : Bool := x.isFinite && !x.lt (.finite 0)

theorem Double.isPositive_finite {q : ℚ} (hq : 0 < q) : (Double.finite q).isPositive = true := by
  simp [Double.isPositive, Double.isFinite, Double.le, hq]

theorem Double.exists_of_isPositive {x : Double} (h : x.isPositive = true) :
    ∃ q : ℚ, 0 < q ∧ x = .finite q := by
  cases x with
  | finite q => exact ⟨q, by simpa [isPositive, isFinite, le] using h, rfl⟩
  | inf negative => simp [isPositive, isFinite] at h
  | nan => simp [isPositive, isFinite] at h

theorem Double.isNonNegative_finite {q : ℚ} (hq : 0 ≤ q) :
    (Double.finite q).isNonNegative = true := by
  simp [Double.isNonNegative, Double.isFinite, Double.lt, hq]

/-- A joint as the parser leaves it, but for its control mode and its zero offset. -/
structure WellConfigured (p : ParsedJointConfig) : Prop where
  positionScale : p.positionScale.isPositive = true
  velocityScale : p.velocityScale.isPositive = true
  directionSign : p.directionSign = .finite 1 ∨ p.directionSign = .finite (-1)
  ipMaxVelocity : p.ipMaxVelocity.isPositive = true
  ipMaxAcceleration : p.ipMaxAcceleration.isPositive = true
  ipMaxJerk : p.ipMaxJerk.isPositive = true
  ipGoalTolerance : p.ipGoalTolerance.isNonNegative = true
  ecbRefreshMs : 0 < p.ecbRefreshMs
  ecbProfilePositionMaxRpm : p.ecbProfilePositionMaxRpm.isPositive = true
  ecbProfilePositionAcceleration : p.ecbProfilePositionAccelerationRpmS.isPositive = true
  ecbProfilePositionDeceleration : p.ecbProfilePositionDecelerationRpmS.isFinite = true
  ecbProfileVelocityAcceleration : p.ecbProfileVelocityAccelerationRpmS.isPositive = true
  ecbProfileVelocityDeceleration : p.ecbProfileVelocityDecelerationRpmS.isFinite = true
  node : p.protocol = .DM → toProtocolNodeId p.motorId ≤ 0x0F

/-- A joint with its identity, and defaults for the rest. -/
def ParsedJointConfig.identity (p : ParsedJointConfig) : ParsedJointConfig where
  name := p.name
  canDevice := p.canDevice
  controlMode := p.controlMode
  motorId := p.motorId
  protocol := p.protocol

namespace JointConfigParser

/-- What an optional number passes, if its default does. -/
theorem parseOptionalDouble_passes {test : Double → Bool} {text fieldName jointName : String}
    {jv : XmlRpcValue} {out x : Double} (hout : test out = true)
    (h : parseOptionalDouble test text jv fieldName jointName out = .ok x) : test x = true := by
  rw [parseOptionalDouble] at h
  split at h
  · exact Except.ok.inj h ▸ hout
  · split at h
    · cases h
    · split at h
      · next htest => exact Except.ok.inj h ▸ htest
      · cases h

/-- An identity, the rest being left at its defaults. -/
theorem parseIdentity_spec {i : Nat} {jv : XmlRpcValue} {p : ParsedJointConfig}
    (h : parseIdentity i jv = .ok p) :
    p = p.identity ∧ (p.protocol = .DM → toProtocolNodeId p.motorId ≤ 0x0F) := by
  unfold parseIdentity at h
  split at h
  · cases h
  · dsimp only at h
    obtain ⟨name, -, h⟩ := exists_of_bind h
    obtain ⟨device, -, h⟩ := exists_of_bind h
    obtain ⟨mode, -, h⟩ := exists_of_bind h
    split at h
    · cases h
    · obtain ⟨protoStr, -, h⟩ := exists_of_bind h
      obtain ⟨protocol, -, h⟩ := exists_of_bind h
      obtain ⟨motorId, -, h⟩ := exists_of_bind h
      split at h
      · cases h
      · next hnode =>
        split at h
        · cases h
        · obtain rfl := Except.ok.inj h
          refine ⟨rfl, fun hdm => ?_⟩
          exact UInt8.not_lt.1 fun hlarge => hnode ⟨hdm, hlarge⟩

/-- Every default passes its own check. -/
theorem wellConfigured_identity {p : ParsedJointConfig}
    (hnode : p.protocol = .DM → toProtocolNodeId p.motorId ≤ 0x0F) : WellConfigured p.identity where
  positionScale := Double.isPositive_finite (by norm_num)
  velocityScale := Double.isPositive_finite (by norm_num)
  directionSign := .inl rfl
  ipMaxVelocity := Double.isPositive_finite (by norm_num)
  ipMaxAcceleration := Double.isPositive_finite (by norm_num)
  ipMaxJerk := Double.isPositive_finite (by norm_num)
  ipGoalTolerance := Double.isNonNegative_finite (by norm_num)
  ecbRefreshMs := show (0 : Int32) < 20 by decide
  ecbProfilePositionMaxRpm := Double.isPositive_finite (by norm_num)
  ecbProfilePositionAcceleration := Double.isPositive_finite (by norm_num)
  ecbProfilePositionDeceleration := rfl
  ecbProfileVelocityAcceleration := Double.isPositive_finite (by norm_num)
  ecbProfileVelocityDeceleration := rfl
  node := hnode

/-- What the scaling of a joint passes. -/
theorem parseScaling_wellConfigured {jv : XmlRpcValue} {jc p : ParsedJointConfig}
    (hjc : WellConfigured jc) (h : parseScaling jv jc = .ok p) : WellConfigured p := by
  have hpositive : ∀ x : Double, ¬ (!x.isFinite || x.le (.finite 0)) = true →
      x.isPositive = true := by
    intro x hx
    rw [Double.isPositive]
    simpa using hx
  unfold parseScaling at h
  dsimp only at h
  obtain ⟨positionScale, -, h⟩ := exists_of_bind h
  obtain ⟨velocityScale, -, h⟩ := exists_of_bind h
  split at h
  · cases h
  · next hposition =>
    split at h
    · cases h
    · next hvelocity =>
      obtain ⟨directionSign, hdirection, h⟩ := exists_of_bind h
      obtain ⟨zeroOffsetRad, -, h⟩ := exists_of_bind h
      obtain ⟨ipMaxVelocity, hmaxVelocity, h⟩ := exists_of_bind h
      obtain ⟨ipMaxAcceleration, hacceleration, h⟩ := exists_of_bind h
      obtain ⟨ipMaxJerk, hjerk, h⟩ := exists_of_bind h
      obtain ⟨ipGoalTolerance, htolerance, h⟩ := exists_of_bind h
      obtain rfl := Except.ok.inj h
      have hsign := parseOptionalDouble_passes (by simpa using hjc.directionSign) hdirection
      exact
        { hjc with
          positionScale := hpositive _ hposition
          velocityScale := hpositive _ hvelocity
          directionSign := by simpa using hsign
          ipMaxVelocity := parseOptionalDouble_passes hjc.ipMaxVelocity hmaxVelocity
          ipMaxAcceleration := parseOptionalDouble_passes hjc.ipMaxAcceleration hacceleration
          ipMaxJerk := parseOptionalDouble_passes hjc.ipMaxJerk hjerk
          ipGoalTolerance := parseOptionalDouble_passes hjc.ipGoalTolerance htolerance }

theorem reject_ne_ok {jointName msg : String} {a : α} : reject jointName msg ≠ .ok a := nofun

/-- What the members of an ECB joint pass. -/
theorem parseEcb_wellConfigured {jv : XmlRpcValue} {jc p : ParsedJointConfig}
    (hjc : WellConfigured jc) (h : parseEcb jv jc = .ok p) : WellConfigured p := by
  unfold parseEcb at h
  dsimp only at h
  -- the address and the discovery are not looked at, so their cases all end alike
  repeat' first
    | replace h := exists_of_bind h
      obtain ⟨_, _, h⟩ := h
      try with_reducible exact absurd ‹_› reject_ne_ok
    | obtain rfl := Except.ok.inj h
    | split at h
  all_goals
    rename_i ms hms _ hmaxRpm _ hacceleration _ hdeceleration _ hvAcceleration _ hvDeceleration _
    have hpositive : 0 < ms := by
      cases hms
      first
        | exact hjc.ecbRefreshMs
        | exact Int32.not_le.1 ‹_›
    exact
      { hjc with
        ecbRefreshMs := hpositive
        ecbProfilePositionMaxRpm := parseOptionalDouble_passes hjc.ecbProfilePositionMaxRpm hmaxRpm
        ecbProfilePositionAcceleration :=
          parseOptionalDouble_passes hjc.ecbProfilePositionAcceleration hacceleration
        ecbProfilePositionDeceleration :=
          parseOptionalDouble_passes hjc.ecbProfilePositionDeceleration hdeceleration
        ecbProfileVelocityAcceleration :=
          parseOptionalDouble_passes hjc.ecbProfileVelocityAcceleration hvAcceleration
        ecbProfileVelocityDeceleration :=
          parseOptionalDouble_passes hjc.ecbProfileVelocityDeceleration hvDeceleration }

/-- **Parsing**: every joint of an accepted list is well configured. -/
theorem wellConfigured_of_parseJoints {i : Nat} {jvs : List XmlRpcValue}
    {parsed : List ParsedJointConfig} (h : parseJoints i jvs = .ok parsed) :
    ∀ p ∈ parsed, WellConfigured p := by
  induction jvs generalizing i parsed with
  | nil => simp [Except.ok.inj h ▸ List.not_mem_nil]
  | cons jv jvs ih =>
      obtain ⟨p, hjoint, h⟩ := exists_of_bind h
      obtain ⟨ps, hjoints, h⟩ := exists_of_bind h
      obtain rfl := Except.ok.inj h
      obtain ⟨jc, hidentity, hjoint⟩ := exists_of_bind hjoint
      obtain ⟨jc', hscaling, hecb⟩ := exists_of_bind hjoint
      obtain ⟨hjc, hnode⟩ := parseIdentity_spec hidentity
      have hwell : WellConfigured jc := hjc ▸ wellConfigured_identity hnode
      rw [List.forall_mem_cons]
      exact ⟨parseEcb_wellConfigured (parseScaling_wellConfigured hwell hscaling) hecb, ih hjoints⟩

end JointConfigParser

/-! ## what is kept -/

theorem WellConfigured.of_fixed {joint other : CanDriverJointConfig}
    (h : WellConfigured joint.toParsedJointConfig) (hfixed : other.fixed = joint.fixed) :
    WellConfigured other.toParsedJointConfig := by
  have hjoint : WellConfigured joint.fixed := { h with }
  rw [← hfixed] at hjoint
  exact { hjoint with }

theorem fixed_clearDirectCommand (joint : CanDriverJointConfig) :
    joint.clearDirectCommand.fixed = joint.fixed := by
  rw [CanDriverJointConfig.clearDirectCommand]
  split
  · rfl
  · rfl

theorem fixed_holdCommand (joint : CanDriverJointConfig) :
    joint.holdCommand.fixed = joint.fixed := by
  rw [CanDriverJointConfig.holdCommand]
  dsimp only
  split
  · rfl
  · rfl

theorem fixed_preparedJoint (config : WriteConfig) (now : Time) (present : Bool)
    (joint : CanDriverJointConfig) :
    (preparedJoint config now present joint).fixed = joint.fixed := by
  have hcleared := fixed_clearDirectCommand joint
  rw [preparedJoint]
  split
  · split
    · exact hcleared
    · rfl
  · split
    · exact hcleared
    · rfl

theorem map_fixed_scannedJoints (config : WriteConfig) (now : Time)
    (joints : List CanDriverJointConfig) :
    (scannedJoints config now joints).2.map CanDriverJointConfig.fixed =
      joints.map CanDriverJointConfig.fixed := by
  have hscan : (scanDirectCommands config now joints).2.map CanDriverJointConfig.fixed =
      joints.map CanDriverJointConfig.fixed := by
    induction joints with
    | nil => rfl
    | cons joint joints ih =>
        rw [scanDirectCommands]
        split
        · simp only [List.map_cons, ih]
        · split
          · rfl
          · simp only [List.map_cons, ih, fixed_clearDirectCommand]
  rw [scannedJoints]
  split
  · rfl
  · exact hscan

/-- What keeps every joint keeps the list of them. -/
theorem map_fixed_of_getElem? {joints joints' : List CanDriverJointConfig}
    (h : ∀ index : Nat, (joints'[index]?).map CanDriverJointConfig.fixed =
      (joints[index]?).map CanDriverJointConfig.fixed) :
    joints'.map CanDriverJointConfig.fixed = joints.map CanDriverJointConfig.fixed := by
  refine List.ext_getElem? fun index => ?_
  rw [List.getElem?_map, List.getElem?_map]
  exact h index

theorem map_fixed_mapIdx {f : Nat → CanDriverJointConfig → CanDriverJointConfig}
    (hf : ∀ index joint, (f index joint).fixed = joint.fixed) (joints : List CanDriverJointConfig) :
    (joints.mapIdx f).map CanDriverJointConfig.fixed = joints.map CanDriverJointConfig.fixed := by
  refine map_fixed_of_getElem? fun index => ?_
  rw [List.getElem?_mapIdx, Option.map_map]
  exact congrArg (fun g => (joints[index]?).map g) (funext (hf index))

theorem map_fixed_modify {f : CanDriverJointConfig → CanDriverJointConfig}
    (hf : ∀ joint, (f joint).fixed = joint.fixed) (index : Nat)
    (joints : List CanDriverJointConfig) :
    (joints.modify index f).map CanDriverJointConfig.fixed =
      joints.map CanDriverJointConfig.fixed := by
  refine map_fixed_of_getElem? fun index' => ?_
  rw [List.getElem?_modify, Option.map_eq_map, Option.map_map]
  refine congrArg (fun g => (joints[index']?).map g) (funext fun joint => ?_)
  by_cases hindex : index = index'
  · exact (congrArg CanDriverJointConfig.fixed (if_pos hindex)).trans (hf joint)
  · exact congrArg CanDriverJointConfig.fixed (if_neg hindex)

/-- Writing back a joint that was found and is configured as it was. -/
theorem map_fixed_setJoint {hw : CanDriverHW} {motorId : MotorID} {index : Nat}
    {joint other : CanDriverJointConfig} (hmatched : hw.matchedJoint motorId = some (index, joint))
    (hother : other.fixed = joint.fixed) :
    (hw.joints.set index other).map CanDriverJointConfig.fixed =
      hw.joints.map CanDriverJointConfig.fixed := by
  rw [List.map_set, hother, ← List.map_set, CanDriverHW.set_matchedJoint hmatched]

theorem map_fixed_hold (hw : CanDriverHW) :
    hw.holdCommandsForLifecycleTransition.joints.map CanDriverJointConfig.fixed =
      hw.joints.map CanDriverJointConfig.fixed := by
  rw [CanDriverHW.holdCommandsForLifecycleTransition, List.map_map]
  exact List.map_congr_left fun joint _ => fixed_holdCommand joint

theorem map_fixed_jointOp (op : JointOp) (hw : CanDriverHW) :
    (op.apply hw).joints.map CanDriverJointConfig.fixed =
      hw.joints.map CanDriverJointConfig.fixed := by
  cases op with
  | read => rfl
  | invalidate => rfl
  | hold => exact map_fixed_hold hw
  | limit limiter =>
      refine map_fixed_mapIdx (fun index joint => ?_) hw.joints
      rfl
  | prepare config now =>
      have hprepared : (prepareJoints config now hw.joints).map
          (CanDriverJointConfig.fixed ∘ Prod.fst) = hw.joints.map CanDriverJointConfig.fixed := by
        rw [prepareJoints, List.map_map, ← map_fixed_scannedJoints config now hw.joints]
        exact List.map_congr_left fun joint _ => fixed_preparedJoint config now _ joint
      rw [JointOp.apply, prepareCommands, List.map_map]
      exact hprepared
  | clearGroup group =>
      refine map_fixed_mapIdx (fun index joint => ?_) hw.joints
      split
      · exact fixed_holdCommand joint
      · rfl
  | noteStopIssued index issued =>
      refine map_fixed_modify (fun joint => ?_) index hw.joints
      rfl

theorem map_fixed_jointStateOp (op : JointStateOp) (hw : CanDriverHW) :
    (op.apply hw).joints.map CanDriverJointConfig.fixed =
      hw.joints.map CanDriverJointConfig.fixed := by
  cases op with
  | accept jointIndex isVelocity value stamp =>
      refine map_fixed_modify (fun joint => ?_) jointIndex hw.joints
      cases isVelocity with
      | true => rfl
      | false => rfl
  | clear jointName =>
      rw [JointStateOp.apply, CanDriverHW.clearDirectCommand]
      cases hw.jointIndexByName jointName with
      | none => rfl
      | some index =>
          refine map_fixed_modify (fun joint => ?_) index hw.joints
          rfl
  | commitMode motorId mode =>
      rw [JointStateOp.apply, CanDriverHW.commitModeSwitch]
      cases hmatched : hw.matchedJoint motorId with
      | none => rfl
      | some found =>
          obtain ⟨index, joint⟩ := found
          exact map_fixed_setJoint hmatched rfl
  | commitZero motorId zeroOffset previousZeroOffset applyToMotor writable =>
      rw [JointStateOp.apply]
      obtain hsame | ⟨index, joint, stored, hmatched, hset⟩ :=
        joints_commitZero hw motorId zeroOffset previousZeroOffset applyToMotor writable
      · rw [hsame]
      · rw [hset]
        exact map_fixed_setJoint hmatched rfl
  | commitLimits motorId baseMin baseMax zeroOffset applyToMotor =>
      rw [JointStateOp.apply, CanDriverHW.commitLimits]
      cases hmatched : hw.matchedJoint motorId with
      | none => rfl
      | some found =>
          obtain ⟨index, joint⟩ := found
          exact map_fixed_setJoint hmatched rfl
  | hold => exact map_fixed_hold hw
  | sync snapshots =>
      refine map_fixed_mapIdx (fun index joint => ?_) hw.joints
      cases snapshots index with
      | none => rfl
      | some snapshot => rfl
  | command commands =>
      refine map_fixed_mapIdx (fun index joint => ?_) hw.joints
      rfl

/-- **Step**: nothing that a thread does changes how a joint is configured. -/
theorem map_fixed_apply (op : ControlOp) (hw : CanDriverHW) :
    (op.apply hw).joints.map CanDriverJointConfig.fixed =
      hw.joints.map CanDriverJointConfig.fixed := by
  cases op with
  | cycle op =>
      cases op with
      | driver op =>
          cases op with
          | hw op => exact map_fixed_jointOp op hw
          | _ => rfl
      | _ => rfl
  | jointState op => exact map_fixed_jointStateOp op hw
  | _ => rfl

/-! ## runs -/

section

variable {ι : Type} [DecidableEq ι] {config : WriteConfig}
  {groups : List CanDriverDeviceProtocolGroup} {w w' : ControlPool ι × ControlLog ι}

theorem map_fixed_step {e : ControlEvent ι} (hs : ControlStep config groups w e w') :
    w'.1.shared.hw.joints.map CanDriverJointConfig.fixed =
      w.1.shared.hw.joints.map CanDriverJointConfig.fixed := by
  obtain ⟨p, log⟩ := w
  obtain ⟨p', log'⟩ := w'
  obtain ⟨hs, -⟩ := hs
  cases hs with
  | call i c hi => rfl
  | act i c op k r s' hi hop =>
      have happlied := congrArg CanDriverHW.joints (hw_of_access hop)
      exact (congrArg (List.map CanDriverJointConfig.fixed) happlied).trans (map_fixed_apply op _)
  | ret i c a hi => rfl

/-- **Run**: the joints stay configured as they were set up. -/
theorem map_fixed_of_run {hw : CanDriverHW} (h : ControlRun config groups hw w) :
    w.1.shared.hw.joints.map CanDriverJointConfig.fixed =
      hw.joints.map CanDriverJointConfig.fixed :=
  Reach.invariant
    (I := fun w : ControlPool ι × ControlLog ι =>
      w.1.shared.hw.joints.map CanDriverJointConfig.fixed =
        hw.joints.map CanDriverJointConfig.fixed)
    (by exact rfl) (fun _ _ _ h _ hs => (map_fixed_step hs).trans h) h

/-- A joint that is set up is configured as it was parsed. -/
theorem wellConfigured_setupJoints {parsed : List ParsedJointConfig}
    {st st' : CanDriverHW.Setup}
    (hst : ∀ joint ∈ st.hw.joints, WellConfigured joint.toParsedJointConfig)
    (hparsed : ∀ p ∈ parsed, WellConfigured p) (h : CanDriverHW.setupJoints st parsed = some st') :
    ∀ joint ∈ st'.hw.joints, WellConfigured joint.toParsedJointConfig := by
  induction parsed generalizing st with
  | nil => exact Option.some.inj h ▸ hst
  | cons p parsed ih =>
      obtain ⟨hp, hparsed⟩ := List.forall_mem_cons.1 hparsed
      rw [CanDriverHW.setupJoints] at h
      split at h
      · cases h
      · next st₁ hst₁ =>
        refine ih ?_ hparsed h
        rw [CanDriverHW.setupJoint] at hst₁
        obtain ⟨-, hst₁⟩ := Option.ite_none_left_eq_some.1 hst₁
        obtain ⟨-, hst₁⟩ := Option.ite_none_left_eq_some.1 hst₁
        obtain rfl := Option.some.inj hst₁
        intro joint hjoint
        obtain hold | hnew := List.mem_append.1 hjoint
        · exact hst joint hold
        · obtain rfl := List.mem_singleton.1 hnew
          exact { hp with }

theorem wellConfigured_of_init {hw hw' : CanDriverHW} {persistenceEnabled : Bool}
    {param : Option XmlRpcValue} (h : hw.init persistenceEnabled param = some hw') :
    ∀ joint ∈ hw'.joints, WellConfigured joint.toParsedJointConfig := by
  obtain ⟨loaded, hempty, h⟩ := exists_setup_of_init h
  obtain ⟨jointList, parsed, st, -, hparsed, hst, rfl⟩ :=
    exists_of_parseAndSetupJoints h
  refine wellConfigured_setupJoints (fun joint hjoint => by simp [hempty] at hjoint) ?_ hst
  unfold JointConfigParser.parse at hparsed
  split at hparsed
  · exact JointConfigParser.wellConfigured_of_parseJoints hparsed
  · cases hparsed

/-- **Configuration**: in every state of every run, whatever the calls of the threads do and
however they interleave, each joint passes the checks of the parser, and no two joints have the
same name or the same node. -/
theorem configuration_kept {hw hw' : CanDriverHW} {persistenceEnabled : Bool}
    {param : Option XmlRpcValue} (hsetup : hw.init persistenceEnabled param = some hw')
    (h : ControlRun config groups hw' w) :
    (∀ joint ∈ w.1.shared.hw.joints, WellConfigured joint.toParsedJointConfig) ∧
      w.1.shared.hw.joints.Pairwise (fun joint other => joint.name ≠ other.name) ∧
      w.1.shared.hw.joints.Pairwise (fun joint other => checkedNode joint ≠ checkedNode other) := by
  have hkept := map_fixed_of_run h
  obtain ⟨loaded, hempty, hparsed⟩ := exists_setup_of_init hsetup
  obtain ⟨hnames, hnodes⟩ := distinct_of_parseAndSetupJoints hempty hparsed
  refine ⟨fun joint hjoint => ?_, ?_, ?_⟩
  · have hmem := List.mem_map_of_mem (f := CanDriverJointConfig.fixed) hjoint
    rw [hkept] at hmem
    obtain ⟨configured, hconfigured, hfixed⟩ := List.mem_map.1 hmem
    exact (wellConfigured_of_init hsetup configured hconfigured).of_fixed hfixed.symm
  · have hpairs : (hw'.joints.map CanDriverJointConfig.fixed).Pairwise
        fun p q => p.name ≠ q.name := List.pairwise_map.2 hnames
    rw [← hkept] at hpairs
    exact (List.pairwise_map (f := CanDriverJointConfig.fixed)).1 hpairs
  · have hpairs : (hw'.joints.map CanDriverJointConfig.fixed).Pairwise fun p q =>
        (p.canDevice, p.protocol, toProtocolNodeId p.motorId) ≠
          (q.canDevice, q.protocol, toProtocolNodeId q.motorId) := List.pairwise_map.2 hnodes
    rw [← hkept] at hpairs
    exact (List.pairwise_map (f := CanDriverJointConfig.fixed)).1 hpairs

end

/-- The arms are set up, switched and moved. -/
def armsSwitched : List (Pool.Move Nat ControlCall) :=
  Pool.callFor 1 (.acceptDirectCommand 0 false (.finite 1) 0) 3 ++
    Pool.callFor 2 (.update (.commitMode 2 .velocity)) 2 ++
    Pool.callFor 0 (.write keepCommands) 16

/-- Two arms are well configured while one of them is switched to velocities. -/
theorem configuration_kept_arms :
    ∃ (hw : CanDriverHW) (w : ControlPool Nat × ControlLog Nat),
      CanDriverHW.init {} false (some twoArms) = some hw ∧ ControlRun {} [armsGroup] hw w ∧
      w.1.shared.hw.joints.map CanDriverJointConfig.usesVelocity = [false, true] ∧
      (∀ joint ∈ w.1.shared.hw.joints, WellConfigured joint.toParsedJointConfig) ∧
      w.1.shared.hw.joints.Pairwise (fun joint other => joint.name ≠ other.name) ∧
      w.1.shared.hw.joints.Pairwise (fun joint other => checkedNode joint ≠ checkedNode other) := by
  have hscript : (CanDriverHW.init {} false (some twoArms)).any (fun hw =>
      (Pool.followNoting (ControlCall.code {} [armsGroup]) serveControl ControlLog.note
        (Pool.idle { hw }, ⟨fun _ _ => [], fun _ => none⟩) armsSwitched).any (fun w =>
          decide (w.1.shared.hw.joints.map CanDriverJointConfig.usesVelocity =
            [false, true]))) = true := by
    decide +kernel
  obtain ⟨hw, hinit, hscript⟩ := (Option.any_eq_true _ _).1 hscript
  obtain ⟨w, hrun, htest⟩ := Pool.exists_of_followNoting (h := controlAccess)
    (C := fun _ _ => True) (fun _ _ _ _ _ => controlAccess_of_serve) (fun _ _ _ _ _ _ => trivial)
    hscript
  exact ⟨hw, w, hinit, hrun, of_decide_eq_true htest, configuration_kept hinit hrun⟩

end CanDriver
