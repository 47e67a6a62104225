import CanDriver.Joints.ZeroOffsets
import CanDriver.Lib.Pool

/-!
# CanDriver.Joints.Restart

What a restart keeps of the joints.

The joints are set up from the same parameter again, with the offsets of the file, which has one
line of 17 decimals for each motor id.  An offset that is not finite makes the file unreadable.
-/

namespace CanDriver

open Interact CanDriverHW

/-! ## the scale of a joint -/

namespace JointConfigParser

/-- What succeeds in two parts succeeds in both. -/
theorem exists_of_bind {x : Except ε α} {f : α → Except ε β} {b : β} (h : (x >>= f) = .ok b) :
    ∃ a, x = .ok a ∧ f a = .ok b := by
  cases x with
  | error e => cases h
  | ok a => exact ⟨a, rfl, h⟩

/-- A joint is scaled by something other than zero. -/
def Scaled (p : ParsedJointConfig) : Prop :=
  ∃ s sign : ℚ, s ≠ 0 ∧ sign ≠ 0 ∧ p.positionScale = .finite s ∧ p.directionSign = .finite sign

theorem parseDirectionSign_spec {jv : XmlRpcValue} {name : String} {out sign : Double}
    (hout : out = .finite 1) (h : parseDirectionSign jv name out = .ok sign) :
    sign = .finite 1 ∨ sign = .finite (-1) := by
  rw [parseDirectionSign, parseOptionalDouble] at h
  split at h
  · obtain rfl := Except.ok.inj h
    exact .inl hout
  · split at h
    · cases h
    · split at h
      · next htest =>
        obtain rfl := Except.ok.inj h
        simpa using htest
      · cases h

/-- The scale is checked to be positive, and the sign to be one. -/
theorem parseScaling_spec {jv : XmlRpcValue} {jc p : ParsedJointConfig}
    (hsign : jc.directionSign = .finite 1) (h : parseScaling jv jc = .ok p) : Scaled p := by
  unfold parseScaling at h
  dsimp only at h
  obtain ⟨positionScale, -, h⟩ := exists_of_bind h
  obtain ⟨velocityScale, -, h⟩ := exists_of_bind h
  split at h
  · cases h
  · next hscale =>
    split at h
    · cases h
    · obtain ⟨directionSign, hdirection, h⟩ := exists_of_bind h
      obtain ⟨_, -, h⟩ := exists_of_bind h
      obtain ⟨_, -, h⟩ := exists_of_bind h
      obtain ⟨_, -, h⟩ := exists_of_bind h
      obtain ⟨_, -, h⟩ := exists_of_bind h
      obtain ⟨_, -, h⟩ := exists_of_bind h
      obtain rfl := Except.ok.inj h
      simp only [Bool.or_eq_true, Bool.not_eq_true', not_or, Bool.not_eq_false,
        Bool.not_eq_true] at hscale
      obtain ⟨hfinite, hpositive⟩ := hscale
      cases positionScale with
      | finite s =>
          have hs : ¬ s ≤ 0 := of_decide_eq_false hpositive
          rcases parseDirectionSign_spec hsign hdirection with rfl | rfl
          · exact ⟨s, 1, fun h => hs h.le, one_ne_zero, rfl, rfl⟩
          · exact ⟨s, -1, fun h => hs h.le, by norm_num, rfl, rfl⟩
      | inf _ => cases hfinite
      | nan => cases hfinite

theorem directionSign_parseIdentity {i : Nat} {jv : XmlRpcValue} {p : ParsedJointConfig}
    (h : parseIdentity i jv = .ok p) : p.directionSign = .finite 1 := by
  unfold parseIdentity at h
  split at h
  · cases h
  · dsimp only at h
    obtain ⟨name, -, h⟩ := exists_of_bind h
    obtain ⟨device, -, h⟩ := exists_of_bind h
    obtain ⟨mode, -, h⟩ := exists_of_bind h
    split at h
    · cases h
    · obtain ⟨_, -, h⟩ := exists_of_bind h
      obtain ⟨_, -, h⟩ := exists_of_bind h
      obtain ⟨_, -, h⟩ := exists_of_bind h
      split at h
      · cases h
      · split at h
        · cases h
        · obtain rfl := Except.ok.inj h
          rfl

theorem parseEcb_spec {jv : XmlRpcValue} {jc p : ParsedJointConfig} (h : parseEcb jv jc = .ok p) :
    p.positionScale = jc.positionScale ∧ p.directionSign = jc.directionSign := by
  unfold parseEcb at h
  dsimp only at h
  repeat' first
    | obtain ⟨_, -, h⟩ := exists_of_bind h
    | split at h
  all_goals
    obtain rfl := Except.ok.inj h
    exact ⟨rfl, rfl⟩

theorem scaled_of_parseJoint {i : Nat} {jv : XmlRpcValue} {p : ParsedJointConfig}
    (h : parseJoint i jv = .ok p) : Scaled p := by
  obtain ⟨jc, hidentity, h⟩ := exists_of_bind h
  obtain ⟨jc', hscaling, h⟩ := exists_of_bind h
  obtain ⟨s, sign, hs, hsign, hscale, hdirection⟩ :=
    parseScaling_spec (directionSign_parseIdentity hidentity) hscaling
  obtain ⟨hscale', hdirection'⟩ := parseEcb_spec h
  exact ⟨s, sign, hs, hsign, hscale'.trans hscale, hdirection'.trans hdirection⟩

/-- Every joint of an accepted list is scaled. -/
theorem scaled_of_parseJoints {i : Nat} {jvs : List XmlRpcValue} {parsed : List ParsedJointConfig}
    (h : parseJoints i jvs = .ok parsed) : ∀ p ∈ parsed, Scaled p := by
  induction jvs generalizing i parsed with
  | nil =>
      obtain rfl := Except.ok.inj h
      exact fun p hp => absurd hp List.not_mem_nil
  | cons jv jvs ih =>
      obtain ⟨jc, hjoint, h⟩ := exists_of_bind h
      obtain ⟨jcs, hjoints, h⟩ := exists_of_bind h
      obtain rfl := Except.ok.inj h
      exact List.forall_mem_cons.2 ⟨scaled_of_parseJoint hjoint, ih hjoints⟩

theorem scaled_of_parse {jointList : XmlRpcValue} {parsed : List ParsedJointConfig}
    (h : parse jointList = .ok parsed) : ∀ p ∈ parsed, Scaled p := by
  unfold parse at h
  split at h
  · exact scaled_of_parseJoints h
  · cases h

end JointConfigParser

/-! ## the offset file -/

namespace OffsetMap

/-- The entries are in the order of their keys, and each key is there once. -/
def Ordered (m : OffsetMap) : Prop := m.Pairwise fun a b => a.1 < b.1

theorem mem_assign {m : OffsetMap} {motorId : MotorID} {value : Double} {entry : MotorID × Double}
    (h : entry ∈ m.assign motorId value) : entry = (motorId, value) ∨ entry ∈ m := by
  induction m with
  | nil => exact .inl (List.mem_singleton.1 h)
  | cons first m ih =>
      obtain ⟨k, v⟩ := first
      unfold assign at h
      split at h
      · exact List.mem_cons.1 h
      · split at h
        · exact (List.mem_cons.1 h).imp_right (List.mem_cons_of_mem _)
        · rcases List.mem_cons.1 h with rfl | h
          · exact .inr List.mem_cons_self
          · exact (ih h).imp_right (List.mem_cons_of_mem _)

theorem ordered_assign {m : OffsetMap} (h : m.Ordered) (motorId : MotorID) (value : Double) :
    (m.assign motorId value).Ordered := by
  induction m with
  | nil => exact List.pairwise_singleton _ _
  | cons first m ih =>
      obtain ⟨k, v⟩ := first
      obtain ⟨hfirst, hrest⟩ := List.pairwise_cons.1 h
      unfold assign
      split
      · next hlt =>
        refine List.pairwise_cons.2 ⟨fun entry hentry => ?_, h⟩
        rcases List.mem_cons.1 hentry with rfl | hentry
        · exact hlt
        · exact UInt16.lt_trans hlt (hfirst entry hentry)
      · next hnot =>
        split
        · next heq =>
          subst heq
          exact List.pairwise_cons.2 ⟨hfirst, hrest⟩
        · next hne =>
          refine List.pairwise_cons.2 ⟨fun entry hentry => ?_, ih hrest⟩
          rcases mem_assign hentry with rfl | hentry
          · exact UInt16.lt_of_le_of_ne (UInt16.not_lt.1 hnot) (Ne.symm hne)
          · exact hfirst entry hentry

end OffsetMap

/-- What is read back of an offset that is written with 17 decimals. -/
def writtenOffset (z : ℚ) : ℚ := Single.roundEven (z * 10 ^ 17) / 10 ^ 17

/-- The same for any offset. -/
def Double.written : Double → Double
  | .finite z => .finite (writtenOffset z)
  | d => d

/-- A file with an offset that is not finite cannot be read. -/
theorem readOffsets_write_eq_none {m : OffsetMap} (h : ¬ ∀ e ∈ m, e.2.isFinite = true)
    (loaded : OffsetMap) : readOffsets (m.map fun e => .write e.1 e.2) loaded = none := by
  induction m generalizing loaded with
  | nil => exact absurd (fun e he => absurd he List.not_mem_nil) h
  | cons entry m ih =>
      obtain ⟨k, v⟩ := entry
      rw [List.forall_mem_cons, not_and] at h
      cases v with
      | finite z => exact ih (h rfl) _
      | inf _ => rfl
      | nan => rfl

/-- Otherwise every offset is read back as it is written. -/
theorem readOffsets_write {m : OffsetMap} (hm : m.Ordered) (h : ∀ e ∈ m, e.2.isFinite = true)
    (loaded : OffsetMap) :
    ∃ m', readOffsets (m.map fun e => .write e.1 e.2) loaded = some m' ∧
      ∀ motorId, m'.lookup motorId =
        ((m.lookup motorId).map Double.written).or (loaded.lookup motorId) := by
  induction m generalizing loaded with
  | nil => exact ⟨loaded, rfl, fun _ => rfl⟩
  | cons entry m ih =>
      obtain ⟨k, v⟩ := entry
      obtain ⟨hfirst, hrest⟩ := List.pairwise_cons.1 hm
      obtain ⟨hv, hfinite⟩ := List.forall_mem_cons.1 h
      cases v with
      | inf _ => cases hv
      | nan => cases hv
      | finite z =>
          obtain ⟨m', hread, hlookup⟩ :=
            ih hrest hfinite (loaded.assign k (.finite (writtenOffset z)))
          refine ⟨m', hread, fun motorId => ?_⟩
          rw [hlookup]
          by_cases hid : motorId = k
          · subst hid
            have hnone : m.lookup motorId = none := by
              rw [List.lookup_eq_none_iff]
              intro e he
              have hlt := hfirst e he
              simpa using UInt16.ne_of_lt hlt
            simp [hnone, Double.written]
          · simp [hid, List.lookup_cons, beq_false_of_ne hid]

theorem ordered_readOffsets {lines : List OffsetLine} {loaded m : OffsetMap}
    (h : readOffsets lines loaded = some m) (hloaded : loaded.Ordered) : m.Ordered := by
  induction lines generalizing loaded with
  | nil => exact Option.some.inj h ▸ hloaded
  | cons line lines ih =>
      cases line with
      | comment => exact ih h hloaded
      | entry motorId z => exact ih h (OffsetMap.ordered_assign hloaded motorId (.finite z))
      | malformed => cases h

/-! ## setting the joints up again -/

/-- A set-up that succeeds does so whatever offsets are kept. -/
theorem setupJoints_again {st other st' : Setup} {parsed : List ParsedJointConfig}
    (hnames : other.seenJointNames = st.seenJointNames)
    (hnodes : other.seenProtocolNodes = st.seenProtocolNodes)
    (h : setupJoints st parsed = some st') : ∃ other', setupJoints other parsed = some other' := by
  induction parsed generalizing st other with
  | nil => exact ⟨other, rfl⟩
  | cons p parsed ih =>
      rw [setupJoints] at h ⊢
      unfold setupJoint at h ⊢
      rw [hnames, hnodes]
      dsimp only at h ⊢
      by_cases hname : p.name ∈ st.seenJointNames
      · rw [if_pos hname] at h
        cases h
      · rw [if_neg hname] at h ⊢
        by_cases hnode : (p.canDevice, p.protocol, toProtocolNodeId p.motorId) ∈ st.seenProtocolNodes
        · rw [if_pos hnode] at h
          cases h
        · rw [if_neg hnode] at h ⊢
          refine ih ?_ ?_ h
          · rfl
          · rfl

/-- What is set up is what is configured, up to the zero offsets. -/
theorem withZero_setupJoints {st st' : Setup} {parsed : List ParsedJointConfig}
    (h : setupJoints st parsed = some st') :
    st'.hw.joints.map (fun joint => joint.withZero (.finite 0)) =
      st.hw.joints.map (fun joint => joint.withZero (.finite 0)) ++
        parsed.map fun p => (CanDriverHW.makeJoint {} p).withZero (.finite 0) := by
  induction parsed generalizing st with
  | nil => rw [Option.some.inj h, List.map_nil, List.append_nil]
  | cons p parsed ih =>
      rw [setupJoints] at h
      cases hp : setupJoint st p with
      | none => simp [hp] at h
      | some st₁ =>
          rw [hp] at h
          rw [ih h, (setupJoint_hw hp).1, List.map_append, List.append_assoc]
          rfl

/-- An offset is kept for a motor id if one was before, or the configuration has one. -/
theorem lookup_setupJoints {st st' : Setup} {parsed : List ParsedJointConfig}
    (h : setupJoints st parsed = some st') (motorId : MotorID) :
    st'.hw.jointZeroOffsetRadByMotorId.lookup motorId =
      (st.hw.jointZeroOffsetRadByMotorId.lookup motorId).or (configuredOffset parsed motorId) := by
  induction parsed generalizing st with
  | nil =>
      rw [Option.some.inj h]
      exact (Option.or_none ..).symm
  | cons p parsed ih =>
      rw [setupJoints] at h
      cases hp : setupJoint st p with
      | none => simp [hp] at h
      | some st₁ =>
          rw [hp] at h
          rw [ih h, (setupJoint_hw hp).2, lookup_noteZeroOffset, Option.or_assoc]
          congr 1
          rw [configuredOffset_cons, configuredOffset_cons]
          split <;> simp [configuredOffset]

theorem ordered_setupJoints {st st' : Setup} {parsed : List ParsedJointConfig}
    (h : setupJoints st parsed = some st') (hst : st.hw.jointZeroOffsetRadByMotorId.Ordered) :
    st'.hw.jointZeroOffsetRadByMotorId.Ordered := by
  induction parsed generalizing st with
  | nil => exact Option.some.inj h ▸ hst
  | cons p parsed ih =>
      rw [setupJoints] at h
      cases hp : setupJoint st p with
      | none => simp [hp] at h
      | some st₁ =>
          rw [hp] at h
          refine ih h ?_
          rw [(setupJoint_hw hp).2, noteZeroOffset]
          split
          · exact OffsetMap.ordered_assign hst _ _
          · exact hst

theorem enabled_setupJoints {st st' : Setup} {parsed : List ParsedJointConfig}
    (h : setupJoints st parsed = some st') : st'.hw.ppLocalZeroOffsetPersistenceEnabled =
      st.hw.ppLocalZeroOffsetPersistenceEnabled := by
  induction parsed generalizing st with
  | nil => rw [Option.some.inj h]
  | cons p parsed ih =>
      rw [setupJoints] at h
      cases hp : setupJoint st p with
      | none => simp [hp] at h
      | some st₁ =>
          rw [hp] at h
          rw [ih h]
          unfold setupJoint at hp
          dsimp only at hp
          split at hp
          · cases hp
          · split at hp
            · cases hp
            · rw [← Option.some.inj hp]

/-- What `init` starts from, and what it sets up. -/
theorem exists_of_init {hw hw' : CanDriverHW} {param : Option XmlRpcValue}
    (h : hw.init true param = some hw') :
    ∃ loaded jointList parsed st, hw.resetInternalState.loadRuntimeParams true = some loaded ∧
      loaded.joints = [] ∧ loaded.ppLocalZeroOffsetPersistenceEnabled = true ∧
      loaded.jointZeroOffsetRadByMotorId.Ordered ∧ param = some jointList ∧
      JointConfigParser.parse jointList = .ok parsed ∧ setupJoints { hw := loaded } parsed = some st ∧
      hw' = { st.hw with commandValidBuffer := List.replicate st.hw.joints.length false } := by
  rw [init] at h
  cases hload : hw.resetInternalState.loadRuntimeParams true with
  | none =>
      rw [hload] at h
      cases h
  | some loaded =>
      rw [hload] at h
      obtain ⟨jointList, parsed, st, hparam, hparsed, hst, rfl⟩ := exists_of_parseAndSetupJoints h
      have hloaded : loaded.joints = [] ∧ loaded.ppLocalZeroOffsetPersistenceEnabled = true ∧
          loaded.jointZeroOffsetRadByMotorId.Ordered := by
        rw [loadRuntimeParams, if_pos rfl, loadPersistedLocalZeroOffsets] at hload
        split at hload
        · rw [← Option.some.inj hload]
          exact ⟨rfl, rfl, List.Pairwise.nil⟩
        · split at hload
          · cases hload
          · next hread =>
            rw [← Option.some.inj hload]
            exact ⟨rfl, rfl, ordered_readOffsets hread List.Pairwise.nil⟩
      exact ⟨loaded, jointList, parsed, st, rfl, hloaded.1, hloaded.2.1, hloaded.2.2, hparam,
        hparsed, hst, rfl⟩

/-! ## a run of the node -/

/-- What stays of a joint as it is configured: everything but its mode and its zero offset. -/
def CanDriverJointConfig.fixed (joint : CanDriverJointConfig) : ParsedJointConfig :=
  { joint.toParsedJointConfig with controlMode := "", zeroOffsetRad := .finite 0 }

/-- What happens to the joints between the set-up and the end of the process. -/
inductive HwEvent where
  | commitZero (motorId : MotorID) (zeroOffset previousZeroOffset : Double)
      (applyToMotor writable : Bool)
  | commitLimits (motorId : MotorID) (baseMin baseMax zeroOffset : Double) (applyToMotor : Bool)
  | commitModeSwitch (motorId : MotorID) (mode : AxisControlMode)
  | cycle

/-- One such event.  The cycles and the direct commands change nothing that is configured. -/
inductive HwStep : CanDriverHW → HwEvent → CanDriverHW → Prop
  | commitZero (hw motorId zeroOffset previousZeroOffset applyToMotor writable) :
      HwStep hw (.commitZero motorId zeroOffset previousZeroOffset applyToMotor writable)
        (hw.commitZero motorId zeroOffset previousZeroOffset applyToMotor writable).2
  | commitLimits (hw motorId baseMin baseMax zeroOffset applyToMotor) :
      HwStep hw (.commitLimits motorId baseMin baseMax zeroOffset applyToMotor)
        (hw.commitLimits motorId baseMin baseMax zeroOffset applyToMotor).2
  | commitModeSwitch (hw motorId mode) :
      HwStep hw (.commitModeSwitch motorId mode) (hw.commitModeSwitch motorId mode).2
  | cycle (hw : CanDriverHW) (joints : List CanDriverJointConfig) (valid : List Bool)
      (h : joints.map CanDriverJointConfig.toParsedJointConfig =
        hw.joints.map CanDriverJointConfig.toParsedJointConfig) :
      HwStep hw .cycle { hw with joints, commandValidBuffer := valid }

/-- What a run keeps of the state it starts from. -/
structure CanDriverHW.Runs (start hw : CanDriverHW) : Prop where
  enabled : hw.ppLocalZeroOffsetPersistenceEnabled = true
  ordered : hw.jointZeroOffsetRadByMotorId.Ordered
  fixed : hw.joints.map CanDriverJointConfig.fixed = start.joints.map CanDriverJointConfig.fixed

/-- Writing back a joint that is configured as it was. -/
theorem CanDriverHW.Runs.fixed_setJoint {start hw : CanDriverHW} (h : start.Runs hw)
    {motorId : MotorID} {index : Nat} {joint other : CanDriverJointConfig}
    (hmatched : hw.matchedJoint motorId = some (index, joint))
    (hother : other.fixed = joint.fixed) :
    (hw.setJoint index other).joints.map CanDriverJointConfig.fixed =
      start.joints.map CanDriverJointConfig.fixed := by
  rw [setJoint, List.map_set, hother, ← List.map_set, set_matchedJoint hmatched, h.fixed]

/-- **Step**: a commit of a zero. -/
theorem runs_commitZero {start hw : CanDriverHW} (h : start.Runs hw) (motorId : MotorID)
    (zeroOffset previousZeroOffset : Double) (applyToMotor writable : Bool) :
    start.Runs (hw.commitZero motorId zeroOffset previousZeroOffset applyToMotor writable).2 := by
  rw [commitZero]
  cases hmatched : hw.matchedJoint motorId with
  | none => exact h
  | some found =>
      obtain ⟨index, joint⟩ := found
      have hback : ∀ other, (hw.joints.set index other).set index joint = hw.joints := by
        intro other
        rw [List.set_set, set_matchedJoint hmatched]
      cases writable with
      | true =>
          simp only [savePersistedLocalZeroOffsets, h.enabled, if_true, Bool.not_true,
            Bool.false_eq_true, if_false]
          exact ⟨h.enabled, OffsetMap.ordered_assign h.ordered _ _, h.fixed_setJoint hmatched rfl⟩
      | false =>
          simp only [savePersistedLocalZeroOffsets, h.enabled, Bool.not_true, Bool.false_eq_true,
            if_false]
          refine ⟨h.enabled, ?_, ?_⟩
          · exact OffsetMap.ordered_assign (OffsetMap.ordered_assign h.ordered _ _) _ _
          · simp only [setJoint, hback]
            exact h.fixed

/-- **Step**: everything that happens. -/
theorem runs_step {start hw hw' : CanDriverHW} {e : HwEvent} (h : start.Runs hw)
    (hs : HwStep hw e hw') : start.Runs hw' := by
  cases hs with
  | commitZero => exact runs_commitZero h _ _ _ _ _
  | commitLimits motorId baseMin baseMax zeroOffset applyToMotor =>
      rw [commitLimits]
      cases hmatched : hw.matchedJoint motorId with
      | none => exact h
      | some found =>
          obtain ⟨index, joint⟩ := found
          exact ⟨h.enabled, OffsetMap.ordered_assign h.ordered _ _, h.fixed_setJoint hmatched rfl⟩
  | commitModeSwitch motorId mode =>
      rw [commitModeSwitch]
      cases hmatched : hw.matchedJoint motorId with
      | none => exact h
      | some found =>
          obtain ⟨index, joint⟩ := found
          exact ⟨h.enabled, h.ordered, h.fixed_setJoint hmatched rfl⟩
  | cycle joints valid hsame =>
      refine ⟨h.enabled, h.ordered, ?_⟩
      have hmap := congrArg (List.map fun p : ParsedJointConfig =>
        ({ p with controlMode := "", zeroOffsetRad := .finite 0 } : ParsedJointConfig)) hsame
      rw [List.map_map, List.map_map] at hmap
      exact hmap.trans h.fixed

/-- **Run**: what a process keeps of the joints it has set up. -/
theorem runs_of_reach {hw₀ start hw : CanDriverHW} {param : Option XmlRpcValue}
    (hinit : hw₀.init true param = some start)
    (hr : Reach HwStep (fun _ _ => True) start hw) : start.Runs hw := by
  refine Reach.invariant (I := start.Runs) ?_ (fun _ _ _ h _ hs => runs_step h hs) hr
  obtain ⟨loaded, jointList, parsed, st, -, -, henabled, hordered, -, -, hst, rfl⟩ :=
    exists_of_init hinit
  exact ⟨(enabled_setupJoints hst).trans henabled, ordered_setupJoints hst hordered, rfl⟩

/-! ## the same joint before and after -/

/-- Joints that are configured alike are addressed and scaled alike. -/
theorem same_of_fixed {joint other : CanDriverJointConfig} (h : other.fixed = joint.fixed) :
    other.motorId = joint.motorId ∧ other.protocol = joint.protocol ∧
      other.canDevice = joint.canDevice ∧
      effectivePositionScale other = effectivePositionScale joint := by
  have hid := congrArg ParsedJointConfig.motorId h
  have hprotocol := congrArg ParsedJointConfig.protocol h
  have hdevice := congrArg ParsedJointConfig.canDevice h
  have hscale := congrArg ParsedJointConfig.positionScale h
  have hdirection := congrArg ParsedJointConfig.directionSign h
  exact ⟨hid, hprotocol, hdevice, congrArg₂ Double.mul hscale hdirection⟩

theorem motorIdMatchesJoint_fixed (motorId : MotorID) {joint other : CanDriverJointConfig}
    (h : other.fixed = joint.fixed) :
    motorIdMatchesJoint motorId other = motorIdMatchesJoint motorId joint := by
  obtain ⟨hid, hprotocol, -, -⟩ := same_of_fixed h
  rw [motorIdMatchesJoint, motorIdMatchesJoint, hid, hprotocol]

/-- A request finds the joint at the same place in lists that are configured alike. -/
theorem matchJoints_fixed (motorId : MotorID) (i : Nat)
    {joints others : List CanDriverJointConfig}
    (h : others.map CanDriverJointConfig.fixed = joints.map CanDriverJointConfig.fixed) :
    ((matchJoints motorId i others).1.map Prod.fst, (matchJoints motorId i others).2) =
      ((matchJoints motorId i joints).1.map Prod.fst, (matchJoints motorId i joints).2) := by
  induction joints generalizing i others with
  | nil => rw [List.map_eq_nil_iff.1 h]
  | cons joint joints ih =>
      cases others with
      | nil => cases h
      | cons other others =>
          obtain ⟨hfirst, hrest⟩ := List.cons.inj h
          obtain ⟨hfound, hcount⟩ := Prod.mk.inj (ih (i + 1) hrest)
          rw [matchJoints, matchJoints, motorIdMatchesJoint_fixed motorId hfirst]
          dsimp only
          by_cases hmatches : motorIdMatchesJoint motorId joint = true
          · rw [if_pos hmatches, if_pos hmatches, hcount]
            rfl
          · rw [if_neg hmatches, if_neg hmatches, hfound, hcount]

theorem matchedJoint_fixed {hw hw' : CanDriverHW} {motorId : MotorID} {index : Nat}
    {joint : CanDriverJointConfig}
    (h : hw'.joints.map CanDriverJointConfig.fixed = hw.joints.map CanDriverJointConfig.fixed)
    (hmatched : hw.matchedJoint motorId = some (index, joint)) :
    ∃ joint', hw'.matchedJoint motorId = some (index, joint') ∧ joint'.fixed = joint.fixed := by
  have hsame := matchJoints_fixed motorId 0 h
  rw [matchedJoint] at hmatched
  split at hmatched
  · next found heq =>
    obtain rfl := Option.some.inj hmatched
    rw [heq] at hsame
    obtain ⟨hfound, hcount⟩ := Prod.mk.inj hsame
    obtain ⟨⟨index', joint'⟩, hfound', hindex⟩ := Option.map_eq_some_iff.1 hfound
    obtain rfl : index' = index := hindex
    have hmatched' : hw'.matchedJoint motorId = some (index', joint') := by
      have heq' : matchJoints motorId 0 hw'.joints = (some (index', joint'), 1) :=
        Prod.ext hfound' hcount
      simp only [matchedJoint, heq']
    refine ⟨joint', hmatched', ?_⟩
    have hget := congrArg (fun l => l[index']?) h
    have hindex := (matchJoints_getElem? heq).2
    rw [Nat.sub_zero] at hindex
    rw [List.getElem?_map, List.getElem?_map, matchedJoint_getElem? hmatched', hindex] at hget
    exact Option.some.inj hget
  · cases hmatched

/-! ## a new process -/

/-- A new process, of which only the offset file is from the old one. -/
def CanDriverHW.restart (hw : CanDriverHW) (param : Option XmlRpcValue) : Option CanDriverHW :=
  CanDriverHW.init { offsetFile := hw.offsetFile } true param

/-- What a new process has of the old one, which was set up as `start` and ended as `hw`. -/
structure CanDriverHW.SetUpAgain (start hw hw' : CanDriverHW) : Prop where
  enabled : hw'.ppLocalZeroOffsetPersistenceEnabled = true
  alike : hw'.joints.map (fun joint => joint.withZero (.finite 0)) =
    start.joints.map fun joint => joint.withZero (.finite 0)
  offsets : ∀ joint ∈ hw'.joints, ∀ z, hw.jointZeroOffsetRadByMotorId.lookup joint.motorId = some z →
    joint.zeroOffsetRad = z.written ∧
      hw'.jointZeroOffsetRadByMotorId.lookup joint.motorId = some z.written
  finite : ∀ motorId z, hw'.jointZeroOffsetRadByMotorId.lookup motorId = some z → z.isFinite = true
  scaled : ∀ joint ∈ hw'.joints, JointConfigParser.Scaled joint.toParsedJointConfig
  distinct : hw'.joints.Pairwise fun j k => checkedNode j ≠ checkedNode k

/-- All kept offsets have been written to the file. -/
def CanDriverHW.Saved (hw : CanDriverHW) : Prop :=
  hw.offsetFile = some (hw.jointZeroOffsetRadByMotorId.map fun e => .write e.1 e.2)

/-- A new process sets the joints up with the offsets it reads. -/
theorem restart_eq {hw : CanDriverHW} {lines : List OffsetLine} (h : hw.offsetFile = some lines)
    (param : Option XmlRpcValue) : hw.restart param = (readOffsets lines []).bind fun loaded =>
      CanDriverHW.parseAndSetupJoints
        { jointZeroOffsetRadByMotorId := loaded, ppLocalZeroOffsetPersistenceEnabled := true
          offsetFile := some lines } param := by
  rw [restart, init, loadRuntimeParams, if_pos rfl, loadPersistedLocalZeroOffsets, h]
  simp only [resetInternalState]
  cases readOffsets lines [] with
  | none => rfl
  | some loaded => rfl

theorem restart_eq_none {hw : CanDriverHW} (hsaved : hw.Saved)
    (h : ¬ ∀ e ∈ hw.jointZeroOffsetRadByMotorId, e.2.isFinite = true)
    (param : Option XmlRpcValue) : hw.restart param = none := by
  rw [restart_eq hsaved, readOffsets_write_eq_none h]
  rfl

/-- An offset of a list that has only finite ones is finite. -/
theorem isFinite_of_lookup {m : OffsetMap} (h : ∀ e ∈ m, e.2.isFinite = true) {motorId : MotorID}
    {z : Double} (hz : m.lookup motorId = some z) : z.isFinite = true := by
  obtain ⟨front, back, hm, -⟩ := List.lookup_eq_some_iff.1 hz
  exact h (motorId, z) (by simp [hm])

theorem isFinite_written {z : Double} (h : z.isFinite = true) : z.written.isFinite = true := by
  cases z with
  | finite => rfl
  | _ => cases h

/-- **Restart**: if all kept offsets are finite, the joints are set up again with them. -/
theorem exists_restart {hw₀ start hw : CanDriverHW} {param : Option XmlRpcValue}
    (hinit : hw₀.init true param = some start) (hruns : start.Runs hw) (hsaved : hw.Saved)
    (hfinite : ∀ e ∈ hw.jointZeroOffsetRadByMotorId, e.2.isFinite = true) :
    ∃ hw', hw.restart param = some hw' ∧ start.SetUpAgain hw hw' := by
  obtain ⟨loaded, jointList, parsed, st, -, hempty, -, -, rfl, hparsed, hst, rfl⟩ :=
    exists_of_init hinit
  obtain ⟨m, hread, hlookup⟩ := readOffsets_write hruns.ordered hfinite []
  have hlookup : ∀ motorId, m.lookup motorId =
      (hw.jointZeroOffsetRadByMotorId.lookup motorId).map Double.written := fun motorId =>
    (hlookup motorId).trans (Option.or_none ..)
  obtain ⟨st', hst'⟩ : ∃ st', setupJoints
      { hw :=
          { jointZeroOffsetRadByMotorId := m, ppLocalZeroOffsetPersistenceEnabled := true
            offsetFile := some (hw.jointZeroOffsetRadByMotorId.map fun e => .write e.1 e.2) } }
      parsed = some st' := by
    refine setupJoints_again ?_ ?_ hst
    · rfl
    · rfl
  have hrestart : hw.restart (some jointList) =
      some { st'.hw with commandValidBuffer := List.replicate st'.hw.joints.length false } := by
    rw [restart_eq hsaved, hread, Option.bind_some, parseAndSetupJoints]
    simp only [hparsed, hst']
  have halike := withZero_setupJoints hst'
  have hkept := lookup_setupJoints hst'
  refine ⟨_, hrestart, enabled_setupJoints hst', ?_, ?_, ?_, ?_, ?_⟩
  · show st'.hw.joints.map _ = st.hw.joints.map _
    rw [halike, withZero_setupJoints hst, hempty]
  · intro joint hjoint z hz
    obtain ⟨k, hk⟩ := List.mem_iff_getElem?.1 hjoint
    have hk : st'.hw.joints[k]? = some joint := hk
    have hget := congrArg (fun joints => joints[k]?) halike
    rw [List.map_nil, List.nil_append, List.getElem?_map, List.getElem?_map, hk] at hget
    obtain ⟨p, hp, hsame⟩ := Option.map_eq_some_iff.1 hget.symm
    have hid : p.motorId = joint.motorId :=
      congrArg (fun joint : CanDriverJointConfig => joint.motorId) hsame
    obtain ⟨joint', hjoint', hzero⟩ := zeroOffset_setupJoints hst' hp
    rw [List.length_nil, Nat.zero_add, hk] at hjoint'
    obtain rfl := Option.some.inj hjoint'
    have hloaded : m.lookup joint.motorId = some z.written := by rw [hlookup, hz]; rfl
    refine ⟨?_, ?_⟩
    · rw [hzero, hid, hloaded]
      rfl
    · show st'.hw.jointZeroOffsetRadByMotorId.lookup joint.motorId = _
      rw [hkept, hloaded]
      rfl
  · intro motorId z hz
    rw [hkept] at hz
    rcases Option.or_eq_some_iff.1 hz with hz | ⟨-, hz⟩
    · rw [hlookup] at hz
      obtain ⟨z', hz', rfl⟩ := Option.map_eq_some_iff.1 hz
      exact isFinite_written (isFinite_of_lookup hfinite hz')
    · obtain ⟨p, -, -, hkeeps, rfl⟩ := configuredOffset_eq_some hz
      exact (Bool.and_eq_true_iff.1 hkeeps).1
  · intro joint hjoint
    have hmem : joint.withZero (.finite 0) ∈ st'.hw.joints.map fun joint =>
        joint.withZero (.finite 0) := List.mem_map_of_mem hjoint
    rw [halike] at hmem
    obtain ⟨p, hp, hsame⟩ := List.mem_map.1 hmem
    obtain ⟨s, sign, hs, hsign, hscale, hdirection⟩ := JointConfigParser.scaled_of_parse hparsed p hp
    have hscale' := congrArg (fun joint : CanDriverJointConfig => joint.positionScale) hsame
    have hdirection' := congrArg (fun joint : CanDriverJointConfig => joint.directionSign) hsame
    exact ⟨s, sign, hs, hsign, hscale'.symm.trans hscale, hdirection'.symm.trans hdirection⟩
  · have hconsistent := consistent_setupJoints ⟨by simp, by simp, by simp, by simp⟩ hst'
    exact hconsistent.distinctNodes

end CanDriver
