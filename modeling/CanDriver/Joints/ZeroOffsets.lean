import CanDriver.Joints.Lookup

/-!
# CanDriver.Joints.ZeroOffsets

The zero offsets kept by motor id.

The set-up keeps the configured offset of a joint under its motor id, where the next joint
with this id finds it; so an offset is a joint's own only as long as no joint before it has
the id and an offset.  A commit that cannot be saved puts back the offset its caller names,
which is the one that was kept only if the caller names that one.
-/

namespace CanDriver

open CanDriverHW

/-! ## the offsets of the set-up -/

/-- The configured offset of a joint is kept: it is finite and not zero. -/
def ParsedJointConfig.keepsOffset (p : ParsedJointConfig) : Bool :=
  p.zeroOffsetRad.isFinite && p.zeroOffsetRad != .finite 0

/-- The offset a list of joints leaves behind for a motor id that has none: that of the first
joint with this id whose offset is kept. -/
def configuredOffset (parsed : List ParsedJointConfig) (motorId : MotorID) : Option Double :=
  (parsed.find? fun p => decide (p.motorId = motorId) && p.keepsOffset).map
    ParsedJointConfig.zeroOffsetRad

theorem configuredOffset_cons (p : ParsedJointConfig) (parsed : List ParsedJointConfig)
    (motorId : MotorID) : configuredOffset (p :: parsed) motorId =
      if p.motorId = motorId ∧ p.keepsOffset = true then some p.zeroOffsetRad
      else configuredOffset parsed motorId := by
  rw [configuredOffset, List.find?_cons]
  by_cases h : p.motorId = motorId ∧ p.keepsOffset = true
  · rw [if_pos h]
    simp [h.1, h.2]
  · rw [if_neg h]
    have hb : (decide (p.motorId = motorId) && p.keepsOffset) = false := by simpa using h
    rw [hb]
    rfl

theorem configuredOffset_eq_some {parsed : List ParsedJointConfig} {motorId : MotorID} {z : Double}
    (h : configuredOffset parsed motorId = some z) :
    ∃ p ∈ parsed, p.motorId = motorId ∧ p.keepsOffset = true ∧ p.zeroOffsetRad = z := by
  obtain ⟨p, hp, hz⟩ := Option.map_eq_some_iff.1 h
  have hfound := List.find?_some hp
  simp only [Bool.and_eq_true, decide_eq_true_eq] at hfound
  exact ⟨p, List.mem_of_find?_eq_some hp, hfound.1, hfound.2, hz⟩

/-- A joint that keeps its offset decides, unless one before it does. -/
theorem configuredOffset_take {parsed : List ParsedJointConfig} {k i : Nat} (hki : k < i)
    (hi : i < parsed.length) (hid : parsed[k].motorId = parsed[i].motorId)
    (hkeeps : parsed[k].keepsOffset = true) : configuredOffset (parsed.take i) parsed[i].motorId =
      (configuredOffset (parsed.take k) parsed[i].motorId).or (some parsed[k].zeroOffsetRad) := by
  have hlength : k < (parsed.take i).length := by rw [List.length_take]; omega
  have hsplit : parsed.take i = parsed.take k ++ (parsed[k] :: (parsed.take i).drop (k + 1)) := by
    have hdrop := List.drop_eq_getElem_cons hlength
    rw [List.getElem_take] at hdrop
    rw [← hdrop, ← Nat.min_eq_left hki.le, ← List.take_take, Nat.min_eq_left hki.le,
      List.take_append_drop]
  rw [hsplit, configuredOffset, List.find?_append, Option.map_or, List.find?_cons]
  simp [hid, hkeeps, configuredOffset]

/-- One joint notes its offset unless one is kept for its id. -/
theorem lookup_noteZeroOffset (hw : CanDriverHW) (p : ParsedJointConfig) (motorId : MotorID) :
    (hw.noteZeroOffset p).lookup motorId =
      (hw.jointZeroOffsetRadByMotorId.lookup motorId).or (configuredOffset [p] motorId) := by
  rw [configuredOffset_cons, noteZeroOffset]
  cases hkept : hw.jointZeroOffsetRadByMotorId.lookup p.motorId with
  | some z =>
      have hsame : motorId = p.motorId → hw.jointZeroOffsetRadByMotorId.lookup motorId = some z :=
        fun h => h ▸ hkept
      by_cases hid : p.motorId = motorId
      · simp [hsame hid.symm]
      · simp [hid, configuredOffset]
  | none =>
      by_cases hnoted : p.keepsOffset = true
      · have hcond : (p.zeroOffsetRad.isFinite && p.zeroOffsetRad != .finite 0) = true := hnoted
        by_cases hid : p.motorId = motorId
        · subst hid
          simp [hcond, hkept, hnoted]
        · simp [hcond, hid, OffsetMap.lookup_assign_of_ne _ _ (Ne.symm hid), configuredOffset]
      · have hcond : (p.zeroOffsetRad.isFinite && p.zeroOffsetRad != .finite 0) = false := by
          simpa [ParsedJointConfig.keepsOffset] using hnoted
        simp [hcond, hnoted, configuredOffset]

/-- A joint that is taken is the next one. -/
theorem setupJoint_hw {st st' : Setup} {p : ParsedJointConfig} (h : setupJoint st p = some st') :
    st'.hw.joints = st.hw.joints ++ [st.hw.makeJoint p] ∧
      st'.hw.jointZeroOffsetRadByMotorId = st.hw.noteZeroOffset p := by
  unfold setupJoint at h
  dsimp only at h
  split at h
  · cases h
  · split at h
    · cases h
    · obtain rfl := Option.some.inj h
      exact ⟨rfl, rfl⟩

/-- Joints that are there stay. -/
theorem getElem?_setupJoints {st st' : Setup} {parsed : List ParsedJointConfig}
    (h : setupJoints st parsed = some st') {i : Nat} (hi : i < st.hw.joints.length) :
    st'.hw.joints[i]? = st.hw.joints[i]? := by
  induction parsed generalizing st with
  | nil => rw [Option.some.inj h]
  | cons p parsed ih =>
      rw [setupJoints] at h
      cases hp : setupJoint st p with
      | none => simp [hp] at h
      | some st₁ =>
          rw [hp] at h
          have hjoints := (setupJoint_hw hp).1
          have hi' : i < st₁.hw.joints.length := by
            rw [hjoints, List.length_append]
            omega
          rw [ih h hi', hjoints, List.getElem?_append_left hi]

/-- **Run**: a joint gets the offset kept for its id, else the first one kept of the joints before
it, else its own. -/
theorem zeroOffset_setupJoints {st st' : Setup} {parsed : List ParsedJointConfig}
    (h : setupJoints st parsed = some st') {i : Nat} {p : ParsedJointConfig}
    (hp : parsed[i]? = some p) : ∃ joint, st'.hw.joints[st.hw.joints.length + i]? = some joint ∧
      joint.zeroOffsetRad = ((st.hw.jointZeroOffsetRadByMotorId.lookup p.motorId).or
        (configuredOffset (parsed.take i) p.motorId)).getD p.zeroOffsetRad := by
  induction parsed generalizing st i with
  | nil => simp at hp
  | cons q parsed ih =>
      rw [setupJoints] at h
      cases hq : setupJoint st q with
      | none => simp [hq] at h
      | some st₁ =>
          rw [hq] at h
          obtain ⟨hjoints, hmap⟩ := setupJoint_hw hq
          have hlength : st₁.hw.joints.length = st.hw.joints.length + 1 := by
            rw [hjoints, List.length_append, List.length_singleton]
          cases i with
          | zero =>
              obtain rfl : q = p := by simpa using hp
              refine ⟨st.hw.makeJoint q, ?_, ?_⟩
              · have hlast : st.hw.joints.length + 0 < st₁.hw.joints.length := by omega
                rw [getElem?_setupJoints h hlast, hjoints]
                simp
              · simp [makeJoint, initialZeroOffset, configuredOffset]
          | succ i =>
              have hp' : parsed[i]? = some p := by simpa using hp
              obtain ⟨joint, hjoint, hzero⟩ := ih h hp'
              refine ⟨joint, ?_, ?_⟩
              · rw [hlength] at hjoint
                rw [← hjoint]
                congr 1
                omega
              · rw [hzero, hmap, lookup_noteZeroOffset, Option.or_assoc]
                congr 2
                rw [List.take_succ_cons, configuredOffset_cons, configuredOffset_cons]
                split <;> simp [configuredOffset]

/-- Every joint starts with the offset kept for its motor id, or else with its own. -/
def OwnOffsets (persisted : OffsetMap) (parsed : List ParsedJointConfig)
    (joints : List CanDriverJointConfig) : Prop :=
  ∀ (i : Nat) (p : ParsedJointConfig) (joint : CanDriverJointConfig), parsed[i]? = some p →
    joints[i]? = some joint →
    joint.zeroOffsetRad = (persisted.lookup p.motorId).getD p.zeroOffsetRad

/-- No joint has another configured offset than a joint before it that has the same motor id
and an offset to be kept, unless the file has one for this id. -/
def OffsetsAgree (persisted : OffsetMap) (parsed : List ParsedJointConfig) : Prop :=
  parsed.Pairwise fun p q => p.motorId = q.motorId → persisted.lookup p.motorId = none →
    p.keepsOffset = true → q.zeroOffsetRad = p.zeroOffsetRad

theorem ownOffsets_iff {st st' : Setup} {parsed : List ParsedJointConfig}
    (hempty : st.hw.joints = []) (h : setupJoints st parsed = some st') :
    OwnOffsets st.hw.jointZeroOffsetRadByMotorId parsed st'.hw.joints ↔
      OffsetsAgree st.hw.jointZeroOffsetRadByMotorId parsed := by
  have hzero : ∀ (i : Nat) (p : ParsedJointConfig) (joint : CanDriverJointConfig),
      parsed[i]? = some p → st'.hw.joints[i]? = some joint → joint.zeroOffsetRad = ((st.hw.jointZeroOffsetRadByMotorId.lookup p.motorId).or
        (configuredOffset (parsed.take i) p.motorId)).getD p.zeroOffsetRad := by
    intro i p joint hp hjoint
    obtain ⟨joint', hjoint', hzero⟩ := zeroOffset_setupJoints h hp
    rw [hempty, List.length_nil, Nat.zero_add, hjoint] at hjoint'
    rw [Option.some.inj hjoint', hzero]
  rw [OffsetsAgree, List.pairwise_iff_getElem]
  constructor
  · intro hown k i hk hi hki hid hnone hkeeps
    have hvalue : ∀ m (hm : m < parsed.length), parsed[m].motorId = parsed[k].motorId →
        ((configuredOffset (parsed.take m) parsed[k].motorId).getD parsed[m].zeroOffsetRad) =
          parsed[m].zeroOffsetRad := by
      intro m hm hsame
      have hp : parsed[m]? = some parsed[m] := List.getElem?_eq_getElem hm
      obtain ⟨joint, hjoint, hzero⟩ := zeroOffset_setupJoints h hp
      rw [hempty, List.length_nil, Nat.zero_add] at hjoint
      have hsettled := hown m _ joint hp hjoint
      rw [hsame, hnone, Option.getD_none] at hsettled
      rw [hsame, hnone, Option.none_or, hsettled] at hzero
      exact hzero.symm
    have hsplit := configuredOffset_take hki hi hid hkeeps
    have hlate := hvalue i hi hid.symm
    have hearly := hvalue k hk rfl
    rw [hid] at hlate hearly
    rw [hsplit] at hlate
    cases hbefore : configuredOffset (parsed.take k) parsed[i].motorId with
    | none =>
        rw [hbefore] at hlate
        exact hlate.symm
    | some z =>
        rw [hbefore] at hlate hearly
        exact hlate.symm.trans hearly
  · intro hagree i p joint hp hjoint
    rw [hzero i p joint hp hjoint]
    cases hkept : st.hw.jointZeroOffsetRadByMotorId.lookup p.motorId with
    | some z => rfl
    | none =>
        cases hbefore : configuredOffset (parsed.take i) p.motorId with
        | none => rfl
        | some z =>
            obtain ⟨q, hq, hid, hkeeps, rfl⟩ := configuredOffset_eq_some hbefore
            obtain ⟨k, hk, rfl⟩ := List.mem_take_iff_getElem.1 hq
            obtain ⟨hi, rfl⟩ := List.getElem?_eq_some_iff.1 hp
            have hsame := hagree k i (by omega) hi (by omega) hid (by rw [hid]; exact hkept) hkeeps
            simp [hsame]

/-- **Set-up**: every joint starts with the offset persisted for its motor id, or else with its own
configured one, exactly if the configured offsets of joints with the same id agree. -/
theorem own_offset_iff {hw loaded hw' : CanDriverHW} {persistenceEnabled : Bool}
    {jointList : XmlRpcValue} {parsed : List ParsedJointConfig}
    (hload : hw.resetInternalState.loadRuntimeParams persistenceEnabled = some loaded)
    (hparsed : JointConfigParser.parse jointList = .ok parsed)
    (h : hw.init persistenceEnabled (some jointList) = some hw') :
    OwnOffsets loaded.jointZeroOffsetRadByMotorId parsed hw'.joints ↔
      OffsetsAgree loaded.jointZeroOffsetRadByMotorId parsed := by
  have hempty : loaded.joints = [] := by
    rw [loadRuntimeParams] at hload
    split at hload
    · rw [loadPersistedLocalZeroOffsets] at hload
      split at hload
      · rw [← Option.some.inj hload]
        rfl
      · split at hload
        · cases hload
        · rw [← Option.some.inj hload]
          rfl
    · rw [← Option.some.inj hload]
      rfl
  rw [init, hload] at h
  obtain ⟨_, parsed', st, hparam, hparsed', hst, rfl⟩ := exists_of_parseAndSetupJoints h
  obtain rfl := Option.some.inj hparam
  obtain rfl : parsed = parsed' := Except.ok.inj (hparsed.symm.trans hparsed')
  exact ownOffsets_iff hempty hst

/-- A PP joint of the `joints` parameter, with a zero offset. -/
def offsetParam (name device : String) (zeroOffsetRad : ℚ) : XmlRpcValue :=
  .struct [("name", .string name), ("motor_id", .int 1), ("protocol", .string "PP"),
    ("can_device", .string device), ("control_mode", .string "position"),
    ("zero_offset_rad", .double (.finite zeroOffsetRad))]

/-- Motor 1 of two devices, with the offsets of `left` and `right`. -/
def twins (left right : ℚ) : XmlRpcValue :=
  .array [offsetParam "left_arm" "can0" left, offsetParam "right_arm" "can1" right]

/-- Whether a list is accepted, with these configured and these initial offsets. -/
def startsWith (jointList : XmlRpcValue) (configured initial : List Double) : Bool :=
  match JointConfigParser.parse jointList with
  | .error _ => false
  | .ok parsed => (CanDriverHW.init {} false (some jointList)).any fun hw =>
      decide (parsed.map ParsedJointConfig.zeroOffsetRad = configured) &&
        decide (hw.joints.map (fun joint => joint.zeroOffsetRad) = initial)

theorem exists_of_startsWith (jointList : XmlRpcValue) (configured initial : List Double)
    (h : startsWith jointList configured initial = true) : ∃ parsed hw,
      JointConfigParser.parse jointList = .ok parsed ∧
      CanDriverHW.init {} false (some jointList) = some hw ∧
      parsed.map ParsedJointConfig.zeroOffsetRad = configured ∧
      hw.joints.map (fun joint => joint.zeroOffsetRad) = initial := by
  unfold startsWith at h
  split at h
  · cases h
  · next parsed hparsed =>
    obtain ⟨hw, hhw, htest⟩ := (Option.any_eq_true _ _).1 h
    obtain ⟨hconfigured, hinitial⟩ := Bool.and_eq_true_iff.1 htest
    exact ⟨parsed, hw, hparsed, hhw, of_decide_eq_true hconfigured, of_decide_eq_true hinitial⟩

/-- The second joint starts with the offset of the first. -/
theorem twin_takes_offset : ∃ parsed hw,
    JointConfigParser.parse (twins (1 / 2) (1 / 4)) = .ok parsed ∧
    CanDriverHW.init {} false (some (twins (1 / 2) (1 / 4))) = some hw ∧
    ¬ OwnOffsets [] parsed hw.joints := by
  obtain ⟨parsed, hw, hparsed, hhw, hconfigured, hinitial⟩ := exists_of_startsWith
    (twins (1 / 2) (1 / 4)) [.finite (1 / 2), .finite (1 / 4)] [.finite (1 / 2), .finite (1 / 2)]
    (by decide +kernel)
  refine ⟨parsed, hw, hparsed, hhw, fun hown => ?_⟩
  obtain ⟨p, hp, hpz⟩ : ∃ p, parsed[1]? = some p ∧ p.zeroOffsetRad = .finite (1 / 4) := by
    have hget := congrArg (fun l => l[1]?) hconfigured
    simpa using hget
  obtain ⟨joint, hjoint, hjz⟩ : ∃ joint, hw.joints[1]? = some joint ∧
      joint.zeroOffsetRad = .finite (1 / 2) := by
    have hget := congrArg (fun l => l[1]?) hinitial
    simpa using hget
  have hsame := hown 1 p joint hp hjoint
  rw [hpz, hjz, List.lookup_nil, Option.getD_none] at hsame
  exact absurd hsame (by decide +kernel)

/-- With equal offsets both start with their own. -/
theorem equal_twins_own : ∃ parsed hw,
    JointConfigParser.parse (twins (1 / 2) (1 / 2)) = .ok parsed ∧
    CanDriverHW.init {} false (some (twins (1 / 2) (1 / 2))) = some hw ∧
    OwnOffsets [] parsed hw.joints := by
  obtain ⟨parsed, hw, hparsed, hhw, hconfigured, -⟩ := exists_of_startsWith
    (twins (1 / 2) (1 / 2)) [.finite (1 / 2), .finite (1 / 2)] [.finite (1 / 2), .finite (1 / 2)]
    (by decide +kernel)
  refine ⟨parsed, hw, hparsed, hhw, (own_offset_iff rfl hparsed hhw).2 ?_⟩
  have hall : ∀ p ∈ parsed, p.zeroOffsetRad = .finite (1 / 2) := by
    intro p hp
    have hmem := List.mem_map_of_mem (f := ParsedJointConfig.zeroOffsetRad) hp
    rw [hconfigured] at hmem
    simpa using hmem
  refine List.pairwise_of_forall_mem_list ?_
  intro p hp q hq _ _ _
  rw [hall p hp, hall q hq]

/-! ## commits that cannot be saved -/

/-- The offsets are those of another state: the kept ones, those of the joints, and the file. -/
structure SameOffsets (hw hw' : CanDriverHW) : Prop where
  kept : ∀ motorId, hw'.jointZeroOffsetRadByMotorId.lookup motorId =
    hw.jointZeroOffsetRadByMotorId.lookup motorId
  joints : hw'.joints = hw.joints
  file : hw'.offsetFile = hw.offsetFile

/-- What a commit that cannot be saved puts back is what was kept. -/
def PutsBack (hw : CanDriverHW) (motorId : MotorID) (previousZeroOffset : Double)
    (applyToMotor writable : Bool) : Prop :=
  ∀ index joint, hw.matchedJoint motorId = some (index, joint) →
    hw.ppLocalZeroOffsetPersistenceEnabled = true → writable = false →
    hw.jointZeroOffsetRadByMotorId.lookup joint.motorId =
      some (if applyToMotor then .finite 0 else previousZeroOffset)

/-- **Commit**: a failing commit leaves all offsets as they were, exactly if the offset it puts back
was kept for the motor id before. -/
theorem commitZero_restores_iff (hw : CanDriverHW) (motorId : MotorID)
    (zeroOffset previousZeroOffset : Double) (applyToMotor writable : Bool) :
    ((hw.commitZero motorId zeroOffset previousZeroOffset applyToMotor writable).1 = false →
      SameOffsets hw (hw.commitZero motorId zeroOffset previousZeroOffset applyToMotor writable).2) ↔
    PutsBack hw motorId previousZeroOffset applyToMotor writable := by
  rw [PutsBack, commitZero]
  cases hmatched : hw.matchedJoint motorId with
  | none =>
      constructor
      · intro _ index joint h
        cases h
      · intro _ _
        exact ⟨fun _ => rfl, rfl, rfl⟩
  | some found =>
      obtain ⟨index, joint⟩ := found
      cases henabled : hw.ppLocalZeroOffsetPersistenceEnabled with
      | false => simp
      | true =>
          cases writable with
          | true => simp [savePersistedLocalZeroOffsets]
          | false =>
              have hset : ∀ other, (hw.joints.set index other).set index joint = hw.joints := by
                intro other
                rw [List.set_set, set_matchedJoint hmatched]
              simp only [savePersistedLocalZeroOffsets, setJoint, henabled]
              constructor
              · intro hsame index' joint' hfound _ _
                obtain ⟨rfl, rfl⟩ := Prod.mk.inj (Option.some.inj hfound)
                have hkept := (hsame rfl).kept joint.motorId
                simpa using hkept.symm
              · intro hback _
                refine ⟨fun id => ?_, hset _, rfl⟩
                by_cases hid : id = joint.motorId
                · subst hid
                  simpa using (hback index joint rfl trivial trivial).symm
                · simp [hid]

/-- The joints and the offset file are those of another state. -/
structure CanDriverHW.KeepsJoints (hw' hw : CanDriverHW) : Prop where
  joints : hw'.joints = hw.joints
  file : hw'.offsetFile = hw.offsetFile

theorem CanDriverHW.KeepsJoints.refl (hw : CanDriverHW) : hw.KeepsJoints hw := ⟨rfl, rfl⟩

/-- A commit to a joint that is found fails exactly if it is to be saved and cannot. -/
theorem commitZero_failed_iff {hw : CanDriverHW} {motorId : MotorID} {joint : CanDriverJointConfig}
    (hlookup : hw.lookupJointByMotorId motorId = some joint) (offset previous : Double)
    (applyToMotor writable : Bool) :
    (hw.commitZero motorId offset previous applyToMotor writable).1 = false ↔
      hw.ppLocalZeroOffsetPersistenceEnabled = true ∧ writable = false := by
  rw [lookupJointByMotorId, Option.map_eq_some_iff] at hlookup
  obtain ⟨found, hmatched, -⟩ := hlookup
  rw [commitZero, hmatched]
  cases hw.ppLocalZeroOffsetPersistenceEnabled with
  | false => simp
  | true =>
      cases writable with
      | false => simp [savePersistedLocalZeroOffsets]
      | true => simp [savePersistedLocalZeroOffsets]

/-- A request finds the joint that is written back for it, whatever else is changed. -/
theorem lookup_setJoint {hw hw' : CanDriverHW} {motorId : MotorID} {index : Nat}
    {joint other : CanDriverJointConfig} (hmatched : hw.matchedJoint motorId = some (index, joint))
    (hother : motorIdMatchesJoint motorId other = motorIdMatchesJoint motorId joint)
    (hjoints : hw'.joints = (hw.setJoint index other).joints) :
    hw'.lookupJointByMotorId motorId = some other := by
  rw [lookupJointByMotorId, matchedJoint_congr hjoints, matchedJoint_setJoint hmatched hother,
    Option.map_some]

/-- A commit that succeeds has given the joint its zero. -/
theorem lookup_commitZero {hw : CanDriverHW} {motorId : MotorID} {joint : CanDriverJointConfig}
    (hlookup : hw.lookupJointByMotorId motorId = some joint) {offset previous : Double}
    {applyToMotor writable : Bool}
    (hdone : (hw.commitZero motorId offset previous applyToMotor writable).1 = true) :
    (hw.commitZero motorId offset previous applyToMotor writable).2.lookupJointByMotorId motorId =
      some (joint.withZero (if applyToMotor then .finite 0 else offset)) := by
  have hallowed := commitZero_failed_iff hlookup offset previous applyToMotor writable
  rw [hdone] at hallowed
  rw [lookupJointByMotorId, Option.map_eq_some_iff] at hlookup
  obtain ⟨⟨index, found⟩, hmatched, rfl⟩ := hlookup
  generalize hstored : (if applyToMotor then Double.finite 0 else offset) = stored
  refine lookup_setJoint hmatched rfl ?_
  rw [commitZero, hmatched]
  cases hp : hw.ppLocalZeroOffsetPersistenceEnabled with
  | false => simp [setJoint, hstored]
  | true =>
      cases writable with
      | true => simp [setJoint, savePersistedLocalZeroOffsets, hstored]
      | false => simp [hp] at hallowed

/-- A commit gives the joint its limits, and the zero that goes with them. -/
theorem lookup_commitLimits {hw : CanDriverHW} {motorId : MotorID} {joint : CanDriverJointConfig}
    (hlookup : hw.lookupJointByMotorId motorId = some joint) (lower upper offset : Double)
    (applyToMotor : Bool) :
    (hw.commitLimits motorId lower upper offset applyToMotor).2.lookupJointByMotorId motorId =
      some ((joint.withLimits lower upper).withZero
        (if applyToMotor then .finite 0 else offset)) := by
  rw [lookupJointByMotorId, Option.map_eq_some_iff] at hlookup
  obtain ⟨⟨index, found⟩, hmatched, rfl⟩ := hlookup
  rw [commitLimits, hmatched]
  exact lookup_setJoint hmatched rfl rfl

/-- A commit that fails puts the joint back and has not written the file. -/
theorem keepsJoints_of_commitZero {hw : CanDriverHW} {motorId : MotorID} {offset previous : Double}
    {applyToMotor writable : Bool}
    (hfailed : (hw.commitZero motorId offset previous applyToMotor writable).1 = false) :
    (hw.commitZero motorId offset previous applyToMotor writable).2.KeepsJoints hw := by
  rw [commitZero] at hfailed ⊢
  cases hmatched : hw.matchedJoint motorId with
  | none => exact KeepsJoints.refl hw
  | some found =>
      have hput := set_matchedJoint hmatched
      rw [hmatched] at hfailed
      cases hp : hw.ppLocalZeroOffsetPersistenceEnabled with
      | false => simp [hp] at hfailed
      | true =>
          cases writable with
          | true => simp [savePersistedLocalZeroOffsets, hp] at hfailed
          | false =>
              constructor
              · simp [savePersistedLocalZeroOffsets, setJoint, hput]
              · simp [savePersistedLocalZeroOffsets, setJoint]

/-- A PP arm without an offset, as the set-up leaves it: the offset map has no entry for it. -/
def unsavedArm : CanDriverHW where
  joints := [{ name := "arm", canDevice := "can0", controlMode := "position", motorId := 1, protocol := .PP }]
  commandValidBuffer := [false]
  ppLocalZeroOffsetPersistenceEnabled := true

/-- The failing commit leaves an entry behind where there was none. -/
theorem failed_commit_leaves_entry :
    (unsavedArm.commitZero 1 (.finite 1) (.finite 0) false false).1 = false ∧
      ¬ SameOffsets unsavedArm (unsavedArm.commitZero 1 (.finite 1) (.finite 0) false false).2 := by
  refine ⟨by decide +kernel, fun hsame => ?_⟩
  have hkept := hsame.kept 1
  revert hkept
  decide +kernel

end CanDriver
