import CanDriver.Joints.Nodes

/-!
# CanDriver.Joints.Lookup

Which joint a request for a motor id is about.

A request finds its joint if exactly one joint matches.  The configured id always
matches, but so does every MT joint whose node the requested id denotes, on
whatever device and whatever the protocol of the joint that is meant.
-/

namespace CanDriver

namespace CanDriverHW

variable {hw : CanDriverHW} {motorId : MotorID} {joint : CanDriverJointConfig}
  {front back joints : List CanDriverJointConfig}

/-! ## the search -/

/-- No joint matches: the search finds nothing. -/
theorem matchJoints_eq_none (i : Nat)
    (hno : ∀ k ∈ joints, motorIdMatchesJoint motorId k = false) :
    matchJoints motorId i joints = (none, 0) := by
  induction joints generalizing i with
  | nil => rfl
  | cons j joints ih =>
      rw [List.forall_mem_cons] at hno
      simp [matchJoints, hno.1, ih (i + 1) hno.2]

/-- One joint matches: the search finds it. -/
theorem matchJoints_eq_one (i : Nat) (hjoint : motorIdMatchesJoint motorId joint = true)
    (hfront : ∀ k ∈ front, motorIdMatchesJoint motorId k = false)
    (hback : ∀ k ∈ back, motorIdMatchesJoint motorId k = false) :
    matchJoints motorId i (front ++ joint :: back) = (some (i + front.length, joint), 1) := by
  induction front generalizing i with
  | nil => simp [matchJoints, hjoint, matchJoints_eq_none (i + 1) hback]
  | cons j front ih =>
      rw [List.forall_mem_cons] at hfront
      have hrest := ih (i + 1) hfront.2
      simp only [List.cons_append, matchJoints, hrest, hfront.1]
      simp [Nat.add_comm, Nat.add_left_comm]

/-- The number of matches is what the search counts. -/
theorem matchJoints_count (motorId : MotorID) (i : Nat) (joints : List CanDriverJointConfig) :
    (matchJoints motorId i joints).2 = joints.countP (motorIdMatchesJoint motorId) := by
  induction joints generalizing i with
  | nil => rfl
  | cons j joints ih =>
      cases hj : motorIdMatchesJoint motorId j with
      | false => simp [matchJoints, hj, ih]
      | true => simp [matchJoints, hj, ih]

/-- An entry point acts on the only joint that matches. -/
theorem matchedJoint_eq_some (hjoints : hw.joints = front ++ joint :: back)
    (hjoint : motorIdMatchesJoint motorId joint = true)
    (hother : ∀ k ∈ front ++ back, motorIdMatchesJoint motorId k = false) :
    hw.matchedJoint motorId = some (front.length, joint) := by
  rw [List.forall_mem_append] at hother
  simp [matchedJoint, hjoints, matchJoints_eq_one 0 hjoint hother.1 hother.2]

/-- What the search finds is where it says. -/
theorem matchJoints_getElem? {i k : Nat} {count : Nat}
    (h : matchJoints motorId i joints = (some (k, joint), count)) :
    i ≤ k ∧ joints[k - i]? = some joint := by
  induction joints generalizing i count with
  | nil => exact absurd (congrArg Prod.fst h) (Option.some_ne_none _).symm
  | cons j joints ih =>
      rw [matchJoints] at h
      cases hrest : matchJoints motorId (i + 1) joints with
      | mk found rest =>
          rw [hrest] at h
          dsimp only at h
          split at h
          · obtain ⟨hk, hj⟩ := Prod.mk.inj (Option.some.inj (Prod.mk.inj h).1)
            rw [← hk, ← hj, Nat.sub_self]
            exact ⟨le_rfl, rfl⟩
          · have hfound : found = some (k, joint) := (Prod.mk.inj h).1
            rw [hfound] at hrest
            obtain ⟨hle, hget⟩ := ih hrest
            have hsub : k - i = (k - (i + 1)) + 1 := by omega
            rw [hsub, List.getElem?_cons_succ]
            exact ⟨by omega, hget⟩

/-- The joint an entry point acts on is at its index. -/
theorem matchedJoint_getElem? {k : Nat} (h : hw.matchedJoint motorId = some (k, joint)) :
    hw.joints[k]? = some joint := by
  rw [matchedJoint] at h
  split at h
  · next found heq =>
    rw [Option.some.inj h] at heq
    exact (matchJoints_getElem? heq).2
  · exact absurd h (Option.some_ne_none _).symm

/-- Writing the joint an entry point acts on back as it is changes nothing. -/
theorem set_matchedJoint {k : Nat} (h : hw.matchedJoint motorId = some (k, joint)) :
    hw.joints.set k joint = hw.joints := by
  obtain ⟨hk, hjoint⟩ := List.getElem?_eq_some_iff.1 (matchedJoint_getElem? h)
  rw [← hjoint, List.set_getElem_self]

/-- The search finds what is put in the place of what it found, if that matches as well. -/
theorem matchJoints_set {i k count : Nat} {other : CanDriverJointConfig}
    (h : matchJoints motorId i joints = (some (k, joint), count))
    (hother : motorIdMatchesJoint motorId other = motorIdMatchesJoint motorId joint) :
    matchJoints motorId i (joints.set (k - i) other) = (some (k, other), count) := by
  induction joints generalizing i count with
  | nil => exact absurd (congrArg Prod.fst h) (Option.some_ne_none _).symm
  | cons j joints ih =>
      rw [matchJoints] at h
      cases hrest : matchJoints motorId (i + 1) joints with
      | mk found rest =>
          rw [hrest] at h
          dsimp only at h
          split at h
          · next hmatch =>
            obtain ⟨hfound, hcount⟩ := Prod.mk.inj h
            obtain ⟨hk, hj⟩ := Prod.mk.inj (Option.some.inj hfound)
            rw [← hk, Nat.sub_self, List.set_cons_zero, matchJoints, hrest]
            dsimp only
            rw [hother, ← hj, if_pos hmatch, hcount]
          · next hmatch =>
            obtain ⟨hfound, hcount⟩ := Prod.mk.inj h
            rw [hfound] at hrest
            have hle := (matchJoints_getElem? hrest).1
            have hsub : k - i = (k - (i + 1)) + 1 := by omega
            rw [hsub, List.set_cons_succ, matchJoints, ih hrest]
            dsimp only
            rw [if_neg hmatch, hcount]

/-- The search reads nothing but the joints. -/
theorem matchedJoint_congr {hw' : CanDriverHW} (hjoints : hw'.joints = hw.joints)
    (motorId : MotorID) : hw'.matchedJoint motorId = hw.matchedJoint motorId := by
  rw [matchedJoint, matchedJoint, hjoints]

/-- A request finds the joint that is written back for it. -/
theorem matchedJoint_setJoint {k : Nat} {other : CanDriverJointConfig}
    (h : hw.matchedJoint motorId = some (k, joint))
    (hother : motorIdMatchesJoint motorId other = motorIdMatchesJoint motorId joint) :
    (hw.setJoint k other).matchedJoint motorId = some (k, other) := by
  rw [matchedJoint] at h ⊢
  split at h
  · next found heq =>
    rw [Option.some.inj h] at heq
    have hset := matchJoints_set heq hother
    rw [Nat.sub_zero] at hset
    rw [setJoint, hset]
    rfl
  · exact absurd h (Option.some_ne_none _).symm

/-- An entry point acts on nothing unless a matching joint is the only one. -/
theorem matchedJoint_isSome_iff (hjoints : hw.joints = front ++ joint :: back)
    (hjoint : motorIdMatchesJoint motorId joint = true) :
    (hw.matchedJoint motorId).isSome = true ↔
      ∀ k ∈ front ++ back, motorIdMatchesJoint motorId k = false := by
  constructor
  · intro h k hk
    have hcount : (matchJoints motorId 0 hw.joints).2 = 1 := by
      unfold matchedJoint at h
      split at h
      · next heq => rw [heq]
      · cases h
    rw [matchJoints_count, hjoints, List.countP_append, List.countP_cons, if_pos hjoint] at hcount
    have hfront : front.countP (motorIdMatchesJoint motorId) = 0 := by omega
    have hback : back.countP (motorIdMatchesJoint motorId) = 0 := by omega
    rw [List.countP_eq_zero] at hfront hback
    rcases List.mem_append.1 hk with hk | hk
    · simpa using hfront k hk
    · simpa using hback k hk
  · intro h
    rw [matchedJoint_eq_some hjoints hjoint h]
    rfl

/-! ## what the entry points do -/

/-- The call succeeded, and all it did to the joints is to replace the one at this index. -/
def Replaces (hw : CanDriverHW) (index : Nat) (joint : CanDriverJointConfig)
    (result : Bool × CanDriverHW) : Prop :=
  result.1 = true ∧ result.2.joints = hw.joints.set index joint

/-- All requests for this motor id are about the joint at this index. -/
structure Resolves (hw : CanDriverHW) (motorId : MotorID) (index : Nat)
    (joint : CanDriverJointConfig) : Prop where
  lookup : hw.lookupJointByMotorId motorId = some joint
  modeSwitch : ∀ mode, hw.Replaces index (joint.switchMode mode) (hw.commitModeSwitch motorId mode)
  getZero : hw.getZeroOffset motorId =
    some ((hw.jointZeroOffsetRadByMotorId.lookup joint.motorId).getD joint.zeroOffsetRad)
  zero : ∀ offset previous applyToMotor,
    hw.Replaces index (joint.withZero (if applyToMotor then .finite 0 else offset))
      (hw.commitZero motorId offset previous applyToMotor true)
  limits : ∀ lower upper offset applyToMotor,
    hw.Replaces index
      ((joint.withLimits lower upper).withZero (if applyToMotor then .finite 0 else offset))
      (hw.commitLimits motorId lower upper offset applyToMotor)

/-- A request whose joint is found is about that joint. -/
theorem resolves_of_matchedJoint {index : Nat} (hid : joint.motorId = motorId)
    (h : hw.matchedJoint motorId = some (index, joint)) : hw.Resolves motorId index joint := by
  have hmatch : matchJoints motorId 0 hw.joints = (some (index, joint), 1) := by
    unfold matchedJoint at h
    split at h
    · next found heq => rw [heq, Option.some.inj h]
    · cases h
  refine ⟨by simp [lookupJointByMotorId, h], fun mode => ?_, ?_, fun offset previous apply => ?_,
    fun lower upper offset apply => ?_⟩
  · simp [Replaces, commitModeSwitch, h, setJoint]
  · cases hz : hw.jointZeroOffsetRadByMotorId.lookup motorId <;>
      simp [getZeroOffset, hmatch, hid, hz]
  · cases hp : hw.ppLocalZeroOffsetPersistenceEnabled <;>
      simp [Replaces, commitZero, h, hp, setJoint, savePersistedLocalZeroOffsets]
  · simp [Replaces, commitLimits, h, setJoint]

/-! ## aliases -/

/-- A joint with another id matches only as the MT joint of the node. -/
theorem motorIdMatchesJoint_eq_false_iff (hid : joint.motorId ≠ motorId) :
    motorIdMatchesJoint motorId joint = false ↔
      (joint.protocol = .MT → toMtProtocolNodeId joint.motorId ≠ toMtProtocolNodeId motorId) := by
  by_cases hp : joint.protocol = .MT
  · simp [motorIdMatchesJoint, hid, hp, eq_comm]
  · simp [motorIdMatchesJoint, hid, hp]

/-- **Requests**: a request for the id of exactly one joint is about that joint exactly if
the id does not denote the node of an MT joint among the others. -/
theorem resolves_iff (hjoints : hw.joints = front ++ joint :: back) (hid : joint.motorId = motorId)
    (hunique : ∀ k ∈ front ++ back, k.motorId ≠ motorId) :
    hw.Resolves motorId front.length joint ↔
      ∀ k ∈ front ++ back, k.protocol = .MT →
        toMtProtocolNodeId k.motorId ≠ toMtProtocolNodeId motorId := by
  have hjoint : motorIdMatchesJoint motorId joint = true := by simp [motorIdMatchesJoint, hid]
  constructor
  · intro h k hk
    have hsome : (hw.matchedJoint motorId).isSome = true := by
      have hlookup := h.lookup
      rw [lookupJointByMotorId, Option.map_eq_some_iff] at hlookup
      obtain ⟨found, hfound, _⟩ := hlookup
      rw [hfound]
      rfl
    have hno := (matchedJoint_isSome_iff hjoints hjoint).1 hsome k hk
    exact (motorIdMatchesJoint_eq_false_iff (hunique k hk)).1 hno
  · intro h
    refine resolves_of_matchedJoint hid (matchedJoint_eq_some hjoints hjoint fun k hk => ?_)
    exact (motorIdMatchesJoint_eq_false_iff (hunique k hk)).2 (h k hk)

end CanDriverHW

/-! ## an arm and a wheel -/

/-- The list is accepted; the arm has id 1, which also is the node of the left wheel. -/
theorem arm_not_found :
    ∃ hw front joint back, CanDriverHW.parseAndSetupJoints {} (some wheelsAndArm) = some hw ∧
      hw.joints = front ++ joint :: back ∧ joint.motorId = 1 ∧
      (∀ k ∈ front ++ back, k.motorId ≠ 1) ∧ ¬ hw.Resolves 1 front.length joint := by
  have hrun : (CanDriverHW.parseAndSetupJoints {} (some wheelsAndArm)).any (fun hw =>
      hw.joints.map (fun j => j.motorId) = [0x141, 0x142, 1] ∧
        hw.lookupJointByMotorId 1 = none) = true := by decide +kernel
  obtain ⟨hw, hhw, htest⟩ := (Option.any_eq_true _ _).1 hrun
  obtain ⟨hids, hlookup⟩ := of_decide_eq_true htest
  obtain ⟨left, right, arm, hjoints⟩ : ∃ left right arm, hw.joints = [left, right, arm] :=
    List.length_eq_three.1 (by simpa using congrArg List.length hids)
  simp only [hjoints, List.map_cons, List.map_nil, List.cons.injEq, and_true] at hids
  obtain ⟨hleft, hright, harm⟩ := hids
  refine ⟨hw, [left, right], arm, [], hhw, hjoints, harm, ?_, fun h => ?_⟩
  · simp [hleft, hright]
  · exact absurd h.lookup (by simp [hlookup])

/-- A request for the right wheel is about the right wheel. -/
theorem right_wheel_found :
    ∃ hw left right arm, CanDriverHW.parseAndSetupJoints {} (some wheelsAndArm) = some hw ∧
      hw.joints = [left, right, arm] ∧ hw.Resolves 0x142 1 right := by
  have hrun : (CanDriverHW.parseAndSetupJoints {} (some wheelsAndArm)).any (fun hw =>
      hw.joints.map (fun j => (j.protocol, j.motorId)) =
        [(.MT, 0x141), (.MT, 0x142), (.PP, 1)]) = true := by decide +kernel
  obtain ⟨hw, hhw, htest⟩ := (Option.any_eq_true _ _).1 hrun
  have hids := of_decide_eq_true htest
  obtain ⟨left, right, arm, hjoints⟩ : ∃ left right arm, hw.joints = [left, right, arm] :=
    List.length_eq_three.1 (by simpa using congrArg List.length hids)
  simp only [hjoints, List.map_cons, List.map_nil, List.cons.injEq, Prod.mk.injEq,
    and_true] at hids
  obtain ⟨⟨_, hleft⟩, ⟨_, hright⟩, hpp, harm⟩ := hids
  have hsplit : hw.joints = [left] ++ right :: [arm] := hjoints
  refine ⟨hw, left, right, arm, hhw, hjoints, (CanDriverHW.resolves_iff hsplit hright ?_).2 ?_⟩
  · simp [hleft, harm]
  · simp [hleft, hpp, toMtProtocolNodeId, kMtSendBaseId]

end CanDriver
