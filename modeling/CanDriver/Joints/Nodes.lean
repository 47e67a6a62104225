import CanDriver.CanDriverHW
import Mathlib.Data.List.Pairwise

/-!
# CanDriver.Joints.Nodes

Which joints an accepted list may put on one wire node.

`parseAndSetupJoints` compares the low bytes of the motor ids, whatever the
protocol.  MT motors are addressed by another function of the id, so the check
keeps PP and DM nodes apart, and MT nodes unless one id lies below the send base
and the other does not.
-/

namespace CanDriver

open CanDriverHW

/-! ## what the set-up checks -/

/-- What the set-up compares: device, protocol and low byte of the motor id. -/
def checkedNode (j : CanDriverJointConfig) : String × CanType × UInt8 :=
  (j.canDevice, j.protocol, toProtocolNodeId j.motorId)

/-- The joints so far have different names and different checked nodes, and the set-up
remembers all of them. -/
structure CanDriverHW.Setup.Consistent (st : Setup) : Prop where
  names : ∀ j ∈ st.hw.joints, j.name ∈ st.seenJointNames
  nodes : ∀ j ∈ st.hw.joints, checkedNode j ∈ st.seenProtocolNodes
  distinctNames : st.hw.joints.Pairwise fun j k => j.name ≠ k.name
  distinctNodes : st.hw.joints.Pairwise fun j k => checkedNode j ≠ checkedNode k

/-- **Step**: a joint that is taken is new by name and by node. -/
theorem consistent_setupJoint {st st' : Setup} {p : ParsedJointConfig} (hst : st.Consistent)
    (h : setupJoint st p = some st') : st'.Consistent := by
  unfold setupJoint at h
  dsimp only at h
  split at h
  · cases h
  · next hname =>
    split at h
    · cases h
    · next hnode =>
      obtain rfl := Option.some.inj h
      refine ⟨?_, ?_, ?_, ?_⟩
      · rintro j hj
        rcases List.mem_append.1 hj with hj | hj
        · exact List.mem_cons_of_mem _ (hst.names j hj)
        · obtain rfl := List.mem_singleton.1 hj
          exact List.mem_cons_self
      · rintro j hj
        rcases List.mem_append.1 hj with hj | hj
        · exact List.mem_cons_of_mem _ (hst.nodes j hj)
        · obtain rfl := List.mem_singleton.1 hj
          exact List.mem_cons_self
      · refine List.pairwise_append.2 ⟨hst.distinctNames, by simp, fun j hj k hk heq => hname ?_⟩
        obtain rfl : k = _ := List.mem_singleton.1 hk
        have hmem := hst.names j hj
        rw [heq] at hmem
        exact hmem
      · refine List.pairwise_append.2 ⟨hst.distinctNodes, by simp, fun j hj k hk heq => hnode ?_⟩
        obtain rfl : k = _ := List.mem_singleton.1 hk
        have hmem := hst.nodes j hj
        rw [heq] at hmem
        exact hmem

/-- **Run**: so are all joints of an accepted list. -/
theorem consistent_setupJoints {st st' : Setup} {parsed : List ParsedJointConfig}
    (hst : st.Consistent) (h : setupJoints st parsed = some st') : st'.Consistent := by
  induction parsed generalizing st with
  | nil => exact Option.some.inj h ▸ hst
  | cons p parsed ih =>
      rw [setupJoints] at h
      cases hp : setupJoint st p with
      | none => simp [hp] at h
      | some st₁ =>
          rw [hp] at h
          exact ih (consistent_setupJoint hst hp) h

/-- What the set-up leaves behind when it accepts a list. -/
theorem exists_of_parseAndSetupJoints {hw hw' : CanDriverHW} {param : Option XmlRpcValue}
    (h : hw.parseAndSetupJoints param = some hw') :
    ∃ jointList parsed st, param = some jointList ∧
      JointConfigParser.parse jointList = .ok parsed ∧ setupJoints { hw } parsed = some st ∧
      hw' = { st.hw with commandValidBuffer := List.replicate st.hw.joints.length false } := by
  cases param with
  | none => simp [parseAndSetupJoints] at h
  | some jointList =>
      cases hparsed : JointConfigParser.parse jointList with
      | error e => simp [parseAndSetupJoints, hparsed] at h
      | ok parsed =>
          cases hst : setupJoints { hw } parsed with
          | none => simp [parseAndSetupJoints, hparsed, hst] at h
          | some st =>
              exact ⟨jointList, parsed, st, rfl, hparsed, hst, by
                simpa [parseAndSetupJoints, hparsed, hst, eq_comm] using h⟩

/-- The joints of an accepted list have different names and different checked nodes. -/
theorem distinct_of_parseAndSetupJoints {hw hw' : CanDriverHW} {param : Option XmlRpcValue}
    (hempty : hw.joints = []) (h : hw.parseAndSetupJoints param = some hw') :
    hw'.joints.Pairwise (fun j k => j.name ≠ k.name) ∧
      hw'.joints.Pairwise fun j k => checkedNode j ≠ checkedNode k := by
  obtain ⟨_, parsed, st, _, _, hst, rfl⟩ := exists_of_parseAndSetupJoints h
  have hc : st.Consistent := consistent_setupJoints
    ⟨by simp [hempty], by simp [hempty], by simp [hempty], by simp [hempty]⟩ hst
  exact ⟨hc.distinctNames, hc.distinctNodes⟩

/-! ## MT nodes and low bytes -/

theorem toNat_toProtocolNodeId (id : MotorID) : (toProtocolNodeId id).toNat = id.toNat % 256 := by
  have hmask : id.toNat &&& 255 = id.toNat % 2 ^ 8 := Nat.and_two_pow_sub_one_eq_mod _ 8
  rw [toProtocolNodeId, UInt16.toNat_toUInt8, UInt16.toNat_and,
    show (0xFF : UInt16).toNat = 255 from rfl, hmask]
  omega

theorem toNat_toMtProtocolNodeId (id : MotorID) : (toMtProtocolNodeId id).toNat =
    if 0x140 ≤ id.toNat then (id.toNat - 0x140) % 256 else id.toNat % 256 := by
  unfold toMtProtocolNodeId
  by_cases hid : kMtSendBaseId ≤ id
  · have hbase : 0x140 ≤ id.toNat := UInt16.le_iff_toNat_le.1 hid
    rw [if_pos hid, if_pos hbase, UInt16.toNat_toUInt8, UInt16.toNat_sub_of_le _ _ hid]
    rfl
  · have hbase : ¬ 0x140 ≤ id.toNat := fun h => hid (UInt16.le_iff_toNat_le.2 h)
    rw [if_neg hid, if_neg hbase]
    exact toNat_toProtocolNodeId id

/-- The ids below the send base and those from it on have their MT nodes at a distance. -/
def Aliases (low high : MotorID) : Prop :=
  low < kMtSendBaseId ∧ kMtSendBaseId ≤ high ∧ high.toNat % 256 = (low.toNat + 0x40) % 256

instance (low high : MotorID) : Decidable (Aliases low high) :=
  inferInstanceAs (Decidable (_ ∧ _ ∧ _))

/-- Ids with different low bytes share an MT node exactly if one is the alias of the
other. -/
theorem toMtProtocolNodeId_eq_iff {a b : MotorID} (h : toProtocolNodeId a ≠ toProtocolNodeId b) :
    toMtProtocolNodeId a = toMtProtocolNodeId b ↔ Aliases a b ∨ Aliases b a := by
  have hlow : a.toNat % 256 ≠ b.toNat % 256 := by
    simpa only [ne_eq, ← toNat_toProtocolNodeId, UInt8.toNat_inj] using h
  rw [← UInt8.toNat_inj, toNat_toMtProtocolNodeId, toNat_toMtProtocolNodeId]
  simp only [Aliases, UInt16.lt_iff_toNat_lt, UInt16.le_iff_toNat_le,
    show kMtSendBaseId.toNat = 0x140 from rfl]
  split <;> split <;> omega

/-! ## wire nodes -/

/-- The node a joint is addressed under. -/
def CanDriverJointConfig.wireNode (j : CanDriverJointConfig) : CanType × UInt8 :=
  protocolNode (j.protocol, j.motorId)

/-- No two joints on one device share a wire node. -/
def DistinctWireNodes (joints : List CanDriverJointConfig) : Prop :=
  joints.Pairwise fun j k => j.canDevice = k.canDevice → j.wireNode ≠ k.wireNode

instance (joints : List CanDriverJointConfig) : Decidable (DistinctWireNodes joints) :=
  inferInstanceAs (Decidable (List.Pairwise _ _))

/-- Joints with different checked nodes share a wire node exactly if they are MT joints of
one device and their ids are aliases. -/
theorem wireNode_eq_iff {j k : CanDriverJointConfig} (h : checkedNode j ≠ checkedNode k)
    (hdevice : j.canDevice = k.canDevice) : j.wireNode = k.wireNode ↔
      j.protocol = .MT ∧ k.protocol = .MT ∧
        (Aliases j.motorId k.motorId ∨ Aliases k.motorId j.motorId) := by
  have hlow : j.protocol = k.protocol → toProtocolNodeId j.motorId ≠ toProtocolNodeId k.motorId :=
    fun hp hn => h (by simp [checkedNode, hdevice, hp, hn])
  simp only [CanDriverJointConfig.wireNode, protocolNode, Prod.mk.injEq]
  by_cases hj : j.protocol = .MT
  · by_cases hk : k.protocol = .MT
    · simpa [hj, hk] using toMtProtocolNodeId_eq_iff (hlow (hj.trans hk.symm))
    · simp [hj, hk, Ne.symm hk]
  · by_cases hp : j.protocol = k.protocol
    · simpa [hj, ← hp] using hlow hp
    · simp [hj, hp]

/-- **Accepted lists**: the joints of an accepted list have different wire nodes exactly if
no device has an MT joint with an id below the send base and another one, from the send
base on, that is its alias. -/
theorem distinctWireNodes_iff {hw hw' : CanDriverHW} {param : Option XmlRpcValue}
    (hempty : hw.joints = []) (h : hw.parseAndSetupJoints param = some hw') :
    DistinctWireNodes hw'.joints ↔
      ∀ j ∈ hw'.joints, ∀ k ∈ hw'.joints, j.protocol = .MT → k.protocol = .MT →
        j.canDevice = k.canDevice → ¬ Aliases j.motorId k.motorId := by
  obtain ⟨_, hnodes⟩ := distinct_of_parseAndSetupJoints hempty h
  constructor
  · intro hdistinct j hj k hk hjt hkt hdevice hjk
    have hne : j ≠ k := by
      rintro rfl
      exact absurd hjk.1 (UInt16.not_lt.2 hjk.2.1)
    have : Std.Symm fun j k : CanDriverJointConfig => checkedNode j ≠ checkedNode k :=
      ⟨fun _ _ h => h.symm⟩
    have : Std.Symm fun j k : CanDriverJointConfig =>
        j.canDevice = k.canDevice → j.wireNode ≠ k.wireNode := ⟨fun _ _ h hd => (h hd.symm).symm⟩
    have hcheck : checkedNode j ≠ checkedNode k := hnodes.forall hj hk hne
    have hwire : j.wireNode ≠ k.wireNode := List.Pairwise.forall hdistinct hj hk hne hdevice
    exact hwire ((wireNode_eq_iff hcheck hdevice).2 ⟨hjt, hkt, .inl hjk⟩)
  · intro hno
    refine hnodes.imp_of_mem fun {j k} hj hk hcheck hdevice hwire => ?_
    obtain ⟨hjt, hkt, hjk | hkj⟩ := (wireNode_eq_iff hcheck hdevice).1 hwire
    · exact hno j hj k hk hjt hkt hdevice hjk
    · exact hno k hk j hj hkt hjt hdevice.symm hkj

/-! ## two wheels on one node -/

/-- A joint of the `joints` parameter, with only the required members. -/
def jointParam (name : String) (motorId : Int32) (protocol device mode : String) : XmlRpcValue :=
  .struct [("name", .string name), ("motor_id", .int motorId), ("protocol", .string protocol),
    ("can_device", .string device), ("control_mode", .string mode)]

/-- Two MT wheels, one configured by its CAN id and one by its node. -/
def aliasedWheels : XmlRpcValue :=
  .array [jointParam "left_wheel" 0x141 "MT" "can0" "velocity",
    jointParam "right_wheel" 0x01 "MT" "can0" "velocity"]

/-- The list is accepted, and both wheels are node 1. -/
theorem aliased_wheels_accepted :
    ∃ hw, CanDriverHW.parseAndSetupJoints {} (some aliasedWheels) = some hw ∧
      ¬ DistinctWireNodes hw.joints := by
  have haccepted : (CanDriverHW.parseAndSetupJoints {} (some aliasedWheels)).any
      (fun hw => !decide (DistinctWireNodes hw.joints)) = true := by decide +kernel
  obtain ⟨hw, hhw, hnot⟩ := (Option.any_eq_true _ _).1 haccepted
  exact ⟨hw, hhw, by simpa using hnot⟩

/-- Two MT wheels and an arm joint, all configured by their CAN ids. -/
def wheelsAndArm : XmlRpcValue :=
  .array [jointParam "left_wheel" 0x141 "MT" "can0" "velocity",
    jointParam "right_wheel" 0x142 "MT" "can0" "velocity",
    jointParam "arm" 0x01 "PP" "can0" "position"]

/-- These joints are accepted and kept apart. -/
theorem wheels_and_arm_distinct :
    ∃ hw, CanDriverHW.parseAndSetupJoints {} (some wheelsAndArm) = some hw ∧
      DistinctWireNodes hw.joints := by
  have haccepted : (CanDriverHW.parseAndSetupJoints {} (some wheelsAndArm)).any (fun hw =>
      hw.joints.all fun j => hw.joints.all fun k => !decide (Aliases j.motorId k.motorId) ||
        !decide (j.protocol = .MT)) = true := by decide +kernel
  obtain ⟨hw, hhw, hno⟩ := (Option.any_eq_true _ _).1 haccepted
  simp only [List.all_eq_true, Bool.or_eq_true, Bool.not_eq_true', decide_eq_false_iff_not] at hno
  refine ⟨hw, hhw, (distinctWireNodes_iff rfl hhw).2 fun j hj k hk hjt _ _ => ?_⟩
  exact (hno j hj k hk).resolve_right (not_not_intro hjt)

end CanDriver
