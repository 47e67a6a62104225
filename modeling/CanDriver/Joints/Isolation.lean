import CanDriver.Feedback.Reports
import CanDriver.Joints.Nodes

/-!
# CanDriver.Joints.Isolation

Which joints of one device are kept apart on the wire.

Every handler of a device sees every frame.  MT, PP and DM motors are told apart by
the ranges of their CAN ids, which overlap in two places: MT nodes from `0xC0` on are
addressed where DM nodes are, and PP node 0 answers under the id all DM motors
answer under.  A DM motor names itself by four bits only.
-/

namespace CanDriver

open Interact Prog Proto

variable {deviceName : String}

/-! ## one axis -/

/-- What is known of the axis of a node is the same in both states. -/
structure SameAxis (deviceName : String) (node : CanType × UInt8) (b b' : Bus) : Prop where
  eyou : node.1 = .PP → b'.eyou.motorState node.2 = b.eyou.motorState node.2
  mt : node.1 = .MT → b'.mt.motorState node.2 = b.mt.motorState node.2
  dm : node.1 = .DM → b'.dm.motorState node.2 = b.dm.motorState node.2
  shared : ∀ key, key.device = deviceName → protocolNode (key.protocol, key.motorId) = node →
    b'.shared.record key = b.shared.record key

theorem SameAxis.refl (node : CanType × UInt8) (b : Bus) : SameAxis deviceName node b b :=
  ⟨fun _ => rfl, fun _ => rfl, fun _ => rfl, fun _ _ _ => rfl⟩

/-- The node a handler takes a frame to come from, if it reads feedback in it. -/
def BusCall.believes : BusCall → Option (CanType × UInt8)
  | .eyouReceive frame =>
      if frame.byte 0 = EyouCan.kReadResponse then
        (EyouCan.responseNode frame).map fun n => (.PP, n)
      else none
  | .mtReceive frame => (MtCan.responseNode frame).map fun n => (.MT, n)
  | .dmReceive frame => (DamiaoCan.responseNode frame).map fun n => (.DM, n)
  | _ => none

/-- The three receive handlers. -/
def BusCall.Receives (c : BusCall) (frame : Frame) : Prop :=
  c = .eyouReceive frame ∨ c = .mtReceive frame ∨ c = .dmReceive frame

/-- What a handler tells of the axis it believes in; the other records it keeps. -/
theorem record_of_publishes {c : BusCall} {frame : Frame} {g : Notes} {key : AxisKey}
    {old new : AxisFeedbackState} (hc : c.Receives frame)
    (hnode : c.believes ≠ some (protocolNode (key.protocol, key.motorId)))
    (h : c.Publishes deviceName g key old new) : new = old := by
  rcases h with hkeeps | ⟨-, htells, hreports⟩
  · rcases hc with rfl | rfl | rfl
    all_goals exact hkeeps
  · refine absurd ?_ hnode
    rcases hc with rfl | rfl | rfl
    · obtain ⟨t, -, hread, -⟩ := hreports
      rw [BusCall.believes, if_pos hread]
      exact htells
    · exact htells
    · exact htells

/-- **Step**: a handler leaves every axis alone but the one it believes in. -/
theorem SameAxis.after {b b' : Bus} {c : BusCall} {frame : Frame} {node : CanType × UInt8}
    {g : Notes} {op : BusOp} (r : op.Ans) (hc : c.Receives frame) (hnode : c.believes ≠ some node)
    (hb' : b'.Sound deviceName) (h : SameAxis deviceName node b b')
    (hop : (reporting deviceName c).allow g op) : SameAxis deviceName node b (b'.after op r) := by
  obtain ⟨type, n⟩ := node
  cases op with
  | eyou f =>
      refine { h with eyou := fun hpp => Eq.trans ?_ (h.eyou hpp) }
      obtain rfl : type = .PP := hpp
      have hn := (hop b'.eyou hb'.eyou).2 n
      rcases hc with rfl | rfl | rfl
      · refine hn.resolve_right fun ⟨hresponse, hread, _⟩ => hnode ?_
        simp only [BusCall.believes, hread, if_true, hresponse, Option.map_some]
      · exact hn
      · exact hn
  | mt f =>
      refine { h with mt := fun hmt => Eq.trans ?_ (h.mt hmt) }
      obtain rfl : type = .MT := hmt
      have hn := (hop b'.mt hb'.mt).2 n
      rcases hc with rfl | rfl | rfl
      · exact hn
      · refine hn.resolve_right fun ⟨hresponse, _⟩ => hnode ?_
        simp only [BusCall.believes, hresponse, Option.map_some]
      · exact hn
  | dm f =>
      refine { h with dm := fun hdm => Eq.trans ?_ (h.dm hdm) }
      obtain rfl : type = .DM := hdm
      have hn := (hop b'.dm hb'.dm).2 n
      rcases hc with rfl | rfl | rfl
      · exact hn
      · exact hn
      · refine hn.resolve_right fun ⟨hresponse, _⟩ => hnode ?_
        simp only [BusCall.believes, hresponse, Option.map_some]
  | shared f =>
      refine { h with shared := fun key hdevice hkey => Eq.trans ?_ (h.shared key hdevice hkey) }
      exact record_of_publishes hc (hkey ▸ hnode) (hop b'.shared key)
  | _ => exact { h with }

/-- **Run**: so does the whole handler. -/
theorem sameAxis_code (cfg : DeviceManagerConfig) {b : Bus} {c : BusCall} {frame : Frame}
    {node : CanType × UInt8} (hc : c.Receives frame) (hnode : c.believes ≠ some node)
    (hb : b.Sound deviceName) :
    (c.code cfg deviceName).wp busProtocol (fun _ b' => SameAxis deviceName node b b') b := by
  refine wp_mono (wp_of_abstraction (P := busProtocol)
    (R := fun b' _ => b'.Sound deviceName ∧ SameAxis deviceName node b b') ?_ ⟨hb, .refl node b⟩
    (reporting_code cfg c)) fun _ _ h => h.choose_spec.1.2
  refine fun b' g op hb' hop => ⟨trivial, fun r hr => ?_⟩
  obtain ⟨haccepts, hsound⟩ := hb'.1.after hop hr
  exact ⟨haccepts, hsound, hb'.2.after r hc hnode hb'.1 hop⟩

/-! ## the joints of a device -/

/-- The CAN id the commands to a node travel under. -/
def transmitId : CanType × UInt8 → UInt32
  | (.MT, n) => MtRmd.sendCanId n
  | (.DM, n) => DamiaoCan.kDamiaoSpeedFrameBase + n.toUInt32
  | (_, n) => n.toUInt32

/-- The CAN id the motor of a node sends under. -/
def responseId : CanType × UInt8 → UInt32
  | (.MT, n) => MtRmd.kResponseBaseId + n.toUInt32
  | (.PP, n) => n.toUInt32
  | _ => DamiaoCan.kDamiaoMasterId

/-- The frames the motor of a node sends: standard data frames with the id of its
protocol, and in a DM frame the motor in the low nibble. -/
structure SentBy (node : CanType × UInt8) (frame : Frame) : Prop where
  standard : frame.isExtended = false
  data : frame.isRemoteRequest = false
  id : frame.id = responseId node
  nibble : node.1 = .DM → frame.byte 0 &&& 0x0F = node.2 &&& 0x0F

/-- The joints that share the CAN bus of a device. -/
def onDevice (deviceName : String) (joints : List CanDriverJointConfig) :
    List CanDriverJointConfig :=
  joints.filter fun j => j.canDevice = deviceName ∧ j.protocol ≠ .ECB

/-- A device that serves these nodes: its objects are sound, and manage the nodes of their
protocols. -/
structure Configured (deviceName : String) (nodes : List (CanType × UInt8)) (b : Bus) : Prop
    extends Bus.Sound deviceName b where
  eyouManages : ∀ n, n ∈ b.eyou.managedMotorIds ↔ (.PP, n) ∈ nodes
  dmManages : ∀ n, n ∈ b.dm.managedMotorIds ↔ (.DM, n) ∈ nodes

/-- No two joints of a device are addressed under one CAN id, and whatever state it is in,
a frame the motor of one joint sends changes nothing that is known of another one, by
whichever handler. -/
def Isolated (cfg : DeviceManagerConfig) (deviceName : String)
    (joints : List CanDriverJointConfig) : Prop :=
  ∀ j ∈ onDevice deviceName joints, ∀ k ∈ onDevice deviceName joints, j ≠ k →
    transmitId j.wireNode ≠ transmitId k.wireNode ∧
    ∀ b, Configured deviceName ((onDevice deviceName joints).map fun j => j.wireNode) b →
      ∀ frame, SentBy j.wireNode frame → ∀ c : BusCall, c.Receives frame →
        (c.code cfg deviceName).wp busProtocol
          (fun _ b' => SameAxis deviceName k.wireNode b b') b

/-- Two nodes that are not kept apart, the first one before the second: MT motors with one
node, an MT node `0xC0` above a DM node, PP node 0 and a DM motor whose number fits into
the nibble or ends like a PP read response, and a DM motor whose nibble names another. -/
def Clash : CanType × UInt8 → CanType × UInt8 → Prop
  | (.MT, n), (.MT, m) => n = m
  | (.MT, n), (.DM, m) => n.toNat = m.toNat + 0xC0
  | (.PP, n), (.DM, m) => n = 0 ∧ (m < 0x10 ∨ m &&& 0x0F = EyouCan.kReadResponse)
  | (.DM, n), (.DM, m) => n &&& 0x0F = m
  | _, _ => False

instance (node node' : CanType × UInt8) : Decidable (Clash node node') := by
  unfold Clash
  split
  all_goals infer_instance

/-! ## ids -/

theorem toNat_sendCanId (n : UInt8) : (MtRmd.sendCanId n).toNat = 0x140 + n.toNat := by
  have := n.toNat_lt
  rw [MtRmd.sendCanId, UInt32.toNat_add, UInt8.toNat_toUInt32,
    show (0x140 : UInt32).toNat = 0x140 from rfl]
  omega

theorem toNat_speedFrameId (n : UInt8) :
    (DamiaoCan.kDamiaoSpeedFrameBase + n.toUInt32).toNat = 0x200 + n.toNat := by
  have := n.toNat_lt
  rw [UInt32.toNat_add, UInt8.toNat_toUInt32,
    show DamiaoCan.kDamiaoSpeedFrameBase.toNat = 0x200 from rfl]
  omega

theorem toNat_responseId (n : UInt8) :
    (MtRmd.kResponseBaseId + n.toUInt32).toNat = 0x240 + n.toNat := by
  have := n.toNat_lt
  rw [UInt32.toNat_add, UInt8.toNat_toUInt32, show MtRmd.kResponseBaseId.toNat = 0x240 from rfl]
  omega

/-- Two nodes are addressed under one CAN id only if they are one node or an MT node `0xC0`
above a DM node. -/
theorem clash_of_transmitId_eq {node node' : CanType × UInt8} (hnode : node.1 ≠ .ECB)
    (hnode' : node'.1 ≠ .ECB) (h : transmitId node = transmitId node') :
    node = node' ∨ Clash node node' ∨ Clash node' node := by
  obtain ⟨type, n⟩ := node
  obtain ⟨type', n'⟩ := node'
  have hn := n.toNat_lt
  have hn' := n'.toNat_lt
  have h := congrArg UInt32.toNat h
  cases type <;> cases type' <;>
    simp only [transmitId, toNat_sendCanId, toNat_speedFrameId, UInt8.toNat_toUInt32] at h
  case MT.DM => exact .inr (.inl (show n.toNat = n'.toNat + 0xC0 by omega))
  case DM.MT => exact .inr (.inr (show n'.toNat = n.toNat + 0xC0 by omega))
  case MT.MT | PP.PP | DM.DM => exact .inl (by rw [UInt8.toNat_inj.1 (by omega : n.toNat = n'.toNat)])
  case MT.PP | PP.MT | PP.DM | DM.PP => omega
  all_goals exact absurd rfl (by assumption)

/-- MT and DM nodes that clash are addressed under one id. -/
theorem transmitId_eq_of_clash {n m : UInt8} (h : Clash (.MT, n) (.DM, m)) :
    transmitId (.MT, n) = transmitId (.DM, m) := by
  have h : n.toNat = m.toNat + 0xC0 := h
  refine UInt32.toNat_inj.1 ?_
  rw [transmitId, transmitId, toNat_sendCanId, toNat_speedFrameId]
  omega

/-- Standard ids survive the mask. -/
theorem and_standard_mask {canId : UInt32} (h : canId.toNat < 0x800) : canId &&& 0x7FF = canId := by
  refine UInt32.toNat_inj.1 ?_
  rw [UInt32.toNat_and, show (0x7FF : UInt32).toNat = 2 ^ 11 - 1 from rfl,
    Nat.and_two_pow_sub_one_eq_mod]
  omega

/-- The PP handler takes the id for the node. -/
theorem id_of_eyou_responseNode {frame : Frame} {n : UInt8} (hid : frame.id.toNat < 0x800)
    (h : EyouCan.responseNode frame = some n) : frame.id.toNat = n.toNat := by
  unfold EyouCan.responseNode at h
  rw [and_standard_mask hid] at h
  split at h
  · cases h
  · dsimp only at h
    split at h
    · cases h
    · next hlow =>
      have hlow : frame.id.toNat < 0x100 := UInt32.lt_iff_toNat_lt.1 (UInt32.not_le.1 hlow)
      rw [← Option.some.inj h, UInt32.toNat_toUInt8]
      omega

/-- The MT handler takes what is above the response base for the node. -/
theorem id_of_mt_responseNode {frame : Frame} {n : UInt8} (hid : frame.id.toNat < 0x800)
    (h : MtCan.responseNode frame = some n) : frame.id.toNat = 0x240 + n.toNat := by
  unfold MtCan.responseNode at h
  rw [and_standard_mask hid] at h
  split at h
  · cases h
  · next hresponse =>
    simp only [Bool.or_eq_true, Bool.not_eq_true', decide_eq_true_eq, not_or,
      Bool.not_eq_false, MtRmd.isResponseCanId, Bool.and_eq_true] at hresponse
    obtain ⟨⟨-, hlow, hhigh⟩, -⟩ := hresponse
    have hlow : 0x240 ≤ frame.id.toNat := UInt32.le_iff_toNat_le.1 hlow
    have hbase : MtRmd.kResponseBaseId.toNat ≤ frame.id.toNat := hlow
    have hhigh : frame.id.toNat < 0x340 := UInt32.lt_iff_toNat_lt.1 hhigh
    rw [← Option.some.inj h, MtRmd.responseNodeId, UInt32.toNat_toUInt8,
      UInt32.toNat_sub_of_le _ _ (UInt32.le_iff_toNat_le.2 hbase),
      show MtRmd.kResponseBaseId.toNat = 0x240 from rfl]
    omega

/-- The DM handler takes the low nibble for the node. -/
theorem id_of_dm_responseNode {frame : Frame} {n : UInt8}
    (h : DamiaoCan.responseNode frame = some n) : frame.id = 0 ∧ frame.byte 0 &&& 0x0F = n := by
  unfold DamiaoCan.responseNode at h
  split at h
  · next hid => exact ⟨hid.1, Option.some.inj h⟩
  · cases h

theorem toNat_nibble (b : UInt8) : (b &&& 0x0F).toNat = b.toNat % 16 := by
  rw [UInt8.toNat_and, show (0x0F : UInt8).toNat = 2 ^ 4 - 1 from rfl,
    Nat.and_two_pow_sub_one_eq_mod]

theorem nibble_lt (b : UInt8) : b &&& 0x0F < 0x10 := by
  rw [UInt8.lt_iff_toNat_lt, toNat_nibble]
  exact Nat.mod_lt _ (by decide)

theorem nibble_of_lt {b : UInt8} (h : b < 0x10) : b &&& 0x0F = b :=
  UInt8.toNat_inj.1 ((toNat_nibble b).trans (Nat.mod_eq_of_lt (UInt8.lt_iff_toNat_lt.1 h)))

/-- A handler takes a frame for another motor's only if the two nodes clash. -/
theorem clash_of_believes {node node' : CanType × UInt8} {frame : Frame} {c : BusCall}
    (hnode : node.1 ≠ .ECB) (hsent : SentBy node frame) (hc : c.Receives frame)
    (hbelieves : c.believes = some node') :
    node = node' ∨ Clash node node' ∨ Clash node' node := by
  have hid := congrArg UInt32.toNat hsent.id
  obtain ⟨type, n⟩ := node
  have hn := n.toNat_lt
  have hmt := toNat_responseId n
  have hzero : DamiaoCan.kDamiaoMasterId.toNat = 0 := rfl
  have hstandard : frame.id.toNat < 0x800 := by
    cases type <;> simp only [responseId, UInt8.toNat_toUInt32] at hid <;> omega
  rcases hc with rfl | rfl | rfl
  · by_cases hread : frame.byte 0 = EyouCan.kReadResponse
    · rw [BusCall.believes, if_pos hread] at hbelieves
      obtain ⟨n', hn', rfl⟩ := Option.map_eq_some_iff.1 hbelieves
      have hnode' := id_of_eyou_responseNode hstandard hn'
      have hsmall := n'.toNat_lt
      cases type with
      | MT =>
          simp only [responseId] at hid
          omega
      | PP =>
          simp only [responseId, UInt8.toNat_toUInt32] at hid
          exact .inl (by rw [UInt8.toNat_inj.1 (hid.symm.trans hnode')])
      | DM =>
          refine .inr (.inr ⟨UInt8.toNat_inj.1 (hnode'.symm.trans hid), .inr ?_⟩)
          rw [← hsent.nibble rfl, hread]
          rfl
      | ECB => exact absurd rfl hnode
    · rw [BusCall.believes, if_neg hread] at hbelieves
      cases hbelieves
  · rw [BusCall.believes] at hbelieves
    obtain ⟨n', hn', rfl⟩ := Option.map_eq_some_iff.1 hbelieves
    have hnode' := id_of_mt_responseNode hstandard hn'
    cases type with
    | MT =>
        simp only [responseId] at hid
        exact .inl (by rw [UInt8.toNat_inj.1 (by omega : n.toNat = n'.toNat)])
    | PP | DM | ECB =>
        simp only [responseId, UInt8.toNat_toUInt32] at hid
        omega
  · rw [BusCall.believes] at hbelieves
    obtain ⟨n', hn', rfl⟩ := Option.map_eq_some_iff.1 hbelieves
    obtain ⟨hmaster, hnibble⟩ := id_of_dm_responseNode hn'
    have hmaster : frame.id.toNat = 0 := by
      rw [hmaster]
      rfl
    cases type with
    | MT =>
        simp only [responseId] at hid
        omega
    | PP =>
        simp only [responseId, UInt8.toNat_toUInt32] at hid
        refine .inr (.inl ⟨UInt8.toNat_inj.1 (hid.symm.trans hmaster), .inl ?_⟩)
        rw [← hnibble]
        exact nibble_lt _
    | DM => exact .inr (.inl ((hsent.nibble rfl).symm.trans hnibble))
    | ECB => exact absurd rfl hnode

/-! ## what a clash does -/

/-- A device that serves these nodes and has heard nothing of them yet. -/
def servingBus (deviceName : String) (nodes : List (CanType × UInt8)) : Bus :=
  { Bus.powerOn deviceName {} {} 0 with
    eyou := { deviceName, managedMotorIds := (nodes.filter fun node => node.1 = .PP).map Prod.snd }
    dm := { deviceName, managedMotorIds := (nodes.filter fun node => node.1 = .DM).map Prod.snd } }

theorem configured_servingBus (deviceName : String) (nodes : List (CanType × UInt8)) :
    Configured deviceName nodes (servingBus deviceName nodes) :=
  ⟨⟨⟨routed_new rfl rfl, rfl, rfl⟩, routed_new rfl rfl, routed_new rfl rfl⟩,
    by simp [servingBus], by simp [servingBus]⟩

/-- A frame under the common id, with this first byte. -/
def masterFrame (b : UInt8) : Frame :=
  dataFrame DamiaoCan.kDamiaoMasterId 8 #v[b, 0x07, 0, 0, 0, 0, 0, 0]

/-- The DM handler learns of the motor in the low nibble, whoever sent the frame. -/
theorem learns_dm (cfg : DeviceManagerConfig) (deviceName : String) (b : UInt8)
    {nodes : List (CanType × UInt8)} (hmanaged : (.DM, b &&& 0x0F) ∈ nodes) : ¬ ((BusCall.dmReceive (masterFrame b)).code cfg
      deviceName).wp busProtocol (fun _ b' => SameAxis deviceName (.DM, b &&& 0x0F)
        (servingBus deviceName nodes) b') (servingBus deviceName nodes) := by
  intro h
  have hget : ∀ b : Bus, BusObject.get b = b.dm := fun _ => rfl
  have hset : ∀ (b : Bus) (s : DamiaoCan), BusObject.set b s = { b with dm := s } := fun _ _ => rfl
  have hbyte : (masterFrame b).byte 0 = b := rfl
  have hmanages : (servingBus deviceName nodes).dm.isManagedMotorId (b &&& 0x0F) = true := by
    simpa [DamiaoCan.isManagedMotorId, servingBus] using hmanaged
  have hplain : ¬ (masterFrame b).byte 1 = 0 := (by decide : ¬ (0x07 : UInt8) = 0)
  have hfull : ¬ (8 : UInt8) < 8 := by decide
  have hdlc : (masterFrame b).dlc = 8 := rfl
  simp only [BusCall.code, DamiaoCan.handleResponse, show (masterFrame b).id =
    DamiaoCan.kDamiaoMasterId from rfl, ne_eq, not_true, if_false, hplain, false_and, and_false,
    DamiaoCan.handleFeedback, hdlc, hfull, hbyte, Proto.onBus_bind, wp_bind, Proto.wp_onBus_gets, hget,
    hset, id, hmanages, if_true, Proto.wp_onBus_access, DamiaoCan.syncSharedFeedback,
    Proto.wp_onBus_now, DamiaoCan.publish, Proto.onBus_ite, wp_ite,
    Proto.wp_onBus_modifyShared] at h
  have hchanged : ∀ b', SameAxis deviceName (.DM, b &&& 0x0F) (servingBus deviceName nodes) b' →
      b'.dm ≠ (servingBus deviceName nodes).dm.setMotorState (b &&& 0x0F)
        (DamiaoCan.decodeFeedback (masterFrame b)) := by
    intro b' hsame hdm
    have hseen := congrArg DmMotorState.feedbackSeen (hsame.dm rfl)
    rw [hdm] at hseen
    simp [DamiaoCan.setMotorState, DamiaoCan.motorState, DamiaoCan.decodeFeedback, servingBus]
      at hseen
  have hsame := h 0 le_rfl
  split at hsame
  · exact hchanged _ hsame rfl
  · exact hchanged _ hsame rfl

/-- The PP handler learns of node 0 from a DM frame that looks like a read response. -/
theorem learns_eyou (cfg : DeviceManagerConfig) (deviceName : String)
    {nodes : List (CanType × UInt8)} (hmanaged : (.PP, 0) ∈ nodes) :
    ¬ ((BusCall.eyouReceive (masterFrame EyouCan.kReadResponse)).code cfg deviceName).wp busProtocol
      (fun _ b' => SameAxis deviceName (.PP, 0) (servingBus deviceName nodes) b')
      (servingBus deviceName nodes) := by
  intro h
  have hget : ∀ b : Bus, BusObject.get b = b.eyou := fun _ => rfl
  have hset : ∀ (b : Bus) (s : EyouCan), BusObject.set b s = { b with eyou := s } := fun _ _ => rfl
  have hnode : EyouCan.responseNode (masterFrame EyouCan.kReadResponse) = some 0 := by decide
  have hread : (masterFrame EyouCan.kReadResponse).byte 0 = EyouCan.kReadResponse := by decide
  have hack : ¬ EyouCan.kReadResponse = EyouCan.kWriteAck := by decide
  have hup : (servingBus deviceName nodes).eyou.shuttingDown = false := rfl
  have hmanages : (servingBus deviceName nodes).eyou.isManagedMotorId 0 = true := by
    simpa [EyouCan.isManagedMotorId, servingBus] using .inr hmanaged
  have hpending : ∀ read, ((servingBus deviceName nodes).eyou.setMotorState 0 fun st =>
      st).pendingReadRequests read = none := fun _ => rfl
  simp only [BusCall.code, EyouCan.handleResponse, Proto.onBus_bind, wp_bind, Proto.wp_onBus_gets,
    hpending, hget, id, hup, Bool.false_eq_true, if_false, hnode, hmanages, if_true, hread, hack,
    Proto.wp_onBus_modify, hset, EyouCan.markReadResponseReceived, Proto.wp_onBus_now,
    Proto.wp_onBus_access, EyouCan.syncSharedFeedback, EyouCan.publish, Proto.onBus_ite, wp_ite,
    Proto.wp_onBus_modifyShared] at h
  have hchanged : ∀ b', SameAxis deviceName (.PP, 0) (servingBus deviceName nodes) b' →
      b'.eyou ≠ ((servingBus deviceName nodes).eyou.setMotorState 0 id).setMotorState 0
        (EyouCan.decodeRead (masterFrame EyouCan.kReadResponse)) := by
    intro b' hsame heyou
    have hreceived := congrArg EyouMotorState.positionReceived (hsame.eyou rfl)
    rw [heyou] at hreceived
    simp [EyouCan.setMotorState, EyouCan.motorState, servingBus] at hreceived
    cases hreceived
  have hsame := h 0 le_rfl 0 le_rfl
  split at hsame
  · exact hchanged _ hsame rfl
  · exact hchanged _ hsame rfl

/-! ## accepted lists -/

/-- Accepted joints of one device with one node are MT joints. -/
theorem clash_of_wireNode_eq {j k : CanDriverJointConfig} (hnodes : checkedNode j ≠ checkedNode k)
    (hdevice : j.canDevice = k.canDevice) (hwire : j.wireNode = k.wireNode) :
    Clash j.wireNode k.wireNode := by
  obtain ⟨hmt, -, -⟩ := (wireNode_eq_iff hnodes hdevice).1 hwire
  rw [hwire]
  have hk : k.wireNode = (.MT, k.wireNode.2) := by
    rw [← hwire]
    exact Prod.ext hmt rfl
  rw [hk]
  rfl

/-- Joints that do not clash are isolated. -/
theorem isolated_of_not_clash {cfg : DeviceManagerConfig} {joints : List CanDriverJointConfig}
    (hnodes : ∀ j ∈ joints, ∀ k ∈ joints, j ≠ k → checkedNode j ≠ checkedNode k)
    (h : ∀ j ∈ onDevice deviceName joints, ∀ k ∈ onDevice deviceName joints, j ≠ k →
      ¬ Clash j.wireNode k.wireNode) : Isolated cfg deviceName joints := by
  intro j hj k hk hne
  obtain ⟨hj', hjd⟩ := List.mem_filter.1 hj
  obtain ⟨hk', hkd⟩ := List.mem_filter.1 hk
  simp only [decide_eq_true_eq] at hjd hkd
  have hapart : ¬ (j.wireNode = k.wireNode ∨ Clash j.wireNode k.wireNode ∨
      Clash k.wireNode j.wireNode) := by
    rintro (hwire | hclash | hclash)
    · exact h j hj k hk hne (clash_of_wireNode_eq (hnodes j hj' k hk' hne) (hjd.1.trans hkd.1.symm)
        hwire)
    · exact h j hj k hk hne hclash
    · exact h k hk j hj hne.symm hclash
  refine ⟨fun htransmit => hapart (clash_of_transmitId_eq hjd.2 hkd.2 htransmit), ?_⟩
  intro b hb frame hsent c hc
  exact sameAxis_code cfg hc (fun hbelieves => hapart (clash_of_believes hjd.2 hsent hc hbelieves))
    hb.toSound

/-- Joints that clash are not isolated. -/
theorem not_clash_of_isolated {cfg : DeviceManagerConfig} {joints : List CanDriverJointConfig}
    (h : Isolated cfg deviceName joints) {j k : CanDriverJointConfig}
    (hj : j ∈ onDevice deviceName joints) (hk : k ∈ onDevice deviceName joints) (hne : j ≠ k) :
    ¬ Clash j.wireNode k.wireNode := by
  intro hclash
  obtain ⟨htransmit, hframes⟩ := h j hj k hk hne
  obtain ⟨-, hframes'⟩ := h k hk j hj hne.symm
  have hmem : ∀ i ∈ onDevice deviceName joints,
      i.wireNode ∈ (onDevice deviceName joints).map fun j => j.wireNode :=
    fun i hi => List.mem_map.2 ⟨i, hi, rfl⟩
  have hjm := hmem j hj
  have hkm := hmem k hk
  have hb := configured_servingBus deviceName
    ((onDevice deviceName joints).map fun j => j.wireNode)
  generalize (onDevice deviceName joints).map (fun j => j.wireNode) = nodes at *
  generalize j.wireNode = node at *
  generalize k.wireNode = node' at *
  unfold Clash at hclash
  split at hclash
  case h_1 n m => exact htransmit (by rw [hclash])
  case h_2 n m => exact htransmit (transmitId_eq_of_clash hclash)
  case h_3 n m =>
    obtain ⟨rfl, hlow | hread⟩ := hclash
    · have hm := nibble_of_lt hlow
      have hsent : SentBy (.PP, 0) (masterFrame m) := ⟨rfl, rfl, rfl, by simp⟩
      refine learns_dm cfg deviceName m (by rwa [hm]) ?_
      · rw [hm]
        exact hframes _ hb _ hsent _ (.inr (.inr rfl))
    · have hsent : SentBy (.DM, m) (masterFrame EyouCan.kReadResponse) :=
        ⟨rfl, rfl, rfl, fun _ => hread.symm⟩
      exact learns_eyou cfg deviceName hjm (hframes' _ hb _ hsent _ (.inl rfl))
  case h_4 n m =>
    have hsent : SentBy (.DM, n) (masterFrame n) := ⟨rfl, rfl, rfl, fun _ => rfl⟩
    have hk := hframes _ hb _ hsent _ (.inr (.inr rfl))
    rw [← hclash] at hkm hk
    exact learns_dm cfg deviceName n hkm hk
  case h_5 => exact hclash

/-- **Accepted lists**: the joints of a device are isolated exactly if no two of them clash:
no MT joints with one node, no MT node `0xC0` above a DM node, no PP node 0 with a DM motor
below 16 or one whose number ends in 4, and no DM motor whose number modulo 16 is another's. -/
theorem isolated_iff (cfg : DeviceManagerConfig) {hw hw' : CanDriverHW}
    {param : Option XmlRpcValue} (hempty : hw.joints = [])
    (h : hw.parseAndSetupJoints param = some hw') (deviceName : String) :
    Isolated cfg deviceName hw'.joints ↔
      ∀ j ∈ onDevice deviceName hw'.joints, ∀ k ∈ onDevice deviceName hw'.joints, j ≠ k →
        ¬ Clash j.wireNode k.wireNode := by
  have : Std.Symm fun j k : CanDriverJointConfig => checkedNode j ≠ checkedNode k :=
    ⟨fun _ _ h => h.symm⟩
  obtain ⟨-, hnodes⟩ := distinct_of_parseAndSetupJoints hempty h
  refine ⟨fun hisolated j hj k hk hne => not_clash_of_isolated hisolated hj hk hne, fun hno => ?_⟩
  exact isolated_of_not_clash (fun j hj k hk hne => hnodes.forall hj hk hne) hno

/-! ## a wheel and a gripper -/

/-- An MT wheel and a DM gripper that are addressed under `0x200`. -/
def wheelAndGripper : XmlRpcValue :=
  .array [jointParam "wheel" 0x200 "MT" "can0" "velocity",
    jointParam "gripper" 0x00 "DM" "can0" "velocity"]

/-- The list is accepted, and the two are not kept apart. -/
theorem wheel_and_gripper_clash : ∃ hw,
    CanDriverHW.parseAndSetupJoints {} (some wheelAndGripper) = some hw ∧
      ¬ Isolated {} "can0" hw.joints := by
  have haccepted : (CanDriverHW.parseAndSetupJoints {} (some wheelAndGripper)).any (fun hw =>
      (onDevice "can0" hw.joints).any fun j => (onDevice "can0" hw.joints).any fun k =>
        decide (j.name ≠ k.name) && decide (Clash j.wireNode k.wireNode)) = true := by
    decide +kernel
  obtain ⟨hw, hhw, hclash⟩ := (Option.any_eq_true _ _).1 haccepted
  simp only [List.any_eq_true, Bool.and_eq_true, decide_eq_true_eq] at hclash
  obtain ⟨j, hj, k, hk, hname, hclash⟩ := hclash
  refine ⟨hw, hhw, fun hisolated => ?_⟩
  refine not_clash_of_isolated hisolated hj hk (fun hjk => hname ?_) hclash
  rw [hjk]

/-- One joint of each kind, apart from each other. -/
def mixedJoints : XmlRpcValue :=
  .array [jointParam "wheel" 0x141 "MT" "can0" "velocity",
    jointParam "arm" 0x05 "PP" "can0" "position",
    jointParam "gripper" 0x07 "DM" "can0" "velocity"]

/-- These are isolated. -/
theorem mixed_joints_isolated : ∃ hw,
    CanDriverHW.parseAndSetupJoints {} (some mixedJoints) = some hw ∧
      Isolated {} "can0" hw.joints := by
  have haccepted : (CanDriverHW.parseAndSetupJoints {} (some mixedJoints)).any (fun hw =>
      (onDevice "can0" hw.joints).all fun j => (onDevice "can0" hw.joints).all fun k =>
        decide (j.name = k.name) || !decide (Clash j.wireNode k.wireNode)) = true := by
    decide +kernel
  obtain ⟨hw, hhw, hno⟩ := (Option.any_eq_true _ _).1 haccepted
  simp only [List.all_eq_true, Bool.or_eq_true, Bool.not_eq_true', decide_eq_false_iff_not,
    decide_eq_true_eq] at hno
  refine ⟨hw, hhw, (isolated_iff {} rfl hhw "can0").2 fun j hj k hk hne => ?_⟩
  refine (hno j hj k hk).resolve_left fun hname => hne ?_
  obtain ⟨hnames, -⟩ := distinct_of_parseAndSetupJoints rfl hhw
  have : Std.Symm fun j k : CanDriverJointConfig => j.name ≠ k.name := ⟨fun _ _ h => h.symm⟩
  by_contra hjk
  exact List.Pairwise.forall hnames (List.mem_filter.1 hj).1 (List.mem_filter.1 hk).1 hjk hname

end CanDriver
