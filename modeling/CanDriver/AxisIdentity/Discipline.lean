import CanDriver.BusCall
import Mathlib.Data.Set.Insert

/-!
# CanDriver.AxisIdentity.Discipline

Which axis a node's feedback goes to.

Every protocol keeps a map from nodes to system motor ids, overwritten by whatever
id the last caller used.  The discipline of a call says that it keeps the map
right, that is in agreement with the id the protocol falls back on for a node
without an entry, and that it only writes into the axes of the nodes it is about.
-/

namespace CanDriver

open Interact Prog

/-! ## nodes and ids -/

/-- The configured id is the one the protocols fall back on for its node: the bare node
id, or `0x140` plus the node id for MT. -/
def Canonical (motor : CanType × MotorID) : Prop := motor.2 = systemMotorId (protocolNode motor)

instance : DecidablePred Canonical := fun motor =>
  inferInstanceAs (Decidable (motor.2 = systemMotorId (protocolNode motor)))

/-- The axis of a node. -/
def nodeKey (deviceName : String) (node : CanType × UInt8) : AxisKey :=
  makeAxisKey deviceName node.1 (systemMotorId node)

/-- A node's axis is that of the motor that is this node, and of no other. -/
theorem nodeKey_eq_iff {deviceName : String} {node : CanType × UInt8} {motor : CanType × MotorID}
    (h : Canonical motor) :
    nodeKey deviceName node = makeAxisKey deviceName motor.1 motor.2 ↔ protocolNode motor = node := by
  obtain ⟨type, id⟩ := motor
  constructor
  · intro hkey
    obtain ⟨htype, hid⟩ : node.1 = type ∧ systemMotorId node = id := by
      simpa [nodeKey, makeAxisKey] using hkey
    rw [← htype, ← hid, protocolNode_systemMotorId]
  · rintro rfl
    rw [nodeKey, ← h]
    rfl

/-! ## the discipline -/

/-- The change to the records only concerns the axes of these nodes. -/
def Touches (deviceName : String) (about : Set (CanType × UInt8))
    (f : SharedDriverState → SharedDriverState) : Prop :=
  ∀ s key, (f s).getAxisFeedback key ≠ s.getAxisFeedback key →
    ∃ node ∈ about, key = nodeKey deviceName node

/-- A protocol with a map from nodes to system motor ids. -/
class NodeMap (P : Type) where
  type : CanType
  deviceName : P → String
  ids : P → UInt8 → Option MotorID

instance : NodeMap EyouCan := ⟨.PP, EyouCan.deviceName, EyouCan.systemMotorIdsByNodeId⟩
instance : NodeMap MtCan := ⟨.MT, MtCan.deviceName, MtCan.systemMotorIdsByNodeId⟩
instance : NodeMap DamiaoCan := ⟨.DM, DamiaoCan.deviceName, DamiaoCan.systemMotorIdsByNodeId⟩

/-- The object belongs to the device, and its map is right. -/
structure MapsRight {P : Type} [NodeMap P] (deviceName : String) (s : P) : Prop where
  device : NodeMap.deviceName s = deviceName
  ids : ∀ n id, NodeMap.ids s n = some id → id = systemMotorId (NodeMap.type P, n)

/-- The discipline of a protocol program about these nodes. -/
def aboutPort (P : Type) [NodeMap P] (deviceName : String) (about : Set (CanType × UInt8)) :
    Protocol (portSig P) Unit where
  allow _
    | .proto f => ∀ s, MapsRight deviceName s → MapsRight deviceName (f s)
    | .shared f => Touches deviceName about f
    | .submit _ => True
    | .clock => True
  accepts _
    | .proto _, s => MapsRight deviceName s
    | .shared _, _ => True
    | .submit _, _ => True
    | .clock, _ => True
  next _ _ _ := ()

/-- The MT motors on the schedule have the id that goes with their node. -/
def SchedulesRight (r : DeviceRefreshRuntime) : Prop := ∀ id ∈ r.mtMotorIds, Canonical (.MT, id)

/-- The discipline of a program on the device about these nodes. -/
def aboutBus (deviceName : String) (about : Set (CanType × UInt8)) : Protocol busSig Unit where
  allow _
    | .eyou f => ∀ s : EyouCan, MapsRight deviceName s → MapsRight deviceName (f s)
    | .mt f => ∀ s : MtCan, MapsRight deviceName s → MapsRight deviceName (f s)
    | .dm f => ∀ s : DamiaoCan, MapsRight deviceName s → MapsRight deviceName (f s)
    | .shared f => Touches deviceName about f
    | .refresh f => ∀ r, SchedulesRight r → SchedulesRight (f r)
    | _ => True
  accepts _
    | .eyou _, s => MapsRight deviceName s
    | .mt _, s => MapsRight deviceName s
    | .dm _, s => MapsRight deviceName s
    | .refresh _, r => SchedulesRight r
    | _, _ => True
  next _ _ _ := ()

/-- Everything on the device is right. -/
structure Bus.MapsRight (deviceName : String) (b : Bus) : Prop where
  eyou : CanDriver.MapsRight deviceName b.eyou
  mt : CanDriver.MapsRight deviceName b.mt
  dm : CanDriver.MapsRight deviceName b.dm
  refresh : SchedulesRight b.refresh

/-- **Step**: what the discipline allows keeps everything right. -/
theorem mapsRight_serves {deviceName : String} {about : Set (CanType × UInt8)} {b b' : Bus}
    {op : BusOp} {r : op.Ans} (hb : b.MapsRight deviceName) (hop : b.serves op r b')
    (hallow : (aboutBus deviceName about).allow () op) :
    (aboutBus deviceName about).accepts () op r ∧ b'.MapsRight deviceName := by
  obtain ⟨hr, rfl⟩ := hop
  cases op with
  | eyou f => exact ⟨hr ▸ hb.eyou, hallow _ hb.eyou, hb.mt, hb.dm, hb.refresh⟩
  | mt f => exact ⟨hr ▸ hb.mt, hb.eyou, hallow _ hb.mt, hb.dm, hb.refresh⟩
  | dm f => exact ⟨hr ▸ hb.dm, hb.eyou, hb.mt, hallow _ hb.dm, hb.refresh⟩
  | refresh f => exact ⟨hr ▸ hb.refresh, hb.eyou, hb.mt, hb.dm, hallow _ hb.refresh⟩
  | _ => exact ⟨trivial, hb.eyou, hb.mt, hb.dm, hb.refresh⟩

/-! ### from the port to the device -/

section

variable {deviceName : String} {about : Set (CanType × UInt8)}

/-- What the dispatcher reports about a read leaves the maps alone. -/
theorem completion_about (c : Completion) (sent : Bool) (result : SendResult) (t : Time) :
    (c.run sent result t).Obeys (aboutBus deviceName about) := by
  cases c with
  | eyouRead node subCommand =>
      refine .vis (fun s hs => ?_) fun _ _ => trivial
      unfold EyouCan.onReadDispatchResult
      split
      · exact hs
      · split
        · exact hs
        · exact ⟨hs.device, hs.ids⟩
  | mtRead node command =>
      refine .vis (fun s hs => ?_) fun _ _ => trivial
      unfold MtCan.onReadDispatchResult
      split
      · exact hs
      · split
        · exact hs
        · exact ⟨hs.device, hs.ids⟩

theorem submit_about (r : Request) :
    (DeviceRuntime.submit r).Obeys (aboutBus deviceName about) := by
  refine .vis trivial fun accepted _ => .ite trivial ?_
  unfold DeviceRuntime.completeDropped
  split
  · exact .vis trivial fun t _ => completion_about _ _ _ _
  · trivial

/-- A protocol program that obeys its discipline obeys the one of the device. -/
theorem onBus_about {P : Type} [BusObject P] [NodeMap P]
    (hown : ∀ f : P → P, (∀ s, MapsRight deviceName s → MapsRight deviceName (f s)) →
      (BusObject.own f).wp (aboutBus deviceName about) (fun s _ => MapsRight deviceName s) ())
    {p : Proto P α} (hp : p.Obeys (aboutPort P deviceName about)) :
    p.onBus.Obeys (aboutBus deviceName about) := by
  refine .interp (fun op hop => ?_) hp
  cases op with
  | proto f => exact hown f hop
  | shared f => exact ⟨hop, fun _ _ => trivial⟩
  | submit r => exact submit_about r
  | clock => exact ⟨trivial, fun _ _ => trivial⟩

theorem eyou_about {p : Proto EyouCan α} (hp : p.Obeys (aboutPort EyouCan deviceName about)) :
    p.onBus.Obeys (aboutBus deviceName about) :=
  onBus_about (fun f hf => show (Device.eyou f).wp _ _ _ from ⟨hf, fun _ hs => hs⟩) hp

theorem mt_about {p : Proto MtCan α} (hp : p.Obeys (aboutPort MtCan deviceName about)) :
    p.onBus.Obeys (aboutBus deviceName about) :=
  onBus_about (fun f hf => show (Device.mt f).wp _ _ _ from ⟨hf, fun _ hs => hs⟩) hp

theorem dm_about {p : Proto DamiaoCan α} (hp : p.Obeys (aboutPort DamiaoCan deviceName about)) :
    p.onBus.Obeys (aboutBus deviceName about) :=
  onBus_about (fun f hf => show (Device.dm f).wp _ _ _ from ⟨hf, fun _ hs => hs⟩) hp

/-! ### keys -/

/-- A change to one axis touches only that. -/
theorem touches_of_key {node : CanType × UInt8} {f : SharedDriverState → SharedDriverState}
    (hnode : node ∈ about)
    (hf : ∀ s key, key ≠ nodeKey deviceName node → (f s).getAxisFeedback key = s.getAxisFeedback key) :
    Touches deviceName about f := fun s key hne =>
  ⟨node, hnode, by_contra fun hkey => hne (hf s key hkey)⟩

/-- Registering motors touches their axes. -/
theorem touches_registerAxis {motors : List (CanType × MotorID)}
    (hcanonical : ∀ motor ∈ motors, Canonical motor)
    (habout : ∀ motor ∈ motors, protocolNode motor ∈ about) :
    Touches deviceName about fun s =>
      motors.foldl (fun s motor => s.registerAxis (makeAxisKey deviceName motor.1 motor.2)) s := by
  intro s key hne
  by_contra hno
  have hsame : ∀ s : SharedDriverState, (motors.foldl (fun s motor =>
      s.registerAxis (makeAxisKey deviceName motor.1 motor.2)) s).getAxisFeedback key =
      s.getAxisFeedback key := by
    clear hne
    induction motors with
    | nil => exact fun _ => rfl
    | cons motor motors ih =>
        rw [List.forall_mem_cons] at hcanonical habout
        have hkey : key ≠ makeAxisKey deviceName motor.1 motor.2 := fun he =>
          hno ⟨_, habout.1, he.trans ((nodeKey_eq_iff hcanonical.1).2 rfl).symm⟩
        intro s
        rw [List.foldl_cons, ih hcanonical.2 habout.2]
        simp [hkey]
  exact hne (hsame s)

theorem touches_registerIds {type : CanType} {ids : List MotorID}
    (hcanonical : ∀ id ∈ ids, Canonical (type, id))
    (habout : ∀ id ∈ ids, protocolNode (type, id) ∈ about) :
    Touches deviceName about fun s =>
      ids.foldl (fun s id => s.registerAxis (makeAxisKey deviceName type id)) s := by
  have h : Touches deviceName about fun s => (ids.map fun id => (type, id)).foldl
      (fun s motor => s.registerAxis (makeAxisKey deviceName motor.1 motor.2)) s :=
    touches_registerAxis (by simpa using hcanonical) (by simpa using habout)
  simpa [List.foldl_map] using h

/-- What a right map says about a node, or else the protocol falls back on. -/
theorem MapsRight.getD {P : Type} [NodeMap P] {s : P} (h : MapsRight deviceName s) (n : UInt8) :
    (NodeMap.ids s n).getD (systemMotorId (NodeMap.type P, n)) =
      systemMotorId (NodeMap.type P, n) := by
  cases hn : NodeMap.ids s n with
  | none => rfl
  | some id => exact h.ids n id hn

/-- The axis of a node, as the PP object sees it. -/
theorem EyouCan.axisKey_eq {s : EyouCan} (h : MapsRight deviceName s) (n : UInt8) :
    s.axisKey n = nodeKey deviceName (.PP, n) := by
  have hid : s.resolveSystemMotorId n = systemMotorId (.PP, n) := h.getD n
  rw [axisKey, hid, show s.deviceName = deviceName from h.device]
  rfl

theorem MtCan.axisKey_eq {s : MtCan} (h : MapsRight deviceName s) (n : UInt8) :
    s.axisKey n = nodeKey deviceName (.MT, n) := by
  have hid : s.resolveSystemMotorId n = systemMotorId (.MT, n) := h.getD n
  rw [axisKey, hid, show s.deviceName = deviceName from h.device]
  rfl

theorem DamiaoCan.axisKey_eq {s : DamiaoCan} (h : MapsRight deviceName s) (n : UInt8) :
    s.axisKey n = nodeKey deviceName (.DM, n) := by
  have hid : s.resolveSystemMotorId n = systemMotorId (.DM, n) := h.getD n
  rw [axisKey, hid, show s.deviceName = deviceName from h.device]
  rfl

/-- Remembering the id that goes with a node keeps the map right. -/
theorem MapsRight.put {P : Type} [NodeMap P] {s s' : P} (h : MapsRight deviceName s)
    (hdevice : NodeMap.deviceName s' = NodeMap.deviceName s) {n : UInt8}
    (hids : NodeMap.ids s' = put (NodeMap.ids s) n (systemMotorId (NodeMap.type P, n))) :
    MapsRight deviceName s' := by
  refine ⟨hdevice.trans h.device, fun n' id hn => ?_⟩
  rw [hids] at hn
  by_cases hne : n' = n
  · subst hne
    simpa [eq_comm] using hn
  · exact h.ids n' id (by simpa [put_of_ne _ _ hne] using hn)

theorem EyouCan.mapsRight_remember {s : EyouCan} {id : MotorID} (hid : Canonical (.PP, id))
    (h : MapsRight deviceName s) : MapsRight deviceName (s.remember id) :=
  h.put rfl (congrArg (CanDriver.put _ _) hid)

theorem MtCan.mapsRight_remember {s : MtCan} {id : MotorID} (hid : Canonical (.MT, id))
    (h : MapsRight deviceName s) : MapsRight deviceName (s.remember id) :=
  h.put rfl (congrArg (CanDriver.put _ _) hid)

theorem DamiaoCan.mapsRight_remember {s : DamiaoCan} {id : MotorID} (hid : Canonical (.DM, id))
    (h : MapsRight deviceName s) : MapsRight deviceName (s.remember id) :=
  h.put rfl (congrArg (CanDriver.put _ _) hid)

end

end CanDriver
