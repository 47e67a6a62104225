import CanDriver.AxisIdentity.Calls
import CanDriver.ControlCoalescing

/-!
# CanDriver.AxisIdentity.Run

Feedback reaches the axis of the joint it is about, as long as every configured id is
the one the protocols fall back on for its node.

The refresh worker polls PP and DM motors by their bare node ids and MT motors by
`0x140` plus theirs, and every query overwrites the node's id in the protocol's map.
A motor that is configured otherwise loses its axis to the id the worker uses.
-/

namespace CanDriver

open Interact Prog

/-! ## what a call names and is about -/

/-- The motors a call names. -/
def BusCall.motors : BusCall → List (CanType × MotorID)
  | eyou id _ | eyouConfigurePositionLimits id _ _ _ | eyouSetPositionOffset id _
  | eyouReadPositionOffset id | eyouReadSerialNumber id | eyouPersistParameters id
  | eyouSetMotorDefaultPositionVelocityRaw id _ | eyouSetMotorDefaultCspVelocityRaw id _
  | eyouIssueRefreshQuery id _ => [(.PP, id)]
  | mt id _ | mtSetPositionAcceleration id _ | mtSetPositionDeceleration id _
  | mtIssueRefreshQuery id _ => [(.MT, id)]
  | dm id _ | dmIssueRefreshQuery id _ => [(.DM, id)]
  | eyouInitializeMotorRefresh ids => ids.map fun id => (.PP, id)
  | mtInitializeMotorRefresh ids => ids.map fun id => (.MT, id)
  | dmInitializeMotorRefresh ids => ids.map fun id => (.DM, id)
  | initDevice motors => motors
  | _ => []

/-- The nodes a call may concern: the one that sent a received frame, those of the
motors a call names, any of them when the refresh worker chooses. -/
def BusCall.about : BusCall → Set (CanType × UInt8)
  | eyouReceive frame => { node | node.1 = .PP ∧ EyouCan.responseNode frame = some node.2 }
  | mtReceive frame => {(.MT, MtRmd.responseNodeId (frame.id &&& 0x7FF))}
  | dmReceive frame => {(.DM, frame.byte 0 &&& 0x0F)}
  | refreshTick => Set.univ
  | call => { node | ∃ motor ∈ call.motors, protocolNode motor = node }

section

variable {deviceName : String} {about : Set (CanType × UInt8)}

/-! ## the workers -/

theorem workerStep_about : (DeviceRuntime.workerStep deviceName).Obeys (aboutBus deviceName about) := by
  have hhealth : ∀ result, (DeviceRuntime.noteSharedSendResult deviceName result).Obeys
      (aboutBus deviceName about) := fun result =>
    .ite trivial (.vis trivial fun _ _ => .vis (fun s key hne => absurd (by simp) hne)
      fun _ _ => trivial)
  refine .vis trivial fun next _ => ?_
  cases next with
  | none => trivial
  | some r =>
      refine .vis trivial fun sendTime _ => .vis trivial fun result _ => ?_
      have hend := (hhealth result).bind fun _ =>
        (show (Device.account result).Obeys (aboutBus deviceName about) from
          .vis trivial fun _ _ => trivial)
      cases r.completion with
      | none => exact hend
      | some c => exact (completion_about c true result sendTime).bind fun _ => hend

theorem mem_visitOrder_lt {cursor n index : Nat} (h : index ∈ visitOrder cursor n) : index < n := by
  obtain ⟨offset, hoffset, rfl⟩ := List.mem_map.1 h
  exact Nat.mod_lt _ (Nat.zero_lt_of_lt (List.mem_range.1 hoffset))

/-- Reading the protocol objects and moving the cursors is allowed. -/
theorem noteIssued_about {protocol : CanType} {motorId : MotorID} {sleepFor timeout : BusProg Time}
    {next : Time → DeviceRefreshRuntime → DeviceRefreshRuntime}
    (hsleep : sleepFor.Stays ((aboutBus deviceName about).allow ()))
    (htimeout : timeout.Stays ((aboutBus deviceName about).allow ()))
    (hnext : ∀ t r, (next t r).mtMotorIds = r.mtMotorIds) :
    (noteIssued deviceName protocol motorId sleepFor timeout next).Obeys
      (aboutBus deviceName about) := by
  refine (noteIssued_stays trivial (fun _ _ hne => absurd rfl hne) hsleep htimeout
    (fun t eligible pending r hr => ?_) _ _ _).obeys
  simpa [SchedulesRight, hnext] using hr

theorem issueFirst_about {issue : κ → BusProg Bool}
    (h : ∀ query, (issue query).Obeys (aboutBus deviceName about)) (queries : List κ) :
    (issueFirst issue queries).Obeys (aboutBus deviceName about) := by
  induction queries with
  | nil => trivial
  | cons query queries ih => exact (h query).bind fun issued => .ite trivial ih

theorem tickMtMotors_about (pressure : Bool) (cycle : Nat) {motorIds : List MotorID}
    {visits : List Nat} (hids : ∀ id ∈ motorIds, Canonical (.MT, id))
    (hvisits : ∀ index ∈ visits, index < motorIds.length) :
    (tickMtMotors deviceName pressure cycle motorIds visits).Obeys
      (aboutBus deviceName Set.univ) := by
  induction visits with
  | nil => trivial
  | cons index visits ih =>
      rw [List.forall_mem_cons] at hvisits
      have hid : Canonical (.MT, motorIds.getD index 0) := by
        rw [List.getD_eq_getElem?_getD, List.getElem?_eq_getElem hvisits.1, Option.getD_some]
        exact hids _ (List.getElem_mem hvisits.1)
      refine (issueFirst_about (fun query => mt_about
        (MtCan.issueRefreshQuery_about hid (Set.mem_univ _) query)) _).bind fun issued => ?_
      cases issued with
      | none => exact ih hvisits.2
      | some query =>
          dsimp only
          refine .bind (noteIssued_about ?_ ?_ ?_) fun _ => trivial
          · exact .vis (fun _ h => h) fun _ => trivial
          · exact .vis (fun _ h => h) fun _ => trivial
          · exact fun _ _ => rfl

theorem canonical_motorIdFromProtocolNodeId {type : CanType} (hne : type ≠ .MT) (node : UInt8) :
    Canonical (type, motorIdFromProtocolNodeId node) := by
  simp [Canonical, protocolNode, systemMotorId, hne]

theorem tickPpMotors_about (now : Time) (pressure : Bool) (motorIds : List UInt8)
    (visits : List Nat) : (tickPpMotors deviceName now pressure motorIds visits).Obeys
      (aboutBus deviceName Set.univ) := by
  induction visits with
  | nil => trivial
  | cons index visits ih =>
      refine .vis (fun _ _ hne => absurd rfl hne) fun shared _ => ?_
      refine .vis (fun _ hr => hr) fun r _ => ?_
      refine (issueFirst_about (fun query => eyou_about (EyouCan.issueRefreshQuery_about
        (canonical_motorIdFromProtocolNodeId (by simp) _) (Set.mem_univ _) query)) _).bind
          fun issued => ?_
      cases issued with
      | none => exact ih.bind fun _ => trivial
      | some query =>
          dsimp only
          refine .bind (noteIssued_about ?_ ?_ ?_) fun _ => trivial
          · exact .vis (fun _ h => h) fun _ => trivial
          · exact .vis (fun _ h => h) fun _ => trivial
          · exact fun _ _ => rfl

theorem tickDmMotors_about (now : Time) (motorIds : List UInt8) (visits : List Nat) :
    (tickDmMotors deviceName now motorIds visits).Obeys (aboutBus deviceName Set.univ) := by
  induction visits with
  | nil => trivial
  | cons index visits ih =>
      refine .vis (fun _ hr => hr) fun r _ => ?_
      refine .vis (fun _ _ hne => absurd rfl hne) fun shared _ => ?_
      refine (issueFirst_about (fun query => dm_about (DamiaoCan.issueRefreshQuery_about
        (canonical_motorIdFromProtocolNodeId (by simp) _) (Set.mem_univ _) query)) _).bind
          fun issued => ?_
      cases issued with
      | none => exact ih
      | some query =>
          dsimp only
          refine .bind (noteIssued_about ?_ ?_ ?_) fun _ => trivial
          · exact .vis (fun _ h => h) fun _ => trivial
          · exact .vis (fun _ h => h) fun _ => trivial
          · exact fun _ _ => rfl

theorem tickProtocol_about (now : Time) (pressure : Bool) (selected : Nat) :
    (tickProtocol deviceName now pressure selected).Obeys (aboutBus deviceName Set.univ) := by
  refine .ite ?_ (.ite ?_ ?_)
  · refine .vis (fun _ hr => hr) fun active _ => .ite (.vis (fun r hr => ?_) fun r hr => .ite
      (tickMtMotors_about _ _ hr fun _ => mem_visitOrder_lt) trivial) trivial
    dsimp only
    split <;> exact hr
  · exact .vis (fun _ hr => hr) fun active _ => .ite (.vis (fun _ hr => hr) fun r _ => .ite
      (tickPpMotors_about _ _ _ _) trivial) trivial
  · exact .vis (fun _ hr => hr) fun active _ => .ite (.vis (fun _ hr => hr) fun r _ => .ite
      (tickDmMotors_about _ _ _) trivial) trivial

theorem tickProtocols_about (now : Time) (pressure : Bool) (order : List Nat) :
    (tickProtocols deviceName now pressure order).Obeys (aboutBus deviceName Set.univ) := by
  induction order with
  | nil => trivial
  | cons selected order ih =>
      exact (tickProtocol_about _ _ _).bind fun _ => .ite trivial (ih.bind fun _ => trivial)

theorem beginTick_mtMotorIds (deviceName : String) (now : Time)
    (feedback health : SharedDriverState) (r : DeviceRefreshRuntime) :
    (beginTick deviceName now feedback health r).2.mtMotorIds = r.mtMotorIds := by
  unfold beginTick
  dsimp only
  repeat' split
  all_goals rfl

theorem refreshTick_about : (refreshTick deviceName).Obeys (aboutBus deviceName Set.univ) := by
  refine .vis trivial fun now _ => .vis (fun _ _ hne => absurd rfl hne) fun feedback _ =>
    .vis (fun _ _ hne => absurd rfl hne) fun health _ => .vis (fun r hr => ?_) fun r _ => ?_
  · simpa [SchedulesRight, beginTick_mtMotorIds] using hr
  · dsimp only [Prog.bind]
    cases (beginTick deviceName now feedback health r).1 with
    | none => trivial
    | some pressure =>
        exact (tickProtocols_about _ _ _).bind fun _ => .vis (fun _ hr => hr) fun _ _ => trivial

/-! ## bringing a device up and down -/

theorem touches_health (f : DeviceHealthState → DeviceHealthState) :
    Touches deviceName about fun s => s.mutateDeviceHealth deviceName f :=
  fun _ _ hne => absurd (by simp) hne

theorem shutdownDevice_about : (shutdownDevice deviceName).Obeys (aboutBus deviceName about) :=
  .vis (touches_health _) fun _ _ => .vis (fun _ _ _ h => absurd h (List.not_mem_nil))
    fun _ _ => .vis trivial fun _ _ => .vis trivial fun _ _ => .vis trivial fun _ _ => trivial

theorem bringUpTransport_about : (bringUpTransport deviceName).Obeys (aboutBus deviceName about) := by
  have hinit : initializeTransport.Obeys (aboutBus deviceName about) :=
    .vis trivial fun ok _ => .ite (.vis trivial fun _ _ => trivial) trivial
  refine .vis trivial fun slot _ => .ite ?_ hinit
  refine .vis (fun _ _ _ h => absurd h (List.not_mem_nil)) fun _ _ => .vis trivial fun _ _ =>
    .vis trivial fun _ _ => .vis trivial fun _ _ => hinit.bind fun ok => .ite trivial ?_
  exact shutdownDevice_about.bind fun _ => trivial

/-- A new object has an empty map. -/
theorem mapsRight_new {P : Type} [NodeMap P] {s : P} (hdevice : NodeMap.deviceName s = deviceName)
    (hids : NodeMap.ids s = fun _ => none) : MapsRight deviceName s :=
  ⟨hdevice, fun _ _ h => by simp [hids] at h⟩

theorem ensureObject_about {type : CanType} {ids : List MotorID} {create : BusProg Unit}
    (hcreate : create.Obeys (aboutBus deviceName about)) :
    (ensureObject type ids create).Obeys (aboutBus deviceName about) :=
  .vis trivial fun _ _ => .ite (hcreate.bind fun _ => .vis trivial fun _ _ => trivial) trivial

theorem createMt_about (cfg : DeviceManagerConfig) :
    (createMt cfg deviceName).Obeys (aboutBus deviceName about) :=
  .vis (fun _ _ => mapsRight_new rfl rfl) fun _ _ => .bind trivial fun _ =>
    .bind (mt_about (MtCan.modify_about (fun _ => rfl) fun _ => rfl)) fun _ =>
      mt_about (MtCan.modify_about (fun _ => rfl) fun _ => rfl)

theorem setDefault_about (v : Int32) {f : EyouCan → EyouCan}
    (hname : ∀ s, (f s).deviceName = s.deviceName)
    (hids : ∀ s, (f s).systemMotorIdsByNodeId = s.systemMotorIdsByNodeId) :
    (if v ≤ 0 then pure () else Proto.modify f).Obeys (aboutPort EyouCan deviceName about) :=
  .ite trivial (EyouCan.modify_about hname hids)

theorem createPp_about (cfg : DeviceManagerConfig) :
    (createPp cfg deviceName).Obeys (aboutBus deviceName about) :=
  .vis (fun _ _ => mapsRight_new rfl rfl) fun _ _ => .bind trivial fun _ =>
    .bind (eyou_about (EyouCan.modify_about (fun _ => rfl) fun _ => rfl)) fun _ =>
      .bind (eyou_about (EyouCan.modify_about (fun _ => rfl) fun _ => rfl)) fun _ =>
        .bind (eyou_about (setDefault_about _ (fun _ => rfl) fun _ => rfl)) fun _ =>
          eyou_about (setDefault_about _ (fun _ => rfl) fun _ => rfl)

theorem createDm_about (cfg : DeviceManagerConfig) :
    (createDm cfg deviceName).Obeys (aboutBus deviceName about) :=
  .vis (fun _ _ => mapsRight_new rfl rfl) fun _ _ =>
    dm_about (DamiaoCan.modify_about (fun _ => rfl) fun _ => rfl)

theorem startPolling_about {ids : List MotorID} {load : BusProg Unit}
    {schedule : List MotorID → DeviceRefreshRuntime → DeviceRefreshRuntime}
    (hload : load.Obeys (aboutBus deviceName about))
    (hschedule : ∀ r, SchedulesRight r → SchedulesRight (schedule ids r)) :
    (startPolling ids load schedule).Obeys (aboutBus deviceName about) :=
  .ite (.vis hschedule fun _ _ => trivial) (hload.bind fun _ => .vis hschedule fun _ _ => trivial)

theorem forall_mem_idsOf {p : CanType × MotorID → Prop} {motors : List (CanType × MotorID)}
    (h : ∀ motor ∈ motors, p motor) (type : CanType) : ∀ id ∈ idsOf type motors, p (type, id) := by
  intro id hid
  obtain ⟨motor, hmotor, rfl⟩ := List.mem_map.1 hid
  obtain ⟨hmem, htype⟩ := List.mem_filter.1 hmotor
  obtain rfl : motor.1 = type := of_decide_eq_true htype
  exact h motor hmem

theorem initDevice_about (cfg : DeviceManagerConfig) {motors : List (CanType × MotorID)}
    (hcanonical : ∀ motor ∈ motors, Canonical motor)
    (habout : ∀ motor ∈ motors, protocolNode motor ∈ about) :
    (initDevice cfg deviceName motors).Obeys (aboutBus deviceName about) := by
  have hmt : ∀ r, SchedulesRight r → SchedulesRight (scheduleMt (idsOf .MT motors) r) := by
    intro r _ id hid
    obtain ⟨id', _, rfl⟩ := List.mem_map.1 hid
    simp [Canonical, protocolNode, systemMotorId]
  refine bringUpTransport_about.bind fun ok => .ite ?_ trivial
  refine .vis trivial fun _ _ => .vis (touches_registerAxis hcanonical habout) fun _ _ => ?_
  refine .vis (touches_health _) fun _ _ => ?_
  refine (ensureObject_about (createMt_about cfg)).bind fun _ => ?_
  refine (ensureObject_about (createPp_about cfg)).bind fun _ => ?_
  refine (ensureObject_about (createDm_about cfg)).bind fun _ => ?_
  refine .vis (fun _ hr => hr) fun _ _ => ?_
  refine (startPolling_about (mt_about (MtCan.initializeMotorRefresh_about
    (forall_mem_idsOf hcanonical _) (forall_mem_idsOf habout _))) hmt).bind fun _ => ?_
  refine (startPolling_about (eyou_about (EyouCan.initializeMotorRefresh_about
    (forall_mem_idsOf hcanonical _) (forall_mem_idsOf habout _))) fun _ hr => hr).bind fun _ => ?_
  exact (startPolling_about (dm_about (DamiaoCan.initializeMotorRefresh_about
    (forall_mem_idsOf hcanonical _) (forall_mem_idsOf habout _))) fun _ hr => hr).bind fun _ =>
      trivial

end

/-! ## every call -/

/-- **Calls**: a call that names only motors whose ids go with their nodes is about the
nodes of these motors. -/
theorem code_about (cfg : DeviceManagerConfig) (deviceName : String) (c : BusCall)
    (hc : ∀ motor ∈ c.motors, Canonical motor) :
    (c.code cfg deviceName).Obeys (aboutBus deviceName c.about) := by
  have hmem : ∀ {motor : CanType × MotorID} {motors : List (CanType × MotorID)}, motor ∈ motors →
      protocolNode motor ∈ { node | ∃ motor ∈ motors, protocolNode motor = node } :=
    fun h => ⟨_, h, rfl⟩
  have hids : ∀ {type : CanType} {ids : List MotorID},
      (∀ motor ∈ ids.map fun id => (type, id), Canonical motor) →
        ∀ id ∈ ids, Canonical (type, id) := fun h id hid => h _ (List.mem_map_of_mem hid)
  have hone : ∀ {motor : CanType × MotorID}, motor ∈ [motor] := List.mem_singleton_self _
  cases c with
  | eyou id call =>
      exact eyou_about (EyouCan.motorCall_about (hc _ hone) (hmem hone) call)
  | mt id call => exact mt_about (MtCan.motorCall_about (hc _ hone) (hmem hone) call)
  | dm id call => exact dm_about (DamiaoCan.motorCall_about (hc _ hone) (hmem hone) call)
  | eyouConfigurePositionLimits id minRaw maxRaw enable =>
      exact eyou_about
        (EyouCan.configurePositionLimits_about (hc _ hone) (hmem hone) minRaw maxRaw enable).discard
  | eyouSetPositionOffset id offsetRaw =>
      exact eyou_about (EyouCan.setPositionOffset_about (hc _ hone) (hmem hone) offsetRaw).discard
  | eyouReadPositionOffset id =>
      exact eyou_about (EyouCan.blockingRead_about (hc _ hone) (hmem hone) _ _ _).discard
  | eyouReadSerialNumber id =>
      exact eyou_about (EyouCan.blockingRead_about (hc _ hone) (hmem hone) _ _ _).discard
  | eyouPersistParameters id =>
      exact eyou_about (EyouCan.persistParameters_about (hc _ hone) (hmem hone)).discard
  | eyouSetFastWriteEnabled enabled =>
      exact eyou_about (EyouCan.modify_about (fun _ => rfl) fun _ => rfl)
  | eyouSetDefaultPositionVelocityRaw v =>
      exact eyou_about (setDefault_about _ (fun _ => rfl) fun _ => rfl)
  | eyouSetDefaultCspVelocityRaw v =>
      exact eyou_about (setDefault_about _ (fun _ => rfl) fun _ => rfl)
  | eyouSetMotorDefaultPositionVelocityRaw id v =>
      exact eyou_about (EyouCan.preset_about (hc _ hone) (hmem hone) v (fun _ => rfl) fun _ => rfl)
  | eyouSetMotorDefaultCspVelocityRaw id v =>
      exact eyou_about (EyouCan.preset_about (hc _ hone) (hmem hone) v (fun _ => rfl) fun _ => rfl)
  | mtSetCommunicationTimeout timeoutMs =>
      exact mt_about (MtCan.setCommunicationTimeout_about timeoutMs).discard
  | mtSetPositionAcceleration id a =>
      exact mt_about (MtCan.setPlanned_about (hc _ hone) _ a).discard
  | mtSetPositionDeceleration id d =>
      exact mt_about (MtCan.setPlanned_about (hc _ hone) _ d).discard
  | eyouInitializeMotorRefresh ids =>
      exact eyou_about (EyouCan.initializeMotorRefresh_about (hids hc) fun id hid =>
        hmem (List.mem_map_of_mem hid))
  | mtInitializeMotorRefresh ids =>
      exact mt_about (MtCan.initializeMotorRefresh_about (hids hc) fun id hid =>
        hmem (List.mem_map_of_mem hid))
  | dmInitializeMotorRefresh ids =>
      exact dm_about (DamiaoCan.initializeMotorRefresh_about (hids hc) fun id hid =>
        hmem (List.mem_map_of_mem hid))
  | eyouIssueRefreshQuery id query =>
      exact eyou_about (EyouCan.issueRefreshQuery_about (hc _ hone) (hmem hone) query).discard
  | mtIssueRefreshQuery id query =>
      exact mt_about (MtCan.issueRefreshQuery_about (hc _ hone) (hmem hone) query).discard
  | dmIssueRefreshQuery id query =>
      exact dm_about (DamiaoCan.issueRefreshQuery_about (hc _ hone) (hmem hone) query).discard
  | eyouReceive frame =>
      exact eyou_about (EyouCan.handleResponse_about fun n hn => ⟨rfl, hn⟩)
  | mtReceive frame => exact mt_about (MtCan.handleResponse_about rfl)
  | dmReceive frame => exact dm_about (DamiaoCan.handleResponse_about rfl)
  | work => exact workerStep_about
  | refreshTick => exact refreshTick_about.discard
  | initDevice motors =>
      exact (initDevice_about cfg hc fun motor hmotor => hmem hmotor).discard
  | shutdownDevice => exact shutdownDevice_about

/-! ## runs -/

section

variable {ι : Type} [DecidableEq ι] {motors : List (CanType × MotorID)}

/-- A call names configured motors only. -/
def NamesConfigured (motors : List (CanType × MotorID)) (_ : BusPool ι) (e : BusEvent ι) : Prop :=
  ∀ i c, e = .call i c → ∀ motor ∈ c.motors, motor ∈ motors

/-- What happens to the feedback at `key` goes to the configured motor that is the node,
and to no other. -/
def Owned (motors : List (CanType × MotorID)) (deviceName : String) (key : AxisKey)
    (node : CanType × UInt8) : Prop :=
  ∀ motor ∈ motors, key = makeAxisKey deviceName motor.1 motor.2 ↔ protocolNode motor = node

/-- **Run**: if every configured id is the one the protocols fall back on for its node,
then on a device whose callers name configured motors every feedback that changes is that
of the motor which is the node the change is about. -/
theorem feedback_owned (cfg : DeviceManagerConfig) (deviceName : String)
    (shared : SharedDriverState) (options : RuntimeOptions) (time : Time)
    (hmotors : ∀ motor ∈ motors, Canonical motor) {p p' : BusPool ι} {i : ι} {op : BusOp}
    {t : Thread busSig BusCall Unit} {key : AxisKey}
    (hr : Reach (BusStep cfg deviceName) (NamesConfigured motors)
      (Pool.idle (Bus.powerOn deviceName shared options time)) p)
    (hs : BusStep cfg deviceName p (.act i op) p') (ht : p.thread i = some t)
    (hkey : p'.shared.shared.getAxisFeedback key ≠ p.shared.shared.getAxisFeedback key) :
    ∃ node ∈ t.call.about, Owned motors deviceName key node := by
  have hdisciplined : Pool.Disciplined (fun c : BusCall => aboutBus deviceName c.about)
      (Bus.MapsRight deviceName) p := by
    refine hr.invariant (Pool.Disciplined.idle ?_) fun p e p' hp hnames hs => ?_
    · exact ⟨mapsRight_new rfl rfl, mapsRight_new rfl rfl, mapsRight_new rfl rfl,
        fun _ h => absurd h List.not_mem_nil⟩
    · exact hp.step (fun b _ c op r b' hb hserve hallow => mapsRight_serves hb hserve hallow)
        (fun i c he => code_about cfg deviceName c fun motor hm => hmotors _ (hnames i c he _ hm)) hs
  obtain ⟨hallow, r, _, hafter⟩ := hdisciplined.allow ht hs
  rw [hafter] at hkey
  cases op with
  | shared f =>
      obtain ⟨node, hnode, rfl⟩ := hallow _ key hkey
      exact ⟨node, hnode, fun motor hm => nodeKey_eq_iff (hmotors motor hm)⟩
  | _ => exact absurd rfl hkey

end

/-! ## a motor configured by another id -/

/-- A device on which nothing has happened yet. -/
def identityBus : BusPool Nat := Pool.idle (Bus.powerOn "can0" {} {} 0)

/-- A position read response of PP motor 5. -/
def positionOfFive : Frame := dataFrame 5 6 #v[0x04, 0x07, 0, 0, 0, 9, 0, 0]

/-- Bring the device up with one PP motor, poll it once, and let it answer. -/
def pollAndAnswer (id : MotorID) : List (Pool.Move Nat BusCall) :=
  Pool.callFor 0 (.initDevice [(.PP, id)]) 24 ++ Pool.callFor 0 .refreshTick 25 ++
    Pool.callFor 0 (.eyouReceive positionOfFive) 7

/-- The thread that handles the answer changes the record of this axis. -/
def answersAxis (key : AxisKey) (p : BusPool Nat) (e : BusEvent Nat) (p' : BusPool Nat) : Bool :=
  match e, p.thread 0 with
  | .act _ _, some t =>
      decide (t.call = .eyouReceive positionOfFive ∧
        p'.shared.shared.getAxisFeedback key ≠ p.shared.shared.getAxisFeedback key)
  | _, _ => false

/-- A run in which the motor is polled and its answer changes the record of this axis. -/
theorem run_of_pollAndAnswer {id : MotorID} {key : AxisKey}
    (h : (Pool.replay (BusCall.code {} "can0") (fun b _ => b.serve) identityBus (pollAndAnswer id)
      (.go 0)).any (fun x => answersAxis key x.1 x.2.1 x.2.2) = true) :
    ∃ p p' op t, Reach (BusStep {} "can0") (NamesConfigured [(.PP, id)]) identityBus p ∧
      BusStep {} "can0" p (.act 0 op) p' ∧ p.thread 0 = some t ∧
      t.call = .eyouReceive positionOfFive ∧
      p'.shared.shared.getAxisFeedback key ≠ p.shared.shared.getAxisFeedback key := by
  have hnames : ∀ m ∈ pollAndAnswer id, ∀ p e p',
      Pool.move (BusCall.code {} "can0") (fun b _ => b.serve) p m = some (e, p') →
        NamesConfigured [(.PP, id)] p e := by
    rintro m hm p e p' hmove i c rfl motor hmotor
    rw [Pool.call_of_move hmove] at hm
    simp only [pollAndAnswer, Pool.callFor, List.mem_append, List.mem_cons, List.mem_replicate,
      Pool.Move.call.injEq, reduceCtorEq, and_false, or_false] at hm
    obtain (⟨_, rfl⟩ | ⟨_, rfl⟩) | ⟨_, rfl⟩ := hm
    · exact hmotor
    · cases hmotor
    · cases hmotor
  obtain ⟨p, e, p', hr, hs, hmove, htest⟩ :=
    Pool.run_of_replay (h := fun b _ => b.serves) (fun _ _ _ _ _ => serves_of_serve) hnames h
  unfold answersAxis at htest
  split at htest
  · next i op t ht =>
    obtain rfl : i = 0 := Pool.actor_of_move hmove
    obtain ⟨hcall, hkey⟩ := of_decide_eq_true htest
    exact ⟨p, p', op, t, hr, hs, ht, hcall, hkey⟩
  · cases htest

/-- The answer of motor 5 goes to the axis of motor id 5, though the motor that is node 5
is configured as `0x105`. -/
theorem feedback_misplaced :
    ∃ p p' op t, Reach (BusStep {} "can0") (NamesConfigured [(.PP, 0x105)]) identityBus p ∧
      BusStep {} "can0" p (.act 0 op) p' ∧ p.thread 0 = some t ∧
      t.call = .eyouReceive positionOfFive ∧
      p'.shared.shared.getAxisFeedback (makeAxisKey "can0" .PP 5) ≠
        p.shared.shared.getAxisFeedback (makeAxisKey "can0" .PP 5) ∧
      ¬ ∃ node ∈ t.call.about, Owned [(.PP, 0x105)] "can0" (makeAxisKey "can0" .PP 5) node := by
  have hrun : (Pool.replay (BusCall.code {} "can0") (fun b _ => b.serve) identityBus
      (pollAndAnswer 0x105) (.go 0)).any
        (fun x => answersAxis (makeAxisKey "can0" .PP 5) x.1 x.2.1 x.2.2) = true := by
    decide +kernel
  obtain ⟨p, p', op, t, hr, hs, ht, hcall, hkey⟩ := run_of_pollAndAnswer hrun
  refine ⟨p, p', op, t, hr, hs, ht, hcall, hkey, ?_⟩
  rintro ⟨node, hnode, howned⟩
  rw [hcall] at hnode
  obtain ⟨htype, hn⟩ : node.1 = .PP ∧ EyouCan.responseNode positionOfFive = some node.2 := hnode
  have hfive : node.2 = 5 := Option.some.inj (hn.symm.trans (by decide +kernel))
  have hnode : protocolNode (CanType.PP, 0x105) = node := by
    rw [show node = (.PP, 5) from Prod.ext htype hfive]
    decide +kernel
  have hkey := (howned _ (List.mem_singleton_self _)).2 hnode
  exact absurd hkey (by decide +kernel)

/-- The answer of a motor that is configured as 5 goes to its axis. -/
theorem feedback_of_five_owned :
    ∃ p p' op t, BusStep {} "can0" p (.act (0 : Nat) op) p' ∧ p.thread 0 = some t ∧
      t.call = .eyouReceive positionOfFive ∧
      p'.shared.shared.getAxisFeedback (makeAxisKey "can0" .PP 5) ≠
        p.shared.shared.getAxisFeedback (makeAxisKey "can0" .PP 5) ∧
      ∃ node ∈ t.call.about, Owned [(.PP, 5)] "can0" (makeAxisKey "can0" .PP 5) node := by
  have hrun : (Pool.replay (BusCall.code {} "can0") (fun b _ => b.serve) identityBus
      (pollAndAnswer 5) (.go 0)).any
        (fun x => answersAxis (makeAxisKey "can0" .PP 5) x.1 x.2.1 x.2.2) = true := by
    decide +kernel
  obtain ⟨p, p', op, t, hr, hs, ht, hcall, hkey⟩ := run_of_pollAndAnswer hrun
  have hmotors : ∀ motor ∈ [(CanType.PP, (5 : MotorID))], Canonical motor := by
    rintro motor hmotor
    obtain rfl := List.mem_singleton.1 hmotor
    decide +kernel
  exact ⟨p, p', op, t, hs, ht, hcall, hkey,
    feedback_owned {} "can0" {} {} 0 hmotors hr hs ht hkey⟩

end CanDriver
