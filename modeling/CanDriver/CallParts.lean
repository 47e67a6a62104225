import CanDriver.BusCall
import CanDriver.Feedback.Discipline

/-!
# CanDriver.CallParts

What the calls of a device are made of.

Three things take care: reading a register, whose answer is tracked; taking such a read for
answered, or forgetting all of them; and the keepalive, which repeats a command.  Everything
else is plain: it leaves the tracking alone, submits no query, and makes no record look worse.
The dispatcher's worker is a part by itself.  `CallParts.code` puts every call together from
these parts, so a discipline only has to look at the parts.
-/

namespace CanDriver

open Interact Prog

/-! ## plain operations -/

/-- A change to the records that counts no timeout and degrades no axis. -/
def Benign (f : SharedDriverState → SharedDriverState) : Prop :=
  ∀ s key, ((f s).record key).consecutiveTimeoutCount ≤ (s.record key).consecutiveTimeoutCount ∧
    (((f s).record key).degraded = true → (s.record key).degraded = true)

theorem benign_id : Benign id := fun _ _ => ⟨Nat.le_refl _, fun h => h⟩

theorem Benign.comp {f g : SharedDriverState → SharedDriverState} (hf : Benign f) (hg : Benign g) :
    Benign fun s => g (f s) :=
  fun s key => ⟨((hg (f s) key).1).trans (hf s key).1, fun h => (hf s key).2 ((hg (f s) key).2 h)⟩

@[simp] theorem benign_touchAxis (k : AxisKey) : Benign fun s => s.touchAxis k := by
  intro s key
  by_cases h : key = k
  · subst h
    rw [SharedDriverState.record, SharedDriverState.record,
      SharedDriverState.getAxisFeedback_touchAxis_self]
    exact ⟨Nat.le_refl _, fun h => h⟩
  · rw [SharedDriverState.record, SharedDriverState.record,
      SharedDriverState.getAxisFeedback_touchAxis_of_ne h]
    exact ⟨Nat.le_refl _, fun h => h⟩

@[simp] theorem benign_registerAxis (k : AxisKey) : Benign fun s => s.registerAxis k :=
  benign_touchAxis k

@[simp] theorem benign_mutateAxisCommand (k : AxisKey) (fn : AxisCommandState → AxisCommandState) :
    Benign fun s => s.mutateAxisCommand k fn := benign_touchAxis k

@[simp] theorem benign_setAxisIntent (k : AxisKey) (intent : AxisIntent) :
    Benign fun s => s.setAxisIntent k intent := benign_touchAxis k

@[simp] theorem benign_mutateDeviceHealth (device : String)
    (fn : DeviceHealthState → DeviceHealthState) : Benign fun s => s.mutateDeviceHealth device fn :=
  benign_id

/-- Publishing an answer clears the count. -/
@[simp] theorem benign_mutateAxisFeedback (k : AxisKey) {fn : AxisFeedbackState → AxisFeedbackState}
    (h : ∀ r, (fn r).consecutiveTimeoutCount = 0) : Benign fun s => s.mutateAxisFeedback k fn := by
  intro s key
  by_cases hk : key = k
  · subst hk
    have hrecord : (s.mutateAxisFeedback key fn).record key =
        SharedDriverState.recomputeAxisObserved (fn (s.feedbackOr key)) := by
      rw [SharedDriverState.record, SharedDriverState.getAxisFeedback_mutateAxisFeedback_self]
      rfl
    rw [hrecord]
    simp [SharedDriverState.recomputeAxisObserved, h, kDefaultFeedbackDegradedTimeoutThreshold]
  · rw [SharedDriverState.record, SharedDriverState.record,
      SharedDriverState.getAxisFeedback_mutateAxisFeedback_of_ne hk]
    exact ⟨Nat.le_refl _, fun h => h⟩

theorem benign_registerAll (keys : List AxisKey) :
    Benign fun s => keys.foldl (fun s k => s.registerAxis k) s := by
  induction keys with
  | nil => exact benign_id
  | cons k keys ih => exact (benign_registerAxis k).comp ih

@[simp] theorem benign_registerIds (deviceName : String) (type : CanType) (ids : List MotorID) :
    Benign fun s => ids.foldl (fun s m => s.registerAxis (makeAxisKey deviceName type m)) s := by
  have h := benign_registerAll (ids.map fun m => makeAxisKey deviceName type m)
  simpa only [List.foldl_map] using h

theorem benign_registerMotors (deviceName : String) (motors : List (CanType × MotorID)) :
    Benign fun s => motors.foldl (fun s m => s.registerAxis (makeAxisKey deviceName m.1 m.2)) s := by
  have h := benign_registerAll (motors.map fun m => makeAxisKey deviceName m.1 m.2)
  simpa only [List.foldl_map] using h

/-- A protocol that tracks reads. -/
class ReadTracking (P : Type) where
  Entry : Type
  reads : P → UInt8 × UInt8 → Option Entry

instance : ReadTracking EyouCan := ⟨EyouPendingRead, EyouCan.pendingReadRequests⟩
instance : ReadTracking MtCan := ⟨MtPendingRead, MtCan.pendingReadRequests⟩
instance : ReadTracking DamiaoCan := ⟨Empty, fun _ _ => none⟩

/-- A request that neither asks for a tracked read nor keeps a motor alive. -/
def Request.Plain (r : Request) : Prop := r.completion = none ∧ r.source ≠ .dmIssueRefreshQuery

/-- A plain operation of a protocol. -/
def PortOp.Plain {P : Type} [ReadTracking P] : PortOp P → Prop
  | .proto f => ∀ s, ReadTracking.reads (f s) = ReadTracking.reads s
  | .shared f => Benign f
  | .submit r => r.Plain
  | .clock => True

theorem plain_modifyShared {P : Type} [ReadTracking P]
    {f : SharedDriverState → SharedDriverState} (h : Benign f) :
    (Proto.modifyShared f : Proto P Unit).Stays PortOp.Plain :=
  ⟨h, fun _ _ => trivial⟩

/-- A plain operation on the device. -/
def BusOp.Plain : BusOp → Prop
  | .eyou f => ∀ s, (f s).pendingReadRequests = s.pendingReadRequests
  | .mt f => ∀ s, (f s).pendingReadRequests = s.pendingReadRequests
  | .shared f => Benign f
  | .enqueue r => r.Plain
  | .pop | .transmit _ | .account _ => False
  | _ => True

/-- An operation that no tracked read has to do with. -/
def BusOp.Untracked (op : BusOp) : Prop := op.Plain ∨ ∃ q, op = .enqueue q ∧ q.completion = none

theorem submit_plain {r : Request} (h : r.Plain) : (DeviceRuntime.submit r).Stays BusOp.Plain := by
  refine DeviceRuntime.submit_stays h trivial fun c hc => ?_
  rw [h.1] at hc
  exact absurd hc (by simp)

theorem eyou_plain {p : Proto EyouCan α} (hp : p.Stays PortOp.Plain) :
    p.onBus.Stays BusOp.Plain := by
  refine wp_only_interp (fun op hop => ?_) hp
  cases op with
  | proto f => exact ⟨hop, fun _ _ => trivial⟩
  | shared f => exact ⟨hop, fun _ _ => trivial⟩
  | submit r => exact submit_plain hop
  | clock => exact ⟨trivial, fun _ _ => trivial⟩

theorem mt_plain {p : Proto MtCan α} (hp : p.Stays PortOp.Plain) : p.onBus.Stays BusOp.Plain := by
  refine wp_only_interp (fun op hop => ?_) hp
  cases op with
  | proto f => exact ⟨hop, fun _ _ => trivial⟩
  | shared f => exact ⟨hop, fun _ _ => trivial⟩
  | submit r => exact submit_plain hop
  | clock => exact ⟨trivial, fun _ _ => trivial⟩

theorem dm_plain {p : Proto DamiaoCan α} (hp : p.Stays PortOp.Plain) :
    p.onBus.Stays BusOp.Plain := by
  refine wp_only_interp (fun op hop => ?_) hp
  cases op with
  | proto f => exact ⟨trivial, fun _ _ => trivial⟩
  | shared f => exact ⟨hop, fun _ _ => trivial⟩
  | submit r => exact submit_plain hop
  | clock => exact ⟨trivial, fun _ _ => trivial⟩

/-! ## PP -/

namespace EyouCan

open Proto

variable {motorId : MotorID} {node : UInt8}

theorem plain_modify {f : EyouCan → EyouCan}
    (h : ∀ s, (f s).pendingReadRequests = s.pendingReadRequests) :
    (Proto.modify f).Stays PortOp.Plain :=
  ⟨h, fun _ _ => trivial⟩

theorem plain_access {f : EyouCan → α × EyouCan}
    (h : ∀ s, (f s).2.pendingReadRequests = s.pendingReadRequests) :
    (access f).Stays PortOp.Plain :=
  ⟨h, fun _ _ => trivial⟩

theorem plain_gets (f : EyouCan → α) : (gets f).Stays PortOp.Plain :=
  ⟨fun _ => rfl, fun _ _ => trivial⟩

theorem plain_now : (now : Proto EyouCan Time).Stays PortOp.Plain := ⟨trivial, fun _ _ => trivial⟩

theorem plain_setMotorState (f : EyouMotorState → EyouMotorState) :
    (Proto.modify fun s : EyouCan => s.setMotorState node f).Stays PortOp.Plain :=
  plain_modify fun _ => rfl

theorem plain_publish {f : AxisKey → SharedDriverState → SharedDriverState}
    (h : ∀ key, Benign (f key)) : (publish node f).Stays PortOp.Plain :=
  (plain_gets _).bind fun _ => .ite (plain_modifyShared (h _)) trivial

theorem plain_syncSharedFeedback (st : EyouMotorState) :
    (syncSharedFeedback node st).Stays PortOp.Plain :=
  plain_now.bind fun _ => plain_publish fun _ => benign_mutateAxisFeedback _ fun _ => rfl

theorem plain_syncSharedCommand (targetPosition targetVelocity : Int32) (desiredMode : MotorMode)
    (valid : Bool) : (syncSharedCommand node targetPosition targetVelocity desiredMode
      valid).Stays PortOp.Plain :=
  plain_now.bind fun _ => plain_publish fun _ => benign_mutateAxisCommand _ _

theorem plain_registerManagedMotorId : (registerManagedMotorId motorId).Stays PortOp.Plain :=
  (plain_modify fun _ => rfl).bind fun _ => (plain_gets _).bind fun _ =>
    .ite (plain_modifyShared (benign_registerAxis _)) trivial

theorem plain_submitTx (frame : Frame) (category : Category) {source : TxSource}
    (h : source ≠ .dmIssueRefreshQuery) : (submitTx frame category source).Stays PortOp.Plain :=
  (plain_gets _).bind fun _ => .ite ⟨⟨rfl, h⟩, fun _ _ => trivial⟩ trivial

theorem plain_sendWriteCommand (subCommand : UInt8) (value : UInt32) (payloadBytes : Nat)
    (commandType : UInt8) : (sendWriteCommand node subCommand value payloadBytes
      commandType).Stays PortOp.Plain := by
  have hcount : ∀ s : EyouCan, (if commandType = kFastWriteCommand then
      { s with fastWriteSentCount := s.fastWriteSentCount + 1 }
    else if commandType = kWriteCommand then
      { s with normalWriteSentCount := s.normalWriteSentCount + 1 }
    else s).pendingReadRequests = s.pendingReadRequests := by
    intro s
    split
    · rfl
    · split <;> rfl
  exact (plain_gets _).bind fun _ => .ite ((plain_submitTx _ _ (by decide)).bind fun _ =>
    .ite (plain_modify hcount) trivial) trivial

theorem plain_sendMaybeFast (subCommand : UInt8) (value : UInt32) :
    (sendMaybeFast node subCommand value).Stays PortOp.Plain :=
  (plain_gets _).bind fun _ => .ite
    ((plain_sendWriteCommand _ _ _ _).bind fun _ => plain_sendWriteCommand _ _ _ _)
    (plain_sendWriteCommand _ _ _ _)

theorem plain_withController {p : Proto EyouCan Bool} (hp : p.Stays PortOp.Plain) :
    (withController p).Stays PortOp.Plain :=
  (plain_gets _).bind fun _ => .ite hp trivial

/-- A register write after the id has been registered. -/
theorem plain_write (subCommand : UInt8) (value : UInt32) (payloadBytes : Nat) :
    (withController do
      registerManagedMotorId motorId
      sendWriteCommand (toProtocolNodeId motorId) subCommand value payloadBytes
      pure true).Stays PortOp.Plain :=
  plain_withController <| plain_registerManagedMotorId.bind fun _ =>
    (plain_sendWriteCommand _ _ _ _).bind fun _ => trivial

theorem plain_setMode (mode : MotorMode) : (setMode motorId mode).Stays PortOp.Plain :=
  plain_withController <| plain_registerManagedMotorId.bind fun _ =>
    (plain_setMotorState _).bind fun _ =>
      (plain_publish fun _ => benign_mutateAxisCommand _ _).bind fun _ =>
        (plain_sendWriteCommand _ _ _ _).bind fun _ => trivial

theorem plain_setVelocity (velocity : Int32) : (setVelocity motorId velocity).Stays PortOp.Plain :=
  plain_withController <| plain_registerManagedMotorId.bind fun _ =>
    (plain_setMotorState _).bind fun _ => (plain_syncSharedCommand _ _ _ _).bind fun _ =>
      (plain_sendMaybeFast _ _).bind fun _ => trivial

theorem plain_ensurePositionVelocityConfigured (velocityRaw : Int32) (forceWrite : Bool) :
    (ensurePositionVelocityConfigured node velocityRaw forceWrite).Stays PortOp.Plain := by
  have hnote : ∀ s, (notePositionVelocity node velocityRaw forceWrite s).2.pendingReadRequests =
      s.pendingReadRequests := by
    intro s
    rw [notePositionVelocity]
    split <;> rfl
  exact .ite trivial ((plain_access hnote).bind fun _ =>
    .ite ((plain_sendMaybeFast _ _).bind fun _ => trivial) trivial)

theorem plain_setPosition (position : Int32) : (setPosition motorId position).Stays PortOp.Plain :=
  plain_withController <| plain_registerManagedMotorId.bind fun _ =>
    (plain_setMotorState _).bind fun _ => (plain_syncSharedCommand _ _ _ _).bind fun _ =>
      (plain_gets _).bind fun _ => (plain_ensurePositionVelocityConfigured _ _).bind fun _ =>
        .ite ((plain_sendMaybeFast _ _).bind fun _ => trivial) trivial

theorem plain_quickSetPosition (position : Int32) :
    (quickSetPosition motorId position).Stays PortOp.Plain :=
  plain_withController <| plain_registerManagedMotorId.bind fun _ =>
    (plain_setMotorState _).bind fun _ => (plain_syncSharedCommand _ _ _ _).bind fun _ =>
      (plain_gets _).bind fun _ => (plain_ensurePositionVelocityConfigured _ _).bind fun _ =>
        .ite ((plain_sendWriteCommand _ _ _ _).bind fun _ => trivial) trivial

theorem plain_stop : (stop motorId).Stays PortOp.Plain :=
  plain_withController <| plain_registerManagedMotorId.bind fun _ =>
    (plain_publish fun _ => benign_setAxisIntent _ _).bind fun _ =>
      (plain_sendWriteCommand _ _ _ _).bind fun _ => trivial

theorem plain_configurePositionLimits (minRaw maxRaw : Int32) (enable : Bool) :
    (configurePositionLimits motorId minRaw maxRaw enable).Stays PortOp.Plain :=
  plain_withController <| .ite trivial <| plain_registerManagedMotorId.bind fun _ =>
    (plain_sendWriteCommand _ _ _ _).bind fun _ => (plain_sendWriteCommand _ _ _ _).bind fun _ =>
      (plain_sendWriteCommand _ _ _ _).bind fun _ => trivial

theorem plain_awaitWriteAck (subCommand : UInt8) :
    (awaitWriteAck node subCommand).Stays PortOp.Plain :=
  (plain_gets _).bind fun _ => .ite trivial trivial

theorem plain_setPositionOffset (offsetRaw : Int32) :
    (setPositionOffset motorId offsetRaw).Stays PortOp.Plain :=
  plain_withController <| plain_registerManagedMotorId.bind fun _ => (plain_gets _).bind fun _ =>
    .ite ((plain_modify fun _ => rfl).bind fun _ => (plain_sendWriteCommand _ _ _ _).bind fun _ =>
      plain_awaitWriteAck _) trivial

theorem plain_pollState (found : EyouMotorState → Option α) (deadline : Time) (polls : Nat) :
    (pollState node found deadline polls).Stays PortOp.Plain := by
  induction polls with
  | zero => trivial
  | succ polls ih =>
      refine plain_now.bind fun t => .ite ((plain_gets _).bind fun st => ?_) trivial
      cases st.bind found with
      | none => exact ih
      | some a => trivial

theorem plain_persistAttempts (payload : Vector UInt8 4) (attempts : Nat) :
    (persistAttempts node payload attempts).Stays PortOp.Plain := by
  have hwrite : (writeCommandBytesAndWaitForAck node kPersistParametersSubCommand
      payload).Stays PortOp.Plain :=
    (plain_gets _).bind fun _ => .ite ((plain_modify fun _ => rfl).bind fun _ =>
      (plain_submitTx _ _ (by decide)).bind fun _ => .ite ((plain_modify fun _ => rfl).bind fun _ =>
        plain_awaitWriteAck _) trivial) trivial
  induction attempts with
  | zero => trivial
  | succ attempts ih => exact hwrite.bind fun ok => .ite trivial ih

theorem plain_getCached (f : EyouMotorState → α) (default : α) :
    (getCached motorId f default).Stays PortOp.Plain :=
  plain_registerManagedMotorId.bind fun _ => plain_gets _

/-! ### operation by operation -/

theorem onBus_gets (f : EyouCan → α) : (Proto.gets f : Proto EyouCan α).onBus =
    Prog.vis (S := busSig) (.eyou id) fun s => .ret (f s) := rfl

theorem onBus_access (f : EyouCan → α × EyouCan) : (Proto.access f : Proto EyouCan α).onBus =
    Prog.vis (S := busSig) (.eyou fun s => (f s).2) fun s => .ret (f s).1 := rfl

theorem onBus_modify (f : EyouCan → EyouCan) : (Proto.modify f : Proto EyouCan Unit).onBus =
    Prog.vis (S := busSig) (.eyou f) fun _ => .ret () := rfl

theorem onBus_now : (Proto.now : Proto EyouCan Time).onBus =
    Prog.vis (S := busSig) .clock .ret := rfl

theorem onBus_submit (r : Request) : (Proto.submit r : Proto EyouCan Unit).onBus =
    DeviceRuntime.submit r >>= fun _ => .ret () := rfl

end EyouCan

/-! ## MT -/

namespace MtCan

open Proto

variable {motorId : MotorID} {node : UInt8}

theorem plain_modify {f : MtCan → MtCan}
    (h : ∀ s, (f s).pendingReadRequests = s.pendingReadRequests) :
    (Proto.modify f).Stays PortOp.Plain :=
  ⟨h, fun _ _ => trivial⟩

theorem plain_access {f : MtCan → α × MtCan}
    (h : ∀ s, (f s).2.pendingReadRequests = s.pendingReadRequests) :
    (access f).Stays PortOp.Plain :=
  ⟨h, fun _ _ => trivial⟩

theorem plain_gets (f : MtCan → α) : (gets f).Stays PortOp.Plain :=
  ⟨fun _ => rfl, fun _ _ => trivial⟩

theorem plain_now : (now : Proto MtCan Time).Stays PortOp.Plain := ⟨trivial, fun _ _ => trivial⟩

theorem plain_publish {f : AxisKey → SharedDriverState → SharedDriverState}
    (h : ∀ key, Benign (f key)) : (publish node f).Stays PortOp.Plain :=
  (plain_gets _).bind fun _ => .ite (plain_modifyShared (h _)) trivial

theorem plain_syncSharedFeedback (st : MtMotorState) :
    (syncSharedFeedback node st).Stays PortOp.Plain :=
  plain_now.bind fun _ => plain_publish fun _ => benign_mutateAxisFeedback _ fun _ => rfl

theorem plain_syncSharedCommand (targetPosition targetVelocity : Int32) (desiredMode : MotorMode)
    (valid : Bool) : (syncSharedCommand node targetPosition targetVelocity desiredMode
      valid).Stays PortOp.Plain :=
  plain_now.bind fun _ => plain_publish fun _ => benign_mutateAxisCommand _ _

theorem plain_syncSharedIntent (intent : AxisIntent) :
    (syncSharedIntent node intent).Stays PortOp.Plain :=
  plain_publish fun _ => benign_setAxisIntent _ _

theorem plain_rememberSystemMotorId : (rememberSystemMotorId motorId).Stays PortOp.Plain :=
  plain_modify fun _ => rfl

theorem plain_submitTx (frame : Frame) (category : Category) {source : TxSource}
    (h : source ≠ .dmIssueRefreshQuery) : (submitTx frame category source).Stays PortOp.Plain :=
  (plain_gets _).bind fun _ => .ite ⟨⟨rfl, h⟩, fun _ _ => trivial⟩ trivial

theorem plain_withController {p : Proto MtCan Bool} (hp : p.Stays PortOp.Plain) :
    (withController p).Stays PortOp.Plain :=
  (plain_gets _).bind fun _ => .ite hp trivial

theorem plain_setMode (mode : MotorMode) : (setMode motorId mode).Stays PortOp.Plain :=
  plain_rememberSystemMotorId.bind fun _ => (plain_modify fun _ => rfl).bind fun _ =>
    (plain_publish fun _ => benign_mutateAxisCommand _ _).bind fun _ => trivial

theorem plain_setVelocity (velocity : Int32) : (setVelocity motorId velocity).Stays PortOp.Plain :=
  plain_withController <| plain_rememberSystemMotorId.bind fun _ =>
    (plain_modify fun _ => rfl).bind fun _ => (plain_syncSharedCommand _ _ _ _).bind fun _ =>
      (plain_submitTx _ _ (by decide)).bind fun _ => trivial

theorem plain_setPlanned (index : UInt8) (dpsPerSec : UInt32) :
    (setPlanned index motorId dpsPerSec).Stays PortOp.Plain :=
  plain_rememberSystemMotorId.bind fun _ =>
    plain_withController <| plain_submitTx _ _ (by decide)

theorem plain_setPosition (position : Int32) : (setPosition motorId position).Stays PortOp.Plain :=
  plain_withController <| plain_rememberSystemMotorId.bind fun _ =>
    (plain_access fun _ => rfl).bind fun _ => (plain_syncSharedCommand _ _ _ _).bind fun _ =>
      plain_submitTx _ _ (by decide)

/-- `Enable` and `Disable`, up to what they send. -/
theorem plain_switch {f : MtMotorState → MtMotorState} (intent : AxisIntent)
    {q : Proto MtCan Bool} (hq : q.Stays PortOp.Plain) : (withController do
      rememberSystemMotorId motorId
      let snapshot ← access fun s : MtCan =>
        let s' := s.setMotorState (toMtProtocolNodeId motorId) f
        (s'.motorState (toMtProtocolNodeId motorId), s')
      syncSharedIntent (toMtProtocolNodeId motorId) intent
      syncSharedFeedback (toMtProtocolNodeId motorId) snapshot
      q).Stays PortOp.Plain :=
  plain_withController <| plain_rememberSystemMotorId.bind fun _ =>
    (plain_access fun _ => rfl).bind fun _ => (plain_syncSharedIntent _).bind fun _ =>
      (plain_syncSharedFeedback _).bind fun _ => hq

theorem plain_enable : (enable motorId).Stays PortOp.Plain :=
  plain_switch (q := pure true) .enable trivial

theorem plain_disable : (disable motorId).Stays PortOp.Plain :=
  plain_switch .disable <| (plain_submitTx _ _ (by decide)).bind fun _ => trivial

theorem plain_stop : (stop motorId).Stays PortOp.Plain :=
  plain_withController <| plain_rememberSystemMotorId.bind fun _ =>
    (plain_syncSharedIntent _).bind fun _ => (plain_submitTx _ _ (by decide)).bind fun _ => trivial

theorem plain_setCommunicationTimeout (timeoutMs : UInt32) :
    (setCommunicationTimeout timeoutMs).Stays PortOp.Plain := by
  have hloop : ∀ motorIds, (sendCommunicationTimeouts timeoutMs motorIds).Stays PortOp.Plain := by
    intro motorIds
    induction motorIds with
    | nil => trivial
    | cons motorId motorIds ih =>
        exact (plain_submitTx _ _ (by decide)).bind fun _ => .ite ih trivial
  exact plain_withController <| (plain_gets _).bind fun _ => .ite trivial (hloop _)

/-! ### operation by operation -/

theorem onBus_gets (f : MtCan → α) : (Proto.gets f : Proto MtCan α).onBus =
    Prog.vis (S := busSig) (.mt id) fun s => .ret (f s) := rfl

theorem onBus_access (f : MtCan → α × MtCan) : (Proto.access f : Proto MtCan α).onBus =
    Prog.vis (S := busSig) (.mt fun s => (f s).2) fun s => .ret (f s).1 := rfl

theorem onBus_modify (f : MtCan → MtCan) : (Proto.modify f : Proto MtCan Unit).onBus =
    Prog.vis (S := busSig) (.mt f) fun _ => .ret () := rfl

theorem onBus_now : (Proto.now : Proto MtCan Time).onBus =
    Prog.vis (S := busSig) .clock .ret := rfl

theorem onBus_submit (r : Request) : (Proto.submit r : Proto MtCan Unit).onBus =
    DeviceRuntime.submit r >>= fun _ => .ret () := rfl

end MtCan

/-! ## DM -/

namespace DamiaoCan

open Proto

variable {motorId : MotorID} {node : UInt8}

theorem plain_modify (f : DamiaoCan → DamiaoCan) : (Proto.modify f).Stays PortOp.Plain :=
  ⟨fun _ => rfl, fun _ _ => trivial⟩

theorem plain_access (f : DamiaoCan → α × DamiaoCan) : (access f).Stays PortOp.Plain :=
  ⟨fun _ => rfl, fun _ _ => trivial⟩

theorem plain_gets (f : DamiaoCan → α) : (gets f).Stays PortOp.Plain :=
  ⟨fun _ => rfl, fun _ _ => trivial⟩

theorem plain_publish {f : AxisKey → SharedDriverState → SharedDriverState}
    (h : ∀ key, Benign (f key)) : (publish node f).Stays PortOp.Plain :=
  (plain_gets _).bind fun _ => .ite (plain_modifyShared (h _)) trivial

theorem plain_syncSharedCommand (targetVelocity : Int32) (valid : Bool) :
    (syncSharedCommand node targetVelocity valid).Stays PortOp.Plain :=
  .bind ⟨trivial, fun _ _ => trivial⟩ fun _ => plain_publish fun _ => benign_mutateAxisCommand _ _

theorem plain_syncSharedModeSelection (desiredMode : MotorMode) :
    (syncSharedModeSelection node desiredMode).Stays PortOp.Plain :=
  plain_publish fun _ => benign_mutateAxisCommand _ _

theorem plain_syncSharedIntent (intent : AxisIntent) :
    (syncSharedIntent node intent).Stays PortOp.Plain :=
  plain_publish fun _ => benign_setAxisIntent _ _

theorem plain_registerManagedMotorId : (registerManagedMotorId motorId).Stays PortOp.Plain :=
  (plain_modify _).bind fun _ => (plain_gets _).bind fun _ =>
    .ite (plain_modifyShared (benign_registerAxis _)) trivial

theorem plain_submitTx (frame : Frame) (category : Category) {source : TxSource}
    (h : source ≠ .dmIssueRefreshQuery) : (submitTx frame category source).Stays PortOp.Plain :=
  (plain_gets _).bind fun _ => .ite ⟨⟨rfl, h⟩, fun _ _ => trivial⟩ trivial

theorem plain_ensureVelocityModeConfigured :
    (ensureVelocityModeConfigured node).Stays PortOp.Plain := by
  refine (plain_gets _).bind fun _ => .ite trivial (.bind ?_ fun _ => .ite ?_ trivial)
  · exact (plain_gets _).bind fun _ => .ite ((plain_modify _).bind fun _ =>
      (plain_submitTx _ _ (by decide)).bind fun _ => .ite (plain_access _) trivial) trivial
  · exact (plain_modify _).bind fun _ => (plain_syncSharedModeSelection _).bind fun _ => trivial

theorem plain_setMode (mode : MotorMode) : (setMode motorId mode).Stays PortOp.Plain :=
  .ite (plain_registerManagedMotorId.bind fun _ => plain_ensureVelocityModeConfigured.bind fun _ =>
    .ite ((plain_syncSharedModeSelection _).bind fun _ => trivial) trivial) trivial

theorem plain_setVelocity (velocity : Int32) : (setVelocity motorId velocity).Stays PortOp.Plain :=
  plain_registerManagedMotorId.bind fun _ => plain_ensureVelocityModeConfigured.bind fun _ =>
    .ite ((plain_modify _).bind fun _ => (plain_syncSharedCommand _ _).bind fun _ =>
      (plain_syncSharedIntent _).bind fun _ => plain_submitTx _ _ (by decide)) trivial

theorem plain_enable : (enable motorId).Stays PortOp.Plain :=
  plain_registerManagedMotorId.bind fun _ => plain_ensureVelocityModeConfigured.bind fun _ =>
    .ite ((plain_syncSharedModeSelection _).bind fun _ => (plain_syncSharedIntent _).bind fun _ =>
      (plain_submitTx _ _ (by decide)).bind fun _ => .ite
        ((plain_submitTx _ _ (by decide)).bind fun _ => .ite (plain_gets _) trivial) trivial) trivial

theorem plain_disable : (disable motorId).Stays PortOp.Plain :=
  plain_registerManagedMotorId.bind fun _ => (plain_modify _).bind fun _ =>
    (plain_syncSharedCommand _ _).bind fun _ => (plain_syncSharedIntent _).bind fun _ =>
      (plain_submitTx _ _ (by decide)).bind fun _ => .ite
        ((plain_submitTx _ _ (by decide)).bind fun _ => .ite (plain_gets _) trivial) trivial

theorem plain_stop : (stop motorId).Stays PortOp.Plain :=
  plain_registerManagedMotorId.bind fun _ => (plain_modify _).bind fun _ =>
    (plain_syncSharedCommand _ _).bind fun _ => (plain_syncSharedIntent _).bind fun _ =>
      plain_submitTx _ _ (by decide)

theorem plain_resetFault : (resetFault motorId).Stays PortOp.Plain :=
  plain_registerManagedMotorId.bind fun _ => (plain_syncSharedIntent _).bind fun _ =>
    plain_submitTx _ _ (by decide)

theorem plain_motorCall (call : MotorCall) : (motorCall motorId call).Stays PortOp.Plain := by
  cases call with
  | setMode mode => exact (plain_setMode mode).bind fun _ => trivial
  | setVelocity velocity => exact (plain_setVelocity velocity).bind fun _ => trivial
  | setAcceleration | setDeceleration =>
      exact .bind (plain_registerManagedMotorId.bind fun _ => (plain_modify _).bind fun _ =>
        trivial) fun _ => trivial
  | setPosition | quickSetPosition => trivial
  | enable => exact plain_enable.bind fun _ => trivial
  | disable => exact plain_disable.bind fun _ => trivial
  | stop => exact plain_stop.bind fun _ => trivial
  | resetFault => exact plain_resetFault.bind fun _ => trivial
  | getPosition | getVelocity | getCurrent | isEnabled | hasFault =>
      exact (plain_gets _).bind fun _ => trivial

theorem plain_handleResponse (frame : Frame) : (handleResponse frame).Stays PortOp.Plain := by
  have hfeedback : (handleFeedback frame).Stays PortOp.Plain := by
    refine .ite trivial ((plain_gets _).bind fun _ => .ite ((plain_access _).bind fun _ => ?_) trivial)
    exact .bind ⟨trivial, fun _ _ => trivial⟩ fun _ => plain_publish fun _ =>
      benign_mutateAxisFeedback _ fun _ => rfl
  exact .ite trivial (.ite ((plain_access _).bind fun _ => .ite trivial hfeedback) hfeedback)

theorem plain_initializeMotorRefresh (ids : List MotorID) :
    (initializeMotorRefresh ids).Stays PortOp.Plain :=
  (plain_modify _).bind fun _ => (plain_gets _).bind fun _ =>
    .ite (plain_modifyShared (benign_registerIds _ _ _)) trivial

/-- The keepalive is plain up to its request, which no read waits for. -/
theorem issueRefreshQuery_untracked (query : DmRefreshQuery) :
    (Proto.onBus (issueRefreshQuery motorId query)).Stays BusOp.Untracked := by
  have hplain : ∀ {α : Type} {p : Proto DamiaoCan α}, p.Stays PortOp.Plain →
      p.onBus.Stays BusOp.Untracked :=
    fun hp => (dm_plain hp).mono fun _ => .inl
  have hsubmit : ∀ r : Request, r.completion = none → (DeviceRuntime.submit r).Stays
      BusOp.Untracked := by
    intro r hr
    refine DeviceRuntime.submit_stays (.inr ⟨r, rfl, hr⟩) (.inl trivial) fun c hc => ?_
    rw [hr] at hc
    exact absurd hc (by simp)
  simp only [issueRefreshQuery, sendSpeedFrame, submitTx, Proto.onBus_bind, Proto.onBus_ite]
  refine (hplain (plain_gets _)).bind fun s => .ite trivial ?_
  refine (hplain plain_registerManagedMotorId).bind fun _ => (hplain (plain_gets _)).bind fun v => ?_
  refine (hplain (plain_gets _)).bind fun s => .ite (.bind ?_ fun _ => trivial) trivial
  exact (hsubmit _ rfl).bind fun _ => trivial

end DamiaoCan

/-! ## the parts -/

/-- What holds of the parts of the calls, and of one program after another. -/
structure CallParts (W : (α : Type) → BusProg α → Prop) : Prop where
  plain : p.Stays BusOp.Plain → W α p
  bind : W α p → (∀ a, W β (f a)) → W β (p >>= f)
  mtRead : ∀ node command source, W _ (Proto.onBus (MtCan.requestRead node command source))
  mtAnswer : ∀ node command, W _ (Proto.onBus (MtCan.markReadResponseReceived node command))
  mtForget : W _ (Proto.onBus MtCan.resetReadTracking)
  mtNew : ∀ deviceName, W _ (Device.mt fun _ => { deviceName })
  eyouRead : ∀ node subCommand, W _ (Proto.onBus (EyouCan.tryIssueReadCommand node subCommand))
  eyouAnswer : ∀ node subCommand,
    W _ (Proto.onBus (EyouCan.markReadResponseReceived node subCommand))
  eyouForget : W _ (Proto.onBus EyouCan.resetReadTracking)
  eyouNew : ∀ deviceName, W _ (Device.eyou fun _ => { deviceName })
  keepalive : ∀ motorId query, W _ (Proto.onBus (DamiaoCan.issueRefreshQuery motorId query))
  work : ∀ deviceName, W _ (DeviceRuntime.workerStep deviceName)

namespace CallParts

variable {W : (α : Type) → BusProg α → Prop} (h : CallParts W) {motorId : MotorID} {node : UInt8}

include h

theorem ret (a : α) : W α (.ret a) := h.plain trivial

omit h in
theorem ite {c : Prop} [Decidable c] {p q : BusProg α} (hp : W α p) (hq : W α q) :
    W α (if c then p else q) := by
  split
  · exact hp
  · exact hq

theorem discarded {p : BusProg α} (hp : W α p) : W Unit (discard p) :=
  h.bind (f := fun _ => .ret ()) hp fun _ => h.ret _

omit h in
theorem onBus_ite {P : Type} [BusObject P] {c : Prop} [Decidable c] {p q : Proto P α}
    (hp : W α p.onBus) (hq : W α q.onBus) : W α (Proto.onBus (if c then p else q)) := by
  split
  · exact hp
  · exact hq

theorem onBus_bind {P : Type} [BusObject P] {p : Proto P α} {f : α → Proto P β}
    (hp : W α p.onBus) (hf : ∀ a, W β (f a).onBus) : W β (Proto.onBus (p >>= f)) := by
  rw [Proto.onBus_bind]
  exact h.bind hp hf

/-- A statement that is made only on a condition, and what follows it. -/
theorem onBus_when {P : Type} [BusObject P] {c : Prop} [Decidable c] {p : Proto P Unit}
    {rest : Unit → Proto P α} (hp : W _ p.onBus) (hrest : W α (rest ()).onBus) :
    W α (Proto.onBus (if c then p >>= rest else rest ())) :=
  onBus_ite (h.onBus_bind hp fun _ => hrest) hrest

/-! ### PP -/

theorem eyouPlain {p : Proto EyouCan α} (hp : p.Stays PortOp.Plain) : W α p.onBus :=
  h.plain (eyou_plain hp)

theorem eyouWithController {p : Proto EyouCan Bool} (hp : W _ p.onBus) :
    W _ (Proto.onBus (EyouCan.withController p)) :=
  h.onBus_bind (h.eyouPlain (EyouCan.plain_gets _)) fun _ => onBus_ite hp (h.ret _)

/-- `Enable` and `Disable`. -/
theorem eyouSwitch (intent : AxisIntent) (value : UInt32) (f : EyouMotorState → EyouMotorState) :
    W _ (Proto.onBus (EyouCan.withController do
      EyouCan.registerManagedMotorId motorId
      Proto.modify fun s : EyouCan => s.setMotorState (toProtocolNodeId motorId) f
      EyouCan.syncSharedIntent (toProtocolNodeId motorId) intent
      EyouCan.sendWriteCommand (toProtocolNodeId motorId) 0x10 value 4
      let _ ← EyouCan.requestEnable (toProtocolNodeId motorId)
      pure true)) :=
  h.eyouWithController <|
    h.onBus_bind (h.eyouPlain EyouCan.plain_registerManagedMotorId) fun _ =>
      h.onBus_bind (h.eyouPlain (EyouCan.plain_setMotorState _)) fun _ =>
        h.onBus_bind (h.eyouPlain (EyouCan.plain_publish fun _ => benign_setAxisIntent _ _)) fun _ =>
          h.onBus_bind (h.eyouPlain (EyouCan.plain_sendWriteCommand _ _ _ _)) fun _ =>
            h.onBus_bind (h.eyouRead _ _) fun _ => h.ret _

theorem eyouResetFault : W _ (Proto.onBus (EyouCan.resetFault motorId)) :=
  h.eyouWithController <|
    h.onBus_bind (h.eyouPlain EyouCan.plain_registerManagedMotorId) fun _ =>
      h.onBus_bind (h.eyouPlain (EyouCan.plain_publish fun _ => benign_setAxisIntent _ _)) fun _ =>
        h.onBus_bind (h.eyouPlain (EyouCan.plain_sendWriteCommand _ _ _ _)) fun _ =>
          h.onBus_bind (h.eyouAnswer _ _) fun _ =>
            h.onBus_bind (h.eyouRead _ _) fun _ => h.ret _

theorem eyouMotorCall (call : MotorCall) : W _ (Proto.onBus (EyouCan.motorCall motorId call)) := by
  have hdiscard : ∀ {α : Type} {p : Proto EyouCan α}, W α p.onBus →
      W Unit (Proto.onBus (discard p)) :=
    fun hp => h.onBus_bind hp fun _ => h.ret _
  cases call with
  | setMode => exact hdiscard (h.eyouPlain (EyouCan.plain_setMode _))
  | setVelocity => exact hdiscard (h.eyouPlain (EyouCan.plain_setVelocity _))
  | setAcceleration => exact hdiscard (h.eyouPlain (EyouCan.plain_write _ _ _))
  | setDeceleration => exact hdiscard (h.eyouPlain (EyouCan.plain_write _ _ _))
  | setPosition => exact hdiscard (h.eyouPlain (EyouCan.plain_setPosition _))
  | quickSetPosition => exact hdiscard (h.eyouPlain (EyouCan.plain_quickSetPosition _))
  | enable => exact hdiscard (h.eyouSwitch .enable 1 _)
  | disable => exact hdiscard (h.eyouSwitch .disable 0 _)
  | stop => exact hdiscard (h.eyouPlain EyouCan.plain_stop)
  | resetFault => exact hdiscard h.eyouResetFault
  | _ => exact hdiscard (h.eyouPlain (EyouCan.plain_getCached _ _))

/-- The two reads that wait for their answer. -/
theorem eyouBlockingRead (f : EyouMotorState → EyouMotorState) (subCommand : UInt8)
    (found : EyouMotorState → Option α) : W _ (Proto.onBus do
      let s ← Proto.gets fun s : EyouCan => s
      if s.canController then
        let motorId' := toProtocolNodeId motorId
        EyouCan.registerManagedMotorId motorId
        Proto.modify fun s : EyouCan => s.setMotorState motorId' f
        let issued ← EyouCan.tryIssueReadCommand motorId' subCommand
        if issued then
          let t ← Proto.now
          EyouCan.pollState motorId' found (t + ms 200) 20
        else
          pure none
      else
        pure none) :=
  h.onBus_bind (h.eyouPlain (EyouCan.plain_gets _)) fun _ => onBus_ite
    (h.onBus_bind (h.eyouPlain EyouCan.plain_registerManagedMotorId) fun _ =>
      h.onBus_bind (h.eyouPlain (EyouCan.plain_setMotorState _)) fun _ =>
        h.onBus_bind (h.eyouRead _ _) fun _ => onBus_ite
          (h.onBus_bind (h.eyouPlain EyouCan.plain_now) fun _ =>
            h.eyouPlain (EyouCan.plain_pollState _ _ _)) (h.ret _)) (h.ret _)

theorem eyouPersistParameters : W _ (Proto.onBus (EyouCan.persistParameters motorId)) := by
  refine h.eyouWithController (h.onBus_bind (h.eyouBlockingRead _ _ _) fun serial => ?_)
  cases serial with
  | none => exact h.ret _
  | some serialNumber =>
      exact h.onBus_bind (h.eyouPlain EyouCan.plain_registerManagedMotorId) fun _ =>
        h.eyouPlain (EyouCan.plain_persistAttempts _ _)

theorem eyouIssueRefreshQuery (query : PpRefreshQuery) :
    W _ (Proto.onBus (EyouCan.issueRefreshQuery motorId query)) := by
  refine h.onBus_bind (h.eyouPlain EyouCan.plain_registerManagedMotorId) fun _ => ?_
  cases query
  all_goals exact h.eyouRead _ _

theorem eyouHandleResponse (frame : Frame) : W _ (Proto.onBus (EyouCan.handleResponse frame)) := by
  have hresync : ∀ node subCommand : UInt8,
      W _ (Proto.onBus (EyouCan.resyncAfter node subCommand)) := by
    intro node subCommand
    unfold EyouCan.resyncAfter
    split
    all_goals first | exact h.eyouRead _ _ | exact h.ret _
  refine h.onBus_bind (h.eyouPlain (EyouCan.plain_gets _)) fun s => onBus_ite (h.ret _) ?_
  cases EyouCan.responseNode frame with
  | none => exact h.ret _
  | some node =>
      refine onBus_ite (h.onBus_bind (h.eyouPlain (EyouCan.plain_setMotorState _)) fun _ => ?_)
        (h.ret _)
      refine onBus_ite ?_ (onBus_ite ?_ (h.ret _))
      · exact h.onBus_bind (h.eyouPlain (EyouCan.plain_modify fun _ => rfl)) fun _ =>
          onBus_ite (h.onBus_bind (hresync _ _) fun _ => h.ret _) (h.ret _)
      · exact h.onBus_bind (h.eyouAnswer _ _) fun _ =>
          h.onBus_bind (h.eyouPlain (EyouCan.plain_access fun _ => rfl)) fun _ =>
            h.eyouPlain (EyouCan.plain_syncSharedFeedback _)

theorem eyouInitializeMotorRefresh (ids : List MotorID) :
    W _ (Proto.onBus (EyouCan.initializeMotorRefresh ids)) := by
  have hload : ∀ s : EyouCan,
      (EyouCan.loadMotors ids s).pendingReadRequests = s.pendingReadRequests := by
    have hfold : ∀ s : EyouCan,
        (ids.foldl EyouCan.addMotor s).pendingReadRequests = s.pendingReadRequests := by
      induction ids with
      | nil => exact fun _ => rfl
      | cons id ids ih => exact fun s => ih _
    exact fun s => hfold _
  exact h.onBus_bind (h.eyouPlain (EyouCan.plain_modify hload)) fun _ =>
    h.onBus_bind (h.eyouPlain (EyouCan.plain_gets _)) fun _ =>
      h.onBus_when (h.eyouPlain (plain_modifyShared (benign_registerIds _ _ _))) h.eyouForget

/-! ### MT -/

theorem mtPlain {p : Proto MtCan α} (hp : p.Stays PortOp.Plain) : W α p.onBus :=
  h.plain (mt_plain hp)

theorem mtResetFault : W _ (Proto.onBus (MtCan.resetFault motorId)) :=
  h.onBus_bind (h.mtPlain (MtCan.plain_gets _)) fun _ => onBus_ite
    (h.onBus_bind (h.mtPlain MtCan.plain_rememberSystemMotorId) fun _ =>
      h.onBus_bind (h.mtPlain (MtCan.plain_syncSharedIntent _)) fun _ =>
        h.onBus_bind (h.mtPlain (MtCan.plain_submitTx _ _ (by decide))) fun _ =>
          h.onBus_bind (h.mtAnswer _ _) fun _ =>
            h.onBus_bind (h.mtRead _ _ _) fun _ => h.ret _) (h.ret _)

theorem mtMotorCall (call : MotorCall) : W _ (Proto.onBus (MtCan.motorCall motorId call)) := by
  have hdiscard : ∀ {α : Type} {p : Proto MtCan α}, W α p.onBus →
      W Unit (Proto.onBus (discard p)) :=
    fun hp => h.onBus_bind hp fun _ => h.ret _
  cases call with
  | setMode => exact hdiscard (h.mtPlain (MtCan.plain_setMode _))
  | setVelocity => exact hdiscard (h.mtPlain (MtCan.plain_setVelocity _))
  | setAcceleration => exact hdiscard (h.mtPlain (MtCan.plain_setPlanned _ _))
  | setDeceleration => exact hdiscard (h.mtPlain (MtCan.plain_setPlanned _ _))
  | setPosition => exact hdiscard (h.mtPlain (MtCan.plain_setPosition _))
  | quickSetPosition => exact h.ret _
  | enable => exact hdiscard (h.mtPlain MtCan.plain_enable)
  | disable => exact hdiscard (h.mtPlain MtCan.plain_disable)
  | stop => exact hdiscard (h.mtPlain MtCan.plain_stop)
  | resetFault => exact hdiscard h.mtResetFault
  | _ => exact hdiscard (h.mtPlain (MtCan.plain_gets _))

theorem mtIssueRefreshQuery (query : MtRefreshQuery) :
    W _ (Proto.onBus (MtCan.issueRefreshQuery motorId query)) := by
  refine h.onBus_bind (h.mtPlain MtCan.plain_rememberSystemMotorId) fun _ => ?_
  cases query
  all_goals exact h.mtRead _ _ _

theorem mtHandleResponse (frame : Frame) : W _ (Proto.onBus (MtCan.handleResponse frame)) := by
  refine h.onBus_bind (h.mtPlain (MtCan.plain_gets _)) fun s => onBus_ite (h.ret _) ?_
  refine onBus_ite (h.ret _) (h.onBus_when (h.mtAnswer _ _) ?_)
  refine h.onBus_bind (h.mtPlain (MtCan.plain_access fun _ => rfl)) fun snapshot => ?_
  refine h.onBus_when (h.mtPlain (MtCan.plain_syncSharedFeedback _)) (onBus_ite ?_ (h.ret _))
  exact h.onBus_bind (h.mtPlain (MtCan.plain_submitTx _ _ (by decide))) fun _ => h.ret _

theorem mtInitializeMotorRefresh (ids : List MotorID) :
    W _ (Proto.onBus (MtCan.initializeMotorRefresh ids)) := by
  have hload : ∀ s : MtCan,
      (MtCan.loadMotors ids s).pendingReadRequests = s.pendingReadRequests := by
    have hfold : ∀ s : MtCan,
        (ids.foldl MtCan.addMotor s).pendingReadRequests = s.pendingReadRequests := by
      induction ids with
      | nil => exact fun _ => rfl
      | cons id ids ih => exact fun s => ih _
    exact fun s => hfold _
  refine h.onBus_bind (h.mtPlain (MtCan.plain_modify hload)) fun _ =>
    h.onBus_bind (h.mtPlain (MtCan.plain_gets _)) fun _ => ?_
  refine h.onBus_when (h.mtPlain (plain_modifyShared (benign_registerIds _ _ _)))
    (h.onBus_bind h.mtForget fun _ => onBus_ite (h.ret _) ?_)
  exact h.onBus_bind (h.mtPlain (MtCan.plain_setCommunicationTimeout _)) fun _ => h.ret _

/-! ### the refresh worker -/

theorem issueFirst {issue : κ → BusProg Bool} (hissue : ∀ query, W _ (issue query))
    (queries : List κ) : W _ (issueFirst issue queries) := by
  induction queries with
  | nil => exact h.ret _
  | cons query queries ih => exact h.bind (hissue query) fun issued => ite (h.ret _) ih

theorem tickMtMotors (name : String) (pressure : Bool) (cycle : Nat) (motorIds : List MotorID)
    (visits : List Nat) : W _ (tickMtMotors name pressure cycle motorIds visits) := by
  induction visits with
  | nil => exact h.ret _
  | cons index visits ih =>
      refine h.bind (h.issueFirst (fun query => h.mtIssueRefreshQuery query) _) fun issued => ?_
      cases issued with
      | none => exact ih
      | some query =>
          have hmt : ∀ f : MtCan → Time, (Device.mt id >>= fun s => pure (f s)).Stays BusOp.Plain :=
            fun f => .vis (fun _ => rfl) fun _ => trivial
          exact h.bind (h.plain (noteIssued_stays trivial benign_id (hmt _) (hmt _)
            (fun _ _ _ => trivial) _ _ _)) fun _ => h.ret _

theorem tickPpMotors (name : String) (t : Time) (pressure : Bool) (motorIds : List UInt8)
    (visits : List Nat) : W _ (tickPpMotors name t pressure motorIds visits) := by
  induction visits with
  | nil => exact h.ret _
  | cons index visits ih =>
      refine h.bind (h.plain ⟨benign_id, fun _ _ => trivial⟩) fun shared =>
        h.bind (h.plain ⟨trivial, fun _ _ => trivial⟩) fun r => ?_
      refine h.bind (h.issueFirst (fun query => h.eyouIssueRefreshQuery query) _) fun issued => ?_
      cases issued with
      | none => exact h.bind ih fun _ => h.ret _
      | some query =>
          have hpp : ppRefreshSleep.Stays BusOp.Plain := .vis (fun _ => rfl) fun _ => trivial
          exact h.bind (h.plain (noteIssued_stays trivial benign_id hpp hpp
            (fun _ _ _ => trivial) _ _ _)) fun _ => h.ret _

theorem tickDmMotors (name : String) (t : Time) (motorIds : List UInt8) (visits : List Nat) :
    W _ (tickDmMotors name t motorIds visits) := by
  induction visits with
  | nil => exact h.ret _
  | cons index visits ih =>
      refine h.bind (h.plain ⟨trivial, fun _ _ => trivial⟩) fun r =>
        h.bind (h.plain ⟨benign_id, fun _ _ => trivial⟩) fun shared => ?_
      refine h.bind (h.issueFirst (fun query => h.keepalive _ query) _) fun issued => ?_
      cases issued with
      | none => exact ih
      | some query =>
          have hdm : dmRefreshSleep.Stays BusOp.Plain := .vis trivial fun _ => trivial
          exact h.bind (h.plain (noteIssued_stays trivial benign_id hdm hdm
            (fun _ _ _ => trivial) _ _ _)) fun _ => h.ret _

theorem tickProtocol (name : String) (t : Time) (pressure : Bool) (selected : Nat) :
    W _ (tickProtocol name t pressure selected) := by
  have hlook : ∀ f, W _ (Device.refresh f) := fun f => h.plain ⟨trivial, fun _ _ => trivial⟩
  refine ite ?_ (ite ?_ ?_)
  · exact h.bind (hlook _) fun _ => ite (h.bind (hlook _) fun _ =>
      ite (h.tickMtMotors _ _ _ _ _) (h.ret _)) (h.ret _)
  · exact h.bind (hlook _) fun _ => ite (h.bind (hlook _) fun _ =>
      ite (h.tickPpMotors _ _ _ _ _) (h.ret _)) (h.ret _)
  · exact h.bind (hlook _) fun _ => ite (h.bind (hlook _) fun _ =>
      ite (h.tickDmMotors _ _ _ _) (h.ret _)) (h.ret _)

theorem tickProtocols (name : String) (t : Time) (pressure : Bool) (order : List Nat) :
    W _ (tickProtocols name t pressure order) := by
  induction order with
  | nil => exact h.ret _
  | cons selected order ih =>
      exact h.bind (h.tickProtocol _ _ _ _) fun _ =>
        ite (h.ret _) (h.bind ih fun _ => h.ret _)

theorem refreshTick (name : String) : W _ (refreshTick name) := by
  have hlook : W _ (Device.shared id) := h.plain ⟨benign_id, fun _ _ => trivial⟩
  refine h.bind (h.plain ⟨trivial, fun _ _ => trivial⟩) fun t => h.bind hlook fun feedback =>
    h.bind hlook fun health => h.bind (h.plain ⟨trivial, fun _ _ => trivial⟩) fun r => ?_
  cases (beginTick name t feedback health r).1 with
  | none => exact h.ret _
  | some pressure =>
      exact h.bind (h.tickProtocols _ _ _ _) fun _ =>
        h.bind (h.plain ⟨trivial, fun _ _ => trivial⟩) fun _ => h.ret _

/-! ### bringing the device up and down -/

omit h in
theorem shutdownDevice_plain (name : String) : (shutdownDevice name).Stays BusOp.Plain :=
  .vis (benign_mutateDeviceHealth _ _) fun _ => .vis trivial fun _ => .vis trivial fun _ =>
    .vis trivial fun _ => .vis trivial fun _ => trivial

omit h in
theorem bringUpTransport_plain (name : String) : (bringUpTransport name).Stays BusOp.Plain := by
  have hinit : initializeTransport.Stays BusOp.Plain :=
    .vis trivial fun ok => .ite (.vis trivial fun _ => trivial) trivial
  refine .vis trivial fun slot => .ite ?_ hinit
  refine .vis trivial fun _ => .vis trivial fun _ => .vis trivial fun _ => .vis trivial fun _ =>
    hinit.bind fun ok => .ite trivial ?_
  exact (shutdownDevice_plain name).bind fun _ => trivial

theorem createMt (cfg : DeviceManagerConfig) (name : String) : W _ (createMt cfg name) :=
  h.bind (h.mtNew name) fun _ => h.bind (h.mtPlain (MtCan.plain_modify fun _ => rfl)) fun _ =>
    h.mtPlain (MtCan.plain_modify fun _ => rfl)

theorem createPp (cfg : DeviceManagerConfig) (name : String) : W _ (createPp cfg name) := by
  have hset : ∀ f : EyouCan → EyouCan, (∀ s, (f s).pendingReadRequests = s.pendingReadRequests) →
      W _ (Proto.onBus (Proto.modify f)) := fun f hf => h.eyouPlain (EyouCan.plain_modify hf)
  refine h.bind (h.eyouNew name) fun _ => h.bind (hset _ fun _ => rfl) fun _ =>
    h.bind (hset _ fun _ => rfl) fun _ => h.bind ?_ fun _ => ?_
  · exact onBus_ite (h.ret _) (hset _ fun _ => rfl)
  · exact onBus_ite (h.ret _) (hset _ fun _ => rfl)

theorem createDm (cfg : DeviceManagerConfig) (name : String) : W _ (createDm cfg name) :=
  h.bind (h.plain ⟨trivial, fun _ _ => trivial⟩) fun _ => h.plain (dm_plain (DamiaoCan.plain_modify _))

theorem ensureObject {type : CanType} {ids : List MotorID} {create : BusProg Unit}
    (hcreate : W _ create) : W _ (ensureObject type ids create) := by
  have hslot : ∀ f, W _ (Device.slot f) := fun f => h.plain ⟨trivial, fun _ _ => trivial⟩
  exact h.bind (hslot _) fun _ => ite (h.bind hcreate fun _ => h.bind (hslot _) fun _ => h.ret _)
    (h.ret _)

theorem startPolling {ids : List MotorID} {load : BusProg Unit}
    {schedule : List MotorID → DeviceRefreshRuntime → DeviceRefreshRuntime} (hload : W _ load) :
    W _ (startPolling ids load schedule) := by
  have hschedule : W _ (Device.refresh (schedule ids)) := h.plain ⟨trivial, fun _ _ => trivial⟩
  exact ite (h.bind hschedule fun _ => h.ret _)
    (h.bind hload fun _ => h.bind hschedule fun _ => h.ret _)

theorem initDevice (cfg : DeviceManagerConfig) (name : String)
    (motors : List (CanType × MotorID)) : W _ (initDevice cfg name motors) := by
  refine h.bind (h.plain (bringUpTransport_plain name)) fun ok => ite ?_ (h.ret _)
  refine h.bind (h.plain ⟨trivial, fun _ _ => trivial⟩) fun _ =>
    h.bind (h.plain ⟨benign_registerMotors _ _, fun _ _ => trivial⟩) fun _ =>
      h.bind (h.plain ⟨benign_mutateDeviceHealth _ _, fun _ _ => trivial⟩) fun _ => ?_
  refine h.bind (h.ensureObject (h.createMt cfg name)) fun _ =>
    h.bind (h.ensureObject (h.createPp cfg name)) fun _ =>
      h.bind (h.ensureObject (h.createDm cfg name)) fun _ =>
        h.bind (h.plain ⟨trivial, fun _ _ => trivial⟩) fun _ => ?_
  refine h.bind (h.startPolling (h.mtInitializeMotorRefresh _)) fun _ =>
    h.bind (h.startPolling (h.eyouInitializeMotorRefresh _)) fun _ => h.bind ?_ fun _ => h.ret _
  exact h.startPolling (h.plain (dm_plain (DamiaoCan.plain_initializeMotorRefresh _)))

/-- **Frame**: what holds of the parts holds of every call. -/
theorem code (cfg : DeviceManagerConfig) (deviceName : String) (c : BusCall) :
    W _ (c.code cfg deviceName) := by
  cases c with
  | eyou id call => exact h.eyouMotorCall call
  | mt id call => exact h.mtMotorCall call
  | dm id call => exact h.plain (dm_plain (DamiaoCan.plain_motorCall call))
  | eyouConfigurePositionLimits id minRaw maxRaw enable =>
      exact h.eyouPlain ((EyouCan.plain_configurePositionLimits _ _ _).bind fun _ => trivial)
  | eyouSetPositionOffset id offsetRaw =>
      exact h.eyouPlain ((EyouCan.plain_setPositionOffset _).bind fun _ => trivial)
  | eyouReadPositionOffset id =>
      exact h.onBus_bind (h.eyouBlockingRead _ _ _) fun _ => h.ret _
  | eyouReadSerialNumber id => exact h.onBus_bind (h.eyouBlockingRead _ _ _) fun _ => h.ret _
  | eyouPersistParameters id => exact h.onBus_bind h.eyouPersistParameters fun _ => h.ret _
  | eyouSetFastWriteEnabled enabled => exact h.eyouPlain (EyouCan.plain_modify fun _ => rfl)
  | eyouSetDefaultPositionVelocityRaw v | eyouSetDefaultCspVelocityRaw v =>
      exact onBus_ite (h.ret _) (h.eyouPlain (EyouCan.plain_modify fun _ => rfl))
  | eyouSetMotorDefaultPositionVelocityRaw id v | eyouSetMotorDefaultCspVelocityRaw id v =>
      exact onBus_ite (h.ret _)
        (h.onBus_bind (h.eyouPlain EyouCan.plain_registerManagedMotorId) fun _ =>
          h.eyouPlain (EyouCan.plain_modify fun _ => rfl))
  | mtSetCommunicationTimeout timeoutMs =>
      exact h.mtPlain ((MtCan.plain_setCommunicationTimeout _).bind fun _ => trivial)
  | mtSetPositionAcceleration id a | mtSetPositionDeceleration id a =>
      exact h.mtPlain ((MtCan.plain_setPlanned _ _).bind fun _ => trivial)
  | eyouInitializeMotorRefresh ids => exact h.eyouInitializeMotorRefresh ids
  | mtInitializeMotorRefresh ids => exact h.mtInitializeMotorRefresh ids
  | dmInitializeMotorRefresh ids =>
      exact h.plain (dm_plain (DamiaoCan.plain_initializeMotorRefresh _))
  | eyouIssueRefreshQuery id query =>
      exact h.onBus_bind (h.eyouIssueRefreshQuery query) fun _ => h.ret _
  | mtIssueRefreshQuery id query =>
      exact h.onBus_bind (h.mtIssueRefreshQuery query) fun _ => h.ret _
  | dmIssueRefreshQuery id query => exact h.onBus_bind (h.keepalive id query) fun _ => h.ret _
  | eyouReceive frame => exact h.eyouHandleResponse frame
  | mtReceive frame => exact h.mtHandleResponse frame
  | dmReceive frame => exact h.plain (dm_plain (DamiaoCan.plain_handleResponse frame))
  | work => exact h.work deviceName
  | refreshTick => exact h.discarded (h.refreshTick deviceName)
  | initDevice motors => exact h.discarded (h.initDevice cfg deviceName motors)
  | shutdownDevice => exact h.plain (shutdownDevice_plain deviceName)

end CallParts

end CanDriver
