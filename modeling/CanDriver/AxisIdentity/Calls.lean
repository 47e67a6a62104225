import CanDriver.AxisIdentity.Discipline

/-!
# CanDriver.AxisIdentity.Calls

Every call keeps the discipline of the nodes it is about, if the ids it names go with
their nodes.
-/

namespace CanDriver

open Interact Prog

variable {deviceName : String} {about : Set (CanType × UInt8)} {motorId : MotorID} {node : UInt8}

theorem gets_about {P : Type} [NodeMap P] (f : P → α) :
    (Proto.gets f).Obeys (aboutPort P deviceName about) :=
  .vis (fun _ h => h) fun _ _ => trivial

theorem now_about {P : Type} [NodeMap P] :
    (Proto.now : Proto P Time).Obeys (aboutPort P deviceName about) :=
  .vis trivial fun _ _ => trivial

/-! ## PP -/

namespace EyouCan

variable (hnode : (CanType.PP, node) ∈ about)

include hnode in
theorem publish_about {f : AxisKey → SharedDriverState → SharedDriverState}
    (hf : ∀ key s key', key' ≠ key → (f key s).getAxisFeedback key' = s.getAxisFeedback key') :
    (publish node f).Obeys (aboutPort EyouCan deviceName about) := by
  refine .vis (fun _ h => h) fun s hs => .ite (.vis ?_ fun _ _ => trivial) trivial
  have hkey : s.axisKey node = nodeKey deviceName (.PP, node) := axisKey_eq hs node
  refine touches_of_key hnode fun shared key => ?_
  exact hkey ▸ hf _ shared key

include hnode in
theorem syncSharedFeedback_about (st : EyouMotorState) :
    (syncSharedFeedback node st).Obeys (aboutPort EyouCan deviceName about) :=
  now_about.bind fun _ => publish_about hnode fun _ _ _ h => by simp [h]

include hnode in
theorem syncSharedCommand_about (targetPosition targetVelocity : Int32) (desiredMode : MotorMode)
    (valid : Bool) : (syncSharedCommand node targetPosition targetVelocity desiredMode valid).Obeys
      (aboutPort EyouCan deviceName about) :=
  now_about.bind fun _ => publish_about hnode fun _ _ _ h => by simp [h]

include hnode in
theorem syncSharedModeSelection_about (desiredMode : MotorMode) :
    (syncSharedModeSelection node desiredMode).Obeys (aboutPort EyouCan deviceName about) :=
  publish_about hnode fun _ _ _ h => by simp [h]

include hnode in
theorem syncSharedIntent_about (intent : AxisIntent) :
    (syncSharedIntent node intent).Obeys (aboutPort EyouCan deviceName about) :=
  publish_about hnode fun _ _ _ h => by simp [h]

theorem registerManagedMotorId_about (hid : Canonical (.PP, motorId))
    (habout : protocolNode (.PP, motorId) ∈ about) :
    (registerManagedMotorId motorId).Obeys (aboutPort EyouCan deviceName about) := by
  refine .vis (fun _ => mapsRight_remember hid) fun _ _ => .vis (fun _ h => h) fun s hs =>
    .ite (.vis (touches_of_key habout fun shared key hkey => ?_) fun _ _ => trivial) trivial
  have hdevice : s.deviceName = deviceName := hs.device
  rw [(nodeKey_eq_iff hid).2 rfl, ← hdevice] at hkey
  exact SharedDriverState.getAxisFeedback_touchAxis_of_ne hkey

/-- An update that leaves the object's name and map alone. -/
theorem modify_about {f : EyouCan → EyouCan} (hname : ∀ s, (f s).deviceName = s.deviceName)
    (hids : ∀ s, (f s).systemMotorIdsByNodeId = s.systemMotorIdsByNodeId) :
    (Proto.modify f).Obeys (aboutPort EyouCan deviceName about) :=
  .vis (fun s h => ⟨(hname s).trans h.device, fun n id' hn => h.ids n id' (by
    simpa [NodeMap.ids, hids s] using hn)⟩) fun _ _ => trivial

theorem access_about {f : EyouCan → α × EyouCan}
    (hname : ∀ s, (f s).2.deviceName = s.deviceName)
    (hids : ∀ s, (f s).2.systemMotorIdsByNodeId = s.systemMotorIdsByNodeId) :
    (Proto.access f).Obeys (aboutPort EyouCan deviceName about) :=
  .vis (fun s h => ⟨(hname s).trans h.device, fun n id' hn => h.ids n id' (by
    simpa [NodeMap.ids, hids s] using hn)⟩) fun _ _ => trivial

theorem submitTx_about (frame : Frame) (category : Category) (source : TxSource) :
    (submitTx frame category source).Obeys (aboutPort EyouCan deviceName about) :=
  .vis (fun _ h => h) fun _ _ => .ite (.vis trivial fun _ _ => trivial) trivial

theorem sendWriteCommand_about (motorId subCommand : UInt8) (value : UInt32) (payloadBytes : Nat)
    (commandType : UInt8) :
    (sendWriteCommand motorId subCommand value payloadBytes commandType).Obeys
      (aboutPort EyouCan deviceName about) := by
  refine .vis (fun _ h => h) fun _ _ => .ite ((submitTx_about _ _ _).bind fun _ =>
    .ite (modify_about (fun s => ?_) fun s => ?_) trivial) trivial
  · split
    · rfl
    · split <;> rfl
  · split
    · rfl
    · split <;> rfl

theorem sendMaybeFast_about (motorId subCommand : UInt8) (value : UInt32) :
    (sendMaybeFast motorId subCommand value).Obeys (aboutPort EyouCan deviceName about) :=
  .vis (fun _ h => h) fun _ _ => .ite
    ((sendWriteCommand_about _ _ _ _ _).bind fun _ => sendWriteCommand_about _ _ _ _ _)
    (sendWriteCommand_about _ _ _ _ _)

theorem tryIssueReadCommand_about (motorId subCommand : UInt8) :
    (tryIssueReadCommand motorId subCommand).Obeys (aboutPort EyouCan deviceName about) := by
  refine .vis (fun _ h => h) fun _ _ => .ite trivial ?_
  refine .vis (fun _ h => ⟨h.device, h.ids⟩) fun _ _ => .ite (.bind ?_ fun _ => trivial) trivial
  refine .vis (fun _ h => h) fun _ _ => .ite (.ite (.vis trivial fun _ _ => trivial) ?_) trivial
  refine .vis trivial fun t _ => .vis (fun s h => ?_) fun _ _ => trivial
  unfold onReadDispatchResult
  split
  · exact h
  · split
    · exact h
    · exact ⟨h.device, h.ids⟩

theorem withController_about {p : Proto EyouCan Bool}
    (hp : p.Obeys (aboutPort EyouCan deviceName about)) :
    (withController p).Obeys (aboutPort EyouCan deviceName about) :=
  .vis (fun _ h => h) fun _ _ => .ite hp trivial

/-! ### commands -/

section

variable (hid : Canonical (.PP, motorId)) (habout : protocolNode (.PP, motorId) ∈ about)

include hid habout

theorem setMode_about (mode : MotorMode) :
    (setMode motorId mode).Obeys (aboutPort EyouCan deviceName about) :=
  withController_about <| (registerManagedMotorId_about hid habout).bind fun _ =>
    .bind (modify_about (fun _ => rfl) fun _ => rfl) fun _ =>
      (syncSharedModeSelection_about habout _).bind fun _ =>
        (sendWriteCommand_about _ _ _ _ _).bind fun _ => trivial

theorem setVelocity_about (velocity : Int32) :
    (setVelocity motorId velocity).Obeys (aboutPort EyouCan deviceName about) :=
  withController_about <| (registerManagedMotorId_about hid habout).bind fun _ =>
    .bind (modify_about (fun _ => rfl) fun _ => rfl) fun _ =>
      (syncSharedCommand_about habout _ _ _ _).bind fun _ =>
        (sendMaybeFast_about _ _ _).bind fun _ => trivial

omit hid habout in
theorem ensurePositionVelocityConfigured_about (motorId : UInt8) (velocityRaw : Int32)
    (forceWrite : Bool) : (ensurePositionVelocityConfigured motorId velocityRaw forceWrite).Obeys
      (aboutPort EyouCan deviceName about) := by
  refine .ite trivial (.bind (.vis (fun s h => ?_) fun _ _ => trivial) fun _ => .ite
    ((sendMaybeFast_about _ _ _).bind fun _ => trivial) trivial)
  unfold notePositionVelocity
  dsimp only
  split <;> exact ⟨h.device, h.ids⟩

theorem setPosition_about (position : Int32) :
    (setPosition motorId position).Obeys (aboutPort EyouCan deviceName about) :=
  withController_about <| (registerManagedMotorId_about hid habout).bind fun _ =>
    .bind (modify_about (fun _ => rfl) fun _ => rfl) fun _ =>
      (syncSharedCommand_about habout _ _ _ _).bind fun _ => (gets_about _).bind fun _ =>
        (ensurePositionVelocityConfigured_about _ _ _).bind fun _ => .ite
          ((sendMaybeFast_about _ _ _).bind fun _ => trivial) trivial

theorem quickSetPosition_about (position : Int32) :
    (quickSetPosition motorId position).Obeys (aboutPort EyouCan deviceName about) :=
  withController_about <| (registerManagedMotorId_about hid habout).bind fun _ =>
    .bind (modify_about (fun _ => rfl) fun _ => rfl) fun _ =>
      (syncSharedCommand_about habout _ _ _ _).bind fun _ => (gets_about _).bind fun _ =>
        (ensurePositionVelocityConfigured_about _ _ _).bind fun _ => .ite
          ((sendWriteCommand_about _ _ _ _ _).bind fun _ => trivial) trivial

/-- A register write after the id has been registered. -/
theorem write_about (subCommand : UInt8) (value : UInt32) (payloadBytes : Nat) :
    (withController do
      registerManagedMotorId motorId
      sendWriteCommand (toProtocolNodeId motorId) subCommand value payloadBytes
      pure true).Obeys (aboutPort EyouCan deviceName about) :=
  withController_about <| (registerManagedMotorId_about hid habout).bind fun _ =>
    (sendWriteCommand_about _ _ _ _ _).bind fun _ => trivial

/-- `Enable` and `Disable`. -/
theorem enable_about (intent : AxisIntent) (value : UInt32)
    (f : EyouMotorState → EyouMotorState) : (withController do
      registerManagedMotorId motorId
      Proto.modify fun s => s.setMotorState (toProtocolNodeId motorId) f
      syncSharedIntent (toProtocolNodeId motorId) intent
      sendWriteCommand (toProtocolNodeId motorId) 0x10 value 4
      let _ ← requestEnable (toProtocolNodeId motorId)
      pure true).Obeys (aboutPort EyouCan deviceName about) :=
  withController_about <| (registerManagedMotorId_about hid habout).bind fun _ =>
    .bind (modify_about (fun _ => rfl) fun _ => rfl) fun _ =>
      (syncSharedIntent_about habout _).bind fun _ =>
        (sendWriteCommand_about _ _ _ _ _).bind fun _ =>
          (tryIssueReadCommand_about _ _).bind fun _ => trivial

theorem stop_about : (stop motorId).Obeys (aboutPort EyouCan deviceName about) :=
  withController_about <| (registerManagedMotorId_about hid habout).bind fun _ =>
    (syncSharedIntent_about habout _).bind fun _ =>
      (sendWriteCommand_about _ _ _ _ _).bind fun _ => trivial

omit hid habout in
theorem markReadResponseReceived_about (motorId subCommand : UInt8) :
    (markReadResponseReceived motorId subCommand).Obeys (aboutPort EyouCan deviceName about) := by
  refine now_about.bind fun _ => modify_about (fun _ => ?_) fun _ => ?_
  · split <;> rfl
  · split <;> rfl

theorem resetFault_about : (resetFault motorId).Obeys (aboutPort EyouCan deviceName about) :=
  withController_about <| (registerManagedMotorId_about hid habout).bind fun _ =>
    (syncSharedIntent_about habout _).bind fun _ =>
      (sendWriteCommand_about _ _ _ _ _).bind fun _ =>
        (markReadResponseReceived_about _ _).bind fun _ =>
          (tryIssueReadCommand_about _ _).bind fun _ => trivial

theorem getCached_about (f : EyouMotorState → α) (default : α) :
    (getCached motorId f default).Obeys (aboutPort EyouCan deviceName about) :=
  (registerManagedMotorId_about hid habout).bind fun _ => gets_about _

theorem motorCall_about (call : MotorCall) :
    (motorCall motorId call).Obeys (aboutPort EyouCan deviceName about) := by
  cases call with
  | setMode mode => exact (setMode_about hid habout mode).discard
  | setVelocity v => exact (setVelocity_about hid habout v).discard
  | setAcceleration a => exact (write_about hid habout _ _ _).discard
  | setDeceleration d => exact (write_about hid habout _ _ _).discard
  | setPosition x => exact (setPosition_about hid habout x).discard
  | quickSetPosition x => exact (quickSetPosition_about hid habout x).discard
  | enable => exact (enable_about hid habout _ _ _).discard
  | disable => exact (enable_about hid habout _ _ _).discard
  | stop => exact (stop_about hid habout).discard
  | resetFault => exact (resetFault_about hid habout).discard
  | _ => exact (getCached_about hid habout _ _).discard

theorem configurePositionLimits_about (minRaw maxRaw : Int32) (enable : Bool) :
    (configurePositionLimits motorId minRaw maxRaw enable).Obeys
      (aboutPort EyouCan deviceName about) :=
  withController_about <| .ite trivial <| (registerManagedMotorId_about hid habout).bind fun _ =>
    (sendWriteCommand_about _ _ _ _ _).bind fun _ =>
      (sendWriteCommand_about _ _ _ _ _).bind fun _ =>
        (sendWriteCommand_about _ _ _ _ _).bind fun _ => trivial

omit hid habout in
theorem awaitWriteAck_about (motorId subCommand : UInt8) :
    (awaitWriteAck motorId subCommand).Obeys (aboutPort EyouCan deviceName about) :=
  (gets_about _).bind fun _ => .ite trivial trivial

theorem setPositionOffset_about (offsetRaw : Int32) :
    (setPositionOffset motorId offsetRaw).Obeys (aboutPort EyouCan deviceName about) :=
  withController_about <| (registerManagedMotorId_about hid habout).bind fun _ =>
    (gets_about _).bind fun _ => .ite
      (.bind (modify_about (fun _ => rfl) fun _ => rfl) fun _ =>
        (sendWriteCommand_about _ _ _ _ _).bind fun _ => awaitWriteAck_about _ _) trivial

omit hid habout in
theorem pollState_about (motorId : UInt8) (found : EyouMotorState → Option α) (deadline : Time)
    (polls : Nat) :
    (pollState motorId found deadline polls).Obeys (aboutPort EyouCan deviceName about) := by
  induction polls with
  | zero => trivial
  | succ polls ih =>
      refine now_about.bind fun _ => .ite ((gets_about _).bind fun st => ?_) trivial
      cases st.bind found with
      | none => exact ih
      | some a => trivial

/-- The two blocking reads. -/
theorem blockingRead_about (subCommand : UInt8) (f : EyouMotorState → EyouMotorState)
    (found : EyouMotorState → Option α) : (do
      let s ← Proto.gets fun s : EyouCan => s
      if s.canController then
        registerManagedMotorId motorId
        Proto.modify fun s => s.setMotorState (toProtocolNodeId motorId) f
        let issued ← tryIssueReadCommand (toProtocolNodeId motorId) subCommand
        if issued then
          let t ← Proto.now
          pollState (toProtocolNodeId motorId) found (t + ms 200) 20
        else pure none
      else pure none).Obeys (aboutPort EyouCan deviceName about) :=
  (gets_about _).bind fun _ => .ite ((registerManagedMotorId_about hid habout).bind fun _ =>
    .bind (modify_about (fun _ => rfl) fun _ => rfl) fun _ =>
      (tryIssueReadCommand_about _ _).bind fun _ => .ite
        (now_about.bind fun _ => pollState_about _ _ _ _) trivial) trivial

omit hid habout in
theorem persistAttempts_about (motorId : UInt8) (payload : Vector UInt8 4) (attempts : Nat) :
    (persistAttempts motorId payload attempts).Obeys (aboutPort EyouCan deviceName about) := by
  induction attempts with
  | zero => trivial
  | succ attempts ih =>
      refine .bind ?_ fun _ => .ite trivial ih
      refine (gets_about _).bind fun _ => .ite (.bind (modify_about (fun _ => rfl) fun _ => rfl)
        fun _ => (submitTx_about _ _ _).bind fun _ => .ite ?_ trivial) trivial
      exact .bind (modify_about (fun _ => rfl) fun _ => rfl) fun _ => awaitWriteAck_about _ _

theorem persistParameters_about :
    (persistParameters motorId).Obeys (aboutPort EyouCan deviceName about) := by
  refine withController_about (.bind (blockingRead_about hid habout _ _ _) fun serial => ?_)
  cases serial with
  | none => trivial
  | some serialNumber =>
      exact (registerManagedMotorId_about hid habout).bind fun _ => persistAttempts_about _ _ _

/-- The per-motor velocity presets. -/
theorem preset_about (velocityRaw : Int32) {f : EyouCan → EyouCan}
    (hname : ∀ s, (f s).deviceName = s.deviceName)
    (hids : ∀ s, (f s).systemMotorIdsByNodeId = s.systemMotorIdsByNodeId) :
    (if velocityRaw ≤ 0 then pure () else do
      registerManagedMotorId motorId
      Proto.modify f).Obeys (aboutPort EyouCan deviceName about) :=
  .ite trivial ((registerManagedMotorId_about hid habout).bind fun _ => modify_about hname hids)

theorem issueRefreshQuery_about (query : PpRefreshQuery) :
    (issueRefreshQuery motorId query).Obeys (aboutPort EyouCan deviceName about) := by
  refine (registerManagedMotorId_about hid habout).bind fun _ => ?_
  cases query <;> exact tryIssueReadCommand_about _ _

omit hid habout in
theorem handleResponse_about {frame : Frame}
    (hnode : ∀ n, responseNode frame = some n → (CanType.PP, n) ∈ about) :
    (handleResponse frame).Obeys (aboutPort EyouCan deviceName about) := by
  refine (gets_about _).bind fun s => .ite trivial ?_
  cases hn : responseNode frame with
  | none => trivial
  | some motorId =>
      refine .ite (.bind (modify_about (fun _ => rfl) fun _ => rfl) fun _ => .ite ?_ (.ite ?_ ?_))
        trivial
      · refine .bind (modify_about (fun _ => rfl) fun _ => rfl) fun _ => .ite (.bind ?_ fun _ =>
          trivial) trivial
        unfold resyncAfter
        split
        all_goals first | exact tryIssueReadCommand_about _ _ | trivial
      · exact (markReadResponseReceived_about _ _).bind fun _ =>
          .bind (access_about (fun _ => rfl) fun _ => rfl) fun _ =>
            syncSharedFeedback_about (hnode _ hn) _
      · trivial

omit hid habout in
theorem initializeMotorRefresh_about {ids : List MotorID} (hids : ∀ id ∈ ids, Canonical (.PP, id))
    (habout : ∀ id ∈ ids, protocolNode (.PP, id) ∈ about) :
    (initializeMotorRefresh ids).Obeys (aboutPort EyouCan deviceName about) := by
  have hload : ∀ s : EyouCan, MapsRight deviceName s → MapsRight deviceName (loadMotors ids s) := by
    have hfold : ∀ s : EyouCan, MapsRight deviceName s →
        MapsRight deviceName (ids.foldl addMotor s) := by
      clear habout
      induction ids with
      | nil => exact fun _ h => h
      | cons id ids ih =>
          rw [List.forall_mem_cons] at hids
          refine fun s h => ih hids.2 _ ?_
          exact ⟨(mapsRight_remember hids.1 h).device, (mapsRight_remember hids.1 h).ids⟩
    exact fun s h => hfold _ ⟨h.device, fun _ _ hn => by simp [NodeMap.ids] at hn⟩
  refine .bind (.vis hload fun _ _ => trivial) fun _ => .vis (fun _ h => h) fun s hs => ?_
  have hdevice : s.deviceName = deviceName := hs.device
  refine .ite (.vis ?_ fun _ _ => ?_) ?_
  · exact hdevice ▸ touches_registerIds hids habout
  · exact modify_about (fun _ => rfl) fun _ => rfl
  · exact modify_about (fun _ => rfl) fun _ => rfl

end

end EyouCan

/-! ## MT -/

namespace MtCan

variable (hnode : (CanType.MT, node) ∈ about)

include hnode in
theorem publish_about {f : AxisKey → SharedDriverState → SharedDriverState}
    (hf : ∀ key s key', key' ≠ key → (f key s).getAxisFeedback key' = s.getAxisFeedback key') :
    (publish node f).Obeys (aboutPort MtCan deviceName about) := by
  refine .vis (fun _ h => h) fun s hs => .ite (.vis ?_ fun _ _ => trivial) trivial
  have hkey : s.axisKey node = nodeKey deviceName (.MT, node) := axisKey_eq hs node
  refine touches_of_key hnode fun shared key => ?_
  exact hkey ▸ hf _ shared key

include hnode in
theorem syncSharedFeedback_about (st : MtMotorState) :
    (syncSharedFeedback node st).Obeys (aboutPort MtCan deviceName about) :=
  now_about.bind fun _ => publish_about hnode fun _ _ _ h => by simp [h]

include hnode in
theorem syncSharedCommand_about (targetPosition targetVelocity : Int32) (desiredMode : MotorMode)
    (valid : Bool) : (syncSharedCommand node targetPosition targetVelocity desiredMode valid).Obeys
      (aboutPort MtCan deviceName about) :=
  now_about.bind fun _ => publish_about hnode fun _ _ _ h => by simp [h]

include hnode in
theorem syncSharedModeSelection_about (desiredMode : MotorMode) :
    (syncSharedModeSelection node desiredMode).Obeys (aboutPort MtCan deviceName about) :=
  publish_about hnode fun _ _ _ h => by simp [h]

include hnode in
theorem syncSharedIntent_about (intent : AxisIntent) :
    (syncSharedIntent node intent).Obeys (aboutPort MtCan deviceName about) :=
  publish_about hnode fun _ _ _ h => by simp [h]

include hnode in
theorem noteSharedTimeout_about (consecutiveTimeouts : Nat) :
    (noteSharedTimeout node consecutiveTimeouts).Obeys (aboutPort MtCan deviceName about) :=
  publish_about hnode fun _ _ _ h => by simp [h]

theorem rememberSystemMotorId_about (hid : Canonical (.MT, motorId)) :
    (rememberSystemMotorId motorId).Obeys (aboutPort MtCan deviceName about) :=
  .vis (fun _ => mapsRight_remember hid) fun _ _ => trivial

/-- An update that leaves the object's name and map alone. -/
theorem access_about {f : MtCan → α × MtCan} (hname : ∀ s, (f s).2.deviceName = s.deviceName)
    (hids : ∀ s, (f s).2.systemMotorIdsByNodeId = s.systemMotorIdsByNodeId) :
    (Proto.access f).Obeys (aboutPort MtCan deviceName about) :=
  .vis (fun s h => ⟨(hname s).trans h.device, fun n id' hn => h.ids n id' (by
    simpa [NodeMap.ids, hids s] using hn)⟩) fun _ _ => trivial

theorem modify_about {f : MtCan → MtCan} (hname : ∀ s, (f s).deviceName = s.deviceName)
    (hids : ∀ s, (f s).systemMotorIdsByNodeId = s.systemMotorIdsByNodeId) :
    (Proto.modify f).Obeys (aboutPort MtCan deviceName about) :=
  .vis (fun s h => ⟨(hname s).trans h.device, fun n id' hn => h.ids n id' (by
    simpa [NodeMap.ids, hids s] using hn)⟩) fun _ _ => trivial

theorem submitTx_about (frame : Frame) (category : Category) (source : TxSource) :
    (submitTx frame category source).Obeys (aboutPort MtCan deviceName about) :=
  .vis (fun _ h => h) fun _ _ => .ite (.vis trivial fun _ _ => trivial) trivial

theorem withController_about {p : Proto MtCan Bool}
    (hp : p.Obeys (aboutPort MtCan deviceName about)) :
    (withController p).Obeys (aboutPort MtCan deviceName about) :=
  .vis (fun _ h => h) fun _ _ => .ite hp trivial

include hnode in
theorem requestRead_about (command : MtRmd.Command) (source : TxSource) :
    (requestRead node command source).Obeys (aboutPort MtCan deviceName about) := by
  refine (gets_about _).bind fun _ => .ite (.bind ?_ fun _ => .ite (.ite (.vis trivial fun _ _ =>
    trivial) (now_about.bind fun _ => .bind (modify_about (fun s => ?_) fun s => ?_) fun _ =>
    trivial)) trivial) trivial
  · refine (gets_about _).bind fun _ => .ite trivial <| now_about.bind fun _ =>
      (gets_about _).bind fun _ => .bind (access_about (fun s => ?_) fun s => ?_) fun decision => ?_
    · unfold claimRead
      dsimp only
      repeat' split
      all_goals rfl
    · unfold claimRead
      dsimp only
      repeat' split
      all_goals rfl
    · cases decision with
      | delayed timeouts => exact (noteSharedTimeout_about hnode _).bind fun _ => trivial
      | _ => trivial
  · unfold onReadDispatchResult
    split
    · rfl
    · split <;> rfl
  · unfold onReadDispatchResult
    split
    · rfl
    · split <;> rfl

theorem markReadResponseReceived_about (node command : UInt8) :
    (markReadResponseReceived node command).Obeys (aboutPort MtCan deviceName about) := by
  refine modify_about (fun s => ?_) fun s => ?_
  · unfold answerRead
    split <;> rfl
  · unfold answerRead
    split <;> rfl

/-! ### commands -/

section

variable (hid : Canonical (.MT, motorId)) (habout : protocolNode (.MT, motorId) ∈ about)

include hid habout

theorem setMode_about (mode : MotorMode) :
    (setMode motorId mode).Obeys (aboutPort MtCan deviceName about) :=
  (rememberSystemMotorId_about hid).bind fun _ =>
    .bind (modify_about (fun _ => rfl) fun _ => rfl) fun _ =>
      (syncSharedModeSelection_about habout _).bind fun _ => trivial

theorem setVelocity_about (velocity : Int32) :
    (setVelocity motorId velocity).Obeys (aboutPort MtCan deviceName about) :=
  withController_about <| (rememberSystemMotorId_about hid).bind fun _ =>
    .bind (modify_about (fun _ => rfl) fun _ => rfl) fun _ =>
      (syncSharedCommand_about habout _ _ _ _).bind fun _ =>
        (submitTx_about _ _ _).bind fun _ => trivial

omit habout in
theorem setPlanned_about (index : UInt8) (dpsPerSec : UInt32) :
    (setPlanned index motorId dpsPerSec).Obeys (aboutPort MtCan deviceName about) :=
  (rememberSystemMotorId_about hid).bind fun _ => withController_about (submitTx_about _ _ _)

theorem setPosition_about (position : Int32) :
    (setPosition motorId position).Obeys (aboutPort MtCan deviceName about) :=
  withController_about <| (rememberSystemMotorId_about hid).bind fun _ =>
    .bind (access_about (fun _ => rfl) fun _ => rfl) fun _ =>
      (syncSharedCommand_about habout _ _ _ _).bind fun _ => submitTx_about _ _ _

theorem enable_about : (enable motorId).Obeys (aboutPort MtCan deviceName about) :=
  withController_about <| (rememberSystemMotorId_about hid).bind fun _ =>
    .bind (access_about (fun _ => rfl) fun _ => rfl) fun _ =>
      (syncSharedIntent_about habout _).bind fun _ =>
        (syncSharedFeedback_about habout _).bind fun _ => trivial

theorem disable_about : (disable motorId).Obeys (aboutPort MtCan deviceName about) :=
  withController_about <| (rememberSystemMotorId_about hid).bind fun _ =>
    .bind (access_about (fun _ => rfl) fun _ => rfl) fun _ =>
      (syncSharedIntent_about habout _).bind fun _ =>
        (syncSharedFeedback_about habout _).bind fun _ =>
          (submitTx_about _ _ _).bind fun _ => trivial

theorem stop_about : (stop motorId).Obeys (aboutPort MtCan deviceName about) :=
  withController_about <| (rememberSystemMotorId_about hid).bind fun _ =>
    (syncSharedIntent_about habout _).bind fun _ => (submitTx_about _ _ _).bind fun _ => trivial

theorem resetFault_about : (resetFault motorId).Obeys (aboutPort MtCan deviceName about) :=
  withController_about <| (rememberSystemMotorId_about hid).bind fun _ =>
    (syncSharedIntent_about habout _).bind fun _ => (submitTx_about _ _ _).bind fun _ =>
      (markReadResponseReceived_about _ _).bind fun _ =>
        (requestRead_about habout _ _).bind fun _ => trivial

theorem motorCall_about (call : MotorCall) :
    (motorCall motorId call).Obeys (aboutPort MtCan deviceName about) := by
  cases call with
  | setMode mode => exact (setMode_about hid habout mode).discard
  | setVelocity v => exact (setVelocity_about hid habout v).discard
  | setAcceleration a => exact (setPlanned_about hid _ _).discard
  | setDeceleration d => exact (setPlanned_about hid _ _).discard
  | setPosition x => exact (setPosition_about hid habout x).discard
  | quickSetPosition x => trivial
  | enable => exact (enable_about hid habout).discard
  | disable => exact (disable_about hid habout).discard
  | stop => exact (stop_about hid habout).discard
  | resetFault => exact (resetFault_about hid habout).discard
  | _ => exact (gets_about _).discard

theorem issueRefreshQuery_about (query : MtRefreshQuery) :
    (issueRefreshQuery motorId query).Obeys (aboutPort MtCan deviceName about) := by
  refine (rememberSystemMotorId_about hid).bind fun _ => ?_
  cases query <;> exact requestRead_about habout _ _

end

theorem sendCommunicationTimeouts_about (timeoutMs : UInt32) (nodes : List UInt8) :
    (sendCommunicationTimeouts timeoutMs nodes).Obeys (aboutPort MtCan deviceName about) := by
  induction nodes with
  | nil => trivial
  | cons node nodes ih => exact (submitTx_about _ _ _).bind fun _ => .ite ih trivial

theorem setCommunicationTimeout_about (timeoutMs : UInt32) :
    (setCommunicationTimeout timeoutMs).Obeys (aboutPort MtCan deviceName about) :=
  withController_about <| (gets_about _).bind fun _ => .ite trivial
    (sendCommunicationTimeouts_about _ _)

theorem handleResponse_about {frame : Frame}
    (hnode : (CanType.MT, MtRmd.responseNodeId (frame.id &&& 0x7FF)) ∈ about) :
    (handleResponse frame).Obeys (aboutPort MtCan deviceName about) := by
  generalize hn : MtRmd.responseNodeId (frame.id &&& 0x7FF) = n at hnode
  have hset : ∀ s : MtCan, (s.setMotorState n (decodeResponse frame)).deviceName =
      s.deviceName := fun _ => rfl
  have hrest : (Proto.access (fun s : MtCan => (decodeResponse frame (s.motorState n),
      s.setMotorState n (decodeResponse frame))) >>= fun snapshot => do
        if (MtRmd.Command.ofByte (frame.byte 0)).any Command.isPublished then
          syncSharedFeedback n snapshot
        if MtRmd.Command.ofByte (frame.byte 0) =
            some .writeCurrentMultiTurnPositionToRomAsZero then
          let _ ← resetSystem n
          pure ()).Obeys (aboutPort MtCan deviceName about) := by
    refine .bind (access_about hset fun _ => rfl) fun snapshot => ?_
    refine .ite ((syncSharedFeedback_about hnode snapshot).bind fun _ => ?_) ?_
    all_goals exact .ite ((submitTx_about _ _ _).bind fun _ => trivial) trivial
  subst hn
  refine (gets_about _).bind fun _ => .ite trivial (.ite trivial ?_)
  exact .ite ((markReadResponseReceived_about _ _).bind fun _ => hrest) hrest

theorem initializeMotorRefresh_about {ids : List MotorID} (hids : ∀ id ∈ ids, Canonical (.MT, id))
    (habout : ∀ id ∈ ids, protocolNode (.MT, id) ∈ about) :
    (initializeMotorRefresh ids).Obeys (aboutPort MtCan deviceName about) := by
  have hload : ∀ s : MtCan, MapsRight deviceName s → MapsRight deviceName (loadMotors ids s) := by
    have hfold : ∀ s : MtCan, MapsRight deviceName s →
        MapsRight deviceName (ids.foldl addMotor s) := by
      clear habout
      induction ids with
      | nil => exact fun _ h => h
      | cons id ids ih =>
          rw [List.forall_mem_cons] at hids
          refine fun s h => ih hids.2 _ ?_
          exact ⟨(mapsRight_remember hids.1 h).device, (mapsRight_remember hids.1 h).ids⟩
    exact fun s h => hfold _ ⟨h.device, fun _ _ hn => by simp [NodeMap.ids] at hn⟩
  have hrest : ∀ s : MtCan, (resetReadTracking >>= fun _ => if ids.isEmpty then pure () else
      setCommunicationTimeout s.communicationTimeoutOnInitMs >>= fun _ => pure ()).Obeys
        (aboutPort MtCan deviceName about) := fun s =>
    .bind (modify_about (fun _ => rfl) fun _ => rfl) fun _ => .ite trivial
      ((setCommunicationTimeout_about _).bind fun _ => trivial)
  refine .bind (.vis hload fun _ _ => trivial) fun _ => .vis (fun _ h => h) fun s hs => ?_
  have hdevice : s.deviceName = deviceName := hs.device
  refine .ite (.vis ?_ fun _ _ => hrest s) (hrest s)
  exact hdevice ▸ touches_registerIds hids habout

end MtCan

/-! ## DM -/

namespace DamiaoCan

variable (hnode : (CanType.DM, node) ∈ about)

include hnode in
theorem publish_about {f : AxisKey → SharedDriverState → SharedDriverState}
    (hf : ∀ key s key', key' ≠ key → (f key s).getAxisFeedback key' = s.getAxisFeedback key') :
    (publish node f).Obeys (aboutPort DamiaoCan deviceName about) := by
  refine .vis (fun _ h => h) fun s hs => .ite (.vis ?_ fun _ _ => trivial) trivial
  have hkey : s.axisKey node = nodeKey deviceName (.DM, node) := axisKey_eq hs node
  refine touches_of_key hnode fun shared key => ?_
  exact hkey ▸ hf _ shared key

include hnode in
theorem syncSharedFeedback_about (st : DmMotorState) :
    (syncSharedFeedback node st).Obeys (aboutPort DamiaoCan deviceName about) :=
  now_about.bind fun _ => publish_about hnode fun _ _ _ h => by simp [h]

include hnode in
theorem syncSharedCommand_about (targetVelocity : Int32) (valid : Bool) :
    (syncSharedCommand node targetVelocity valid).Obeys (aboutPort DamiaoCan deviceName about) :=
  now_about.bind fun _ => publish_about hnode fun _ _ _ h => by simp [h]

include hnode in
theorem syncSharedModeSelection_about (desiredMode : MotorMode) :
    (syncSharedModeSelection node desiredMode).Obeys (aboutPort DamiaoCan deviceName about) :=
  publish_about hnode fun _ _ _ h => by simp [h]

include hnode in
theorem syncSharedIntent_about (intent : AxisIntent) :
    (syncSharedIntent node intent).Obeys (aboutPort DamiaoCan deviceName about) :=
  publish_about hnode fun _ _ _ h => by simp [h]

theorem registerManagedMotorId_about (hid : Canonical (.DM, motorId))
    (habout : protocolNode (.DM, motorId) ∈ about) :
    (registerManagedMotorId motorId).Obeys (aboutPort DamiaoCan deviceName about) := by
  refine .vis (fun _ => mapsRight_remember hid) fun _ _ => .vis (fun _ h => h) fun s hs =>
    .ite (.vis (touches_of_key habout fun shared key hkey => ?_) fun _ _ => trivial) trivial
  have hdevice : s.deviceName = deviceName := hs.device
  rw [(nodeKey_eq_iff hid).2 rfl, ← hdevice] at hkey
  exact SharedDriverState.getAxisFeedback_touchAxis_of_ne hkey

/-- An update that leaves the object's name and map alone. -/
theorem access_about {f : DamiaoCan → α × DamiaoCan}
    (hname : ∀ s, (f s).2.deviceName = s.deviceName)
    (hids : ∀ s, (f s).2.systemMotorIdsByNodeId = s.systemMotorIdsByNodeId) :
    (Proto.access f).Obeys (aboutPort DamiaoCan deviceName about) :=
  .vis (fun s h => ⟨(hname s).trans h.device, fun n id' hn => h.ids n id' (by
    simpa [NodeMap.ids, hids s] using hn)⟩) fun _ _ => trivial

theorem modify_about {f : DamiaoCan → DamiaoCan} (hname : ∀ s, (f s).deviceName = s.deviceName)
    (hids : ∀ s, (f s).systemMotorIdsByNodeId = s.systemMotorIdsByNodeId) :
    (Proto.modify f).Obeys (aboutPort DamiaoCan deviceName about) :=
  .vis (fun s h => ⟨(hname s).trans h.device, fun n id' hn => h.ids n id' (by
    simpa [NodeMap.ids, hids s] using hn)⟩) fun _ _ => trivial

theorem submitTx_about (frame : Frame) (category : Category) (source : TxSource) :
    (submitTx frame category source).Obeys (aboutPort DamiaoCan deviceName about) :=
  .vis (fun _ h => h) fun _ _ => .ite (.vis trivial fun _ _ => trivial) trivial

theorem writeRegisterAndWaitForAck_about (motorId registerId : UInt8) (value : UInt32) :
    (writeRegisterAndWaitForAck motorId registerId value).Obeys
      (aboutPort DamiaoCan deviceName about) :=
  (gets_about _).bind fun _ => .ite (.bind (modify_about (fun _ => rfl) fun _ => rfl) fun _ =>
    (submitTx_about _ _ _).bind fun _ => .ite (access_about (fun _ => rfl) fun _ => rfl) trivial)
      trivial

include hnode in
theorem ensureVelocityModeConfigured_about :
    (ensureVelocityModeConfigured node).Obeys (aboutPort DamiaoCan deviceName about) :=
  (gets_about _).bind fun _ => .ite trivial <|
    (writeRegisterAndWaitForAck_about _ _ _).bind fun _ => .ite
      (.bind (modify_about (fun _ => rfl) fun _ => rfl) fun _ =>
        (syncSharedModeSelection_about hnode _).bind fun _ => trivial) trivial

/-! ### commands -/

section

variable (hid : Canonical (.DM, motorId)) (habout : protocolNode (.DM, motorId) ∈ about)

include hid habout

theorem setMode_about (mode : MotorMode) :
    (setMode motorId mode).Obeys (aboutPort DamiaoCan deviceName about) :=
  .ite ((registerManagedMotorId_about hid habout).bind fun _ =>
    (ensureVelocityModeConfigured_about habout).bind fun _ => .ite
      ((syncSharedModeSelection_about habout _).bind fun _ => trivial) trivial) trivial

theorem setVelocity_about (velocity : Int32) :
    (setVelocity motorId velocity).Obeys (aboutPort DamiaoCan deviceName about) :=
  (registerManagedMotorId_about hid habout).bind fun _ =>
    (ensureVelocityModeConfigured_about habout).bind fun _ => .ite
      (.bind (modify_about (fun _ => rfl) fun _ => rfl) fun _ =>
        (syncSharedCommand_about habout _ _).bind fun _ =>
          (syncSharedIntent_about habout _).bind fun _ => submitTx_about _ _ _) trivial

theorem setAcceleration_about (acceleration : Int32) :
    (setAcceleration motorId acceleration).Obeys (aboutPort DamiaoCan deviceName about) :=
  (registerManagedMotorId_about hid habout).bind fun _ =>
    .bind (modify_about (fun _ => rfl) fun _ => rfl) fun _ => trivial

theorem setDeceleration_about (deceleration : Int32) :
    (setDeceleration motorId deceleration).Obeys (aboutPort DamiaoCan deviceName about) :=
  (registerManagedMotorId_about hid habout).bind fun _ =>
    .bind (modify_about (fun _ => rfl) fun _ => rfl) fun _ => trivial

theorem enable_about : (enable motorId).Obeys (aboutPort DamiaoCan deviceName about) :=
  (registerManagedMotorId_about hid habout).bind fun _ =>
    (ensureVelocityModeConfigured_about habout).bind fun _ => .ite
      ((syncSharedModeSelection_about habout _).bind fun _ =>
        (syncSharedIntent_about habout _).bind fun _ =>
          (submitTx_about _ _ _).bind fun _ => .ite
            ((submitTx_about _ _ _).bind fun _ => .ite (gets_about _) trivial) trivial) trivial

theorem disable_about : (disable motorId).Obeys (aboutPort DamiaoCan deviceName about) :=
  (registerManagedMotorId_about hid habout).bind fun _ =>
    .bind (modify_about (fun _ => rfl) fun _ => rfl) fun _ =>
      (syncSharedCommand_about habout _ _).bind fun _ =>
        (syncSharedIntent_about habout _).bind fun _ =>
          (submitTx_about _ _ _).bind fun _ => .ite
            ((submitTx_about _ _ _).bind fun _ => .ite (gets_about _) trivial) trivial

theorem stop_about : (stop motorId).Obeys (aboutPort DamiaoCan deviceName about) :=
  (registerManagedMotorId_about hid habout).bind fun _ =>
    .bind (modify_about (fun _ => rfl) fun _ => rfl) fun _ =>
      (syncSharedCommand_about habout _ _).bind fun _ =>
        (syncSharedIntent_about habout _).bind fun _ => submitTx_about _ _ _

theorem resetFault_about : (resetFault motorId).Obeys (aboutPort DamiaoCan deviceName about) :=
  (registerManagedMotorId_about hid habout).bind fun _ =>
    (syncSharedIntent_about habout _).bind fun _ => submitTx_about _ _ _

theorem motorCall_about (call : MotorCall) :
    (motorCall motorId call).Obeys (aboutPort DamiaoCan deviceName about) := by
  cases call with
  | setMode mode => exact (setMode_about hid habout mode).discard
  | setVelocity v => exact (setVelocity_about hid habout v).discard
  | setAcceleration a => exact (setAcceleration_about hid habout a).discard
  | setDeceleration d => exact (setDeceleration_about hid habout d).discard
  | setPosition x => trivial
  | quickSetPosition x => trivial
  | enable => exact (enable_about hid habout).discard
  | disable => exact (disable_about hid habout).discard
  | stop => exact (stop_about hid habout).discard
  | resetFault => exact (resetFault_about hid habout).discard
  | _ => exact (gets_about _).discard

theorem issueRefreshQuery_about (query : DmRefreshQuery) :
    (issueRefreshQuery motorId query).Obeys (aboutPort DamiaoCan deviceName about) :=
  (gets_about _).bind fun _ => .ite trivial <|
    (registerManagedMotorId_about hid habout).bind fun _ =>
      (gets_about _).bind fun _ => submitTx_about _ _ _

end

theorem handleFeedback_about {frame : Frame} (hnode : (CanType.DM, frame.byte 0 &&& 0x0F) ∈ about) :
    (handleFeedback frame).Obeys (aboutPort DamiaoCan deviceName about) :=
  .ite trivial <| (gets_about _).bind fun _ => .ite
    (.bind (access_about (fun _ => rfl) fun _ => rfl) fun _ => syncSharedFeedback_about hnode _)
    trivial

theorem handleResponse_about {frame : Frame} (hnode : (CanType.DM, frame.byte 0 &&& 0x0F) ∈ about) :
    (handleResponse frame).Obeys (aboutPort DamiaoCan deviceName about) := by
  refine .ite trivial (.ite (.bind (access_about (fun s => ?_) fun s => ?_) fun _ => .ite trivial
    (handleFeedback_about hnode)) (handleFeedback_about hnode))
  · unfold matchRegisterAck
    dsimp only
    split <;> rfl
  · unfold matchRegisterAck
    dsimp only
    split <;> rfl

theorem initializeMotorRefresh_about {ids : List MotorID} (hids : ∀ id ∈ ids, Canonical (.DM, id))
    (habout : ∀ id ∈ ids, protocolNode (.DM, id) ∈ about) :
    (initializeMotorRefresh ids).Obeys (aboutPort DamiaoCan deviceName about) := by
  have hload : ∀ s : DamiaoCan, MapsRight deviceName s →
      MapsRight deviceName (loadMotors ids s) := by
    have hfold : ∀ s : DamiaoCan, MapsRight deviceName s →
        MapsRight deviceName (ids.foldl addMotor s) := by
      clear habout
      induction ids with
      | nil => exact fun _ h => h
      | cons id ids ih =>
          rw [List.forall_mem_cons] at hids
          refine fun s h => ih hids.2 _ ?_
          exact ⟨(mapsRight_remember hids.1 h).device, (mapsRight_remember hids.1 h).ids⟩
    exact fun s h => hfold _ ⟨h.device, fun _ _ hn => by simp [NodeMap.ids] at hn⟩
  refine .bind (.vis hload fun _ _ => trivial) fun _ => .vis (fun _ h => h) fun s hs => ?_
  have hdevice : s.deviceName = deviceName := hs.device
  exact .ite (.vis (hdevice ▸ touches_registerIds hids habout) fun _ _ => trivial) trivial

end DamiaoCan

end CanDriver
