import CanDriver.Feedback.Discipline

/-!
# CanDriver.Feedback.Calls

Every call keeps its discipline: what is issued locally tells nothing new, and the
handlers report what they have decoded.
-/

namespace CanDriver

open Interact Prog Proto

variable {deviceName : String}

/-! ## from the port to the device -/

/-- The operations of a protocol that tell nothing new of its motors. -/
def LocalPort (updates : (P → P) → Prop) : PortOp P → Prop
  | .proto f => updates f
  | .shared f => Untold f
  | .submit _ => True
  | .clock => True

namespace EyouCan

/-- An update that leaves the identity of the object and its motor states alone. -/
theorem localUpdate_of_eq {f : EyouCan → EyouCan} (hname : ∀ s, (f s).deviceName = s.deviceName)
    (hids : ∀ s, (f s).systemMotorIdsByNodeId = s.systemMotorIdsByNodeId)
    (hcontroller : ∀ s, (f s).canController = s.canController)
    (hdispatcher : ∀ s, (f s).txDispatcher = s.txDispatcher)
    (hstates : ∀ (s : EyouCan) n, (s.motorState n).Forgets ((f s).motorState n)) : LocalUpdate deviceName f := by
  intro s hs
  have hroutes : Routed deviceName (f s) :=
    ⟨(hname s).trans hs.device, fun n id hn => hs.ids n id (by
      have hn : (f s).systemMotorIdsByNodeId n = some id := hn
      rwa [hids s] at hn)⟩
  exact ⟨⟨hroutes, (hcontroller s).trans hs.controller, (hdispatcher s).trans hs.dispatcher⟩,
    hstates s⟩

theorem forgets_refl (st : EyouMotorState) : st.Forgets st :=
  ⟨fun h => ⟨h, rfl⟩, id, fun h => ⟨h, rfl⟩, id, fun h => ⟨h, rfl⟩⟩

/-- Changing what is known of one motor to no more than that. -/
theorem local_of_forgets {s : EyouCan} (hs : Sound deviceName s) (node : UInt8)
    {f : EyouMotorState → EyouMotorState} (hf : (s.motorState node).Forgets (f (s.motorState node))) :
    Sound deviceName (s.setMotorState node f) ∧
      ∀ n, (s.motorState n).Forgets ((s.setMotorState node f).motorState n) := by
  refine ⟨⟨⟨hs.device, hs.ids⟩, hs.controller, hs.dispatcher⟩, fun n => ?_⟩
  by_cases hn : n = node
  · subst hn
    simpa [setMotorState, motorState] using hf
  · simpa [setMotorState, motorState, put_of_ne _ _ hn] using forgets_refl (s.motorState n)

theorem localUpdate_setMotorState (node : UInt8) {f : EyouMotorState → EyouMotorState}
    (hf : ∀ st : EyouMotorState, st.Forgets (f st)) :
    LocalUpdate deviceName fun s => s.setMotorState node f :=
  fun _ hs => local_of_forgets hs node (hf _)

/-- An update that leaves the motor states alone. -/
theorem localUpdate_of_states {f : EyouCan → EyouCan}
    (hname : ∀ s, (f s).deviceName = s.deviceName)
    (hids : ∀ s, (f s).systemMotorIdsByNodeId = s.systemMotorIdsByNodeId)
    (hcontroller : ∀ s, (f s).canController = s.canController)
    (hdispatcher : ∀ s, (f s).txDispatcher = s.txDispatcher)
    (hstates : ∀ s, (f s).motorStates = s.motorStates) : LocalUpdate deviceName f :=
  localUpdate_of_eq hname hids hcontroller hdispatcher fun s n => by
    rw [motorState, motorState, hstates s]
    exact forgets_refl _

theorem localUpdate_id : LocalUpdate deviceName (fun s : EyouCan => s) :=
  fun s hs => ⟨hs, fun n => forgets_refl (s.motorState n)⟩

theorem sound_remember {s : EyouCan} (motorId : MotorID) (hs : Sound deviceName s) :
    Sound deviceName (s.remember motorId) := by
  refine ⟨⟨hs.device, fun n id hn => ?_⟩, hs.controller, hs.dispatcher⟩
  have hn : put s.systemMotorIdsByNodeId (toProtocolNodeId motorId) motorId n = some id := hn
  by_cases h : n = toProtocolNodeId motorId
  · subst h
    rw [put_self, Option.some.injEq] at hn
    subst hn
    rfl
  · exact hs.ids n id (by rwa [put_of_ne _ _ h] at hn)

theorem localUpdate_remember (motorId : MotorID) :
    LocalUpdate deviceName fun s => s.remember motorId :=
  fun s hs => ⟨sound_remember motorId hs, fun n => forgets_refl (s.motorState n)⟩

theorem localUpdate_onReadDispatchResult (node subCommand : UInt8) (sent : Bool)
    (result : SendResult) (t : Time) :
    LocalUpdate deviceName (onReadDispatchResult node subCommand sent result t) := by
  intro s hs
  unfold onReadDispatchResult
  split
  · exact localUpdate_id s hs
  · split
    · exact localUpdate_id s hs
    · exact ⟨⟨⟨hs.device, hs.ids⟩, hs.controller, hs.dispatcher⟩,
        fun n => forgets_refl (s.motorState n)⟩

/-! ## PP -/

variable {motorId : MotorID} {node : UInt8}

theorem local_modify {f : EyouCan → EyouCan} (hf : LocalUpdate deviceName f) :
    (modify f).Stays (LocalPort (LocalUpdate deviceName)) :=
  .vis hf fun _ => trivial

theorem local_gets (f : EyouCan → α) : (gets f).Stays (LocalPort (LocalUpdate deviceName)) :=
  .vis localUpdate_id fun _ => trivial

theorem local_now : (now : Proto EyouCan Time).Stays (LocalPort (LocalUpdate deviceName)) :=
  .vis trivial fun _ => trivial

theorem local_publish {f : AxisKey → SharedDriverState → SharedDriverState}
    (hf : ∀ key, Untold (f key)) :
    (publish node f).Stays (LocalPort (LocalUpdate deviceName)) :=
  (local_gets _).bind fun _ => .ite (.vis (hf _) fun _ => trivial) trivial

theorem local_syncSharedCommand (targetPosition targetVelocity : Int32) (desiredMode : MotorMode)
    (valid : Bool) : (syncSharedCommand node targetPosition targetVelocity desiredMode valid).Stays
      (LocalPort (LocalUpdate deviceName)) :=
  local_now.bind fun _ => local_publish fun _ => untold_mutateAxisCommand _ _

theorem local_syncSharedModeSelection (desiredMode : MotorMode) :
    (syncSharedModeSelection node desiredMode).Stays (LocalPort (LocalUpdate deviceName)) :=
  local_publish fun _ => untold_mutateAxisCommand _ _

theorem local_syncSharedIntent (intent : AxisIntent) :
    (syncSharedIntent node intent).Stays (LocalPort (LocalUpdate deviceName)) :=
  local_publish fun _ => untold_setAxisIntent _ _

theorem local_registerManagedMotorId (motorId : MotorID) :
    (registerManagedMotorId motorId).Stays (LocalPort (LocalUpdate deviceName)) :=
  (local_modify (localUpdate_remember motorId)).bind fun _ => (local_gets _).bind fun _ =>
    .ite (.vis (untold_registerAxis _) fun _ => trivial) trivial

theorem local_submitTx (frame : Frame) (category : Category) (source : TxSource) :
    (submitTx frame category source).Stays (LocalPort (LocalUpdate deviceName)) :=
  (local_gets _).bind fun _ => .ite (.vis trivial fun _ => trivial) trivial

theorem local_sendWriteCommand (node subCommand : UInt8) (value : UInt32) (payloadBytes : Nat)
    (commandType : UInt8) : (sendWriteCommand node subCommand value payloadBytes commandType).Stays
      (LocalPort (LocalUpdate deviceName)) := by
  refine (local_gets _).bind fun _ => .ite ((local_submitTx _ _ _).bind fun _ => .ite
    (local_modify ?_) trivial) trivial
  refine localUpdate_of_states ?_ ?_ ?_ ?_ ?_
  all_goals
    intro s
    split
    · rfl
    · split <;> rfl

theorem local_sendMaybeFast (node subCommand : UInt8) (value : UInt32) :
    (sendMaybeFast node subCommand value).Stays (LocalPort (LocalUpdate deviceName)) :=
  (local_gets _).bind fun _ => .ite
    ((local_sendWriteCommand _ _ _ _ _).bind fun _ => local_sendWriteCommand _ _ _ _ _)
    (local_sendWriteCommand _ _ _ _ _)

theorem local_tryIssueReadCommand (node subCommand : UInt8) :
    (tryIssueReadCommand node subCommand).Stays (LocalPort (LocalUpdate deviceName)) := by
  refine (local_gets _).bind fun _ => .ite trivial (.bind (.vis ?_ fun _ => trivial) fun _ => .ite
    (.bind ?_ fun _ => trivial) trivial)
  · exact localUpdate_of_states (fun _ => rfl) (fun _ => rfl) (fun _ => rfl) (fun _ => rfl)
      fun _ => rfl
  · exact (local_gets _).bind fun _ => .ite (.ite (.vis trivial fun _ => trivial)
      (local_now.bind fun _ => local_modify (localUpdate_onReadDispatchResult _ _ _ _ _))) trivial

theorem local_withController {p : Proto EyouCan Bool}
    (hp : p.Stays (LocalPort (LocalUpdate deviceName))) :
    (withController p).Stays (LocalPort (LocalUpdate deviceName)) :=
  (local_gets _).bind fun _ => .ite hp trivial

/-! ### commands -/

theorem local_setMode (mode : MotorMode) :
    (setMode motorId mode).Stays (LocalPort (LocalUpdate deviceName)) := by
  refine local_withController ((local_registerManagedMotorId _).bind fun _ => .bind
    (local_modify (localUpdate_setMotorState _ fun st => ?_)) fun _ =>
      (local_syncSharedModeSelection _).bind fun _ =>
        (local_sendWriteCommand _ _ _ _ _).bind fun _ => trivial)
  exact ⟨fun h => ⟨h, rfl⟩, id, fun h => ⟨h, rfl⟩, id, fun h => ⟨h, rfl⟩⟩

theorem local_setVelocity (velocity : Int32) :
    (setVelocity motorId velocity).Stays (LocalPort (LocalUpdate deviceName)) :=
  local_withController <| (local_registerManagedMotorId _).bind fun _ =>
    .bind (local_modify (localUpdate_setMotorState _ fun _ =>
      ⟨fun h => ⟨h, rfl⟩, id, fun h => ⟨h, rfl⟩, id, fun h => ⟨h, rfl⟩⟩)) fun _ =>
        (local_syncSharedCommand _ _ _ _).bind fun _ =>
          (local_sendMaybeFast _ _ _).bind fun _ => trivial

theorem local_ensurePositionVelocityConfigured (node : UInt8) (velocityRaw : Int32)
    (forceWrite : Bool) : (ensurePositionVelocityConfigured node velocityRaw forceWrite).Stays
      (LocalPort (LocalUpdate deviceName)) := by
  refine .ite trivial (.bind (.vis (fun s hs => ?_) fun _ => trivial) fun _ => .ite
    ((local_sendMaybeFast _ _ _).bind fun _ => trivial) trivial)
  unfold notePositionVelocity
  dsimp only
  split
  all_goals
    dsimp only
    refine local_of_forgets hs _ ?_
    exact ⟨fun h => ⟨h, rfl⟩, id, fun h => ⟨h, rfl⟩, id, fun h => ⟨h, rfl⟩⟩

theorem local_setPosition (position : Int32) :
    (setPosition motorId position).Stays (LocalPort (LocalUpdate deviceName)) :=
  local_withController <| (local_registerManagedMotorId _).bind fun _ =>
    .bind (local_modify (localUpdate_setMotorState _ fun _ =>
      ⟨fun h => ⟨h, rfl⟩, id, fun h => ⟨h, rfl⟩, id, fun h => ⟨h, rfl⟩⟩)) fun _ =>
        (local_syncSharedCommand _ _ _ _).bind fun _ => (local_gets _).bind fun _ =>
          (local_ensurePositionVelocityConfigured _ _ _).bind fun _ => .ite
            ((local_sendMaybeFast _ _ _).bind fun _ => trivial) trivial

theorem local_quickSetPosition (position : Int32) :
    (quickSetPosition motorId position).Stays (LocalPort (LocalUpdate deviceName)) :=
  local_withController <| (local_registerManagedMotorId _).bind fun _ =>
    .bind (local_modify (localUpdate_setMotorState _ fun _ =>
      ⟨fun h => ⟨h, rfl⟩, id, fun h => ⟨h, rfl⟩, id, fun h => ⟨h, rfl⟩⟩)) fun _ =>
        (local_syncSharedCommand _ _ _ _).bind fun _ => (local_gets _).bind fun _ =>
          (local_ensurePositionVelocityConfigured _ _ _).bind fun _ => .ite
            ((local_sendWriteCommand _ _ _ _ _).bind fun _ => trivial) trivial

/-- A register write after the id has been registered. -/
theorem local_write (subCommand : UInt8) (value : UInt32) (payloadBytes : Nat) :
    (withController do
      registerManagedMotorId motorId
      sendWriteCommand (toProtocolNodeId motorId) subCommand value payloadBytes
      pure true).Stays (LocalPort (LocalUpdate deviceName)) :=
  local_withController <| (local_registerManagedMotorId _).bind fun _ =>
    (local_sendWriteCommand _ _ _ _ _).bind fun _ => trivial

/-- `Enable` and `Disable`. -/
theorem local_switch (intent : AxisIntent) (value : UInt32) {f : EyouMotorState → EyouMotorState}
    (hf : ∀ st : EyouMotorState, st.Forgets (f st)) : (withController do
      registerManagedMotorId motorId
      modify fun s => s.setMotorState (toProtocolNodeId motorId) f
      syncSharedIntent (toProtocolNodeId motorId) intent
      sendWriteCommand (toProtocolNodeId motorId) 0x10 value 4
      let _ ← requestEnable (toProtocolNodeId motorId)
      pure true).Stays (LocalPort (LocalUpdate deviceName)) :=
  local_withController <| (local_registerManagedMotorId _).bind fun _ =>
    .bind (local_modify (localUpdate_setMotorState _ hf)) fun _ =>
      (local_syncSharedIntent _).bind fun _ => (local_sendWriteCommand _ _ _ _ _).bind fun _ =>
        (local_tryIssueReadCommand _ _).bind fun _ => trivial

theorem local_enable : (enable motorId).Stays (LocalPort (LocalUpdate deviceName)) :=
  local_switch (f := fun st => { st with positionVelocityConfigured := false, enabledReceived := false })
    _ _ fun _ => ⟨fun h => ⟨h, rfl⟩, id, by simp, id, fun h => ⟨h, rfl⟩⟩

theorem local_disable : (disable motorId).Stays (LocalPort (LocalUpdate deviceName)) :=
  local_switch (f := fun st => { st with enabledReceived := false })
    _ _ fun _ => ⟨fun h => ⟨h, rfl⟩, id, by simp, id, fun h => ⟨h, rfl⟩⟩

theorem local_stop : (stop motorId).Stays (LocalPort (LocalUpdate deviceName)) :=
  local_withController <| (local_registerManagedMotorId _).bind fun _ =>
    (local_syncSharedIntent _).bind fun _ =>
      (local_sendWriteCommand _ _ _ _ _).bind fun _ => trivial

theorem localUpdate_markReadResponse (node subCommand : UInt8) (t : Time) :
    LocalUpdate deviceName fun s => match s.pendingReadRequests (node, subCommand) with
      | none => s
      | some request =>
          let answered := { request with lastResponse := t, queued := false, inFlight := false }
          { s with
            pendingReadRequests := put s.pendingReadRequests (node, subCommand) answered } := by
  refine localUpdate_of_states ?_ ?_ ?_ ?_ ?_
  all_goals
    intro s
    split <;> rfl

theorem local_markReadResponseReceived (node subCommand : UInt8) :
    (markReadResponseReceived node subCommand).Stays (LocalPort (LocalUpdate deviceName)) :=
  local_now.bind fun _ => local_modify (localUpdate_markReadResponse _ _ _)

theorem local_resetFault : (resetFault motorId).Stays (LocalPort (LocalUpdate deviceName)) :=
  local_withController <| (local_registerManagedMotorId _).bind fun _ =>
    (local_syncSharedIntent _).bind fun _ => (local_sendWriteCommand _ _ _ _ _).bind fun _ =>
      (local_markReadResponseReceived _ _).bind fun _ =>
        (local_tryIssueReadCommand _ _).bind fun _ => trivial

theorem local_getCached (f : EyouMotorState → α) (default : α) :
    (getCached motorId f default).Stays (LocalPort (LocalUpdate deviceName)) :=
  (local_registerManagedMotorId _).bind fun _ => local_gets _

theorem local_motorCall (call : MotorCall) :
    (motorCall motorId call).Stays (LocalPort (LocalUpdate deviceName)) := by
  cases call with
  | setMode mode => exact (local_setMode mode).bind fun _ => trivial
  | setVelocity v => exact (local_setVelocity v).bind fun _ => trivial
  | setAcceleration a => exact (local_write _ _ _).bind fun _ => trivial
  | setDeceleration d => exact (local_write _ _ _).bind fun _ => trivial
  | setPosition x => exact (local_setPosition x).bind fun _ => trivial
  | quickSetPosition x => exact (local_quickSetPosition x).bind fun _ => trivial
  | enable => exact local_enable.bind fun _ => trivial
  | disable => exact local_disable.bind fun _ => trivial
  | stop => exact local_stop.bind fun _ => trivial
  | resetFault => exact local_resetFault.bind fun _ => trivial
  | _ => exact (local_getCached _ _).bind fun _ => trivial

theorem local_configurePositionLimits (minRaw maxRaw : Int32) (enable : Bool) :
    (configurePositionLimits motorId minRaw maxRaw enable).Stays
      (LocalPort (LocalUpdate deviceName)) :=
  local_withController <| .ite trivial <| (local_registerManagedMotorId _).bind fun _ =>
    (local_sendWriteCommand _ _ _ _ _).bind fun _ =>
      (local_sendWriteCommand _ _ _ _ _).bind fun _ =>
        (local_sendWriteCommand _ _ _ _ _).bind fun _ => trivial

theorem local_awaitWriteAck (node subCommand : UInt8) :
    (awaitWriteAck node subCommand).Stays (LocalPort (LocalUpdate deviceName)) :=
  (local_gets _).bind fun _ => .ite trivial trivial

theorem local_clearWriteAck (node subCommand : UInt8) :
    (modify (clearWriteAck node subCommand)).Stays (LocalPort (LocalUpdate deviceName)) :=
  local_modify (localUpdate_of_states (fun _ => rfl) (fun _ => rfl) (fun _ => rfl) (fun _ => rfl)
    fun _ => rfl)

theorem local_setPositionOffset (offsetRaw : Int32) :
    (setPositionOffset motorId offsetRaw).Stays (LocalPort (LocalUpdate deviceName)) :=
  local_withController <| (local_registerManagedMotorId _).bind fun _ =>
    (local_gets _).bind fun _ => .ite ((local_clearWriteAck _ _).bind fun _ =>
      (local_sendWriteCommand _ _ _ _ _).bind fun _ => local_awaitWriteAck _ _) trivial

theorem local_pollState (node : UInt8) (found : EyouMotorState → Option α) (deadline : Time)
    (polls : Nat) :
    (pollState node found deadline polls).Stays (LocalPort (LocalUpdate deviceName)) := by
  induction polls with
  | zero => trivial
  | succ polls ih =>
      refine local_now.bind fun _ => .ite ((local_gets _).bind fun st => ?_) trivial
      cases st.bind found with
      | none => exact ih
      | some a => trivial

/-- The two blocking reads. -/
theorem local_blockingRead (subCommand : UInt8) {f : EyouMotorState → EyouMotorState}
    (hf : ∀ st : EyouMotorState, st.Forgets (f st)) (found : EyouMotorState → Option α) : (do
      let s ← gets fun s : EyouCan => s
      if s.canController then
        registerManagedMotorId motorId
        modify fun s => s.setMotorState (toProtocolNodeId motorId) f
        let issued ← tryIssueReadCommand (toProtocolNodeId motorId) subCommand
        if issued then
          let t ← now
          pollState (toProtocolNodeId motorId) found (t + ms 200) 20
        else pure none
      else pure none).Stays (LocalPort (LocalUpdate deviceName)) :=
  (local_gets _).bind fun _ => .ite ((local_registerManagedMotorId _).bind fun _ =>
    .bind (local_modify (localUpdate_setMotorState _ hf)) fun _ =>
      (local_tryIssueReadCommand _ _).bind fun _ => .ite
        (local_now.bind fun _ => local_pollState _ _ _ _) trivial) trivial

theorem local_readPositionOffset :
    (readPositionOffset motorId).Stays (LocalPort (LocalUpdate deviceName)) :=
  local_blockingRead (f := fun st => { st with positionOffsetReceived := false }) _
    (fun _ => ⟨fun h => ⟨h, rfl⟩, id, fun h => ⟨h, rfl⟩, id, fun h => ⟨h, rfl⟩⟩) _

theorem local_readSerialNumber :
    (readSerialNumber motorId).Stays (LocalPort (LocalUpdate deviceName)) :=
  local_blockingRead (f := fun st => { st with serialNumberReceived := false }) _
    (fun _ => ⟨fun h => ⟨h, rfl⟩, id, fun h => ⟨h, rfl⟩, id, fun h => ⟨h, rfl⟩⟩) _

theorem local_persistAttempts (node : UInt8) (payload : Vector UInt8 4) (attempts : Nat) :
    (persistAttempts node payload attempts).Stays (LocalPort (LocalUpdate deviceName)) := by
  induction attempts with
  | zero => trivial
  | succ attempts ih =>
      refine .bind ?_ fun _ => .ite trivial ih
      refine (local_gets _).bind fun _ => .ite ((local_clearWriteAck _ _).bind fun _ =>
        (local_submitTx _ _ _).bind fun _ => .ite (.bind ?_ fun _ => local_awaitWriteAck _ _)
          trivial) trivial
      exact local_modify (localUpdate_of_states (fun _ => rfl) (fun _ => rfl) (fun _ => rfl)
        (fun _ => rfl) fun _ => rfl)

theorem local_persistParameters :
    (persistParameters motorId).Stays (LocalPort (LocalUpdate deviceName)) := by
  refine local_withController (local_readSerialNumber.bind fun serial => ?_)
  cases serial with
  | none => trivial
  | some serialNumber =>
      exact (local_registerManagedMotorId _).bind fun _ => local_persistAttempts _ _ _

/-- An update of the settings. -/
theorem local_setting {f : EyouCan → EyouCan} (hname : ∀ s, (f s).deviceName = s.deviceName)
    (hids : ∀ s, (f s).systemMotorIdsByNodeId = s.systemMotorIdsByNodeId)
    (hcontroller : ∀ s, (f s).canController = s.canController)
    (hdispatcher : ∀ s, (f s).txDispatcher = s.txDispatcher)
    (hstates : ∀ s, (f s).motorStates = s.motorStates) :
    (modify f).Stays (LocalPort (LocalUpdate deviceName)) :=
  local_modify (localUpdate_of_states hname hids hcontroller hdispatcher hstates)

theorem local_issueRefreshQuery (query : PpRefreshQuery) :
    (issueRefreshQuery motorId query).Stays (LocalPort (LocalUpdate deviceName)) := by
  refine (local_registerManagedMotorId _).bind fun _ => ?_
  cases query <;> exact local_tryIssueReadCommand _ _

theorem local_initializeMotorRefresh (ids : List MotorID) :
    (initializeMotorRefresh ids).Stays (LocalPort (LocalUpdate deviceName)) := by
  have hload : LocalUpdate deviceName (loadMotors ids) := by
    have hfold : ∀ s, Sound deviceName s → Sound deviceName (ids.foldl addMotor s) ∧
        (ids.foldl addMotor s).motorStates = s.motorStates := by
      induction ids with
      | nil => exact fun s hs => ⟨hs, rfl⟩
      | cons id ids ih =>
          intro s hs
          have hadd := sound_remember id hs
          exact ih (s.addMotor id) ⟨⟨hadd.device, hadd.ids⟩, hadd.controller, hadd.dispatcher⟩
    intro s hs
    have hclear : Sound deviceName { s with
        refreshMotorIds := [], managedMotorIds := [], systemMotorIdsByNodeId := fun _ => none } :=
      ⟨⟨hs.device, fun _ _ hn => by simp [NodeMap.ids] at hn⟩, hs.controller, hs.dispatcher⟩
    obtain ⟨hsound, hstates⟩ := hfold _ hclear
    refine ⟨hsound, fun n => ?_⟩
    have hn : (loadMotors ids s).motorState n = s.motorState n := by
      rw [motorState, loadMotors, hstates]
      rfl
    rw [hn]
    exact forgets_refl _
  have hreset : resetReadTracking.Stays (LocalPort (LocalUpdate deviceName)) :=
    local_setting (fun _ => rfl) (fun _ => rfl) (fun _ => rfl) (fun _ => rfl) fun _ => rfl
  refine (local_modify hload).bind fun _ => (local_gets _).bind fun s => .ite
    (.bind (.vis ?_ fun _ => trivial) fun _ => hreset) hreset
  exact untold_registerIds s.deviceName .PP ids

end EyouCan

/-! ## MT -/

namespace MtCan

variable {motorId : MotorID} {node : UInt8}

/-- Changing what is known of one motor to no more than that. -/
theorem local_of_forgets {s : MtCan} (hs : Routed deviceName s) (node : UInt8)
    {f : MtMotorState → MtMotorState} (hf : (s.motorState node).Forgets (f (s.motorState node))) :
    Routed deviceName (s.setMotorState node f) ∧
      ∀ n, (s.motorState n).Forgets ((s.setMotorState node f).motorState n) := by
  refine ⟨⟨hs.device, hs.ids⟩, fun n => ?_⟩
  by_cases hn : n = node
  · subst hn
    simpa [setMotorState, motorState] using hf
  · simp only [setMotorState, motorState, put_of_ne _ _ hn]
    exact ⟨fun h => ⟨h, rfl⟩⟩

theorem localUpdate_setMotorState (node : UInt8) {f : MtMotorState → MtMotorState}
    (hf : ∀ st : MtMotorState, st.Forgets (f st)) :
    LocalUpdate deviceName fun s => s.setMotorState node f :=
  fun _ hs => local_of_forgets hs node (hf _)

/-- An update that leaves the motor states alone. -/
theorem localUpdate_of_states {f : MtCan → MtCan} (hname : ∀ s, (f s).deviceName = s.deviceName)
    (hids : ∀ s, (f s).systemMotorIdsByNodeId = s.systemMotorIdsByNodeId)
    (hstates : ∀ s, (f s).motorStates = s.motorStates) : LocalUpdate deviceName f := by
  intro s hs
  refine ⟨⟨(hname s).trans hs.device, fun n id hn => hs.ids n id ?_⟩, fun n => ?_⟩
  · have hn : (f s).systemMotorIdsByNodeId n = some id := hn
    rwa [hids s] at hn
  · rw [motorState, motorState, hstates s]
    exact ⟨fun h => ⟨h, rfl⟩⟩

theorem localUpdate_id : LocalUpdate deviceName (fun s : MtCan => s) :=
  localUpdate_of_states (fun _ => rfl) (fun _ => rfl) fun _ => rfl

theorem routed_remember {s : MtCan} (motorId : MotorID) (hs : Routed deviceName s) :
    Routed deviceName (s.remember motorId) := by
  refine ⟨hs.device, fun n id hn => ?_⟩
  have hn : put s.systemMotorIdsByNodeId (toMtProtocolNodeId motorId) motorId n = some id := hn
  by_cases h : n = toMtProtocolNodeId motorId
  · subst h
    rw [put_self, Option.some.injEq] at hn
    subst hn
    rfl
  · exact hs.ids n id (by rwa [put_of_ne _ _ h] at hn)

theorem localUpdate_onReadDispatchResult (node command : UInt8) (sent : Bool)
    (result : SendResult) (t : Time) :
    LocalUpdate deviceName (onReadDispatchResult node command sent result t) := by
  refine localUpdate_of_states ?_ ?_ ?_
  all_goals
    intro s
    unfold onReadDispatchResult
    split
    · rfl
    · split <;> rfl

theorem local_modify {f : MtCan → MtCan} (hf : LocalUpdate deviceName f) :
    (modify f).Stays (LocalPort (LocalUpdate deviceName)) :=
  .vis hf fun _ => trivial

theorem local_access {f : MtCan → α × MtCan} (hf : LocalUpdate deviceName fun s => (f s).2) :
    (access f).Stays (LocalPort (LocalUpdate deviceName)) :=
  .vis hf fun _ => trivial

theorem local_gets (f : MtCan → α) : (gets f).Stays (LocalPort (LocalUpdate deviceName)) :=
  .vis localUpdate_id fun _ => trivial

theorem local_now : (now : Proto MtCan Time).Stays (LocalPort (LocalUpdate deviceName)) :=
  .vis trivial fun _ => trivial

theorem local_publish {f : AxisKey → SharedDriverState → SharedDriverState}
    (hf : ∀ key, Untold (f key)) :
    (publish node f).Stays (LocalPort (LocalUpdate deviceName)) :=
  (local_gets _).bind fun _ => .ite (.vis (hf _) fun _ => trivial) trivial

theorem local_syncSharedCommand (targetPosition targetVelocity : Int32) (desiredMode : MotorMode)
    (valid : Bool) : (syncSharedCommand node targetPosition targetVelocity desiredMode valid).Stays
      (LocalPort (LocalUpdate deviceName)) :=
  local_now.bind fun _ => local_publish fun _ => untold_mutateAxisCommand _ _

theorem local_syncSharedModeSelection (desiredMode : MotorMode) :
    (syncSharedModeSelection node desiredMode).Stays (LocalPort (LocalUpdate deviceName)) :=
  local_publish fun _ => untold_mutateAxisCommand _ _

theorem local_syncSharedIntent (intent : AxisIntent) :
    (syncSharedIntent node intent).Stays (LocalPort (LocalUpdate deviceName)) :=
  local_publish fun _ => untold_setAxisIntent _ _

theorem local_noteSharedTimeout {timeouts : Nat} (h : timeouts ≠ 0) :
    (noteSharedTimeout node timeouts).Stays (LocalPort (LocalUpdate deviceName)) :=
  local_publish fun _ => untold_timeout _ h _

theorem local_rememberSystemMotorId (motorId : MotorID) :
    (rememberSystemMotorId motorId).Stays (LocalPort (LocalUpdate deviceName)) :=
  local_modify fun _ hs => ⟨routed_remember motorId hs, fun _ => ⟨fun h => ⟨h, rfl⟩⟩⟩

theorem local_submitTx (frame : Frame) (category : Category) (source : TxSource) :
    (submitTx frame category source).Stays (LocalPort (LocalUpdate deviceName)) :=
  (local_gets _).bind fun _ => .ite (.vis trivial fun _ => trivial) trivial

theorem local_withController {p : Proto MtCan Bool}
    (hp : p.Stays (LocalPort (LocalUpdate deviceName))) :
    (withController p).Stays (LocalPort (LocalUpdate deviceName)) :=
  (local_gets _).bind fun _ => .ite hp trivial

/-- A read that has timed out is counted. -/
theorem timeouts_ne_zero {command : UInt8} {t timeout : Time} {s : MtCan} {timeouts : Nat}
    (h : (claimRead node command t timeout s).1 = .delayed timeouts) : timeouts ≠ 0 := by
  unfold claimRead at h
  dsimp only at h
  repeat' split at h
  all_goals cases h
  omega

theorem local_claimRead (node command : UInt8) (t timeout : Time) :
    LocalUpdate deviceName fun s => (claimRead node command t timeout s).2 := by
  refine localUpdate_of_states ?_ ?_ ?_
  all_goals
    intro s
    unfold claimRead
    dsimp only
    repeat' split
    all_goals rfl

theorem local_tryIssueReadCommand (node command : UInt8) :
    (tryIssueReadCommand node command).Stays (LocalPort (LocalUpdate deviceName)) := by
  refine (local_gets _).bind fun _ => .ite trivial (local_now.bind fun t => (local_gets _).bind
    fun timeout => .vis (local_claimRead _ _ _ _) fun s => ?_)
  dsimp only [Prog.bind]
  cases hdecision : (claimRead node command t timeout s).1 with
  | refused => trivial
  | delayed timeouts =>
      exact (local_noteSharedTimeout (timeouts_ne_zero hdecision)).bind fun _ => trivial
  | issued => trivial

theorem local_requestRead (node : UInt8) (command : MtRmd.Command) (source : TxSource) :
    (requestRead node command source).Stays (LocalPort (LocalUpdate deviceName)) :=
  (local_gets _).bind fun _ => .ite ((local_tryIssueReadCommand _ _).bind fun _ => .ite (.ite
    (.vis trivial fun _ => trivial) (local_now.bind fun _ =>
      (local_modify (localUpdate_onReadDispatchResult _ _ _ _ _)).bind fun _ => trivial))
    trivial) trivial

theorem local_markReadResponseReceived (node command : UInt8) :
    (markReadResponseReceived node command).Stays (LocalPort (LocalUpdate deviceName)) := by
  refine local_modify (localUpdate_of_states ?_ ?_ ?_)
  all_goals
    intro s
    unfold answerRead
    split <;> rfl

/-! ### commands -/

theorem local_setMode (mode : MotorMode) :
    (setMode motorId mode).Stays (LocalPort (LocalUpdate deviceName)) :=
  (local_rememberSystemMotorId _).bind fun _ =>
    .bind (local_modify (localUpdate_setMotorState _ fun _ => ⟨fun h => ⟨h, rfl⟩⟩)) fun _ =>
      (local_syncSharedModeSelection _).bind fun _ => trivial

theorem local_setVelocity (velocity : Int32) :
    (setVelocity motorId velocity).Stays (LocalPort (LocalUpdate deviceName)) :=
  local_withController <| (local_rememberSystemMotorId _).bind fun _ =>
    .bind (local_modify (localUpdate_setMotorState _ fun _ => ⟨fun h => ⟨h, rfl⟩⟩)) fun _ =>
      (local_syncSharedCommand _ _ _ _).bind fun _ => (local_submitTx _ _ _).bind fun _ => trivial

theorem local_setPlanned (index : UInt8) (dpsPerSec : UInt32) :
    (setPlanned index motorId dpsPerSec).Stays (LocalPort (LocalUpdate deviceName)) :=
  (local_rememberSystemMotorId _).bind fun _ => local_withController (local_submitTx _ _ _)

theorem local_setPosition (position : Int32) :
    (setPosition motorId position).Stays (LocalPort (LocalUpdate deviceName)) :=
  local_withController <| (local_rememberSystemMotorId _).bind fun _ =>
    .bind (local_access (localUpdate_setMotorState (f := fun st => { st with position }) _
      fun _ => ⟨fun h => ⟨h, rfl⟩⟩)) fun _ =>
      (local_syncSharedCommand _ _ _ _).bind fun _ => local_submitTx _ _ _

theorem local_stop : (stop motorId).Stays (LocalPort (LocalUpdate deviceName)) :=
  local_withController <| (local_rememberSystemMotorId _).bind fun _ =>
    (local_syncSharedIntent _).bind fun _ => (local_submitTx _ _ _).bind fun _ => trivial

theorem local_resetFault : (resetFault motorId).Stays (LocalPort (LocalUpdate deviceName)) :=
  local_withController <| (local_rememberSystemMotorId _).bind fun _ =>
    (local_syncSharedIntent _).bind fun _ => (local_submitTx _ _ _).bind fun _ =>
      (local_markReadResponseReceived _ _).bind fun _ =>
        (local_requestRead _ _ _).bind fun _ => trivial

/-- All motor calls but those that switch the motor. -/
theorem local_motorCall {call : MotorCall} (hon : call ≠ .enable) (hoff : call ≠ .disable) :
    (motorCall motorId call).Stays (LocalPort (LocalUpdate deviceName)) := by
  cases call with
  | enable => exact absurd rfl hon
  | disable => exact absurd rfl hoff
  | setMode mode => exact (local_setMode mode).bind fun _ => trivial
  | setVelocity v => exact (local_setVelocity v).bind fun _ => trivial
  | setAcceleration a => exact (local_setPlanned _ _).bind fun _ => trivial
  | setDeceleration d => exact (local_setPlanned _ _).bind fun _ => trivial
  | setPosition x => exact (local_setPosition x).bind fun _ => trivial
  | quickSetPosition x => trivial
  | stop => exact local_stop.bind fun _ => trivial
  | resetFault => exact local_resetFault.bind fun _ => trivial
  | _ => exact (local_gets _).bind fun _ => trivial

theorem local_issueRefreshQuery (query : MtRefreshQuery) :
    (issueRefreshQuery motorId query).Stays (LocalPort (LocalUpdate deviceName)) := by
  refine (local_rememberSystemMotorId _).bind fun _ => ?_
  cases query <;> exact local_requestRead _ _ _

theorem local_setCommunicationTimeout (timeoutMs : UInt32) :
    (setCommunicationTimeout timeoutMs).Stays (LocalPort (LocalUpdate deviceName)) := by
  have hsend : ∀ nodes, (sendCommunicationTimeouts timeoutMs nodes).Stays
      (LocalPort (LocalUpdate deviceName)) := by
    intro nodes
    induction nodes with
    | nil => trivial
    | cons node nodes ih => exact (local_submitTx _ _ _).bind fun _ => .ite ih trivial
  exact local_withController ((local_gets _).bind fun _ => .ite trivial (hsend _))

theorem local_setting {f : MtCan → MtCan} (hname : ∀ s, (f s).deviceName = s.deviceName)
    (hids : ∀ s, (f s).systemMotorIdsByNodeId = s.systemMotorIdsByNodeId)
    (hstates : ∀ s, (f s).motorStates = s.motorStates) :
    (modify f).Stays (LocalPort (LocalUpdate deviceName)) :=
  local_modify (localUpdate_of_states hname hids hstates)

theorem local_initializeMotorRefresh (ids : List MotorID) :
    (initializeMotorRefresh ids).Stays (LocalPort (LocalUpdate deviceName)) := by
  have hload : LocalUpdate deviceName (loadMotors ids) := by
    have hfold : ∀ s : MtCan, Routed deviceName s → Routed deviceName (ids.foldl addMotor s) ∧
        (ids.foldl addMotor s).motorStates = s.motorStates := by
      induction ids with
      | nil => exact fun s hs => ⟨hs, rfl⟩
      | cons id ids ih =>
          intro s hs
          have hadd := routed_remember id hs
          exact ih (s.addMotor id) ⟨hadd.device, hadd.ids⟩
    intro s hs
    obtain ⟨hrouted, hstates⟩ := hfold
      { s with refreshMotorIds := [], systemMotorIdsByNodeId := fun _ => none }
      ⟨hs.device, fun _ _ hn => by simp [NodeMap.ids] at hn⟩
    refine ⟨hrouted, fun n => ?_⟩
    have hn : (loadMotors ids s).motorState n = s.motorState n := by
      rw [motorState, loadMotors, hstates]
      rfl
    rw [hn]
    exact ⟨fun h => ⟨h, rfl⟩⟩
  have hrest : ∀ s : MtCan, (resetReadTracking >>= fun _ => if ids.isEmpty then pure () else
      setCommunicationTimeout s.communicationTimeoutOnInitMs >>= fun _ => pure ()).Stays
        (LocalPort (LocalUpdate deviceName)) := fun s =>
    .bind (local_setting (fun _ => rfl) (fun _ => rfl) fun _ => rfl) fun _ => .ite trivial
      ((local_setCommunicationTimeout _).bind fun _ => trivial)
  exact (local_modify hload).bind fun _ => (local_gets _).bind fun s => .ite
    (.bind (.vis (untold_registerIds s.deviceName .MT ids) fun _ => trivial) fun _ => hrest s)
    (hrest s)

end MtCan

/-! ## DM -/

namespace DamiaoCan

variable {motorId : MotorID} {node : UInt8}

/-- An update that leaves the identity of the object alone. -/
theorem localUpdate_of_eq {f : DamiaoCan → DamiaoCan}
    (hname : ∀ s, (f s).deviceName = s.deviceName)
    (hids : ∀ s, (f s).systemMotorIdsByNodeId = s.systemMotorIdsByNodeId) :
    LocalUpdate deviceName f := by
  refine fun s hs => ⟨(hname s).trans hs.device, fun n id hn => hs.ids n id ?_⟩
  have hn : (f s).systemMotorIdsByNodeId n = some id := hn
  rwa [hids s] at hn

theorem routed_remember {s : DamiaoCan} (motorId : MotorID) (hs : Routed deviceName s) :
    Routed deviceName (s.remember motorId) := by
  refine ⟨hs.device, fun n id hn => ?_⟩
  have hn : put s.systemMotorIdsByNodeId (toProtocolNodeId motorId) motorId n = some id := hn
  by_cases h : n = toProtocolNodeId motorId
  · subst h
    rw [put_self, Option.some.injEq] at hn
    subst hn
    rfl
  · exact hs.ids n id (by rwa [put_of_ne _ _ h] at hn)

theorem local_modify {f : DamiaoCan → DamiaoCan} (hname : ∀ s, (f s).deviceName = s.deviceName)
    (hids : ∀ s, (f s).systemMotorIdsByNodeId = s.systemMotorIdsByNodeId) :
    (modify f).Stays (LocalPort (LocalUpdate deviceName)) :=
  .vis (localUpdate_of_eq hname hids) fun _ => trivial

theorem local_access {f : DamiaoCan → α × DamiaoCan}
    (hname : ∀ s, (f s).2.deviceName = s.deviceName)
    (hids : ∀ s, (f s).2.systemMotorIdsByNodeId = s.systemMotorIdsByNodeId) :
    (access f).Stays (LocalPort (LocalUpdate deviceName)) :=
  .vis (localUpdate_of_eq hname hids) fun _ => trivial

theorem local_gets (f : DamiaoCan → α) : (gets f).Stays (LocalPort (LocalUpdate deviceName)) :=
  .vis (fun _ hs => hs) fun _ => trivial

theorem local_publish {f : AxisKey → SharedDriverState → SharedDriverState}
    (hf : ∀ key, Untold (f key)) :
    (publish node f).Stays (LocalPort (LocalUpdate deviceName)) :=
  (local_gets _).bind fun _ => .ite (.vis (hf _) fun _ => trivial) trivial

theorem local_syncSharedCommand (targetVelocity : Int32) (valid : Bool) :
    (syncSharedCommand node targetVelocity valid).Stays (LocalPort (LocalUpdate deviceName)) :=
  .bind (.vis trivial fun _ => trivial) fun _ => local_publish fun _ => untold_mutateAxisCommand _ _

theorem local_syncSharedModeSelection (desiredMode : MotorMode) :
    (syncSharedModeSelection node desiredMode).Stays (LocalPort (LocalUpdate deviceName)) :=
  local_publish fun _ => untold_mutateAxisCommand _ _

theorem local_syncSharedIntent (intent : AxisIntent) :
    (syncSharedIntent node intent).Stays (LocalPort (LocalUpdate deviceName)) :=
  local_publish fun _ => untold_setAxisIntent _ _

theorem local_registerManagedMotorId (motorId : MotorID) :
    (registerManagedMotorId motorId).Stays (LocalPort (LocalUpdate deviceName)) :=
  .bind (.vis (fun _ => routed_remember motorId) fun _ => trivial) fun _ => (local_gets _).bind
    fun _ => .ite (.vis (untold_registerAxis _) fun _ => trivial) trivial

theorem local_submitTx (frame : Frame) (category : Category) (source : TxSource) :
    (submitTx frame category source).Stays (LocalPort (LocalUpdate deviceName)) :=
  (local_gets _).bind fun _ => .ite (.vis trivial fun _ => trivial) trivial

theorem local_ensureVelocityModeConfigured (node : UInt8) :
    (ensureVelocityModeConfigured node).Stays (LocalPort (LocalUpdate deviceName)) := by
  have hwrite : (writeRegisterAndWaitForAck node kDamiaoControlModeRegister
      kDamiaoVelocityModeValue).Stays (LocalPort (LocalUpdate deviceName)) :=
    (local_gets _).bind fun _ => .ite (.bind (local_modify (fun _ => rfl) fun _ => rfl) fun _ =>
      (local_submitTx _ _ _).bind fun _ => .ite (local_access (fun _ => rfl) fun _ => rfl)
        trivial) trivial
  exact (local_gets _).bind fun _ => .ite trivial <| hwrite.bind fun _ => .ite
    (.bind (local_modify (fun _ => rfl) fun _ => rfl) fun _ =>
      (local_syncSharedModeSelection _).bind fun _ => trivial) trivial

/-! ### commands -/

theorem local_setMode (mode : MotorMode) :
    (setMode motorId mode).Stays (LocalPort (LocalUpdate deviceName)) :=
  .ite ((local_registerManagedMotorId _).bind fun _ =>
    (local_ensureVelocityModeConfigured _).bind fun _ => .ite
      ((local_syncSharedModeSelection _).bind fun _ => trivial) trivial) trivial

theorem local_setVelocity (velocity : Int32) :
    (setVelocity motorId velocity).Stays (LocalPort (LocalUpdate deviceName)) :=
  (local_registerManagedMotorId _).bind fun _ =>
    (local_ensureVelocityModeConfigured _).bind fun _ => .ite
      (.bind (local_modify (fun _ => rfl) fun _ => rfl) fun _ =>
        (local_syncSharedCommand _ _).bind fun _ => (local_syncSharedIntent _).bind fun _ =>
          local_submitTx _ _ _) trivial

theorem local_setAcceleration (acceleration : Int32) :
    (setAcceleration motorId acceleration).Stays (LocalPort (LocalUpdate deviceName)) :=
  (local_registerManagedMotorId _).bind fun _ =>
    .bind (local_modify (fun _ => rfl) fun _ => rfl) fun _ => trivial

theorem local_setDeceleration (deceleration : Int32) :
    (setDeceleration motorId deceleration).Stays (LocalPort (LocalUpdate deviceName)) :=
  (local_registerManagedMotorId _).bind fun _ =>
    .bind (local_modify (fun _ => rfl) fun _ => rfl) fun _ => trivial

theorem local_enable : (enable motorId).Stays (LocalPort (LocalUpdate deviceName)) :=
  (local_registerManagedMotorId _).bind fun _ =>
    (local_ensureVelocityModeConfigured _).bind fun _ => .ite
      ((local_syncSharedModeSelection _).bind fun _ => (local_syncSharedIntent _).bind fun _ =>
        (local_submitTx _ _ _).bind fun _ => .ite
          ((local_submitTx _ _ _).bind fun _ => .ite (local_gets _) trivial) trivial) trivial

theorem local_disable : (disable motorId).Stays (LocalPort (LocalUpdate deviceName)) :=
  (local_registerManagedMotorId _).bind fun _ =>
    .bind (local_modify (fun _ => rfl) fun _ => rfl) fun _ =>
      (local_syncSharedCommand _ _).bind fun _ => (local_syncSharedIntent _).bind fun _ =>
        (local_submitTx _ _ _).bind fun _ => .ite
          ((local_submitTx _ _ _).bind fun _ => .ite (local_gets _) trivial) trivial

theorem local_stop : (stop motorId).Stays (LocalPort (LocalUpdate deviceName)) :=
  (local_registerManagedMotorId _).bind fun _ =>
    .bind (local_modify (fun _ => rfl) fun _ => rfl) fun _ =>
      (local_syncSharedCommand _ _).bind fun _ => (local_syncSharedIntent _).bind fun _ =>
        local_submitTx _ _ _

theorem local_resetFault : (resetFault motorId).Stays (LocalPort (LocalUpdate deviceName)) :=
  (local_registerManagedMotorId _).bind fun _ => (local_syncSharedIntent _).bind fun _ =>
    local_submitTx _ _ _

theorem local_motorCall (call : MotorCall) :
    (motorCall motorId call).Stays (LocalPort (LocalUpdate deviceName)) := by
  cases call with
  | setMode mode => exact (local_setMode mode).bind fun _ => trivial
  | setVelocity v => exact (local_setVelocity v).bind fun _ => trivial
  | setAcceleration a => exact (local_setAcceleration a).bind fun _ => trivial
  | setDeceleration d => exact (local_setDeceleration d).bind fun _ => trivial
  | setPosition x => trivial
  | quickSetPosition x => trivial
  | enable => exact local_enable.bind fun _ => trivial
  | disable => exact local_disable.bind fun _ => trivial
  | stop => exact local_stop.bind fun _ => trivial
  | resetFault => exact local_resetFault.bind fun _ => trivial
  | _ => exact (local_gets _).bind fun _ => trivial

theorem local_issueRefreshQuery (query : DmRefreshQuery) :
    (issueRefreshQuery motorId query).Stays (LocalPort (LocalUpdate deviceName)) :=
  (local_gets _).bind fun _ => .ite trivial <| (local_registerManagedMotorId _).bind fun _ =>
    (local_gets _).bind fun _ => local_submitTx _ _ _

theorem local_initializeMotorRefresh (ids : List MotorID) :
    (initializeMotorRefresh ids).Stays (LocalPort (LocalUpdate deviceName)) := by
  have hload : LocalUpdate deviceName (loadMotors ids) := by
    have hfold : ∀ s : DamiaoCan, Routed deviceName s →
        Routed deviceName (ids.foldl addMotor s) := by
      induction ids with
      | nil => exact fun s hs => hs
      | cons id ids ih =>
          intro s hs
          have hadd := routed_remember id hs
          exact ih (s.addMotor id) ⟨hadd.device, hadd.ids⟩
    exact fun s hs => hfold _ ⟨hs.device, fun _ _ hn => by simp [NodeMap.ids] at hn⟩
  exact .bind (.vis hload fun _ => trivial) fun _ => (local_gets _).bind fun s => .ite
    (.vis (untold_registerIds s.deviceName .DM ids) fun _ => trivial) trivial

end DamiaoCan

/-! ## calls of the device -/

theorem local_submit (r : Request) : (DeviceRuntime.submit r).Stays (LocalOp deviceName) := by
  refine DeviceRuntime.submit_stays trivial trivial fun c _ t => ?_
  cases c with
  | eyouRead node subCommand =>
      exact .vis (EyouCan.localUpdate_onReadDispatchResult _ _ _ _ _) fun _ => trivial
  | mtRead node command =>
      exact .vis (MtCan.localUpdate_onReadDispatchResult _ _ _ _ _) fun _ => trivial

/-- A local protocol program is local on the device. -/
theorem onBus_local {P : Type} [BusObject P] {updates : (P → P) → Prop}
    (hown : ∀ f : P → P, updates f → (BusObject.own f).Stays (LocalOp deviceName))
    {p : Proto P α} (hp : p.Stays (LocalPort updates)) : p.onBus.Stays (LocalOp deviceName) := by
  refine wp_only_interp (fun op hop => ?_) hp
  cases op with
  | proto f => exact hown f hop
  | shared f => exact Stays.vis hop fun _ => trivial
  | submit r => exact local_submit r
  | clock => exact Stays.vis trivial fun _ => trivial

theorem eyou_local {p : Proto EyouCan α}
    (hp : p.Stays (LocalPort (EyouCan.LocalUpdate deviceName))) :
    p.onBus.Stays (LocalOp deviceName) :=
  onBus_local (fun f hf => show (Device.eyou f).Stays _ from .vis hf fun _ => trivial) hp

theorem mt_local {p : Proto MtCan α} (hp : p.Stays (LocalPort (MtCan.LocalUpdate deviceName))) :
    p.onBus.Stays (LocalOp deviceName) :=
  onBus_local (fun f hf => show (Device.mt f).Stays _ from .vis hf fun _ => trivial) hp

theorem dm_local {p : Proto DamiaoCan α}
    (hp : p.Stays (LocalPort (DamiaoCan.LocalUpdate deviceName))) :
    p.onBus.Stays (LocalOp deviceName) :=
  onBus_local (fun f hf => show (Device.dm f).Stays _ from .vis hf fun _ => trivial) hp

theorem local_workerStep (name : String) :
    (DeviceRuntime.workerStep name).Stays (LocalOp deviceName) := by
  refine DeviceRuntime.workerStep_stays trivial trivial (fun _ => trivial) (fun _ => trivial)
    (fun _ _ => untold_mutateDeviceHealth _ _) (fun c sent result t => ?_) name
  cases c with
  | eyouRead node subCommand =>
      exact .vis (EyouCan.localUpdate_onReadDispatchResult _ _ _ _ _) fun _ => trivial
  | mtRead node command =>
      exact .vis (MtCan.localUpdate_onReadDispatchResult _ _ _ _ _) fun _ => trivial

theorem local_refreshTick (name : String) : (refreshTick name).Stays (LocalOp deviceName) := by
  have hsteps : AllowsTick (LocalOp deviceName) :=
    { refresh := fun _ => trivial, shared := untold_id, clock := trivial
      eyou := EyouCan.localUpdate_id, mt := MtCan.localUpdate_id, dm := fun _ hs => hs
      mtQuery := fun _ query => mt_local (MtCan.local_issueRefreshQuery query)
      ppQuery := fun _ query => eyou_local (EyouCan.local_issueRefreshQuery query)
      dmQuery := fun _ query => dm_local (DamiaoCan.local_issueRefreshQuery query) }
  exact hsteps.stays name

/-! ### bringing the device up and down -/

theorem local_shutdownDevice (name : String) : (shutdownDevice name).Stays (LocalOp deviceName) :=
  .vis (untold_mutateDeviceHealth _ _) fun _ => .vis trivial fun _ => .vis trivial fun _ =>
    .vis trivial fun _ => .vis trivial fun _ => trivial

theorem local_bringUpTransport (name : String) :
    (bringUpTransport name).Stays (LocalOp deviceName) := by
  have hinit : initializeTransport.Stays (LocalOp deviceName) :=
    .vis trivial fun ok => .ite (.vis trivial fun _ => trivial) trivial
  refine .vis trivial fun slot => .ite ?_ hinit
  refine .vis trivial fun _ => .vis trivial fun _ => .vis trivial fun _ => .vis trivial fun _ =>
    hinit.bind fun ok => .ite trivial ?_
  exact (local_shutdownDevice _).bind fun _ => trivial

theorem routed_new {P : Type} [NodeMap P] {s : P} (hdevice : NodeMap.deviceName s = deviceName)
    (hids : NodeMap.ids s = fun _ => none) : Routed deviceName s :=
  ⟨hdevice, fun _ _ h => by simp [hids] at h⟩

theorem local_createMt (cfg : DeviceManagerConfig) :
    (createMt cfg deviceName).Stays (LocalOp deviceName) := by
  have hnew : MtCan.LocalUpdate deviceName fun _ => { deviceName } :=
    fun s _ => ⟨routed_new rfl rfl, fun n => ⟨by simp [MtCan.motorState]⟩⟩
  exact .vis hnew fun _ => .bind trivial fun _ => .bind
    (mt_local (MtCan.local_setting (fun _ => rfl) (fun _ => rfl) fun _ => rfl)) fun _ =>
      mt_local (MtCan.local_setting (fun _ => rfl) (fun _ => rfl) fun _ => rfl)

/-- The settings of a PP object, unless the value is refused. -/
theorem EyouCan.local_default (velocityRaw : Int32) {f : EyouCan → EyouCan}
    (hname : ∀ s, (f s).deviceName = s.deviceName)
    (hids : ∀ s, (f s).systemMotorIdsByNodeId = s.systemMotorIdsByNodeId)
    (hcontroller : ∀ s, (f s).canController = s.canController)
    (hdispatcher : ∀ s, (f s).txDispatcher = s.txDispatcher)
    (hstates : ∀ s, (f s).motorStates = s.motorStates) :
    (if velocityRaw ≤ 0 then pure () else modify f).Stays (LocalPort (LocalUpdate deviceName)) :=
  .ite trivial (local_setting hname hids hcontroller hdispatcher hstates)

theorem local_createPp (cfg : DeviceManagerConfig) :
    (createPp cfg deviceName).Stays (LocalOp deviceName) := by
  have hnew : EyouCan.LocalUpdate deviceName fun _ => { deviceName } := by
    refine fun s _ => ⟨⟨routed_new rfl rfl, rfl, rfl⟩, fun n => ?_⟩
    constructor <;> simp [EyouCan.motorState]
  refine .vis hnew fun _ => .bind trivial fun _ => ?_
  refine .bind (eyou_local (EyouCan.local_setting (fun _ => rfl) (fun _ => rfl)
    (fun _ => rfl) (fun _ => rfl) fun _ => rfl)) fun _ => ?_
  refine .bind (eyou_local (EyouCan.local_setting (fun _ => rfl) (fun _ => rfl)
    (fun _ => rfl) (fun _ => rfl) fun _ => rfl)) fun _ => ?_
  refine .bind (eyou_local (EyouCan.local_default _ (fun _ => rfl) (fun _ => rfl)
    (fun _ => rfl) (fun _ => rfl) fun _ => rfl)) fun _ => ?_
  exact eyou_local (EyouCan.local_default _ (fun _ => rfl) (fun _ => rfl)
    (fun _ => rfl) (fun _ => rfl) fun _ => rfl)

theorem local_createDm (cfg : DeviceManagerConfig) :
    (createDm cfg deviceName).Stays (LocalOp deviceName) := by
  have hnew : DamiaoCan.LocalUpdate deviceName fun _ => { deviceName } :=
    fun _ _ => routed_new rfl rfl
  exact .vis hnew fun _ => dm_local (DamiaoCan.local_modify (fun _ => rfl) fun _ => rfl)

theorem local_ensureObject {type : CanType} {ids : List MotorID} {create : BusProg Unit}
    (hcreate : create.Stays (LocalOp deviceName)) :
    (ensureObject type ids create).Stays (LocalOp deviceName) :=
  .vis trivial fun _ => .ite (hcreate.bind fun _ => .vis trivial fun _ => trivial) trivial

theorem local_initDevice (cfg : DeviceManagerConfig) (motors : List (CanType × MotorID)) :
    (initDevice cfg deviceName motors).Stays (LocalOp deviceName) := by
  have hregister : Untold fun s => motors.foldl (fun s m =>
      s.registerAxis (makeAxisKey deviceName m.1 m.2)) s := by
    have h := untold_registerAll (motors.map fun m => makeAxisKey deviceName m.1 m.2)
    simpa only [List.foldl_map] using h
  refine (local_bringUpTransport _).bind fun ok => .ite ?_ trivial
  refine .vis trivial fun _ => .vis hregister fun _ => .vis (untold_mutateDeviceHealth _ _)
    fun _ => ?_
  refine (local_ensureObject (local_createMt cfg)).bind fun _ => ?_
  refine (local_ensureObject (local_createPp cfg)).bind fun _ => ?_
  refine (local_ensureObject (local_createDm cfg)).bind fun _ => .vis trivial fun _ => ?_
  refine (startPolling_stays (mt_local (MtCan.local_initializeMotorRefresh _)) trivial).bind
    fun _ => ?_
  refine (startPolling_stays (eyou_local (EyouCan.local_initializeMotorRefresh _)) trivial).bind
    fun _ => ?_
  exact (startPolling_stays (dm_local (DamiaoCan.local_initializeMotorRefresh _)) trivial).bind
    fun _ => trivial

/-! ## every call -/

/-- The calls that receive nothing and switch no MT motor. -/
def BusCall.isLocal : BusCall → Bool
  | .eyouReceive _ | .mtReceive _ | .dmReceive _ => false
  | .mt _ .enable | .mt _ .disable => false
  | _ => true

/-- **Discipline**: such a call tells nothing new of any motor. -/
theorem local_code (cfg : DeviceManagerConfig) {c : BusCall} (h : c.isLocal = true) :
    (c.code cfg deviceName).Stays (LocalOp deviceName) := by
  cases c with
  | eyouReceive frame => cases h
  | mtReceive frame => cases h
  | dmReceive frame => cases h
  | eyou id call => exact eyou_local (EyouCan.local_motorCall call)
  | mt id call =>
      refine mt_local (MtCan.local_motorCall ?_ ?_)
      all_goals
        rintro rfl
        cases h
  | dm id call => exact dm_local (DamiaoCan.local_motorCall call)
  | eyouConfigurePositionLimits id minRaw maxRaw enable =>
      exact eyou_local ((EyouCan.local_configurePositionLimits _ _ _).bind fun _ => trivial)
  | eyouSetPositionOffset id offsetRaw =>
      exact eyou_local ((EyouCan.local_setPositionOffset _).bind fun _ => trivial)
  | eyouReadPositionOffset id =>
      exact eyou_local (EyouCan.local_readPositionOffset.bind fun _ => trivial)
  | eyouReadSerialNumber id =>
      exact eyou_local (EyouCan.local_readSerialNumber.bind fun _ => trivial)
  | eyouPersistParameters id =>
      exact eyou_local (EyouCan.local_persistParameters.bind fun _ => trivial)
  | eyouSetFastWriteEnabled enabled =>
      exact eyou_local (EyouCan.local_setting (fun _ => rfl) (fun _ => rfl) (fun _ => rfl)
        (fun _ => rfl) fun _ => rfl)
  | eyouSetDefaultPositionVelocityRaw v =>
      exact eyou_local (EyouCan.local_default v (fun _ => rfl) (fun _ => rfl) (fun _ => rfl)
        (fun _ => rfl) fun _ => rfl)
  | eyouSetDefaultCspVelocityRaw v =>
      exact eyou_local (EyouCan.local_default v (fun _ => rfl) (fun _ => rfl) (fun _ => rfl)
        (fun _ => rfl) fun _ => rfl)
  | eyouSetMotorDefaultPositionVelocityRaw id v =>
      exact eyou_local (.ite trivial ((EyouCan.local_registerManagedMotorId _).bind fun _ =>
        EyouCan.local_setting (fun _ => rfl) (fun _ => rfl) (fun _ => rfl) (fun _ => rfl)
          fun _ => rfl))
  | eyouSetMotorDefaultCspVelocityRaw id v =>
      exact eyou_local (.ite trivial ((EyouCan.local_registerManagedMotorId _).bind fun _ =>
        EyouCan.local_setting (fun _ => rfl) (fun _ => rfl) (fun _ => rfl) (fun _ => rfl)
          fun _ => rfl))
  | mtSetCommunicationTimeout timeoutMs =>
      exact mt_local ((MtCan.local_setCommunicationTimeout _).bind fun _ => trivial)
  | mtSetPositionAcceleration id a =>
      exact mt_local ((MtCan.local_setPlanned _ _).bind fun _ => trivial)
  | mtSetPositionDeceleration id d =>
      exact mt_local ((MtCan.local_setPlanned _ _).bind fun _ => trivial)
  | eyouInitializeMotorRefresh ids => exact eyou_local (EyouCan.local_initializeMotorRefresh ids)
  | mtInitializeMotorRefresh ids => exact mt_local (MtCan.local_initializeMotorRefresh ids)
  | dmInitializeMotorRefresh ids => exact dm_local (DamiaoCan.local_initializeMotorRefresh ids)
  | eyouIssueRefreshQuery id query =>
      exact eyou_local ((EyouCan.local_issueRefreshQuery query).bind fun _ => trivial)
  | mtIssueRefreshQuery id query =>
      exact mt_local ((MtCan.local_issueRefreshQuery query).bind fun _ => trivial)
  | dmIssueRefreshQuery id query =>
      exact dm_local ((DamiaoCan.local_issueRefreshQuery query).bind fun _ => trivial)
  | work => exact local_workerStep deviceName
  | refreshTick => exact (local_refreshTick deviceName).bind fun _ => trivial
  | initDevice motors => exact (local_initDevice cfg motors).bind fun _ => trivial
  | shutdownDevice => exact local_shutdownDevice deviceName

end CanDriver
