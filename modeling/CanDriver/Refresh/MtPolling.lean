import CanDriver.DeviceManager

/-!
# CanDriver.Refresh.MtPolling

What the refresh worker asks MT motors for.

A tick sends the first query of a plan that the protocol accepts.  While every
query is answered before the next tick the protocol accepts everything, so only
heads of plans are ever sent; no plan begins with the error query, and it is
never sent (`error_not_issued`).
-/

namespace CanDriver

open Interact Prog

/-- The command byte of a query. -/
def MtRefreshQuery.byte : MtRefreshQuery → UInt8
  | .state => MtRmd.Command.readMotorStatus2.byte
  | .multiTurnAngle => MtRmd.Command.readMultiTurnAngle.byte
  | .error => MtRmd.Command.readMotorStatus1AndErrorFlag.byte

/-! ## reads that may be issued -/

/-- Neither queued nor awaited nor put off. -/
def MtPendingRead.Idle (r : MtPendingRead) : Prop :=
  r.queued = false ∧ r.inFlight = false ∧ r.nextEligibleSend = 0

namespace MtCan

/-- The object is in service, and every read not in `outstanding` may be issued. -/
structure Live (outstanding : Set (UInt8 × UInt8)) (mt : MtCan) : Prop where
  running : mt.shuttingDown = false
  controller : mt.canController = true
  dispatcher : mt.txDispatcher = true
  idle : ∀ key ∉ outstanding, ∀ r, mt.pendingReadRequests key = some r → r.Idle

variable {mt : MtCan} {node command : UInt8} {outstanding : Set (UInt8 × UInt8)}

/-- What is done to the entry of an outstanding read leaves the others alone. -/
theorem Live.put {r : MtPendingRead} (h : mt.Live outstanding) (hkey : key ∈ outstanding) :
    Live outstanding { mt with pendingReadRequests := put mt.pendingReadRequests key r } := by
  refine ⟨h.running, h.controller, h.dispatcher, fun key' hkey' r' hr' => ?_⟩
  have hne : key' ≠ key := fun he => hkey' (he ▸ hkey)
  simp only [put_of_ne _ _ hne] at hr'
  exact h.idle key' hkey' r' hr'

theorem Live.mono {outstanding' : Set (UInt8 × UInt8)} (h : mt.Live outstanding)
    (hsub : outstanding ⊆ outstanding') : mt.Live outstanding' :=
  ⟨h.running, h.controller, h.dispatcher, fun key hkey => h.idle key fun hk => hkey (hsub hk)⟩

/-- An idle read is issued, and is the only one outstanding then. -/
theorem claimRead_of_idle (h : mt.Live ∅) (now timeout : Time) :
    (claimRead node command now timeout mt).1 = .issued ∧
      Live {(node, command)} (claimRead node command now timeout mt).2 := by
  have hidle : MtPendingRead.Idle ((mt.pendingReadRequests (node, command)).getD {}) := by
    cases hr : mt.pendingReadRequests (node, command) with
    | none => exact ⟨rfl, rfl, rfl⟩
    | some r => exact h.idle _ (Set.notMem_empty _) r hr
  obtain ⟨hqueued, hflight, hnext⟩ := hidle
  simp only [claimRead, hqueued, hflight, hnext, ne_eq, not_true_eq_false, false_and, if_false,
    Bool.false_eq_true, true_and]
  exact (h.mono (Set.empty_subset _)).put rfl

/-- The dispatcher's report about an outstanding read. -/
theorem Live.dispatched (h : mt.Live outstanding) (hkey : (node, command) ∈ outstanding)
    (sent : Bool) (result : SendResult) (t : Time) :
    Live outstanding (onReadDispatchResult node command sent result t mt) := by
  unfold onReadDispatchResult
  rw [if_neg (by simp [h.running])]
  split
  · exact h
  · exact h.put hkey

end MtCan

/-! ## issuing a query -/

/-- A submitted MT read only touches its own entry. -/
theorem wp_submit_mtRead {b : Bus} {r : Request} {node command : UInt8}
    (hr : r.completion = some (.mtRead node command)) (h : b.mt.Live {(node, command)}) :
    (DeviceRuntime.submit r).wp busProtocol (fun _ b' => b'.mt.Live {(node, command)}) b := by
  simp only [DeviceRuntime.submit, wp_bind, Device.wp_enqueue]
  split
  · exact h
  · simp only [DeviceRuntime.completeDropped, hr, Completion.run, wp_bind, Device.wp_clock,
      Device.wp_mt, pure_eq, wp_ret]
    exact fun t _ => h.dispatched rfl _ _ _

theorem wp_requestRead {b : Bus} (h : b.mt.Live ∅) (node : UInt8) (command : MtRmd.Command)
    (source : TxSource) :
    (Proto.onBus (MtCan.requestRead node command source)).wp busProtocol
      (fun issued b' => issued = true ∧ b'.mt.Live {(node, command.byte)}) b := by
  have hget : ∀ b : Bus, BusObject.get b = b.mt := fun _ => rfl
  have hset : ∀ (b : Bus) (mt : MtCan), BusObject.set b mt = { b with mt := mt } := fun _ _ => rfl
  simp only [MtCan.requestRead, MtCan.tryIssueReadCommand, Proto.onBus_bind, Proto.onBus_ite,
    wp_bind, Proto.wp_onBus_gets, hget, id, h.controller, h.running, if_true, Bool.not_true,
    Bool.or_false, Bool.false_eq_true, if_false, Proto.wp_onBus_now, Proto.wp_onBus_access, hset]
  intro t _
  obtain ⟨hissued, hlive⟩ : (MtCan.claimRead node command.byte t b.mt.computeReadRequestTimeout
      b.mt).1 = .issued ∧ _ := MtCan.claimRead_of_idle h t _
  simp only [hissued, h.dispatcher, pure_eq, Proto.onBus_ret, wp_ret, if_true, wp_bind,
    Proto.wp_onBus_submit]
  exact wp_mono (wp_submit_mtRead rfl hlive) fun _ b' hb' => ⟨trivial, hb'⟩

/-- With no read outstanding every query is accepted. -/
theorem wp_mtIssueRefreshQuery {b : Bus} (h : b.mt.Live ∅) (motorId : MotorID)
    (query : MtRefreshQuery) :
    (Proto.onBus (MtCan.issueRefreshQuery motorId query)).wp busProtocol
      (fun issued b' => issued = true ∧
        b'.mt.Live {(toMtProtocolNodeId motorId, query.byte)}) b := by
  have hlive : (b.mt.remember motorId).Live ∅ :=
    ⟨h.running, h.controller, h.dispatcher, h.idle⟩
  simp only [MtCan.issueRefreshQuery, MtCan.rememberSystemMotorId, Proto.onBus_bind, wp_bind,
    Proto.wp_onBus_modify]
  cases query with
  | state => exact wp_requestRead (b := BusObject.set b (b.mt.remember motorId)) hlive _ _ _
  | multiTurnAngle =>
      exact wp_requestRead (b := BusObject.set b (b.mt.remember motorId)) hlive _ _ _
  | error => exact wp_requestRead (b := BusObject.set b (b.mt.remember motorId)) hlive _ _ _

/-! ## one tick -/

/-- The operation leaves the MT object as it is. -/
def LeavesMt : BusOp → Prop
  | .mt f => f = id
  | _ => True

/-- A program that leaves the MT object alone. -/
theorem wp_of_leavesMt {X : MtCan → Prop} {R : α → Prop} {p : BusProg α} {b : Bus}
    (hp : p.wp (only LeavesMt) (fun a _ => R a) ()) (hb : X b.mt) :
    p.wp busProtocol (fun a b' => R a ∧ X b'.mt) b := by
  refine wp_of_only (I := fun b : Bus => X b.mt) hp (fun g op hg hA => ⟨trivial, fun r hr => ?_⟩) hb
  cases op with
  | mt f =>
      obtain rfl : f = id := hA
      exact hg
  | _ => exact hg

/-- What a tick leaves behind: the reads of the query it sent to an MT motor, if it
did, and that is not the error query. -/
def MtOutcome (report : TickReport) (b : Bus) : Prop :=
  match report.issued with
  | some (.mt motorId query) =>
      query ≠ .error ∧ b.mt.Live {(toMtProtocolNodeId motorId, query.byte)}
  | _ => b.mt.Live ∅

theorem head_buildMtRefreshPlan (cycle motorIndex : Nat) (pressure : Bool) :
    ∃ query rest, buildMtRefreshPlan cycle motorIndex pressure = query :: rest ∧
      query ≠ .error := by
  unfold buildMtRefreshPlan
  split
  · split
    · exact ⟨.state, _, rfl, by decide⟩
    · exact ⟨.multiTurnAngle, _, rfl, by decide⟩
  · exact ⟨.state, _, rfl, by decide⟩

theorem mtRefreshSleep_leavesMt : mtRefreshSleep.Stays LeavesMt :=
  ⟨rfl, fun _ _ => trivial⟩

theorem mtReadResponseTimeout_leavesMt : mtReadResponseTimeout.Stays LeavesMt :=
  ⟨rfl, fun _ _ => trivial⟩

theorem ppRefreshSleep_leavesMt : ppRefreshSleep.Stays LeavesMt :=
  ⟨trivial, fun _ _ => trivial⟩

theorem dmRefreshSleep_leavesMt : dmRefreshSleep.Stays LeavesMt :=
  ⟨trivial, fun _ _ => trivial⟩

theorem tickMtMotors_outcome (deviceName : String) (pressure : Bool) (cycle : Nat)
    (motorIds : List MotorID) (visits : List Nat) {b : Bus} (h : b.mt.Live ∅) :
    (tickMtMotors deviceName pressure cycle motorIds visits).wp busProtocol MtOutcome b := by
  cases visits with
  | nil => exact h
  | cons index visits =>
      obtain ⟨query, rest, hplan, hne⟩ := head_buildMtRefreshPlan cycle index pressure
      simp only [tickMtMotors, hplan, issueFirst, wp_bind]
      refine wp_mono (wp_mtIssueRefreshQuery h (motorIds.getD index 0) query) ?_
      rintro issued b' ⟨rfl, hlive⟩
      simp only [if_true, pure_eq, wp_ret, wp_bind]
      have hnote : (noteIssued deviceName .MT (motorIds.getD index 0) mtRefreshSleep
          mtReadResponseTimeout fun nextTick r =>
            { r with
              mtMotorCursor := (index + 1) % motorIds.length
              nextMtTick := nextTick
              protocolRoundRobinCursor := 1 }).Stays LeavesMt :=
        noteIssued_stays trivial trivial mtRefreshSleep_leavesMt mtReadResponseTimeout_leavesMt
          (fun _ _ _ => trivial) _ _ _
      exact wp_mono (wp_of_leavesMt (R := fun _ => True) hnote hlive) fun _ b'' hb'' =>
        ⟨hne, hb''.2⟩

theorem tickMt_outcome (deviceName : String) (now : Time) (pressure : Bool) {b : Bus}
    (h : b.mt.Live ∅) : (tickMt deviceName now pressure).wp busProtocol MtOutcome b := by
  simp only [tickMt, wp_bind, Device.wp_refresh]
  split
  · simp only [wp_bind, Device.wp_refresh]
    split
    · exact tickMtMotors_outcome _ _ _ _ _ h
    · exact h
  · exact h

/-- No query has been sent to an MT motor. -/
def NoMtIssued (report : TickReport) : Prop := ∀ motorId query, report.issued ≠ some (.mt motorId query)

theorem noMtIssued_empty : NoMtIssued {} := by simp [NoMtIssued]

theorem NoMtIssued.outcome {report : TickReport} {b : Bus} (hr : NoMtIssued report)
    (h : b.mt.Live ∅) : MtOutcome report b := by
  unfold MtOutcome
  split
  · exact absurd ‹_› (hr _ _)
  · exact h

/-- The operation submits no MT read. -/
def NoMtRead {P : Type} : PortOp P → Prop
  | .submit r => ∀ node command, r.completion ≠ some (.mtRead node command)
  | _ => True

theorem submit_leavesMt {r : Request}
    (hr : ∀ node command, r.completion ≠ some (.mtRead node command)) :
    (DeviceRuntime.submit r).Stays LeavesMt := by
  refine DeviceRuntime.submit_stays trivial trivial fun c hc t => ?_
  cases c with
  | eyouRead node command => exact ⟨trivial, fun _ _ => trivial⟩
  | mtRead node command => exact absurd hc (hr node command)

/-- What a PP or DM program does leaves the MT object alone, if it submits no MT read. -/
theorem eyou_leavesMt {p : Proto EyouCan α}
    (hp : p.Stays NoMtRead) :
    (Proto.onBus p).Stays LeavesMt := by
  refine wp_only_interp (fun op hop => ?_) hp
  cases op with
  | submit r => exact submit_leavesMt hop
  | _ => exact ⟨trivial, fun _ _ => trivial⟩

theorem dm_leavesMt {p : Proto DamiaoCan α} (hp : p.Stays NoMtRead) :
    (Proto.onBus p).Stays LeavesMt := by
  refine wp_only_interp (fun op hop => ?_) hp
  cases op with
  | submit r => exact submit_leavesMt hop
  | _ => exact ⟨trivial, fun _ _ => trivial⟩

theorem tryIssueReadCommand_noMtRead (motorId subCommand : UInt8) :
    (EyouCan.tryIssueReadCommand motorId subCommand).Stays NoMtRead := by
  simp [EyouCan.tryIssueReadCommand, EyouCan.sendReadCommand, wp_bind, wp_ite, NoMtRead]

/-- A PP query leaves the MT object alone. -/
theorem eyouIssueRefreshQuery_leavesMt (motorId : MotorID) (query : PpRefreshQuery) :
    (Proto.onBus (EyouCan.issueRefreshQuery motorId query)).Stays LeavesMt := by
  refine eyou_leavesMt ?_
  simp only [EyouCan.issueRefreshQuery, EyouCan.registerManagedMotorId, wp_bind, wp_ite,
    Proto.wp_only_modify, Proto.wp_only_gets, Proto.wp_only_modifyShared, NoMtRead, true_and,
    pure_eq, wp_ret, ite_self]
  intro _ _
  cases query <;> exact tryIssueReadCommand_noMtRead _ _

/-- A DM query leaves the MT object alone. -/
theorem dmIssueRefreshQuery_leavesMt (motorId : MotorID) (query : DmRefreshQuery) :
    (Proto.onBus (DamiaoCan.issueRefreshQuery motorId query)).Stays LeavesMt := by
  refine dm_leavesMt ?_
  simp [DamiaoCan.issueRefreshQuery, DamiaoCan.registerManagedMotorId, DamiaoCan.sendSpeedFrame,
    DamiaoCan.submitTx, wp_bind, wp_ite, NoMtRead]

/-- The PP motors: no query goes to an MT motor, and the MT object is left alone. -/
theorem tickPpMotors_leavesMt (deviceName : String) (now : Time) (pressure : Bool)
    (motorIds : List UInt8) (visits : List Nat) :
    (tickPpMotors deviceName now pressure motorIds visits).wp (only LeavesMt)
      (fun report _ => NoMtIssued report) () := by
  induction visits with
  | nil => exact noMtIssued_empty
  | cons index visits ih =>
      simp only [tickPpMotors, Device.shared, Device.refresh, vis_bind, ret_bind, wp_bind,
        wp_only_vis, LeavesMt, true_and]
      intro shared r
      refine wp_mono (issueFirst_stays (eyouIssueRefreshQuery_leavesMt _) _) ?_
      rintro (_ | query) _ _
      · exact wp_bind.2 (wp_mono ih fun report _ hreport => hreport)
      · refine wp_bind.2 (wp_mono (noteIssued_stays trivial trivial ppRefreshSleep_leavesMt
          ppRefreshSleep_leavesMt (fun _ _ _ => trivial) _ _ _) fun _ _ _ => ?_)
        show NoMtIssued _
        simp [NoMtIssued]

/-- Likewise the DM motors. -/
theorem tickDmMotors_leavesMt (deviceName : String) (now : Time) (motorIds : List UInt8)
    (visits : List Nat) :
    (tickDmMotors deviceName now motorIds visits).wp (only LeavesMt)
      (fun report _ => NoMtIssued report) () := by
  induction visits with
  | nil => exact noMtIssued_empty
  | cons index visits ih =>
      simp only [tickDmMotors, Device.shared, Device.refresh, vis_bind, ret_bind, wp_bind,
        wp_only_vis, LeavesMt, true_and]
      intro r shared
      refine wp_mono (issueFirst_stays (dmIssueRefreshQuery_leavesMt _) _) ?_
      rintro (_ | query) _ _
      · exact ih
      · refine wp_bind.2 (wp_mono (noteIssued_stays trivial trivial dmRefreshSleep_leavesMt
          dmRefreshSleep_leavesMt (fun _ _ _ => trivial) _ _ _) fun _ _ _ => ?_)
        show NoMtIssued _
        simp [NoMtIssued]

theorem tickPp_leavesMt (deviceName : String) (now : Time) (pressure : Bool) :
    (tickPp deviceName now pressure).wp (only LeavesMt) (fun report _ => NoMtIssued report) () := by
  simp only [tickPp, Device.refresh, vis_bind, ret_bind, wp_only_vis, LeavesMt, true_and, wp_ite,
    pure_eq, wp_ret]
  intro r
  split
  · intro r
    split
    · exact tickPpMotors_leavesMt _ _ _ _ _
    · exact noMtIssued_empty
  · exact noMtIssued_empty

theorem tickDm_leavesMt (deviceName : String) (now : Time) :
    (tickDm deviceName now).wp (only LeavesMt) (fun report _ => NoMtIssued report) () := by
  simp only [tickDm, Device.refresh, vis_bind, ret_bind, wp_only_vis, LeavesMt, true_and, wp_ite,
    pure_eq, wp_ret]
  intro r
  split
  · intro r
    split
    · exact tickDmMotors_leavesMt _ _ _ _
    · exact noMtIssued_empty
  · exact noMtIssued_empty

theorem tickProtocol_outcome (deviceName : String) (now : Time) (pressure : Bool)
    (selected : Nat) {b : Bus} (h : b.mt.Live ∅) :
    (tickProtocol deviceName now pressure selected).wp busProtocol MtOutcome b := by
  unfold tickProtocol
  split
  · exact tickMt_outcome _ _ _ h
  · split
    · exact wp_mono (wp_of_leavesMt (tickPp_leavesMt _ _ _) h) fun _ _ hr => hr.1.outcome hr.2
    · exact wp_mono (wp_of_leavesMt (tickDm_leavesMt _ _) h) fun _ _ hr => hr.1.outcome hr.2

theorem tickProtocols_outcome (deviceName : String) (now : Time) (pressure : Bool)
    (order : List Nat) {b : Bus} (h : b.mt.Live ∅) :
    (tickProtocols deviceName now pressure order).wp busProtocol MtOutcome b := by
  induction order generalizing b with
  | nil => exact h
  | cons selected rest ih =>
      simp only [tickProtocols, wp_bind, wp_ite, pure_eq, wp_ret]
      refine wp_mono (tickProtocol_outcome deviceName now pressure selected h) ?_
      intro report b' hreport
      split
      · exact hreport
      · rename_i hnone
        have hlive : b'.mt.Live ∅ := by
          have : report.issued = none := by simpa using hnone
          simpa [MtOutcome, this] using hreport
        exact wp_mono (ih hlive) fun later b'' hlater => hlater

/-- **Step**: a tick that finds no read outstanding sends an MT motor nothing but the
head of a plan. -/
theorem refreshTick_outcome (deviceName : String) {b : Bus} (h : b.mt.Live ∅) :
    (refreshTick deviceName).wp busProtocol MtOutcome b := by
  simp only [refreshTick, wp_bind, Device.wp_clock, Device.wp_shared, Device.wp_refresh]
  intro now _
  split
  · exact h
  · rw [wp_bind]
    exact wp_mono (tickProtocols_outcome _ _ _ _ h) fun report b' hb' => by
      simp only [wp_bind, Device.wp_refresh, pure_eq, wp_ret]
      exact hb'

/-! ## answers -/

/-- The frame is the motor's answer to the query. -/
structure Answers (motorId : MotorID) (query : MtRefreshQuery) (frame : Frame) : Prop where
  standard : frame.isExtended = false
  dlc : frame.dlc ≠ 0
  response : MtRmd.isResponseCanId (frame.id &&& 0x7FF) = true
  node : MtRmd.responseNodeId (frame.id &&& 0x7FF) = toMtProtocolNodeId motorId
  command : frame.byte 0 = query.byte

/-- A query is put on the bus, and its answer arrives. -/
def sendAndAnswer (motorId : MotorID) (query : MtRefreshQuery) (sendTime : Time) (frame : Frame) :
    BusProg Unit := do
  Completion.run (.mtRead (toMtProtocolNodeId motorId) query.byte) true .ok sendTime
  Proto.onBus (MtCan.handleResponse frame)

namespace MtCan

variable {mt : MtCan} {node command : UInt8}

/-- The answered read is idle again. -/
theorem Live.answered (h : mt.Live {(node, command)}) : (answerRead node command mt).Live ∅ := by
  unfold answerRead
  cases hr : mt.pendingReadRequests (node, command) with
  | none =>
      refine ⟨h.running, h.controller, h.dispatcher, fun key _ r hkey => ?_⟩
      by_cases hk : key = (node, command)
      · simp [hk, hr] at hkey
      · exact h.idle key hk r hkey
  | some request =>
      refine ⟨h.running, h.controller, h.dispatcher, fun key _ r hkey => ?_⟩
      by_cases hk : key = (node, command)
      · simp only [hk, put_self, Option.some.injEq] at hkey
        exact hkey ▸ ⟨rfl, rfl, rfl⟩
      · simp only [put_of_ne _ _ hk] at hkey
        exact h.idle key hk r hkey

end MtCan

theorem isTracked_ofByte (query : MtRefreshQuery) :
    (MtRmd.Command.ofByte query.byte).any MtCan.Command.isTracked = true := by
  cases query <;> decide

theorem ofByte_ne_zeroing (query : MtRefreshQuery) :
    MtRmd.Command.ofByte query.byte ≠ some .writeCurrentMultiTurnPositionToRomAsZero := by
  cases query <;> decide

/-- Publishing feedback leaves the object itself alone. -/
theorem wp_syncSharedFeedback_mt {b : Bus} {X : MtCan → Prop} {node : UInt8} {st : MtMotorState}
    (h : X b.mt) :
    (Proto.onBus (MtCan.syncSharedFeedback node st)).wp busProtocol (fun _ b' => X b'.mt) b := by
  simp only [MtCan.syncSharedFeedback, MtCan.publish, Proto.onBus_bind, wp_bind,
    Proto.wp_onBus_now, Proto.wp_onBus_gets, Proto.onBus_ite]
  intro t _
  split
  · simpa using h
  · exact h

/-- Nothing is outstanding once the answer has been handled. -/
theorem wp_sendAndAnswer {b : Bus} {motorId : MotorID} {query : MtRefreshQuery} {frame : Frame}
    (h : b.mt.Live {(toMtProtocolNodeId motorId, query.byte)}) (hf : Answers motorId query frame)
    (sendTime : Time) :
    (sendAndAnswer motorId query sendTime frame).wp busProtocol (fun _ b' => b'.mt.Live ∅) b := by
  have hget : ∀ b : Bus, BusObject.get b = b.mt := fun _ => rfl
  have hset : ∀ (b : Bus) (mt : MtCan), BusObject.set b mt = { b with mt := mt } := fun _ _ => rfl
  have hsent := h.dispatched rfl true .ok sendTime
  simp only [sendAndAnswer, Completion.run, wp_bind, Device.wp_mt, pure_eq, wp_ret,
    MtCan.handleResponse, Proto.onBus_bind, Proto.onBus_ret, Proto.wp_onBus_gets, hget, id,
    Proto.onBus_ite, hsent.running, hf.standard, hf.response, hf.dlc, hf.node, hf.command,
    isTracked_ofByte, ofByte_ne_zeroing, Bool.or_false, Bool.not_true, Bool.false_or,
    Bool.false_eq_true, decide_eq_true_eq, if_true, if_false, MtCan.markReadResponseReceived,
    Proto.wp_onBus_modify, Proto.wp_onBus_access, hset]
  have hanswered : (MtCan.setMotorState (MtCan.answerRead (toMtProtocolNodeId motorId) query.byte
      (MtCan.onReadDispatchResult (toMtProtocolNodeId motorId) query.byte true .ok sendTime b.mt))
      (toMtProtocolNodeId motorId) (MtCan.decodeResponse frame)).Live ∅ :=
    ⟨hsent.answered.running, hsent.answered.controller, hsent.answered.dispatcher,
      hsent.answered.idle⟩
  split
  · rw [wp_bind]
    exact wp_mono (wp_syncSharedFeedback_mt hanswered) fun _ b' hb' => hb'
  · exact hanswered

/-! ## bringing the device up -/

/-- The operation keeps every read idle. -/
def KeepsLive : BusOp → Prop
  | .mt f => ∀ mt : MtCan, mt.Live ∅ → (f mt).Live ∅
  | _ => True

/-- The same of an operation of the MT protocol. -/
def PortKeepsLive : PortOp MtCan → Prop
  | .proto f => ∀ mt : MtCan, mt.Live ∅ → (f mt).Live ∅
  | _ => True

/-- A read that could not be queued is idle again. -/
theorem MtCan.Live.dropped {mt : MtCan} (h : mt.Live ∅) (node command : UInt8)
    (result : SendResult) (t : Time) :
    (MtCan.onReadDispatchResult node command false result t mt).Live ∅ := by
  unfold MtCan.onReadDispatchResult
  rw [if_neg (by simp [h.running])]
  split
  · exact h
  · rename_i request hrequest
    refine ⟨h.running, h.controller, h.dispatcher, fun key hkey r hr => ?_⟩
    by_cases hk : key = (node, command)
    · simp only [hk, put_self, Bool.false_and, Bool.false_eq_true, if_false,
        Option.some.injEq] at hr
      exact hr ▸ ⟨rfl, rfl, (h.idle _ hkey request (hk ▸ hrequest)).2.2⟩
    · simp only [put_of_ne _ _ hk] at hr
      exact h.idle key hkey r hr

theorem submit_keepsLive (r : Request) : (DeviceRuntime.submit r).Stays KeepsLive := by
  refine DeviceRuntime.submit_stays trivial trivial fun c _ t => ?_
  cases c with
  | eyouRead node command => exact ⟨trivial, fun _ _ => trivial⟩
  | mtRead node command => exact ⟨fun mt h => h.dropped _ _ _ t, fun _ _ => trivial⟩

theorem mt_keepsLive {p : Proto MtCan α} (hp : p.Stays PortKeepsLive) :
    (Proto.onBus p).Stays KeepsLive := by
  refine wp_only_interp (fun op hop => ?_) hp
  cases op with
  | proto f => exact ⟨hop, fun _ _ => trivial⟩
  | submit r => exact submit_keepsLive r
  | _ => exact ⟨trivial, fun _ _ => trivial⟩

theorem eyou_keepsLive (p : Proto EyouCan α) :
    (Proto.onBus p).Stays KeepsLive := by
  refine wp_only_interp (fun op _ => ?_) (wp_only_of_forall (fun _ => trivial) p)
  cases op with
  | submit r => exact submit_keepsLive r
  | _ => exact ⟨trivial, fun _ _ => trivial⟩

theorem dm_keepsLive (p : Proto DamiaoCan α) :
    (Proto.onBus p).Stays KeepsLive := by
  refine wp_only_interp (fun op _ => ?_) (wp_only_of_forall (fun _ => trivial) p)
  cases op with
  | submit r => exact submit_keepsLive r
  | _ => exact ⟨trivial, fun _ _ => trivial⟩

/-- Registering the motors keeps every read idle. -/
theorem MtCan.Live.loadMotors {mt : MtCan} (h : mt.Live ∅) (motorIds : List MotorID) :
    (MtCan.loadMotors motorIds mt).Live ∅ := by
  have hfold : ∀ mt : MtCan, mt.Live ∅ → (motorIds.foldl MtCan.addMotor mt).Live ∅ := by
    induction motorIds with
    | nil => exact fun _ h => h
    | cons motorId motorIds ih =>
        exact fun mt h => ih _ ⟨h.running, h.controller, h.dispatcher, h.idle⟩
  exact hfold _ ⟨h.running, h.controller, h.dispatcher, h.idle⟩

theorem sendCommunicationTimeouts_keepsLive (timeoutMs : UInt32) (motorIds : List UInt8) :
    (MtCan.sendCommunicationTimeouts timeoutMs motorIds).Stays PortKeepsLive := by
  induction motorIds with
  | nil => trivial
  | cons motorId motorIds ih =>
      simp only [MtCan.sendCommunicationTimeouts, MtCan.submitTx, wp_bind, wp_ite,
        Proto.wp_only_gets, Proto.wp_only_submit, PortKeepsLive, pure_eq, wp_ret]
      refine ⟨fun _ h => h, fun _ => ?_⟩
      split
      · exact ⟨trivial, ih⟩
      · exact trivial

theorem setCommunicationTimeout_keepsLive (timeoutMs : UInt32) :
    (MtCan.setCommunicationTimeout timeoutMs).Stays PortKeepsLive := by
  simp only [MtCan.setCommunicationTimeout, MtCan.withController, wp_bind, wp_ite,
    Proto.wp_only_gets, PortKeepsLive, pure_eq, wp_ret]
  refine ⟨fun _ h => h, fun s => ?_⟩
  split
  · refine ⟨fun _ h => h, fun s => ?_⟩
    split
    · trivial
    · exact sendCommunicationTimeouts_keepsLive _ _
  · trivial

theorem resetReadTracking_keepsLive :
    MtCan.resetReadTracking.Stays PortKeepsLive :=
  ⟨fun _ h => ⟨h.running, h.controller, h.dispatcher, fun _ _ _ hr => by simp at hr⟩,
    fun _ _ => trivial⟩

theorem mtInitializeMotorRefresh_keepsLive (motorIds : List MotorID) :
    (MtCan.initializeMotorRefresh motorIds).Stays PortKeepsLive := by
  have htail : ∀ s : MtCan,
      (MtCan.resetReadTracking >>= fun _ =>
        if motorIds.isEmpty = true then pure ()
        else MtCan.setCommunicationTimeout s.communicationTimeoutOnInitMs >>= fun _ =>
          pure ()).Stays PortKeepsLive := by
    exact fun s => resetReadTracking_keepsLive.bind fun _ => .ite trivial
      ((setCommunicationTimeout_keepsLive _).bind fun _ => trivial)
  simp only [MtCan.initializeMotorRefresh, wp_bind (p := Proto.modify _),
    wp_bind (p := Proto.gets _), Proto.wp_only_modify, Proto.wp_only_gets, PortKeepsLive]
  refine ⟨fun _ h => h.loadMotors _, fun _ => ⟨fun _ h => h, fun s => ?_⟩⟩
  split
  · rw [wp_bind, Proto.wp_only_modifyShared]
    exact ⟨trivial, htail s⟩
  · exact htail s

theorem createMt_keepsLive (cfg : DeviceManagerConfig) (deviceName : String) :
    (createMt cfg deviceName).Stays KeepsLive := by
  have hkeep : ∀ f : MtCan → MtCan, (∀ mt : MtCan, mt.Live ∅ → (f mt).Live ∅) →
      (Proto.onBus (Proto.modify f)).Stays KeepsLive :=
    fun f hf => mt_keepsLive ⟨hf, fun _ _ => trivial⟩
  simp only [createMt, Device.mt, vis_bind, ret_bind, wp_only_vis, wp_bind]
  refine ⟨fun _ _ => ⟨rfl, rfl, rfl, fun _ _ _ hr => by simp at hr⟩, fun _ => ?_⟩
  refine wp_mono (hkeep _ fun _ h => ⟨h.running, h.controller, h.dispatcher, h.idle⟩) fun _ _ _ => ?_
  exact hkeep _ fun _ h => ⟨h.running, h.controller, h.dispatcher, h.idle⟩

theorem createPp_keepsLive (cfg : DeviceManagerConfig) (deviceName : String) :
    (createPp cfg deviceName).Stays KeepsLive := by
  simp only [createPp, Device.eyou, vis_bind, ret_bind, wp_only_vis, KeepsLive, true_and, wp_bind]
  intro _
  refine wp_mono (eyou_keepsLive _) fun _ _ _ => wp_mono (eyou_keepsLive _) fun _ _ _ => ?_
  exact wp_mono (eyou_keepsLive _) fun _ _ _ => eyou_keepsLive _

theorem createDm_keepsLive (cfg : DeviceManagerConfig) (deviceName : String) :
    (createDm cfg deviceName).Stays KeepsLive :=
  ⟨trivial, fun _ _ => dm_keepsLive _⟩

theorem initDevice_keepsLive (cfg : DeviceManagerConfig) (deviceName : String)
    (motors : List (CanType × MotorID)) : (initDevice cfg deviceName motors).Stays KeepsLive := by
  have hsteps : AllowsInit KeepsLive :=
    { slot := fun _ => trivial, shared := fun _ => trivial, stop := trivial,
      unschedule := trivial, openTransport := trivial, restart := trivial, gap := fun _ => trivial,
      scheduleMt := fun _ => trivial, schedulePp := fun _ => trivial,
      scheduleDm := fun _ => trivial }
  exact hsteps.stays (createMt_keepsLive cfg deviceName) (createPp_keepsLive cfg deviceName)
    (createDm_keepsLive cfg deviceName) (mt_keepsLive (mtInitializeMotorRefresh_keepsLive _))
    (eyou_keepsLive _) (dm_keepsLive _)

/-- Bringing the device up leaves no read outstanding. -/
theorem initDevice_live (cfg : DeviceManagerConfig) (deviceName : String)
    (motors : List (CanType × MotorID)) {b : Bus} (h : b.mt.Live ∅) :
    (initDevice cfg deviceName motors).wp busProtocol (fun _ b' => b'.mt.Live ∅) b := by
  refine wp_mono (wp_of_only (R := fun _ => True) (I := fun b : Bus => b.mt.Live ∅)
    (initDevice_keepsLive cfg deviceName motors) (fun g op hg hA => ⟨trivial, fun r hr => ?_⟩) h)
    fun _ _ hb => hb.2
  cases op with
  | mt f => exact hA _ hg
  | _ => exact hg

/-! ## runs -/

/-- What may happen to a device between two ticks, as far as the MT reads are
concerned: everything else is left open. -/
structure MtUndisturbed (b b' : Bus) : Prop where
  reads : b'.mt.pendingReadRequests = b.mt.pendingReadRequests
  running : b'.mt.shuttingDown = b.mt.shuttingDown
  controller : b'.mt.canController = b.mt.canController
  dispatcher : b'.mt.txDispatcher = b.mt.txDispatcher

/-- The MT query a tick has issued. -/
def TickReport.mtIssued (report : TickReport) : List (MotorID × MtRefreshQuery) :=
  match report.issued with
  | some (.mt motorId query) => [(motorId, query)]
  | _ => []

/-- After a tick: the query it sent to an MT motor, if any, is answered. -/
inductive Answered (report : TickReport) (b : Bus) : Bus → Prop
  | mt (motorId : MotorID) (query : MtRefreshQuery) (sendTime : Time) (frame : Frame) (b' : Bus)
      (hi : report.issued = some (.mt motorId query)) (hf : Answers motorId query frame)
      (hr : Runs busProtocol (sendAndAnswer motorId query sendTime frame) b () b') :
      Answered report b b'
  | other (hi : NoMtIssued report) : Answered report b b

/-- A run of the refresh worker in which every query is answered before the next
tick, with the queries it has sent to MT motors. -/
inductive PollRun (deviceName : String) (b₀ : Bus) : List (MotorID × MtRefreshQuery) → Bus → Prop
  | start : PollRun deviceName b₀ [] b₀
  | tick (issued : List (MotorID × MtRefreshQuery)) (b b₁ b₂ b₃ : Bus) (report : TickReport)
      (hrun : PollRun deviceName b₀ issued b) (henv : MtUndisturbed b b₁)
      (htick : Runs busProtocol (refreshTick deviceName) b₁ report b₂)
      (hans : Answered report b₂ b₃) : PollRun deviceName b₀ (issued ++ report.mtIssued) b₃

theorem MtUndisturbed.live {b b' : Bus} (h : MtUndisturbed b b') (hb : b.mt.Live ∅) :
    b'.mt.Live ∅ :=
  ⟨h.running.trans hb.running, h.controller.trans hb.controller,
    h.dispatcher.trans hb.dispatcher, fun key hkey r hr => hb.idle key hkey r (h.reads ▸ hr)⟩

/-- **Run**: when every query is answered in time, no error query is ever sent. -/
theorem error_not_issued {deviceName : String} {b₀ b : Bus}
    {issued : List (MotorID × MtRefreshQuery)} (h₀ : b₀.mt.Live ∅)
    (hrun : PollRun deviceName b₀ issued b) :
    b.mt.Live ∅ ∧ ∀ motorId, (motorId, MtRefreshQuery.error) ∉ issued := by
  induction hrun with
  | start => exact ⟨h₀, fun _ => List.not_mem_nil⟩
  | tick issued b b₁ b₂ b₃ report _ henv htick hans ih =>
      have hout := htick.of_wp (refreshTick_outcome deviceName (henv.live ih.1))
      cases hans with
      | mt motorId query sendTime frame _ hi hf hr =>
          simp only [MtOutcome, hi] at hout
          refine ⟨hr.of_wp (wp_sendAndAnswer hout.2 hf sendTime), fun m hm => ?_⟩
          simp only [TickReport.mtIssued, hi, List.mem_append, List.mem_singleton,
            Prod.mk.injEq] at hm
          rcases hm with hm | ⟨_, he⟩
          · exact ih.2 m hm
          · exact hout.1 he.symm
      | other hi =>
          have hissued : report.mtIssued = [] := by
            unfold TickReport.mtIssued
            split
            · exact absurd ‹_› (hi _ _)
            · rfl
          refine ⟨?_, by simpa [hissued] using ih.2⟩
          unfold MtOutcome at hout
          split at hout
          · exact absurd ‹_› (hi _ _)
          · exact hout

/-- Every motor is asked everything within any `3 * n` consecutive queries. -/
def FairlyPolled (motorIds : List MotorID) (issued : List (MotorID × MtRefreshQuery)) : Prop :=
  ∀ window, window <:+: issued → window.length = 3 * motorIds.length →
    ∀ motorId ∈ motorIds, ∀ query, (motorId, query) ∈ window

/-- **Run**: on a device with MT motors, a run whose queries are all answered in time
polls them fairly only as long as it has not had the chance to. -/
theorem mt_fairlyPolled_iff (cfg : DeviceManagerConfig) (deviceName : String)
    (motors : List (CanType × MotorID)) (shared : SharedDriverState) (options : RuntimeOptions)
    (time : Time) {b₀ b : Bus} {issued : List (MotorID × MtRefreshQuery)}
    (hinit : Runs busProtocol (initDevice cfg deviceName motors)
      (Bus.powerOn deviceName shared options time) true b₀)
    (hmt : b₀.refresh.mtMotorIds ≠ []) (hrun : PollRun deviceName b₀ issued b) :
    FairlyPolled b₀.refresh.mtMotorIds issued ↔
      issued.length < 3 * b₀.refresh.mtMotorIds.length := by
  have hlive : b₀.mt.Live ∅ := hinit.of_wp <| initDevice_live cfg deviceName motors
    ⟨rfl, rfl, rfl, fun _ _ _ hr => by simp [Bus.powerOn] at hr⟩
  have herror := (error_not_issued hlive hrun).2
  constructor
  · intro hfair
    by_contra hlong
    obtain ⟨motorId, hmotor⟩ := List.exists_mem_of_ne_nil _ hmt
    have hwindow := List.take_prefix (3 * b₀.refresh.mtMotorIds.length) issued
    have hlen : (issued.take (3 * b₀.refresh.mtMotorIds.length)).length
        = 3 * b₀.refresh.mtMotorIds.length := by
      rw [List.length_take]
      omega
    exact herror motorId
      (hwindow.subset (hfair _ hwindow.isInfix hlen motorId hmotor .error))
  · intro hshort window hwindow hlen
    have := hwindow.length_le
    omega

/-! ## one motor -/

/-- The answer of a motor to a query, with a zero payload. -/
def answerFrame (motorId : MotorID) (query : MtRefreshQuery) : Frame :=
  dataFrame (MtRmd.kResponseBaseId + (toMtProtocolNodeId motorId).toUInt32) 8
    #v[query.byte, 0, 0, 0, 0, 0, 0, 0]

/-- A device with the MT motor `0x141`, just brought up. -/
def oneMotor : Option (Bool × Bus) :=
  (initDevice {} "can0" [(.MT, 0x141)]).run busProtocol Bus.answer
    (Bus.powerOn "can0" {} {} (ms 1000))

/-- A tick 100 ms later whose query, the status query of that motor, is answered. -/
def pollOnce (b : Bus) : Option Bus :=
  match (refreshTick "can0").run busProtocol Bus.answer { b with time := b.time + ms 100 } with
  | none => none
  | some (report, b₂) =>
      if report.issued = some (.mt 0x141 .state) then
        ((sendAndAnswer 0x141 .state b₂.time (answerFrame 0x141 .state)).run busProtocol Bus.answer
          b₂).map Prod.snd
      else none

/-- Three such ticks. -/
def pollThrice : Option (Bus × Bus) := do
  let (ok, b₀) ← oneMotor
  let b₁ ← pollOnce b₀
  let b₂ ← pollOnce b₁
  let b₃ ← pollOnce b₂
  if ok && b₀.refresh.mtMotorIds = [0x141] then some (b₀, b₃) else none

theorem pollRun_of_pollOnce {b₀ b b' : Bus} {issued : List (MotorID × MtRefreshQuery)}
    (hrun : PollRun "can0" b₀ issued b) (h : pollOnce b = some b') :
    PollRun "can0" b₀ (issued ++ [(0x141, .state)]) b' := by
  match htick : (refreshTick "can0").run busProtocol Bus.answer { b with time := b.time + ms 100 }
    with
  | none => simp [pollOnce, htick] at h
  | some (report, b₂) =>
      simp only [pollOnce, htick, Option.ite_none_right_eq_some, Option.map_eq_some_iff] at h
      obtain ⟨hissued, ⟨_, b₃⟩, hans, rfl⟩ := h
      have hreport : report.mtIssued = [(0x141, .state)] := by
        simp [TickReport.mtIssued, hissued]
      rw [← hreport]
      refine .tick issued b { b with time := b.time + ms 100 } b₂ b₃ report hrun ⟨rfl, rfl, rfl, rfl⟩
        (runs_of_run (fun _ _ _ => admits_of_answer) htick) ?_
      exact .mt 0x141 .state b₂.time (answerFrame 0x141 .state) b₃ hissued
        ⟨rfl, by decide, by decide, by decide, by decide⟩
        (runs_of_run (fun _ _ _ => admits_of_answer) hans)

/-- The run of `pollThrice`. -/
theorem pollRun_three :
    ∃ b₀ b, Runs busProtocol (initDevice {} "can0" [(.MT, 0x141)])
        (Bus.powerOn "can0" {} {} (ms 1000)) true b₀ ∧
      b₀.refresh.mtMotorIds = [0x141] ∧
      PollRun "can0" b₀ [(0x141, .state), (0x141, .state), (0x141, .state)] b := by
  have hsome : pollThrice.isSome = true := by decide +kernel
  obtain ⟨⟨b₀, b₃⟩, h⟩ := Option.isSome_iff_exists.1 hsome
  simp only [pollThrice, Option.bind_eq_bind, Option.bind_eq_some_iff,
    Option.ite_none_right_eq_some, Option.some.injEq, Prod.mk.injEq, Prod.exists,
    Bool.and_eq_true, decide_eq_true_eq] at h
  obtain ⟨ok, _, hinit, b₁, h₁, b₂, h₂, _, h₃, ⟨rfl, hids⟩, rfl, rfl⟩ := h
  exact ⟨_, _, runs_of_run (fun _ _ _ => admits_of_answer) hinit, hids,
    pollRun_of_pollOnce (pollRun_of_pollOnce (pollRun_of_pollOnce .start h₁) h₂) h₃⟩

/-- Three status queries in a row: the angle and the error of the motor are starved. -/
theorem status_only :
    ∃ b₀ b, Runs busProtocol (initDevice {} "can0" [(.MT, 0x141)])
        (Bus.powerOn "can0" {} {} (ms 1000)) true b₀ ∧
      PollRun "can0" b₀ [(0x141, .state), (0x141, .state), (0x141, .state)] b ∧
      ¬ FairlyPolled b₀.refresh.mtMotorIds
        [(0x141, .state), (0x141, .state), (0x141, .state)] := by
  obtain ⟨b₀, b, hinit, hids, hrun⟩ := pollRun_three
  refine ⟨b₀, b, hinit, hrun, fun hfair => ?_⟩
  have h := hfair _ List.infix_rfl (by simp [hids]) 0x141 (by simp [hids]) .error
  exact absurd h (by decide)

/-- The same run, as the theorem has it. -/
theorem three_queries_unfair :
    ∃ b₀ : Bus, b₀.refresh.mtMotorIds = [0x141] ∧
      (FairlyPolled b₀.refresh.mtMotorIds [(0x141, .state), (0x141, .state), (0x141, .state)] ↔
        3 < 3 * b₀.refresh.mtMotorIds.length) := by
  obtain ⟨b₀, b, hinit, hids, hrun⟩ := pollRun_three
  exact ⟨b₀, hids, mt_fairlyPolled_iff {} "can0" _ {} {} (ms 1000) hinit (by simp [hids]) hrun⟩

end CanDriver
