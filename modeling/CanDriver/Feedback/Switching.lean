import CanDriver.Device.DmParts
import CanDriver.Feedback.Discipline
import CanDriver.Feedback.RegisterAcks
import CanDriver.Lib.Record

/-!
# CanDriver.Feedback.Switching

What a DM motor has said when `Enable` or `Disable` returns true.

Both wait for the motor's state to be reported, and look at the cached state for it.  What was
cached before the frame was submitted, or comes from a frame received before that, counts as
well; a motor that does not answer at all then passes for switched.  Where nothing old says so
when the frame is submitted, true means that the motor has reported the state since.
-/

namespace CanDriver

open Interact Prog

/-! ## what the object shows -/

/-- A motor to be switched: its node, the command for it and the state it then reports. -/
structure Switching where
  node : UInt8
  command : UInt8
  state : UInt8
deriving DecidableEq, Repr

namespace DamiaoCan

/-- What `waitForFeedbackState` looks for. -/
def shows (s : DamiaoCan) (sw : Switching) : Bool :=
  (s.motorStates sw.node).any fun st => st.feedbackSeen && st.feedbackState == sw.state

/-- A feedback frame that reports the state of the motor. -/
def reports (frame : Frame) (sw : Switching) : Bool :=
  decide (responseNode frame = some sw.node) && frame.byte 0 >>> 4 == sw.state

theorem waitForFeedbackState_eq (sw : Switching) :
    waitForFeedbackState sw.node sw.state = Proto.gets fun s => s.shows sw := by
  rw [waitForFeedbackState]
  congr 1
  funext s
  rw [shows]
  cases s.motorStates sw.node <;> rfl

/-- A change that makes the object show nothing but what the frame reports. -/
def ShowsOnly (frame : Option Frame) (f : DamiaoCan → DamiaoCan) : Prop :=
  ∀ s sw, (f s).shows sw = true → s.shows sw = true ∨ frame.any (reports · sw) = true

variable {frame : Option Frame} {motorId : MotorID} {node : UInt8}

theorem showsOnly_of_states {f : DamiaoCan → DamiaoCan}
    (h : ∀ s, (f s).motorStates = s.motorStates) : ShowsOnly frame f := by
  intro s sw hshows
  rw [shows, h] at hshows
  exact .inl hshows

theorem shows_setMotorState {f : DmMotorState → DmMotorState} {s : DamiaoCan} {sw : Switching}
    (h : (s.setMotorState node f).shows sw = true) :
    s.shows sw = true ∨ sw.node = node ∧ (f (s.motorState node)).feedbackSeen = true ∧
      (f (s.motorState node)).feedbackState = sw.state := by
  rw [shows, setMotorState] at h
  by_cases hnode : sw.node = node
  · subst hnode
    simp only [put_self, Option.any_some, Bool.and_eq_true, beq_iff_eq] at h
    exact .inr ⟨rfl, h⟩
  · simp only [put_of_ne _ _ hnode] at h
    exact .inl h

theorem showsOnly_setMotorState {f : DmMotorState → DmMotorState}
    (h : ∀ st, (f st).feedbackSeen = st.feedbackSeen ∧ (f st).feedbackState = st.feedbackState) :
    ShowsOnly frame fun s => s.setMotorState node f := by
  intro s sw hshows
  rcases shows_setMotorState hshows with hold | ⟨rfl, hseen, hstate⟩
  · exact .inl hold
  · rw [(h _).1] at hseen
    rw [(h _).2] at hstate
    rw [shows]
    cases hst : s.motorStates sw.node with
    | none =>
        rw [motorState, hst] at hseen
        cases hseen
    | some st =>
        rw [motorState, hst, Option.getD_some] at hseen hstate
        rw [Option.any_some, hseen, hstate, beq_self_eq_true]
        exact .inl rfl

/-! ### operation by operation -/

theorem own_modify {f : DamiaoCan → DamiaoCan} (h : ShowsOnly frame f) :
    (Proto.modify f).Stays (PortOp.Own (ShowsOnly frame)) :=
  ⟨h, fun _ _ => trivial⟩

theorem own_gets (f : DamiaoCan → α) : (Proto.gets f).Stays (PortOp.Own (ShowsOnly frame)) :=
  ⟨showsOnly_of_states fun _ => rfl, fun _ _ => trivial⟩

theorem own_now : (Proto.now : Proto DamiaoCan Time).Stays (PortOp.Own (ShowsOnly frame)) :=
  ⟨trivial, fun _ _ => trivial⟩

theorem own_publish (f : AxisKey → SharedDriverState → SharedDriverState) :
    (publish node f).Stays (PortOp.Own (ShowsOnly frame)) :=
  (own_gets _).bind fun _ => .ite ⟨trivial, fun _ _ => trivial⟩ trivial

theorem own_syncSharedCommand (targetVelocity : Int32) (valid : Bool) :
    (syncSharedCommand node targetVelocity valid).Stays (PortOp.Own (ShowsOnly frame)) :=
  own_now.bind fun _ => own_publish _

theorem own_registerManagedMotorId :
    (registerManagedMotorId motorId).Stays (PortOp.Own (ShowsOnly frame)) :=
  (own_modify (showsOnly_of_states fun _ => rfl)).bind fun _ => (own_gets _).bind fun _ =>
    .ite ⟨trivial, fun _ _ => trivial⟩ trivial

theorem own_submitTx (f : Frame) (category : Category) (source : TxSource) :
    (submitTx f category source).Stays (PortOp.Own (ShowsOnly frame)) :=
  (own_gets _).bind fun _ => .ite ⟨trivial, fun _ _ => trivial⟩ trivial

theorem own_setMotorState {f : DmMotorState → DmMotorState}
    (h : ∀ st, (f st).feedbackSeen = st.feedbackSeen ∧ (f st).feedbackState = st.feedbackState) :
    (Proto.modify fun s : DamiaoCan => s.setMotorState node f).Stays
      (PortOp.Own (ShowsOnly frame)) :=
  own_modify (showsOnly_setMotorState h)

theorem own_ensureVelocityModeConfigured :
    (ensureVelocityModeConfigured node).Stays (PortOp.Own (ShowsOnly frame)) := by
  have hwrite : (writeRegisterAndWaitForAck node kDamiaoControlModeRegister
      kDamiaoVelocityModeValue).Stays (PortOp.Own (ShowsOnly frame)) :=
    (own_gets _).bind fun _ => .ite ((own_modify (showsOnly_of_states fun _ => rfl)).bind fun _ =>
      (own_submitTx _ _ _).bind fun _ => .ite
        ⟨showsOnly_of_states fun _ => rfl, fun _ _ => trivial⟩ trivial) trivial
  refine (own_gets _).bind fun _ => .ite trivial (hwrite.bind fun _ => .ite ?_ trivial)
  refine (own_setMotorState fun _ => ?_).bind fun _ => (own_publish _).bind fun _ => trivial
  exact ⟨rfl, rfl⟩

theorem own_setMode (mode : MotorMode) :
    (setMode motorId mode).Stays (PortOp.Own (ShowsOnly frame)) :=
  .ite (own_registerManagedMotorId.bind fun _ => own_ensureVelocityModeConfigured.bind fun _ =>
    .ite ((own_publish _).bind fun _ => trivial) trivial) trivial

theorem own_setVelocity (velocity : Int32) :
    (setVelocity motorId velocity).Stays (PortOp.Own (ShowsOnly frame)) := by
  refine own_registerManagedMotorId.bind fun _ => own_ensureVelocityModeConfigured.bind fun _ =>
    .ite ((own_setMotorState fun _ => ?_).bind fun _ => (own_syncSharedCommand _ _).bind fun _ =>
      (own_publish _).bind fun _ => own_submitTx _ _ _) trivial
  exact ⟨rfl, rfl⟩

theorem own_setAcceleration (acceleration : Int32) :
    (setAcceleration motorId acceleration).Stays (PortOp.Own (ShowsOnly frame)) := by
  refine own_registerManagedMotorId.bind fun _ => (own_setMotorState fun _ => ?_).bind fun _ =>
    trivial
  exact ⟨rfl, rfl⟩

theorem own_setDeceleration (deceleration : Int32) :
    (setDeceleration motorId deceleration).Stays (PortOp.Own (ShowsOnly frame)) := by
  refine own_registerManagedMotorId.bind fun _ => (own_setMotorState fun _ => ?_).bind fun _ =>
    trivial
  exact ⟨rfl, rfl⟩

theorem own_enable : (enable motorId).Stays (PortOp.Own (ShowsOnly frame)) :=
  own_registerManagedMotorId.bind fun _ => own_ensureVelocityModeConfigured.bind fun _ =>
    .ite ((own_publish _).bind fun _ => (own_publish _).bind fun _ =>
      (own_submitTx _ _ _).bind fun _ => .ite ((own_submitTx _ _ _).bind fun _ =>
        .ite (own_gets _) trivial) trivial) trivial

theorem own_disable : (disable motorId).Stays (PortOp.Own (ShowsOnly frame)) := by
  refine own_registerManagedMotorId.bind fun _ => (own_setMotorState fun _ => ?_).bind fun _ =>
    (own_syncSharedCommand _ _).bind fun _ => (own_publish _).bind fun _ =>
      (own_submitTx _ _ _).bind fun _ => .ite ((own_submitTx _ _ _).bind fun _ =>
        .ite (own_gets _) trivial) trivial
  exact ⟨rfl, rfl⟩

theorem own_stop : (stop motorId).Stays (PortOp.Own (ShowsOnly frame)) := by
  refine own_registerManagedMotorId.bind fun _ => (own_setMotorState fun _ => ?_).bind fun _ =>
    (own_syncSharedCommand _ _).bind fun _ => (own_publish _).bind fun _ => own_submitTx _ _ _
  exact ⟨rfl, rfl⟩

theorem own_resetFault : (resetFault motorId).Stays (PortOp.Own (ShowsOnly frame)) :=
  own_registerManagedMotorId.bind fun _ => (own_publish _).bind fun _ => own_submitTx _ _ _

theorem own_motorCall (call : MotorCall) :
    (motorCall motorId call).Stays (PortOp.Own (ShowsOnly frame)) := by
  cases call with
  | setMode mode => exact (own_setMode mode).bind fun _ => trivial
  | setVelocity velocity => exact (own_setVelocity velocity).bind fun _ => trivial
  | setAcceleration a => exact (own_setAcceleration a).bind fun _ => trivial
  | setDeceleration d => exact (own_setDeceleration d).bind fun _ => trivial
  | setPosition | quickSetPosition => trivial
  | enable => exact own_enable.bind fun _ => trivial
  | disable => exact own_disable.bind fun _ => trivial
  | stop => exact own_stop.bind fun _ => trivial
  | resetFault => exact own_resetFault.bind fun _ => trivial
  | getPosition | getVelocity | getCurrent | isEnabled | hasFault =>
      exact (own_gets _).bind fun _ => trivial

/-- Only the handling of a frame shows something new. -/
theorem showsOnly_parts : DmParts (ShowsOnly frame) where
  look := showsOnly_of_states fun _ => rfl
  new deviceName s sw h := by cases h
  rate hz := own_modify (showsOnly_of_states fun _ => rfl)
  load ids := by
    have hload : ∀ s : DamiaoCan, (loadMotors ids s).motorStates = s.motorStates := by
      have hfold : ∀ s : DamiaoCan, (ids.foldl addMotor s).motorStates = s.motorStates := by
        induction ids with
        | nil => exact fun _ => rfl
        | cons id ids ih => exact fun s => ih (s.addMotor id)
      exact fun s => hfold _
    exact (own_modify (showsOnly_of_states hload)).bind fun _ => (own_gets _).bind fun _ =>
      .ite ⟨trivial, fun _ _ => trivial⟩ trivial
  motorCall id call := own_motorCall call
  query id query := (own_gets _).bind fun _ => .ite trivial <|
    own_registerManagedMotorId.bind fun _ => (own_gets _).bind fun _ => own_submitTx _ _ _

theorem own_handleFeedback {f : Frame} (hid : f.id = kDamiaoMasterId) :
    (handleFeedback f).Stays (PortOp.Own (ShowsOnly (some f))) := by
  unfold handleFeedback
  split
  · trivial
  next hdlc =>
    have hdecode : ShowsOnly (some f) fun s =>
        s.setMotorState (f.byte 0 &&& 0x0F) (decodeFeedback f) := by
      intro s sw hshows
      rcases shows_setMotorState hshows with hold | ⟨hnode, -, hstate⟩
      · exact .inl hold
      · have hfrom : responseNode f = some sw.node := by
          rw [responseNode, if_pos ⟨hid, Nat.not_lt.1 hdlc⟩, hnode]
        refine .inr (Bool.and_eq_true_iff.2 ⟨decide_eq_true hfrom, ?_⟩)
        exact beq_iff_eq.2 hstate
    refine (own_gets _).bind fun _ => .ite (.bind ⟨hdecode, fun _ _ => trivial⟩ fun _ =>
      own_now.bind fun _ => own_publish _) trivial

theorem own_handleResponse (f : Frame) :
    (handleResponse f).Stays (PortOp.Own (ShowsOnly (some f))) := by
  have hmatch : ShowsOnly (some f) fun s => (matchRegisterAck f s).2 := by
    refine showsOnly_of_states fun s => ?_
    unfold matchRegisterAck
    dsimp only
    split <;> rfl
  unfold handleResponse
  split
  · trivial
  next hid =>
    have hfeedback := own_handleFeedback (not_not.1 hid)
    exact .ite (.bind ⟨hmatch, fun _ _ => trivial⟩ fun _ => .ite trivial hfeedback) hfeedback

end DamiaoCan

/-! ## the calls -/

/-- A call on the device: a motor is switched and the result looked at, or something else
happens. -/
inductive SwitchCall where
  | enable (id : MotorID)
  | disable (id : MotorID)
  | other (c : BusCall)
deriving DecidableEq, Repr

namespace SwitchCall

/-- The program of a call. -/
def code (cfg : DeviceManagerConfig) (deviceName : String) : SwitchCall → BusProg Bool
  | .enable id => Proto.onBus (DamiaoCan.enable id)
  | .disable id => Proto.onBus (DamiaoCan.disable id)
  | .other c => do
      c.code cfg deviceName
      pure false

/-- The motor that a call switches. -/
def switching : SwitchCall → Option Switching
  | .enable id => some {
      node := toProtocolNodeId id
      command := DamiaoCan.kDamiaoEnableCommand
      state := DamiaoCan.kDamiaoEnabledStateCode }
  | .disable id => some {
      node := toProtocolNodeId id
      command := DamiaoCan.kDamiaoDisableCommand
      state := DamiaoCan.kDamiaoDisabledStateCode }
  | .other _ => none

/-- The frame that a call of the receive thread hands to the DM protocol. -/
def received : SwitchCall → Option Frame
  | .other (.dmReceive frame) => some frame
  | _ => none

end SwitchCall

/-- How far a switching call is: the frame is not submitted, it is, or the state has been seen
since. -/
inductive SwitchStage where
  | unsent | sent | shown
deriving DecidableEq, Repr

/-- The frame of a switch. -/
def Switching.frame (sw : Switching) : Frame := DamiaoCan.motorCommandFrame sw.node sw.command

/-- What an operation is for a switching call: its frame is submitted, or the object looked at. -/
def SwitchStage.next (sw : Switching) (g : SwitchStage) : (op : BusOp) → op.Ans → SwitchStage
  | .enqueue r, _ => if r.frame = sw.frame then .sent else g
  | .dm _, s => if g ≠ .unsent ∧ s.shows sw = true then .shown else g
  | _, _ => g

/-- The discipline of a call: only a received frame makes the object show something new. -/
def switchRules (c : SwitchCall) : Protocol busSig SwitchStage where
  allow _ op := op.DmOwn (DamiaoCan.ShowsOnly c.received)
  accepts _ _ _ := True
  next g op r := c.switching.elim g fun sw => g.next sw op r

/-- What is asked of a call that returns. -/
def SwitchCall.Concluded (c : SwitchCall) (result : Bool) (g : SwitchStage) : Prop :=
  c.switching.isSome = true → result = true → g = .shown

section

variable {c : SwitchCall} {sw : Switching}

/-- Once the frame is submitted, the call knows. -/
theorem switchRules_sent {p : BusProg α} (hc : c.switching = some sw)
    (hp : p.Stays (BusOp.DmOwn (DamiaoCan.ShowsOnly c.received))) {g : SwitchStage}
    (hg : g ≠ .unsent) : p.wp (switchRules c) (fun _ g => g ≠ .unsent) g := by
  refine wp_mono (wp_of_only (I := fun g => g ≠ .unsent) (R := fun _ => True) hp
    (fun g op hg hop => ⟨hop, fun r _ => ?_⟩) hg) fun _ _ h => h.2
  simp only [switchRules, hc, Option.elim_some]
  cases op with
  | enqueue r =>
      rw [SwitchStage.next]
      split
      · decide
      · exact hg
  | dm f =>
      rw [SwitchStage.next]
      split
      · decide
      · exact hg
  | _ => exact hg

/-- The wait ends with true when the state is seen. -/
theorem switchRules_wait (hc : c.switching = some sw) {g : SwitchStage} (hg : g ≠ .unsent) :
    (Proto.onBus (DamiaoCan.waitForFeedbackState sw.node sw.state)).wp (switchRules c)
      (fun result g => result = true → g = .shown) g := by
  rw [DamiaoCan.waitForFeedbackState_eq]
  refine ⟨DamiaoCan.showsOnly_of_states fun _ => rfl, fun s _ hshows => ?_⟩
  simp only [switchRules, hc, Option.elim_some]
  exact if_pos ⟨hg, hshows⟩

/-- What does not handle a frame is allowed. -/
theorem switchRules_own {p : Proto DamiaoCan α}
    (hp : p.Stays (PortOp.Own (DamiaoCan.ShowsOnly c.received))) (g : SwitchStage) :
    p.onBus.wp (switchRules c) (fun _ _ => True) g :=
  Stays.wp ((dm_dmOwn hp).mono fun _ hop _ => hop)

/-- When the command is sent, the call has submitted its frame. -/
theorem switchRules_command (hc : c.switching = some sw) (category : Category) (source : TxSource)
    (g : SwitchStage) :
    (Proto.onBus (DamiaoCan.sendMotorCommand sw.node sw.command category source)).wp
      (switchRules c) (fun sent g => sent = true → g ≠ .unsent) g := by
  rw [DamiaoCan.sendMotorCommand, DamiaoCan.submitTx, Proto.onBus_bind, wp_bind]
  refine ⟨DamiaoCan.showsOnly_of_states fun _ => rfl, fun s _ => ?_⟩
  change (Proto.onBus (if s.txDispatcher then _ else _)).wp _ _ _
  split
  · refine ⟨trivial, fun accepted _ => ?_⟩
    have hsent : (switchRules c).next ((switchRules c).next g (.dm id) s)
        (.enqueue { frame := sw.frame, category, source }) accepted = .sent := by
      simp only [switchRules, hc, Option.elim_some, SwitchStage.next, if_true]
    cases accepted <;> exact fun _ => hsent.trans_ne (by decide)
  · intro h
    cases h

/-- The end of both calls: a neutral speed or the command, then the wait. -/
theorem switchRules_finish (hc : c.switching = some sw) {p : Proto DamiaoCan Bool}
    (hp : p.Stays (PortOp.Own (DamiaoCan.ShowsOnly c.received))) {g : SwitchStage}
    (hg : g ≠ .unsent) :
    (Proto.onBus (p >>= fun sent =>
      if sent then DamiaoCan.waitForFeedbackState sw.node sw.state else pure false)).wp
      (switchRules c) (fun result g => result = true → g = .shown) g := by
  rw [Proto.onBus_bind, wp_bind]
  refine wp_mono (switchRules_sent hc (dm_dmOwn hp) hg) fun sent g hg => ?_
  cases sent with
  | true => exact switchRules_wait hc hg
  | false => exact fun h => absurd h Bool.false_ne_true

/-- **Enable**: true is returned when the enabled state is seen after the command. -/
theorem enable_concludes (id : MotorID) (g : SwitchStage) :
    (Proto.onBus (DamiaoCan.enable id)).wp (switchRules (.enable id))
      (SwitchCall.Concluded (.enable id)) g := by
  have hc : (SwitchCall.enable id).switching = some
    ⟨toProtocolNodeId id, DamiaoCan.kDamiaoEnableCommand, DamiaoCan.kDamiaoEnabledStateCode⟩ := rfl
  rw [DamiaoCan.enable, Proto.onBus_bind, wp_bind]
  refine wp_mono (switchRules_own DamiaoCan.own_registerManagedMotorId g) fun _ g _ => ?_
  rw [Proto.onBus_bind, wp_bind]
  refine wp_mono (switchRules_own DamiaoCan.own_ensureVelocityModeConfigured g) fun ok g _ => ?_
  cases ok with
  | false => exact fun _ h => absurd h Bool.false_ne_true
  | true =>
      rw [if_pos rfl, Proto.onBus_bind, wp_bind]
      refine wp_mono (switchRules_own (DamiaoCan.own_publish _) g) fun _ g _ => ?_
      rw [Proto.onBus_bind, wp_bind]
      refine wp_mono (switchRules_own (DamiaoCan.own_publish _) g) fun _ g _ => ?_
      rw [Proto.onBus_bind, wp_bind]
      refine wp_mono (switchRules_command hc _ _ g) fun sent g hg => ?_
      cases sent with
      | false => exact fun _ h => absurd h Bool.false_ne_true
      | true =>
          rw [if_pos rfl]
          exact wp_mono (switchRules_finish hc (DamiaoCan.own_submitTx _ _ _) (hg rfl))
            fun result g h _ => h

/-- **Disable**: likewise, the neutral speed first. -/
theorem disable_concludes (id : MotorID) (g : SwitchStage) :
    (Proto.onBus (DamiaoCan.disable id)).wp (switchRules (.disable id))
      (SwitchCall.Concluded (.disable id)) g := by
  have hc : (SwitchCall.disable id).switching = some
    ⟨toProtocolNodeId id, DamiaoCan.kDamiaoDisableCommand, DamiaoCan.kDamiaoDisabledStateCode⟩ := rfl
  rw [DamiaoCan.disable, Proto.onBus_bind, wp_bind]
  refine wp_mono (switchRules_own DamiaoCan.own_registerManagedMotorId g) fun _ g _ => ?_
  rw [Proto.onBus_bind, wp_bind]
  refine wp_mono (switchRules_own (DamiaoCan.own_setMotorState fun _ => ?_) g) fun _ g _ => ?_
  · exact ⟨rfl, rfl⟩
  rw [Proto.onBus_bind, wp_bind]
  refine wp_mono (switchRules_own (DamiaoCan.own_syncSharedCommand _ _) g) fun _ g _ => ?_
  rw [Proto.onBus_bind, wp_bind]
  refine wp_mono (switchRules_own (DamiaoCan.own_publish _) g) fun _ g _ => ?_
  rw [Proto.onBus_bind, wp_bind]
  refine wp_mono (switchRules_own (DamiaoCan.own_submitTx _ _ _) g) fun sent g _ => ?_
  cases sent with
  | false => exact fun _ h => absurd h Bool.false_ne_true
  | true =>
      rw [if_pos rfl, Proto.onBus_bind, wp_bind]
      refine wp_mono (switchRules_command hc _ _ g) fun sent g hg => ?_
      cases sent with
      | false => exact fun _ h => absurd h Bool.false_ne_true
      | true =>
          rw [if_pos rfl]
          exact wp_mono (switchRules_wait hc (hg rfl)) fun result g h _ => h

theorem switchRules_code (cfg : DeviceManagerConfig) (deviceName : String) (c : SwitchCall)
    (g : SwitchStage) : (c.code cfg deviceName).wp (switchRules c) c.Concluded g := by
  cases c with
  | enable id => exact enable_concludes id g
  | disable id => exact disable_concludes id g
  | other c =>
      have hparts : (c.code cfg deviceName).Stays
          (BusOp.DmOwn (DamiaoCan.ShowsOnly (SwitchCall.other c).received)) := by
        refine DamiaoCan.showsOnly_parts.code cfg deviceName fun frame hc => ?_
        subst hc
        exact DamiaoCan.own_handleResponse frame
      rw [SwitchCall.code, wp_bind]
      exact wp_mono (Stays.wp (hparts.mono fun _ hop _ => hop)) fun _ _ _ h =>
        absurd h Bool.false_ne_true

end

/-! ## the runs of a device -/

section

variable {ι : Type} [DecidableEq ι]

/-- The threads of a device, whose switching calls return their result. -/
abbrev SwitchPool (ι : Type) := Pool busSig ι SwitchCall Bool Bus
abbrev SwitchEvent (ι : Type) := Event busSig ι SwitchCall Bool

/-- What is kept of each thread: the motor its last call switches, whether the frame for that
was submitted, whether the state was reported since by a frame received since, and the frame
that is being handled. -/
structure SwitchLog (ι : Type) where
  switching : ι → Option Switching := fun _ => none
  sent : ι → Bool := fun _ => false
  reported : ι → Bool := fun _ => false
  handling : ι → Option Frame := fun _ => none

namespace SwitchLog

/-- Whether a received frame reports the state that a thread waits for. -/
def hears (log : SwitchLog ι) (frame : Option Frame) (i : ι) : Bool :=
  (log.switching i).any fun sw => frame.any (DamiaoCan.reports · sw)

/-- A thread starts a call. -/
def start (log : SwitchLog ι) (i : ι) (c : SwitchCall) : SwitchLog ι where
  switching := Function.update log.switching i c.switching
  sent := Function.update log.sent i false
  reported := Function.update (fun j => log.reported j || log.hears c.received j) i false
  handling := Function.update log.handling i c.received

/-- A thread submits a frame. -/
def submit (log : SwitchLog ι) (i : ι) (frame : Frame) : SwitchLog ι :=
  if (log.switching i).any (fun sw => decide (frame = sw.frame)) then
    { log with
      sent := Function.update log.sent i true
      reported := Function.update log.reported i false }
  else log

/-- What is kept after a step. -/
def note (_ : SwitchPool ι) (e : SwitchEvent ι) (_ : SwitchPool ι) (log : SwitchLog ι) :
    SwitchLog ι :=
  match e with
  | .call i c => log.start i c
  | .act i (.enqueue r) => log.submit i r.frame
  | .act _ _ => log
  | .ret i _ => { log with handling := Function.update log.handling i none }

end SwitchLog

/-- A step on the device, and what is kept of it. -/
abbrev SwitchStep (cfg : DeviceManagerConfig) (deviceName : String) :
    SwitchPool ι × SwitchLog ι → SwitchEvent ι → SwitchPool ι × SwitchLog ι → Prop :=
  Recording (Pool.Step (SwitchCall.code cfg deviceName) fun b _ => b.serves) SwitchLog.note

/-- When a call submits its frame, nothing old says what it waits for: the cached state does
not, and no frame that does is still being handled. -/
def NothingOldShows (w : SwitchPool ι × SwitchLog ι) (e : SwitchEvent ι) : Prop :=
  ∀ i r sw, e = .act i (.enqueue r) → w.2.switching i = some sw → r.frame = sw.frame →
    w.1.shared.dm.shows sw = false ∧
      ∀ j frame, w.2.handling j = some frame → DamiaoCan.reports frame sw = false

/-- A switching call returns true only if the motor has reported the state in a frame received
after the call's own frame was submitted. -/
def Confirmed (w : SwitchPool ι × SwitchLog ι) (e : SwitchEvent ι) : Prop :=
  ∀ i sw, e = .ret i true → w.2.switching i = some sw → w.2.sent i = true ∧ w.2.reported i = true

/-- What says that the motor of a thread has switched was reported after the frame for it was
submitted. -/
structure NewsOnly (log : SwitchLog ι) (b : Bus) : Prop where
  cached : ∀ i sw, log.switching i = some sw → log.sent i = true → b.dm.shows sw = true →
    log.reported i = true
  handled : ∀ i sw, log.switching i = some sw → log.sent i = true → ∀ j frame,
    log.handling j = some frame → DamiaoCan.reports frame sw = true → log.reported i = true

/-- What is kept of a thread fits how far its call is. -/
structure SwitchLog.Fits (log : SwitchLog ι) (i : ι) (c : SwitchCall) (g : SwitchStage) : Prop where
  switching : log.switching i = c.switching
  handling : log.handling i = c.received
  sent : c.switching.isSome = true → g ≠ .unsent → log.sent i = true
  shown : c.switching.isSome = true → g = .shown → log.reported i = true

abbrev KeepsNews (w : SwitchPool ι × SwitchLog ι) : Prop :=
  Pool.Concludes switchRules SwitchCall.Concluded NewsOnly SwitchLog.Fits w.2 w.1

variable {log : SwitchLog ι} {b b' : Bus}

omit [DecidableEq ι] in
/-- What the object shows anew comes from a frame that is being handled. -/
theorem NewsOnly.after (h : NewsOnly log b) (hshows : ∀ sw, b'.dm.shows sw = true →
    b.dm.shows sw = true ∨ ∃ j frame, log.handling j = some frame ∧
      DamiaoCan.reports frame sw = true) : NewsOnly log b' where
  cached i sw hsw hsent hshown := by
    rcases hshows sw hshown with hold | ⟨j, frame, hj, hreports⟩
    · exact h.cached i sw hsw hsent hold
    · exact h.handled i sw hsw hsent j frame hj hreports
  handled := h.handled

theorem NewsOnly.start (h : NewsOnly log b) (i : ι) (c : SwitchCall) :
    NewsOnly (log.start i c) b := by
  constructor
  · intro j sw hsw hsent hshown
    by_cases hj : j = i
    · subst hj
      simp [SwitchLog.start] at hsent
    · simp only [SwitchLog.start, Function.update_of_ne hj] at hsw hsent ⊢
      rw [h.cached j sw hsw hsent hshown, Bool.true_or]
  · intro j sw hsw hsent k frame hk hreports
    by_cases hj : j = i
    · subst hj
      simp [SwitchLog.start] at hsent
    · simp only [SwitchLog.start, Function.update_of_ne hj] at hsw hsent ⊢
      by_cases hki : k = i
      · subst hki
        simp only [SwitchLog.start, Function.update_self] at hk
        rw [SwitchLog.hears, hsw, hk, Option.any_some, Option.any_some, hreports, Bool.or_true]
      · simp only [SwitchLog.start, Function.update_of_ne hki] at hk
        rw [h.handled j sw hsw hsent k frame hk hreports, Bool.true_or]

theorem NewsOnly.submit (h : NewsOnly log b) (i : ι) (frame : Frame)
    (hC : ∀ sw, log.switching i = some sw → frame = sw.frame → b.dm.shows sw = false ∧
      ∀ j frame, log.handling j = some frame → DamiaoCan.reports frame sw = false) :
    NewsOnly (log.submit i frame) b := by
  unfold SwitchLog.submit
  split
  next hown =>
    obtain ⟨sw, hsw, hframe⟩ := (Option.any_eq_true _ _).1 hown
    obtain ⟨hcached, hhandled⟩ := hC sw hsw (of_decide_eq_true hframe)
    constructor
    · intro j sw' hsw' hsent hshown
      by_cases hj : j = i
      · subst hj
        obtain rfl := Option.some.inj (hsw.symm.trans hsw')
        rw [hcached] at hshown
        cases hshown
      · simp only [Function.update_of_ne hj] at hsent ⊢
        exact h.cached j sw' hsw' hsent hshown
    · intro j sw' hsw' hsent k frame' hk hreports
      by_cases hj : j = i
      · subst hj
        obtain rfl := Option.some.inj (hsw.symm.trans hsw')
        rw [hhandled k frame' hk] at hreports
        cases hreports
      · simp only [Function.update_of_ne hj] at hsent ⊢
        exact h.handled j sw' hsw' hsent k frame' hk hreports
  next => exact h

theorem SwitchLog.Fits.start_other {i j : ι} {c c' : SwitchCall} {g : SwitchStage} (hj : j ≠ i)
    (h : log.Fits j c g) : (log.start i c').Fits j c g where
  switching := (Function.update_of_ne hj _ _).trans h.switching
  handling := (Function.update_of_ne hj _ _).trans h.handling
  sent hc hg := (Function.update_of_ne hj _ _).trans (h.sent hc hg)
  shown hc hg := by
    simp only [SwitchLog.start, Function.update_of_ne hj]
    rw [h.shown hc hg, Bool.true_or]

theorem SwitchLog.Fits.submit_other {i j : ι} {c : SwitchCall} {g : SwitchStage} {frame : Frame}
    (hj : j ≠ i) (h : log.Fits j c g) : (log.submit i frame).Fits j c g := by
  unfold SwitchLog.submit
  split
  · exact ⟨h.switching, h.handling, fun hc hg => (Function.update_of_ne hj _ _).trans (h.sent hc hg),
      fun hc hg => (Function.update_of_ne hj _ _).trans (h.shown hc hg)⟩
  · exact h

theorem SwitchLog.Fits.submit_self {i : ι} {c : SwitchCall} {g : SwitchStage} {r : Request}
    {accepted : Bool} (h : log.Fits i c g) :
    (log.submit i r.frame).Fits i c ((switchRules c).next g (.enqueue r) accepted) := by
  rw [SwitchLog.submit, h.switching]
  simp only [switchRules]
  cases hc : c.switching with
  | none => exact h
  | some sw =>
      simp only [Option.any_some, Option.elim_some, SwitchStage.next, decide_eq_true_eq]
      split
      · exact ⟨h.switching, h.handling, fun _ _ => Function.update_self _ _ _,
          fun _ hg => absurd hg (by decide)⟩
      · exact h

omit [DecidableEq ι] in
theorem SwitchLog.Fits.look {i : ι} {c : SwitchCall} {g : SwitchStage}
    {f : DamiaoCan → DamiaoCan} (h : log.Fits i c g) (hnews : NewsOnly log b) :
    log.Fits i c ((switchRules c).next g (.dm f) b.dm) := by
  simp only [switchRules]
  cases hc : c.switching with
  | none => exact h
  | some sw =>
      have hsome : c.switching.isSome = true := by rw [hc, Option.isSome_some]
      simp only [Option.elim_some, SwitchStage.next]
      split
      next hshows =>
        have hsent := h.sent hsome hshows.1
        exact ⟨h.switching, h.handling, fun _ _ => hsent,
          fun _ _ => hnews.cached i sw (h.switching.trans hc) hsent hshows.2⟩
      next => exact h

/-- **Step**: it stays so as long as nothing old shows. -/
theorem keepsNews_step {cfg : DeviceManagerConfig} {deviceName : String}
    {w w' : SwitchPool ι × SwitchLog ι} {e : SwitchEvent ι} (h : KeepsNews w)
    (hC : NothingOldShows w e) (hs : SwitchStep cfg deviceName w e w') : KeepsNews w' := by
  obtain ⟨hs, hnote⟩ := hs
  refine h.step (fun i c he hi => ?_) (fun i c op k g r s' he hi hfits hop hserves hshared => ?_)
    (fun i a he => ?_) (fun j c g hj hfits => ?_) hs
  · rw [hnote, he]
    refine ⟨h.shared.start i c, .unsent, ⟨Function.update_self _ _ _, Function.update_self _ _ _,
      fun _ hg => absurd rfl hg, fun _ hg => absurd hg (by decide)⟩,
      switchRules_code cfg deviceName c .unsent⟩
  · obtain ⟨hadmits, rfl⟩ := hserves
    rw [hnote, he]
    refine ⟨trivial, ?_⟩
    cases op with
    | enqueue q =>
        have hnews := h.shared.submit i q.frame fun sw hsw hframe => hC i q sw he hsw hframe
        exact ⟨hnews.after fun _ hshows => .inl hshows, hfits.submit_self⟩
    | dm f =>
        obtain rfl : r = w.1.shared.dm := hadmits
        refine ⟨h.shared.after fun sw hshows => ?_, hfits.look h.shared⟩
        rcases hop w.1.shared.dm sw hshows with hold | hnew
        · exact .inl hold
        · obtain ⟨frame, hframe, hreports⟩ := (Option.any_eq_true _ _).1 hnew
          exact .inr ⟨i, frame, hfits.handling.trans hframe, hreports⟩
    | _ =>
        refine ⟨h.shared.after fun _ hshows => .inl hshows, ?_⟩
        simp only [switchRules]
        cases c.switching <;> exact hfits
  · rw [hnote, he]
    refine ⟨h.shared.cached, fun j sw hsw hsent k frame hk => ?_⟩
    have hk : Function.update w.2.handling i none k = some frame := hk
    by_cases hki : k = i
    · subst hki
      rw [Function.update_self] at hk
      cases hk
    · rw [Function.update_of_ne hki] at hk
      exact h.shared.handled j sw hsw hsent k frame hk
  · rw [hnote]
    cases e with
    | call i c => exact hfits.start_other hj
    | ret i a =>
        exact ⟨hfits.switching, (Function.update_of_ne hj _ _).trans hfits.handling, hfits.sent,
          hfits.shown⟩
    | act i op =>
        cases op with
        | enqueue q => exact hfits.submit_other hj
        | _ => exact hfits

end

/-! ## a motor that is enabled already -/

/-- Whether a thread is about to return true from a call. -/
def returnsTrue {ι : Type} (p : SwitchPool ι) (i : ι) : Bool :=
  (p.thread i).any fun t => match t.prog with
    | .ret a => a
    | .vis _ _ => false

theorem step_of_returnsTrue {ι : Type} [DecidableEq ι] {p : SwitchPool ι} {i : ι}
    (h : returnsTrue p i = true) (cfg : DeviceManagerConfig) (deviceName : String) :
    Pool.Step (SwitchCall.code cfg deviceName) (fun b _ => b.serves) p (.ret i true)
      (p.setThread i none) := by
  obtain ⟨⟨call, prog⟩, hi, hreturns⟩ := (Option.any_eq_true _ _).1 h
  cases prog with
  | vis op k => cases hreturns
  | ret a =>
      obtain rfl : a = true := hreturns
      exact .ret p i call true hi

/-- Whether a thread is about to return false from a call. -/
def returnsFalse {ι : Type} (p : SwitchPool ι) (i : ι) : Bool :=
  (p.thread i).any fun t => match t.prog with
    | .ret a => !a
    | .vis _ _ => false

/-- DM motor 1 reports that it is enabled and stands still. -/
def enabledReport : Frame := dataFrame 0 8 #v[0x11, 0x80, 0, 0x80, 0x08, 0, 0, 0]

/-- DM motor 1 is put into velocity mode, and acknowledges that. -/
def velocityReady {ι : Type} (caller receiver : ι) : List (Pool.Move ι SwitchCall) :=
  Pool.callFor caller (.other (.dm 1 (.setMode .velocity))) 8 ++
    Pool.callFor receiver (.other (.dmReceive velocityModeAck)) 2 ++
    List.replicate 7 (.go caller)

/-- It reports that it is enabled. -/
def reportsEnabled {ι : Type} (receiver : ι) : List (Pool.Move ι SwitchCall) :=
  Pool.callFor receiver (.other (.dmReceive enabledReport)) 6

/-- A checked form of `NothingOldShows`. -/
def nothingOldShows (w : SwitchPool (Fin 2) × SwitchLog (Fin 2)) : SwitchEvent (Fin 2) → Bool
  | .act i (.enqueue r) => (w.2.switching i).all fun sw => decide (r.frame = sw.frame →
      w.1.shared.dm.shows sw = false ∧
        ∀ j, (w.2.handling j).any (DamiaoCan.reports · sw) = false)
  | _ => true

theorem nothingOldShows_spec {w : SwitchPool (Fin 2) × SwitchLog (Fin 2)} {e : SwitchEvent (Fin 2)}
    (h : nothingOldShows w e = true) : NothingOldShows w e := by
  rintro i r sw rfl hsw hframe
  rw [nothingOldShows, hsw, Option.all_some, decide_eq_true_eq] at h
  obtain ⟨hcached, hhandled⟩ := h hframe
  refine ⟨hcached, fun j frame hj => ?_⟩
  have hnone := hhandled j
  rw [hj, Option.any_some] at hnone
  exact hnone

/-- The motor never reports anything: `Enable` submits its frame and returns false. -/
theorem unreported_enable_refused : ∃ w : SwitchPool (Fin 2) × SwitchLog (Fin 2),
    Reach (SwitchStep {} "can0") (fun _ _ => True)
      (Pool.idle (Bus.powerOn "can0" {} {} 0), {}) w ∧
    w.2.switching 0 = (SwitchCall.enable 1).switching ∧ w.2.sent 0 = true ∧
    returnsFalse w.1 0 = true := by
  have hrun : (Pool.followNoting (SwitchCall.code {} "can0") (fun b _ => b.serve) SwitchLog.note
      (Pool.idle (Bus.powerOn "can0" {} {} 0), {})
      (velocityReady (0 : Fin 2) 1 ++ Pool.callFor 0 (.enable 1) 13)).any
        (fun w => decide (w.2.switching 0 = (SwitchCall.enable 1).switching) &&
          (w.2.sent 0 && returnsFalse w.1 0)) = true := by
    decide +kernel
  obtain ⟨w, hr, htest⟩ := Pool.exists_of_followNoting (h := fun b _ => b.serves)
    (C := fun _ _ => True) (fun _ _ _ _ _ => serves_of_serve) (fun _ _ _ _ _ _ => trivial) hrun
  obtain ⟨hswitching, htest⟩ := Bool.and_eq_true_iff.1 htest
  obtain ⟨hsent, hreturns⟩ := Bool.and_eq_true_iff.1 htest
  exact ⟨w, hr, of_decide_eq_true hswitching, hsent, hreturns⟩

end CanDriver
