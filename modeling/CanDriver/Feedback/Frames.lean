import CanDriver.BusCall

/-!
# CanDriver.Feedback.Frames

Which frames feedback comes from.

The three receive handlers test different things before they believe a frame: the
PP handler that two bytes are there, the MT handler that one is, the DM handler
that eight are but neither the extended nor the remote flag.  What follows says
which frames change what is known of an axis without carrying it.
-/

namespace CanDriver

open Interact Prog Proto

/-! ## what is known of the axes -/

/-- The feedback of every axis, published and cached, is the same, and so is the count
of unanswered reads. -/
structure SameFeedback (b b' : Bus) : Prop where
  shared : ∀ key, b'.shared.getAxisFeedback key = b.shared.getAxisFeedback key
  eyou : ∀ n, b'.eyou.motorState n = b.eyou.motorState n
  mt : ∀ n, b'.mt.motorState n = b.mt.motorState n
  dm : ∀ n, b'.dm.motorState n = b.dm.motorState n
  timeouts : ∀ read, (b'.mt.pendingReadRequests read).map MtPendingRead.consecutiveTimeouts =
    (b.mt.pendingReadRequests read).map MtPendingRead.consecutiveTimeouts

theorem SameFeedback.refl (b : Bus) : SameFeedback b b :=
  ⟨fun _ => rfl, fun _ => rfl, fun _ => rfl, fun _ => rfl, fun _ => rfl⟩

/-- An update of the PP object that leaves what it knows of its motors alone. -/
def EyouCan.KeepsStates (f : EyouCan → EyouCan) : Prop :=
  ∀ s n, (f s).motorState n = s.motorState n

/-- An update of the MT object that leaves what it knows of its motors alone. -/
def MtCan.KeepsStates (f : MtCan → MtCan) : Prop :=
  ∀ s, (∀ n, (f s).motorState n = s.motorState n) ∧
    ∀ read, ((f s).pendingReadRequests read).map MtPendingRead.consecutiveTimeouts =
      (s.pendingReadRequests read).map MtPendingRead.consecutiveTimeouts

/-- An update of the DM object that leaves what it knows of its motors alone. -/
def DamiaoCan.KeepsStates (f : DamiaoCan → DamiaoCan) : Prop :=
  ∀ s n, (f s).motorState n = s.motorState n

/-- The operations that change no feedback. -/
def KeepsFeedback : BusOp → Prop
  | .eyou f => EyouCan.KeepsStates f
  | .mt f => MtCan.KeepsStates f
  | .dm f => DamiaoCan.KeepsStates f
  | .shared f => ∀ s key, (f s).getAxisFeedback key = s.getAxisFeedback key
  | _ => True

/-- **Step**: such an operation leaves the feedback as it was. -/
theorem SameFeedback.after {b b' : Bus} {op : BusOp} (h : SameFeedback b b')
    (hop : KeepsFeedback op) (r : op.Ans) : SameFeedback b (b'.after op r) := by
  cases op with
  | eyou f => exact { h with eyou := fun n => (hop _ n).trans (h.eyou n) }
  | mt f =>
      obtain ⟨hstates, htimeouts⟩ := hop b'.mt
      exact { h with
        mt := fun n => (hstates n).trans (h.mt n)
        timeouts := fun read => (htimeouts read).trans (h.timeouts read) }
  | dm f => exact { h with dm := fun n => (hop _ n).trans (h.dm n) }
  | shared f => exact { h with shared := fun key => (hop _ key).trans (h.shared key) }
  | _ => exact { h with }

/-- **Run**: a program of such operations leaves the feedback as it was. -/
theorem sameFeedback_of_stays {p : BusProg α} (hp : p.Stays KeepsFeedback) (b : Bus) :
    p.wp busProtocol (fun _ b' => SameFeedback b b') b := by
  have h := wp_of_only (P := busProtocol) (I := SameFeedback b) hp
    (fun _ _ h hop => ⟨trivial, fun r _ => h.after hop r⟩) (SameFeedback.refl b)
  exact wp_mono h fun _ _ h => h.2

/-! ### from the port to the device -/

/-- The operations of a protocol that change no feedback. -/
def Quiet (keeps : (P → P) → Prop) : PortOp P → Prop
  | .proto f => keeps f
  | .shared _ => False
  | .submit _ => True
  | .clock => True

theorem EyouCan.keepsStates_onReadDispatchResult (node subCommand : UInt8) (sent : Bool)
    (result : SendResult) (t : Time) :
    KeepsStates (onReadDispatchResult node subCommand sent result t) := by
  intro s n
  unfold onReadDispatchResult
  split
  · rfl
  · split <;> rfl

/-- Updating an entry without touching its count changes no count. -/
theorem map_put_eq {κ ν μ : Type} [DecidableEq κ] {m : κ → Option ν} {f : ν → μ} {k : κ} {v v' : ν}
    (hk : m k = some v) (hv : f v' = f v) (k' : κ) : (put m k v' k').map f = (m k').map f := by
  by_cases h : k' = k
  · subst h
    rw [put_self, hk, Option.map_some, Option.map_some, hv]
  · rw [put_of_ne _ _ h]

theorem MtCan.keepsStates_onReadDispatchResult (node command : UInt8) (sent : Bool)
    (result : SendResult) (t : Time) :
    KeepsStates (onReadDispatchResult node command sent result t) := by
  intro s
  unfold onReadDispatchResult
  split
  · exact ⟨fun _ => rfl, fun _ => rfl⟩
  · split
    · exact ⟨fun _ => rfl, fun _ => rfl⟩
    · rename_i request hrequest
      refine ⟨fun _ => rfl, map_put_eq hrequest ?_⟩
      split <;> rfl

theorem submit_keepsFeedback (r : Request) : (DeviceRuntime.submit r).Stays KeepsFeedback := by
  refine DeviceRuntime.submit_stays trivial trivial fun c _ t => ?_
  cases c with
  | eyouRead node subCommand =>
      exact .vis (EyouCan.keepsStates_onReadDispatchResult _ _ _ _ _) fun _ => trivial
  | mtRead node command =>
      exact .vis (MtCan.keepsStates_onReadDispatchResult _ _ _ _ _) fun _ => trivial

/-- A quiet protocol program changes no feedback on the device. -/
theorem onBus_keepsFeedback {P : Type} [BusObject P] {keeps : (P → P) → Prop}
    (hown : ∀ f : P → P, keeps f → (BusObject.own f).Stays KeepsFeedback)
    {p : Proto P α} (hp : p.Stays (Quiet keeps)) : p.onBus.Stays KeepsFeedback := by
  refine wp_only_interp (fun op hop => ?_) hp
  cases op with
  | proto f => exact hown f hop
  | shared f => exact hop.elim
  | submit r => exact submit_keepsFeedback r
  | clock => exact Stays.vis trivial fun _ => trivial

theorem EyouCan.keepsFeedback {p : Proto EyouCan α} (hp : p.Stays (Quiet KeepsStates)) :
    p.onBus.Stays KeepsFeedback :=
  onBus_keepsFeedback
    (fun f hf => show (Device.eyou f).Stays KeepsFeedback from .vis hf fun _ => trivial) hp

theorem MtCan.keepsFeedback {p : Proto MtCan α} (hp : p.Stays (Quiet KeepsStates)) :
    p.onBus.Stays KeepsFeedback :=
  onBus_keepsFeedback
    (fun f hf => show (Device.mt f).Stays KeepsFeedback from .vis hf fun _ => trivial) hp

theorem DamiaoCan.keepsFeedback {p : Proto DamiaoCan α} (hp : p.Stays (Quiet KeepsStates)) :
    p.onBus.Stays KeepsFeedback :=
  onBus_keepsFeedback
    (fun f hf => show (Device.dm f).Stays KeepsFeedback from .vis hf fun _ => trivial) hp

/-! ## frames that carry feedback -/

/-- A standard data frame with at least `n` bytes. -/
structure Frame.Carries (frame : Frame) (n : Nat) : Prop where
  standard : frame.isExtended = false
  data : frame.isRemoteRequest = false
  bytes : n ≤ frame.dlc.toNat

/-- Whatever state the device is in, the handler changes feedback only if the frame
carries the bytes feedback is decoded from. -/
def OnlyFromCarrying (n : Nat) (receive : Proto P Unit) [BusObject P] (frame : Frame) : Prop :=
  ∀ b : Bus, receive.onBus.wp busProtocol (fun _ b' => ¬ SameFeedback b b' → frame.Carries n) b

/-- The bytes up to the last one the PP handler decodes: the value is in bytes 2 to 5. -/
def EyouCan.feedbackBytes : Nat := 6

/-- The MT handler decodes the encoder, the error code and the angle up to byte 7. -/
def MtCan.feedbackBytes : Nat := 8

/-- The DM handler decodes the torque from bytes 4 and 5. -/
def DamiaoCan.feedbackBytes : Nat := 6

section

variable {P : Type} [BusObject P] {receive : Proto P Unit} {frame : Frame} {n : Nat}

theorem onlyFromCarrying_of_carries (h : frame.Carries n) : OnlyFromCarrying n receive frame :=
  fun _ => wp_mono (wp_of_only (P := busProtocol) (I := fun _ => True)
    (wp_only_of_forall (fun _ => trivial) _) (fun _ _ _ _ => ⟨trivial, fun _ _ => trivial⟩) trivial)
    fun _ _ _ _ => h

theorem onlyFromCarrying_of_stays (h : receive.onBus.Stays KeepsFeedback) :
    OnlyFromCarrying n receive frame :=
  fun b => wp_mono (sameFeedback_of_stays h b) fun _ _ hsame hchanged => absurd hsame hchanged

end

/-- A device nothing is known of yet, with these DM nodes. -/
def silentBus (nodes : List UInt8) : Bus :=
  { Bus.powerOn "can0" {} {} 0 with dm := { deviceName := "can0", managedMotorIds := nodes } }

/-- A handler that may publish on the silent device trusts the frame. -/
theorem not_onlyFromCarrying {P : Type} [BusObject P] {receive : Proto P Unit} {frame : Frame}
    {n : Nat} (nodes : List UInt8)
    (hpublish : ∀ Q : Unit → Bus → Prop, receive.onBus.wp busProtocol Q (silentBus nodes) →
      ∃ b' key, Q () b' ∧ (b'.shared.getAxisFeedback key).isSome) (hcarries : ¬ frame.Carries n) :
    ¬ OnlyFromCarrying n receive frame := by
  intro h
  obtain ⟨b', key, hb', hkey⟩ := hpublish _ (h (silentBus nodes))
  refine hcarries (hb' fun hsame => ?_)
  have hnone : (silentBus nodes).shared.getAxisFeedback key = none := rfl
  rw [hsame.shared key, hnone] at hkey
  simp at hkey

/-! ## PP -/

namespace EyouCan

theorem quiet_modify {f : EyouCan → EyouCan} (hf : KeepsStates f) :
    (modify f).Stays (Quiet KeepsStates) :=
  .vis hf fun _ => trivial

theorem quiet_gets (f : EyouCan → α) : (gets f).Stays (Quiet KeepsStates) :=
  .vis (fun _ _ => rfl) fun _ => trivial

theorem quiet_tryIssueReadCommand (node subCommand : UInt8) :
    (tryIssueReadCommand node subCommand).Stays (Quiet KeepsStates) := by
  refine (quiet_gets _).bind fun s => .ite trivial ?_
  refine .bind (.vis (fun _ _ => rfl) fun _ => trivial) fun claimed => .ite (.bind ?_ fun _ => trivial)
    trivial
  refine (quiet_gets _).bind fun s => .ite (.ite (.vis trivial fun _ => trivial) ?_) trivial
  exact .bind (.vis trivial fun _ => trivial) fun t =>
    quiet_modify (keepsStates_onReadDispatchResult _ _ _ _ _)

theorem quiet_resyncAfter (node subCommand : UInt8) :
    (resyncAfter node subCommand).Stays (Quiet KeepsStates) := by
  unfold resyncAfter
  split
  all_goals first | exact quiet_tryIssueReadCommand _ _ | trivial

/-- A read response without its value: too short, or a remote request. -/
def Misread (frame : Frame) : Prop :=
  (responseNode frame).isSome ∧ frame.byte 0 = kReadResponse ∧
    (frame.isRemoteRequest = true ∨ frame.dlc.toNat < feedbackBytes)

instance : DecidablePred Misread := fun _ => inferInstanceAs (Decidable (_ ∧ _ ∧ _))

/-- Frames that are no read responses change no feedback. -/
theorem quiet_handleResponse {frame : Frame}
    (h : (responseNode frame).isSome → frame.byte 0 ≠ kReadResponse) :
    (handleResponse frame).Stays (Quiet KeepsStates) := by
  refine (quiet_gets _).bind fun s => .ite trivial ?_
  cases hnode : responseNode frame with
  | none => trivial
  | some node =>
      have hread : frame.byte 0 ≠ kReadResponse := h (by rw [hnode]; rfl)
      refine .ite (.bind (quiet_modify fun s n => ?_) fun _ => .ite ?_ ?_) trivial
      · by_cases hn : n = node
        · subst hn
          simp [setMotorState, motorState]
        · simp [setMotorState, motorState, put_of_ne _ _ hn]
      · refine (quiet_modify fun _ _ => rfl).bind fun _ => .ite ?_ trivial
        exact (quiet_resyncAfter _ _).bind fun _ => trivial
      · rw [if_neg hread]
        trivial

theorem publishes_syncSharedFeedback {b : Bus} (hb : b.eyou.publishes = true) (node : UInt8)
    (st : EyouMotorState) {Q : Unit → Bus → Prop}
    (h : (syncSharedFeedback node st).onBus.wp busProtocol Q b) :
    ∃ b' key, Q () b' ∧ (b'.shared.getAxisFeedback key).isSome := by
  have hget : ∀ b : Bus, BusObject.get b = b.eyou := fun _ => rfl
  simp only [syncSharedFeedback, publish, Proto.onBus_bind, Proto.onBus_ite, Proto.wp_onBus_now,
    Proto.wp_onBus_gets, Proto.wp_onBus_modifyShared, wp_bind, wp_ite, hget, id, hb, if_true] at h
  exact ⟨_, _, h b.time le_rfl, by rw [SharedDriverState.getAxisFeedback_mutateAxisFeedback_self]; rfl⟩

/-- On the silent device a read response is published, whatever it carries. -/
theorem publishes_handleResponse {frame : Frame} (hnode : (responseNode frame).isSome)
    (hread : frame.byte 0 = kReadResponse) {Q : Unit → Bus → Prop}
    (h : (handleResponse frame).onBus.wp busProtocol Q (silentBus [])) :
    ∃ b' key, Q () b' ∧ (b'.shared.getAxisFeedback key).isSome := by
  have hget : ∀ b : Bus, BusObject.get b = b.eyou := fun _ => rfl
  have hset : ∀ (b : Bus) (s : EyouCan), BusObject.set b s = { b with eyou := s } := fun _ _ => rfl
  obtain ⟨node, hnode⟩ := Option.isSome_iff_exists.1 hnode
  have hack : ¬ kReadResponse = kWriteAck := by decide
  have hup : (silentBus []).eyou.shuttingDown = false := rfl
  have hmanaged : (silentBus []).eyou.isManagedMotorId node = true := rfl
  simp only [handleResponse, Proto.onBus_bind, wp_bind, Proto.wp_onBus_gets, hget, id, hup,
    Bool.false_eq_true, if_false, hnode, hmanaged, if_true, hread, hack, Proto.wp_onBus_modify, hset,
    markReadResponseReceived, Proto.wp_onBus_now, Proto.wp_onBus_access] at h
  exact publishes_syncSharedFeedback (by rfl) _ _ (h 0 le_rfl)

/-- The frames the PP handler reads come with the standard format. -/
theorem standard_of_responseNode {frame : Frame} (h : (responseNode frame).isSome) :
    frame.isExtended = false := by
  unfold responseNode at h
  split at h
  · simp at h
  · simp_all

theorem onlyFromCarrying_iff (frame : Frame) :
    OnlyFromCarrying feedbackBytes (handleResponse frame) frame ↔ ¬ Misread frame := by
  constructor
  · rintro h ⟨hnode, hread, hshort⟩
    refine not_onlyFromCarrying [] (fun Q hQ => publishes_handleResponse hnode hread hQ)
      (fun hcarries => ?_) h
    rcases hshort with hremote | hshort
    · rw [hcarries.data] at hremote
      cases hremote
    · have := hcarries.bytes
      omega
  · intro h
    by_cases hcarries : frame.Carries feedbackBytes
    · exact onlyFromCarrying_of_carries hcarries
    · refine onlyFromCarrying_of_stays (keepsFeedback (quiet_handleResponse fun hnode hread => ?_))
      have hstandard := standard_of_responseNode hnode
      refine h ⟨hnode, hread, ?_⟩
      by_contra hno
      rw [not_or, Bool.not_eq_true, not_lt] at hno
      exact hcarries ⟨hstandard, hno.1, hno.2⟩

end EyouCan

/-! ## MT -/

namespace MtCan

theorem quiet_modify {f : MtCan → MtCan} (hf : KeepsStates f) :
    (modify f).Stays (Quiet KeepsStates) :=
  .vis hf fun _ => trivial

theorem quiet_gets (f : MtCan → α) : (gets f).Stays (Quiet KeepsStates) :=
  .vis (fun _ => ⟨fun _ => rfl, fun _ => rfl⟩) fun _ => trivial

theorem quiet_resetSystem (node : UInt8) : (resetSystem node).Stays (Quiet KeepsStates) :=
  (quiet_gets _).bind fun _ => .ite (.bind (.vis trivial fun _ => trivial) fun _ => trivial) trivial

/-- The frames the MT handler reads, whatever their length. -/
def Reads (frame : Frame) : Prop :=
  frame.isExtended = false ∧ MtRmd.isResponseCanId (frame.id &&& 0x7FF) = true ∧ frame.dlc ≠ 0 ∧
    (MtRmd.Command.ofByte (frame.byte 0)).any Command.isPublished = true

/-- A published answer without its values: too short, or a remote request. -/
def Misread (frame : Frame) : Prop :=
  Reads frame ∧ (frame.isRemoteRequest = true ∨ frame.dlc.toNat < feedbackBytes)

/-- An answer that is not published says nothing about the motor. -/
theorem decodeResponse_eq {frame : Frame}
    (h : (MtRmd.Command.ofByte (frame.byte 0)).any Command.isPublished = false)
    (st : MtMotorState) : decodeResponse frame st = st := by
  cases hcommand : MtRmd.Command.ofByte (frame.byte 0) with
  | none => simp [decodeResponse, hcommand]
  | some command =>
      rw [hcommand, Option.any_some] at h
      have hstatus : command.isFeedback = false := (Bool.or_eq_false_iff.1 h).2
      have herror : command ≠ .readMotorStatus1AndErrorFlag := by
        rintro rfl
        cases h
      have hangle : command ≠ .readMultiTurnAngle := by
        rintro rfl
        cases h
      simp [decodeResponse, hcommand, hstatus, herror, hangle]

/-- Frames that are not published change no feedback. -/
theorem quiet_handleResponse {frame : Frame} (h : ¬ Reads frame) :
    (handleResponse frame).Stays (Quiet KeepsStates) := by
  refine (quiet_gets _).bind fun s => ?_
  by_cases hstandard : s.shuttingDown || frame.isExtended
  · rw [if_pos hstandard]
    trivial
  rw [if_neg hstandard]
  by_cases hid : !MtRmd.isResponseCanId (frame.id &&& 0x7FF) || frame.dlc = 0
  · simp only [hid, if_true]
    trivial
  simp only [hid]
  simp only [Bool.or_eq_true, Bool.not_eq_true', decide_eq_true_eq, not_or, Bool.not_eq_true,
    Bool.not_eq_false] at hstandard hid
  have hsilent : (MtRmd.Command.ofByte (frame.byte 0)).any Command.isPublished = false := by
    rw [← Bool.not_eq_true]
    exact fun hpublished => h ⟨hstandard.2, hid.1, hid.2, hpublished⟩
  have htracked : (MtRmd.Command.ofByte (frame.byte 0)).any Command.isTracked = false := by
    cases hcommand : MtRmd.Command.ofByte (frame.byte 0) with
    | none => rfl
    | some command =>
        rw [hcommand] at hsilent
        simp only [Option.any_some, Command.isPublished, Bool.or_eq_false_iff] at hsilent
        exact hsilent.1
  simp only [htracked, hsilent, Bool.false_eq_true, if_false]
  refine .bind (.vis (fun s => ⟨fun n => ?_, fun _ => rfl⟩) fun _ => trivial) fun snapshot =>
    .ite ((quiet_resetSystem _).bind fun _ => trivial) trivial
  by_cases hn : n = MtRmd.responseNodeId (frame.id &&& 0x7FF)
  · subst hn
    simp [setMotorState, motorState, decodeResponse_eq hsilent]
  · simp [setMotorState, motorState, put_of_ne _ _ hn]

theorem publishes_syncSharedFeedback {b : Bus} (hb : b.mt.publishes = true) (node : UInt8)
    (st : MtMotorState) {Q : Unit → Bus → Prop}
    (h : (syncSharedFeedback node st).onBus.wp busProtocol Q b) :
    ∃ b' key, Q () b' ∧ (b'.shared.getAxisFeedback key).isSome := by
  have hget : ∀ b : Bus, BusObject.get b = b.mt := fun _ => rfl
  simp only [syncSharedFeedback, publish, Proto.onBus_bind, Proto.onBus_ite, Proto.wp_onBus_now,
    Proto.wp_onBus_gets, Proto.wp_onBus_modifyShared, wp_bind, wp_ite, hget, id, hb, if_true] at h
  exact ⟨_, _, h b.time le_rfl, by rw [SharedDriverState.getAxisFeedback_mutateAxisFeedback_self]; rfl⟩

/-- On the silent device an answer to a read is published, whatever it carries. -/
theorem publishes_handleResponse {frame : Frame} (hreads : Reads frame) {Q : Unit → Bus → Prop}
    (h : (handleResponse frame).onBus.wp busProtocol Q (silentBus [])) :
    ∃ b' key, Q () b' ∧ (b'.shared.getAxisFeedback key).isSome := by
  obtain ⟨hstandard, hid, hdlc, hpublished⟩ := hreads
  have hget : ∀ b : Bus, BusObject.get b = b.mt := fun _ => rfl
  have hset : ∀ (b : Bus) (s : MtCan), BusObject.set b s = { b with mt := s } := fun _ _ => rfl
  have hup : (silentBus []).mt.shuttingDown = false := rfl
  have hzero : MtRmd.Command.ofByte (frame.byte 0) ≠ some .writeCurrentMultiTurnPositionToRomAsZero := by
    intro he
    rw [he] at hpublished
    cases hpublished
  simp only [handleResponse, Proto.onBus_bind, wp_bind, Proto.wp_onBus_gets, hget, id, hup,
    hstandard, Bool.or_self, Bool.false_eq_true, if_false, hid, Bool.not_true, hdlc, decide_false,
    hpublished, if_true, hzero] at h
  split at h
  · simp only [markReadResponseReceived, Proto.onBus_bind, wp_bind, Proto.wp_onBus_modify,
      Proto.wp_onBus_access, hget, hset] at h
    refine publishes_syncSharedFeedback ?_ _ _ h
    unfold answerRead
    split <;> rfl
  · simp only [Proto.onBus_bind, wp_bind, Proto.wp_onBus_access, hget, hset] at h
    exact publishes_syncSharedFeedback (by rfl) _ _ h

theorem onlyFromCarrying_iff (frame : Frame) :
    OnlyFromCarrying feedbackBytes (handleResponse frame) frame ↔ ¬ Misread frame := by
  constructor
  · rintro h ⟨hreads, hshort⟩
    refine not_onlyFromCarrying [] (fun Q hQ => publishes_handleResponse hreads hQ)
      (fun hcarries => ?_) h
    rcases hshort with hremote | hshort
    · rw [hcarries.data] at hremote
      cases hremote
    · have := hcarries.bytes
      omega
  · intro h
    by_cases hcarries : frame.Carries feedbackBytes
    · exact onlyFromCarrying_of_carries hcarries
    · refine onlyFromCarrying_of_stays (keepsFeedback (quiet_handleResponse fun hreads => ?_))
      refine h ⟨hreads, ?_⟩
      by_contra hno
      rw [not_or, Bool.not_eq_true, not_lt] at hno
      exact hcarries ⟨hreads.1, hno.1, hno.2⟩

end MtCan

/-! ## DM -/

namespace DamiaoCan

theorem quiet_gets (f : DamiaoCan → α) : (gets f).Stays (Quiet KeepsStates) :=
  .vis (fun _ _ => rfl) fun _ => trivial

/-- A frame the DM handler takes for feedback although its flags say otherwise. -/
def Misread (frame : Frame) : Prop :=
  frame.id = kDamiaoMasterId ∧ 8 ≤ frame.dlc ∧
    (frame.isExtended = true ∨ frame.isRemoteRequest = true)

theorem quiet_matchRegisterAck (frame : Frame) :
    (access (matchRegisterAck frame)).Stays (Quiet KeepsStates) := by
  refine .vis (fun s n => ?_) fun _ => trivial
  unfold matchRegisterAck
  dsimp only
  split <;> rfl

/-- Short frames and frames of other ids change no feedback. -/
theorem quiet_handleResponse {frame : Frame} (h : frame.id = kDamiaoMasterId → frame.dlc < 8) :
    (handleResponse frame).Stays (Quiet KeepsStates) := by
  unfold handleResponse
  by_cases hid : frame.id = kDamiaoMasterId
  · have hfeedback : (handleFeedback frame).Stays (Quiet KeepsStates) := by
      rw [handleFeedback, if_pos (h hid)]
      trivial
    refine .ite trivial (.ite ?_ hfeedback)
    exact (quiet_matchRegisterAck frame).bind fun _ => .ite trivial hfeedback
  · rw [if_pos hid]
    trivial

theorem publishes_syncSharedFeedback {b : Bus} (hb : b.dm.publishes = true) (node : UInt8)
    (st : DmMotorState) {Q : Unit → Bus → Prop}
    (h : (syncSharedFeedback node st).onBus.wp busProtocol Q b) :
    ∃ b' key, Q () b' ∧ (b'.shared.getAxisFeedback key).isSome := by
  have hget : ∀ b : Bus, BusObject.get b = b.dm := fun _ => rfl
  simp only [syncSharedFeedback, publish, Proto.onBus_bind, Proto.onBus_ite, Proto.wp_onBus_now,
    Proto.wp_onBus_gets, Proto.wp_onBus_modifyShared, wp_bind, wp_ite, hget, id, hb, if_true] at h
  exact ⟨_, _, h b.time le_rfl, by rw [SharedDriverState.getAxisFeedback_mutateAxisFeedback_self]; rfl⟩

/-- A DM frame is published whatever its flags say. -/
theorem publishes_handleResponse {frame : Frame} (hid : frame.id = kDamiaoMasterId)
    (hdlc : 8 ≤ frame.dlc) {Q : Unit → Bus → Prop}
    (h : (handleResponse frame).onBus.wp busProtocol Q (silentBus [frame.byte 0 &&& 0x0F])) :
    ∃ b' key, Q () b' ∧ (b'.shared.getAxisFeedback key).isSome := by
  have hget : ∀ b : Bus, BusObject.get b = b.dm := fun _ => rfl
  have hset : ∀ (b : Bus) (s : DamiaoCan), BusObject.set b s = { b with dm := s } := fun _ _ => rfl
  have hfull : ¬ frame.dlc < 8 := UInt8.not_lt.2 hdlc
  have hmanaged : (silentBus [frame.byte 0 &&& 0x0F]).dm.isManagedMotorId (frame.byte 0 &&& 0x0F)
      = true := by
    simp [silentBus, isManagedMotorId]
  have hack : matchRegisterAck frame (silentBus [frame.byte 0 &&& 0x0F]).dm =
      (false, (silentBus [frame.byte 0 &&& 0x0F]).dm) := rfl
  have hfeedback : (handleFeedback frame).onBus.wp busProtocol Q
      (silentBus [frame.byte 0 &&& 0x0F]) := by
    rw [handleResponse, if_neg (not_not.2 hid)] at h
    split at h
    · simpa only [Proto.onBus_bind, wp_bind, Proto.wp_onBus_access, hget, hset, hack,
        Bool.false_eq_true, if_false] using h
    · exact h
  simp only [handleFeedback, hfull, if_false, Proto.onBus_bind, wp_bind, Proto.wp_onBus_gets, hget,
    hset, id, hmanaged, if_true, Proto.wp_onBus_access] at hfeedback
  exact publishes_syncSharedFeedback (by rfl) _ _ hfeedback

theorem onlyFromCarrying_iff (frame : Frame) :
    OnlyFromCarrying feedbackBytes (handleResponse frame) frame ↔ ¬ Misread frame := by
  have hbytes : (8 : UInt8) ≤ frame.dlc → feedbackBytes ≤ frame.dlc.toNat := fun h =>
    le_trans (by decide) (UInt8.le_iff_toNat_le.1 h)
  constructor
  · rintro h ⟨hid, hdlc, hflags⟩
    refine not_onlyFromCarrying [frame.byte 0 &&& 0x0F]
      (fun Q hQ => publishes_handleResponse hid hdlc hQ) (fun hcarries => ?_) h
    rcases hflags with hextended | hremote
    · rw [hcarries.standard] at hextended
      cases hextended
    · rw [hcarries.data] at hremote
      cases hremote
  · intro h
    by_cases hcarries : frame.Carries feedbackBytes
    · exact onlyFromCarrying_of_carries hcarries
    · refine onlyFromCarrying_of_stays (keepsFeedback (quiet_handleResponse fun hid => ?_))
      by_contra hdlc
      rw [UInt8.not_lt] at hdlc
      refine h ⟨hid, hdlc, ?_⟩
      by_contra hno
      rw [not_or, Bool.not_eq_true, Bool.not_eq_true] at hno
      exact hcarries ⟨hno.1, hno.2, hbytes hdlc⟩

end DamiaoCan

/-! ## the three handlers -/

/-- Exactly the frames that are not misread change feedback only when they carry it: a PP
read response below six bytes, a published MT answer below eight and a DM feedback frame with
the extended flag are believed all the same, and so is a remote request of each kind. -/
theorem feedback_onlyFromCarrying (frame : Frame) :
    (OnlyFromCarrying EyouCan.feedbackBytes (EyouCan.handleResponse frame) frame ↔
      ¬ EyouCan.Misread frame) ∧
    (OnlyFromCarrying MtCan.feedbackBytes (MtCan.handleResponse frame) frame ↔
      ¬ MtCan.Misread frame) ∧
    (OnlyFromCarrying DamiaoCan.feedbackBytes (DamiaoCan.handleResponse frame) frame ↔
      ¬ DamiaoCan.Misread frame) :=
  ⟨EyouCan.onlyFromCarrying_iff frame, MtCan.onlyFromCarrying_iff frame,
    DamiaoCan.onlyFromCarrying_iff frame⟩

/-- A PP response of node 5 that stops after naming the enable register. -/
def truncatedRead : Frame :=
  dataFrame 5 2 #v[EyouCan.kReadResponse, 0x10, 0, 0, 0, 0, 0, 0]

/-- It is believed: node 5 counts as disabled from then on, and as seen. -/
theorem truncated_read_believed :
    ¬ OnlyFromCarrying EyouCan.feedbackBytes (EyouCan.handleResponse truncatedRead) truncatedRead ∧
    ∃ b', (EyouCan.handleResponse truncatedRead).onBus.Runs busProtocol (silentBus []) () b' ∧
      (b'.shared.getAxisFeedback (makeAxisKey "can0" .PP 5)).any
        (fun feedback => feedback.enabledValid && feedback.feedbackSeen) = true := by
  constructor
  · intro h
    exact (EyouCan.onlyFromCarrying_iff truncatedRead).1 h (by decide)
  · have hrun : ((EyouCan.handleResponse truncatedRead).onBus.run busProtocol Bus.answer
        (silentBus [])).any (fun done =>
          (done.2.shared.getAxisFeedback (makeAxisKey "can0" .PP 5)).any
            (fun feedback => feedback.enabledValid && feedback.feedbackSeen)) = true := by
      decide +kernel
    obtain ⟨⟨u, b'⟩, hb', hfeedback⟩ := (Option.any_eq_true _ _).1 hrun
    exact ⟨b', runs_of_run (fun _ _ _ h => admits_of_answer h) hb', hfeedback⟩

end CanDriver
