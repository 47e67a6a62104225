import CanDriver.CallParts
import CanDriver.Dispatch.Submissions

/-!
# CanDriver.Reads.Pairing

Which answer ends a blocking call of the PP protocol.

A call that waits for an answer clears the flag of its register and only then queues its
request.  The record of a run says of each call what it has sent, which flags it has cleared,
and which of them were raised by an answer that came after its request had gone out.  While no
answer that came earlier is taken for a register somebody waits for, a call that succeeds does
so on an answer to its own request (`paired_of_timely`); a late answer to an earlier request
may complete a call whose request still waits in the queue (`late_answer_completes`).
-/

namespace CanDriver

open Interact Prog

/-! ## answers and requests -/

/-- What a PP motor is asked to answer: the acknowledgement of a write, its offset register, its
serial number. -/
inductive AnswerKey where
  | ack (node subCommand : UInt8)
  | offset (node : UInt8)
  | serial (node : UInt8)
deriving DecidableEq, Repr

/-- Whether a frame is a request for an answer. -/
def Frame.asks (frame : Frame) : AnswerKey → Bool
  | .ack node subCommand =>
      frame.id = node.toUInt32 && frame.byte 0 = EyouCan.kWriteCommand && frame.byte 1 = subCommand
  | .offset node => frame = EyouCan.readFrame node 0x3B
  | .serial node => frame = EyouCan.readFrame node EyouCan.kReadSerialNumberSubCommand

/-- The answer in a frame from a motor. -/
def Frame.answer (frame : Frame) : Option AnswerKey :=
  match EyouCan.responseNode frame with
  | none => none
  | some node =>
      if frame.byte 0 = EyouCan.kWriteAck then some (.ack node (frame.byte 1))
      else if frame.byte 0 = EyouCan.kReadResponse then
        if frame.byte 1 = 0x3B then some (.offset node)
        else if frame.byte 1 = EyouCan.kReadSerialNumberSubCommand then some (.serial node)
        else none
      else none

namespace EyouCan

/-- The flag that tells of an answer. -/
def flag (s : EyouCan) : AnswerKey → Bool
  | .ack node subCommand => ((s.pendingWriteAcks (node, subCommand)).getD {}).received
  | .offset node => (s.motorState node).positionOffsetReceived
  | .serial node => (s.motorState node).serialNumberReceived

/-- An object without a flag. -/
def unanswered : EyouCan := { deviceName := "" }

/-- An object with every flag. -/
def allAnswered : EyouCan :=
  { deviceName := ""
    motorStates := fun _ => some { positionOffsetReceived := true, serialNumberReceived := true }
    pendingWriteAcks := fun _ => some { received := true } }

/-- Whether a change to the object takes an answer. -/
def raises (f : EyouCan → EyouCan) (key : AnswerKey) : Bool := flag (f unanswered) key

/-- Whether a change to the object forgets an answer. -/
def clears (f : EyouCan → EyouCan) (key : AnswerKey) : Bool := !flag (f allAnswered) key

end EyouCan

/-! ## the calls -/

/-- The calls that wait for an answer, and what runs beside them. -/
inductive PairingCall where
  | setPositionOffset (id : MotorID) (offsetRaw : Int32)
  | persistParameters (id : MotorID)
  | readPositionOffset (id : MotorID)
  | readSerialNumber (id : MotorID)
  | issueRefreshQuery (id : MotorID) (query : PpRefreshQuery)
  | work
  | receive (frame : Frame)
deriving DecidableEq, Repr

namespace PairingCall

/-- The program of a call; it answers whether it succeeded. -/
def code (deviceName : String) : PairingCall → BusProg Bool
  | setPositionOffset id offsetRaw => Proto.onBus (EyouCan.setPositionOffset id offsetRaw)
  | persistParameters id => Proto.onBus (EyouCan.persistParameters id)
  | readPositionOffset id => do
      let offset ← Proto.onBus (EyouCan.readPositionOffset id)
      pure offset.isSome
  | readSerialNumber id => do
      let serialNumber ← Proto.onBus (EyouCan.readSerialNumber id)
      pure serialNumber.isSome
  | issueRefreshQuery id query => Proto.onBus (EyouCan.issueRefreshQuery id query)
  | work => do
      DeviceRuntime.workerStep deviceName
      pure true
  | receive frame => do
      Proto.onBus (EyouCan.handleResponse frame)
      pure true

/-- The answers a call must have had to succeed. -/
def awaits : PairingCall → List AnswerKey
  | setPositionOffset id _ => [.ack (toProtocolNodeId id) 0x3B]
  | persistParameters id =>
      [.serial (toProtocolNodeId id),
        .ack (toProtocolNodeId id) EyouCan.kPersistParametersSubCommand]
  | readPositionOffset id => [.offset (toProtocolNodeId id)]
  | readSerialNumber id => [.serial (toProtocolNodeId id)]
  | _ => []

/-- The answer a call handles. -/
def hears : PairingCall → Option AnswerKey
  | receive frame => frame.answer
  | _ => none

end PairingCall

/-! ## the record -/

/-- What is recorded of a call: the answers it has asked for on the wire, the flags it has
cleared, and those raised by an answer that came after its request. -/
structure PairingRow where
  sent : AnswerKey → Bool := fun _ => false
  cleared : AnswerKey → Bool := fun _ => false
  answered : AnswerKey → Bool := fun _ => false

/-- What is recorded of a run; `heard j i` says that what `j` handles came after the call of
`i` had asked for it. -/
structure PairingLog (ι : Type) where
  submissions : SubmissionLog ι := {}
  row : ι → PairingRow := fun _ => {}
  heard : ι → ι → Bool := fun _ _ => false

/-- The threads of a device with a wire that make these calls. -/
abbrev PairingPool (ι : Type) := Pool busSig ι PairingCall Bool WiredBus

/-- What happens in one step. -/
abbrev PairingEvent (ι : Type) := Event busSig ι PairingCall Bool

section

variable {ι : Type}

/-- The answer a thread handles. -/
def handles (p : PairingPool ι) (i : ι) : Option AnswerKey :=
  (p.thread i).bind fun t => t.call.hears

namespace PairingLog

variable [DecidableEq ι]

/-- The request of a submission has gone out: the call that submitted it has asked, unless it is
over. -/
def asked (log : PairingLog ι) (s : Submission ι) : ι → PairingRow :=
  if s.call = log.submissions.calls s.thread then
    Function.update log.row s.thread
      { log.row s.thread with
        sent := fun key => (log.row s.thread).sent key || s.request.frame.asks key }
  else log.row

/-- The rows after thread `j` has changed the object. -/
def touched (log : PairingLog ι) (hears : Option AnswerKey) (j : ι) (f : EyouCan → EyouCan)
    (i : ι) : PairingRow :=
  { log.row i with
    cleared := fun key => (log.row i).cleared key || (decide (i = j) && EyouCan.clears f key)
    answered := fun key => (log.row i).answered key ||
      (decide (hears = some key) && EyouCan.raises f key && log.heard j i) }

/-- The rows after a step. -/
def rows (log : PairingLog ι) (p : PairingPool ι) (e : PairingEvent ι) (p' : PairingPool ι) :
    ι → PairingRow :=
  match e with
  | .call i _ => Function.update log.row i {}
  | .ret i _ => Function.update log.row i {}
  | .act j (.transmit _) =>
      if p.shared.wire.length < p'.shared.wire.length then
        match log.submissions.taken j with
        | some s => log.asked s
        | none => log.row
      else log.row
  | .act j (.eyou f) => log.touched (handles p j) j f
  | _ => log.row

/-- Who has heard whom after a step: a frame counts from when it is received, a request from
when its call begins. -/
def listens (log : PairingLog ι) : PairingEvent ι → ι → ι → Bool
  | .call i c => fun j i' =>
      if i' = i then false
      else if j = i then c.hears.any (log.row i').sent
      else log.heard j i'
  | _ => log.heard

/-- What a step adds to the record. -/
def note (p : PairingPool ι) (e : PairingEvent ι) (p' : PairingPool ι) (log : PairingLog ι) :
    PairingLog ι where
  submissions := log.submissions.note p e
  row := log.rows p e p'
  heard := log.listens e

end PairingLog

/-! ## paired answers -/

/-- A step that takes no answer for a register somebody waits for, unless the answer came after
that call's request had gone out. -/
def TimelyAnswers (w : PairingPool ι × PairingLog ι) (e : PairingEvent ι) : Prop :=
  ∀ j f key, e = .act j (.eyou f) → handles w.1 j = some key → EyouCan.raises f key = true →
    ∀ i, (w.2.row i).cleared key = true → w.2.heard j i = true

/-- A call that returns success has had every answer it awaits after its own request. -/
def Paired (w : PairingPool ι × PairingLog ι) (e : PairingEvent ι) : Prop :=
  ∀ i t, e = .ret i true → w.1.thread i = some t →
    ∀ key ∈ t.call.awaits, (w.2.row i).answered key = true

/-- One step on the device `deviceName`, and what is recorded of it. -/
abbrev PairingStep [DecidableEq ι] (deviceName : String) :
    PairingPool ι × PairingLog ι → PairingEvent ι → PairingPool ι × PairingLog ι → Prop :=
  Recording (Pool.Step (PairingCall.code deviceName) fun b _ => b.serves) PairingLog.note

end

/-! ## the protocol of the threads -/

namespace EyouCan

/-- A change to the object that raises only the flag of an answer it takes, and clears a flag
whenever it clears any. -/
structure Heeds (hears : Option AnswerKey) (f : EyouCan → EyouCan) : Prop where
  raises : ∀ s key, flag (f s) key = true →
    flag s key = true ∨ (hears = some key ∧ raises f key = true)
  clears : ∀ s key, clears f key = true → flag (f s) key = false

/-- A change that leaves every flag alone. -/
theorem heeds_of_same {hears : Option AnswerKey} {f : EyouCan → EyouCan}
    (h : ∀ s, flag (f s) = flag s) : Heeds hears f := by
  refine ⟨fun s key hraised => .inl ?_, fun s key hcleared => ?_⟩
  · rw [← h s]
    exact hraised
  · have hall : flag allAnswered key = true := by cases key <;> rfl
    rw [EyouCan.clears, h allAnswered, hall] at hcleared
    exact absurd hcleared (by decide)

/-- A change that clears one flag. -/
theorem heeds_of_clear {hears : Option AnswerKey} {f : EyouCan → EyouCan} (key : AnswerKey)
    (hself : ∀ s, flag (f s) key = false)
    (hothers : ∀ s key', key' ≠ key → flag (f s) key' = flag s key') : Heeds hears f := by
  refine ⟨fun s key' hraised => .inl ?_, fun s key' hcleared => ?_⟩
  all_goals by_cases hkey : key' = key
  · rw [hkey, hself] at hraised
    exact absurd hraised (by decide)
  · rw [← hothers s key' hkey]
    exact hraised
  · rw [hkey]
    exact hself s
  · have hall : flag allAnswered key' = true := by cases key' <;> rfl
    rw [EyouCan.clears, hothers allAnswered key' hkey, hall] at hcleared
    exact absurd hcleared (by decide)

/-- A change that raises one flag. -/
theorem heeds_of_raise {f : EyouCan → EyouCan} (key : AnswerKey)
    (hself : ∀ s, flag (f s) key = true)
    (hothers : ∀ s key', key' ≠ key → flag (f s) key' = flag s key') : Heeds (some key) f := by
  refine ⟨fun s key' hraised => ?_, fun s key' hcleared => ?_⟩
  all_goals by_cases hkey : key' = key
  · rw [hkey]
    exact .inr ⟨rfl, hself unanswered⟩
  · rw [← hothers s key' hkey]
    exact .inl hraised
  · rw [EyouCan.clears, hkey, hself] at hcleared
    exact absurd hcleared (by decide)
  · have hall : flag allAnswered key' = true := by cases key' <;> rfl
    rw [EyouCan.clears, hothers allAnswered key' hkey, hall] at hcleared
    exact absurd hcleared (by decide)

end EyouCan

/-- What a thread knows: the flags it has cleared, and those it has seen raised since. -/
structure PairingGhost where
  cleared : AnswerKey → Bool := fun _ => false
  seen : AnswerKey → Bool := fun _ => false

namespace PairingGhost

/-- What a thread knows after a change to the object it found in state `s`. -/
def touch (g : PairingGhost) (f : EyouCan → EyouCan) (s : EyouCan) : PairingGhost where
  cleared key := g.cleared key || EyouCan.clears f key
  seen key := g.seen key || (g.cleared key && EyouCan.flag s key)

/-- Who knows more. -/
structure Extends (g' g : PairingGhost) : Prop where
  cleared : ∀ key, g.cleared key = true → g'.cleared key = true
  seen : ∀ key, g.seen key = true → g'.seen key = true

variable {g g' g'' : PairingGhost}

theorem Extends.rfl : Extends g g := ⟨fun _ h => h, fun _ h => h⟩

theorem Extends.trans (h : Extends g'' g') (h' : Extends g' g) : Extends g'' g :=
  ⟨fun key hkey => h.cleared key (h'.cleared key hkey), fun key hkey => h.seen key (h'.seen key hkey)⟩

theorem extends_touch (g : PairingGhost) (f : EyouCan → EyouCan) (s : EyouCan) :
    Extends (g.touch f s) g :=
  ⟨fun key h => by simp [touch, h], fun key h => by simp [touch, h]⟩

theorem Extends.touch (h : Extends g' g) (f : EyouCan → EyouCan) (s : EyouCan) :
    Extends (g'.touch f s) (g.touch f s) := by
  refine ⟨fun key hkey => ?_, fun key hkey => ?_⟩
  · rcases Bool.or_eq_true_iff.1 hkey with hold | hnew
    · simp [PairingGhost.touch, h.cleared key hold]
    · simp [PairingGhost.touch, hnew]
  · rcases Bool.or_eq_true_iff.1 hkey with hold | hnew
    · simp [PairingGhost.touch, h.seen key hold]
    · obtain ⟨hcleared, hflag⟩ := Bool.and_eq_true_iff.1 hnew
      simp [PairingGhost.touch, h.cleared key hcleared, hflag]

end PairingGhost

/-- The rules of a thread that handles an answer, on the device. -/
def pairingRules (hears : Option AnswerKey) : Protocol busSig PairingGhost where
  allow _
    | .eyou f => EyouCan.Heeds hears f
    | _ => True
  accepts _ _ _ := True
  next g
    | .eyou f, s => g.touch f s
    | _, _ => g

/-- The same rules for a protocol program. -/
def portPairingRules (hears : Option AnswerKey) : Protocol (portSig EyouCan) PairingGhost where
  allow _
    | .proto f => EyouCan.Heeds hears f
    | _ => True
  accepts _ _ _ := True
  next g
    | .proto f, s => g.touch f s
    | _, _ => g

/-! ### quiet programs -/

/-- An operation that leaves every flag alone. -/
def PortOp.KeepsFlags : PortOp EyouCan → Prop
  | .proto f => ∀ s, EyouCan.flag (f s) = EyouCan.flag s
  | _ => True

/-- A program that leaves the flags alone follows the rules, and forgets nothing. -/
theorem wp_of_keepsFlags {hears : Option AnswerKey} {p : Proto EyouCan α} {g : PairingGhost}
    (hp : p.Stays PortOp.KeepsFlags) :
    p.wp (portPairingRules hears) (fun _ g' => g'.Extends g) g := by
  have hrun := wp_of_only (P := portPairingRules hears) (I := fun g' => g'.Extends g) hp
    (fun g' op hext hop => ?_) .rfl
  · exact wp_mono hrun fun _ _ h => h.2
  · cases op with
    | proto f => exact ⟨EyouCan.heeds_of_same hop, fun s _ => (g'.extends_touch f s).trans hext⟩
    | _ => exact ⟨trivial, fun _ _ => hext⟩

namespace EyouCan

open Proto

variable {motorId : MotorID} {node : UInt8}

theorem keeps_modify {f : EyouCan → EyouCan} (h : ∀ s, flag (f s) = flag s) :
    (Proto.modify f).Stays PortOp.KeepsFlags :=
  ⟨h, fun _ _ => trivial⟩

theorem keeps_access {f : EyouCan → α × EyouCan} (h : ∀ s, flag (f s).2 = flag s) :
    (access f).Stays PortOp.KeepsFlags :=
  ⟨h, fun _ _ => trivial⟩

theorem keeps_gets (f : EyouCan → α) : (gets f).Stays PortOp.KeepsFlags :=
  ⟨fun _ => rfl, fun _ _ => trivial⟩

theorem keeps_now : (now : Proto EyouCan Time).Stays PortOp.KeepsFlags :=
  ⟨trivial, fun _ _ => trivial⟩

theorem keeps_publish (f : AxisKey → SharedDriverState → SharedDriverState) :
    (publish node f).Stays PortOp.KeepsFlags :=
  (keeps_gets _).bind fun _ => .ite ⟨trivial, fun _ _ => trivial⟩ trivial

theorem keeps_registerManagedMotorId :
    (registerManagedMotorId motorId).Stays PortOp.KeepsFlags :=
  (keeps_modify fun _ => by funext key; cases key <;> rfl).bind fun _ => (keeps_gets _).bind fun _ =>
    .ite ⟨trivial, fun _ _ => trivial⟩ trivial

theorem keeps_submitTx (frame : Frame) (category : Category) (source : TxSource) :
    (submitTx frame category source).Stays PortOp.KeepsFlags :=
  (keeps_gets _).bind fun _ => .ite ⟨trivial, fun _ _ => trivial⟩ trivial

theorem flag_fastWriteSentCount (s : EyouCan) (n : Nat) :
    flag { s with fastWriteSentCount := n } = flag s := by
  funext key
  cases key <;> rfl

theorem flag_normalWriteSentCount (s : EyouCan) (n : Nat) :
    flag { s with normalWriteSentCount := n } = flag s := by
  funext key
  cases key <;> rfl

theorem flag_pendingReadRequests (s : EyouCan) (reads : UInt8 × UInt8 → Option EyouPendingRead) :
    flag { s with pendingReadRequests := reads } = flag s := by
  funext key
  cases key <;> rfl

theorem keeps_sendWriteCommand (subCommand : UInt8) (value : UInt32) (payloadBytes : Nat)
    (commandType : UInt8) : (sendWriteCommand node subCommand value payloadBytes
      commandType).Stays PortOp.KeepsFlags := by
  have hcount : ∀ s : EyouCan, flag (if commandType = kFastWriteCommand then
      { s with fastWriteSentCount := s.fastWriteSentCount + 1 }
    else if commandType = kWriteCommand then
      { s with normalWriteSentCount := s.normalWriteSentCount + 1 }
    else s) = flag s := by
    intro s
    split
    · exact flag_fastWriteSentCount s _
    · split
      · exact flag_normalWriteSentCount s _
      · rfl
  exact (keeps_gets _).bind fun _ => .ite ((keeps_submitTx _ _ _).bind fun _ =>
    .ite (keeps_modify hcount) trivial) trivial

theorem flag_onReadDispatchResult (subCommand : UInt8) (attemptedSend : Bool) (result : SendResult)
    (eventTime : Time) (s : EyouCan) :
    flag (onReadDispatchResult node subCommand attemptedSend result eventTime s) = flag s := by
  rw [onReadDispatchResult]
  split
  · rfl
  · split
    · rfl
    · exact flag_pendingReadRequests s _

theorem keeps_tryIssueReadCommand (subCommand : UInt8) :
    (tryIssueReadCommand node subCommand).Stays PortOp.KeepsFlags := by
  have hread : (sendReadCommand node subCommand).Stays PortOp.KeepsFlags :=
    (keeps_gets _).bind fun _ => .ite (.ite ⟨trivial, fun _ _ => trivial⟩ (keeps_now.bind fun _ =>
      keeps_modify fun s => flag_onReadDispatchResult subCommand _ _ _ s)) trivial
  have hclaim : ∀ s, flag (claimRead node subCommand s).2 = flag s :=
    fun s => flag_pendingReadRequests s _
  exact (keeps_gets _).bind fun _ => .ite trivial ((keeps_access hclaim).bind fun _ =>
    .ite (hread.bind fun _ => trivial) trivial)

theorem keeps_issueRefreshQuery (query : PpRefreshQuery) :
    (issueRefreshQuery motorId query).Stays PortOp.KeepsFlags := by
  refine keeps_registerManagedMotorId.bind fun _ => ?_
  cases query
  all_goals exact keeps_tryIssueReadCommand _

theorem keeps_resyncAfter (subCommand : UInt8) :
    (resyncAfter node subCommand).Stays PortOp.KeepsFlags := by
  unfold resyncAfter
  split
  all_goals first | exact keeps_tryIssueReadCommand _ | trivial

theorem keeps_markReadResponseReceived (subCommand : UInt8) :
    (markReadResponseReceived node subCommand).Stays PortOp.KeepsFlags := by
  refine keeps_now.bind fun t => keeps_modify fun s => ?_
  split
  · rfl
  · exact flag_pendingReadRequests s _

theorem keeps_syncSharedFeedback (st : EyouMotorState) :
    (syncSharedFeedback node st).Stays PortOp.KeepsFlags :=
  keeps_now.bind fun _ => keeps_publish _

/-! ### flags that are cleared and raised -/

theorem motorState_setMotorState (s : EyouCan) (f : EyouMotorState → EyouMotorState) (n : UInt8) :
    (s.setMotorState node f).motorState n = if n = node then f (s.motorState node)
      else s.motorState n := by
  by_cases h : n = node
  · rw [if_pos h, h]
    simp [setMotorState, motorState]
  · rw [if_neg h]
    simp [setMotorState, motorState, put_of_ne _ _ h]

/-- An update of a motor reaches only the flags it changes there. -/
theorem flag_setMotorState {f : EyouMotorState → EyouMotorState} {key : AnswerKey}
    (hoffset : key = .offset node → ∀ st, (f st).positionOffsetReceived = st.positionOffsetReceived)
    (hserial : key = .serial node → ∀ st, (f st).serialNumberReceived = st.serialNumberReceived)
    (s : EyouCan) : flag (s.setMotorState node f) key = flag s key := by
  cases key with
  | ack n sub => rfl
  | offset n =>
      rw [flag, motorState_setMotorState]
      by_cases h : n = node
      · rw [if_pos h, hoffset (by rw [h]), flag, h]
      · rw [if_neg h, flag]
  | serial n =>
      rw [flag, motorState_setMotorState]
      by_cases h : n = node
      · rw [if_pos h, hserial (by rw [h]), flag, h]
      · rw [if_neg h, flag]

theorem heeds_clearWriteAck (hears : Option AnswerKey) (subCommand : UInt8) :
    Heeds hears (clearWriteAck node subCommand) := by
  refine heeds_of_clear (.ack node subCommand) (fun s => ?_) (fun s key hkey => ?_)
  · simp [flag, clearWriteAck]
  · cases key with
    | ack n sub =>
        have hne : (n, sub) ≠ (node, subCommand) := by
          intro heq
          obtain ⟨rfl, rfl⟩ := Prod.mk.inj heq
          exact hkey rfl
        simp [flag, clearWriteAck, put_of_ne _ _ hne]
    | offset n | serial n => rfl

theorem heeds_clearOffset (hears : Option AnswerKey) :
    Heeds hears fun s => s.setMotorState node fun st => { st with positionOffsetReceived := false } := by
  refine heeds_of_clear (.offset node) (fun s => ?_) (fun s key hkey => ?_)
  · rw [flag, motorState_setMotorState, if_pos rfl]
  · refine flag_setMotorState (fun h => absurd h hkey) (fun _ _ => ?_) s
    rfl

theorem heeds_clearSerial (hears : Option AnswerKey) :
    Heeds hears fun s => s.setMotorState node fun st => { st with serialNumberReceived := false } := by
  refine heeds_of_clear (.serial node) (fun s => ?_) (fun s key hkey => ?_)
  · rw [flag, motorState_setMotorState, if_pos rfl]
  · refine flag_setMotorState (fun _ _ => ?_) (fun h => absurd h hkey) s
    rfl

theorem heeds_writeAck (subCommand writeState : UInt8) :
    Heeds (some (.ack node subCommand)) fun s : EyouCan =>
      { s with
        pendingWriteAcks :=
          put s.pendingWriteAcks (node, subCommand) { received := true, state := writeState } } := by
  refine heeds_of_raise _ (fun s => ?_) (fun s key hkey => ?_)
  · simp [flag]
  · cases key with
    | ack n sub =>
        have hne : (n, sub) ≠ (node, subCommand) := by
          intro heq
          obtain ⟨rfl, rfl⟩ := Prod.mk.inj heq
          exact hkey rfl
        simp [flag, put_of_ne _ _ hne]
    | offset n | serial n => rfl

/-- What a read response says about the two registers that are waited for. -/
theorem heeds_decodeRead (frame : Frame) (hnode : responseNode frame = some node)
    (hread : frame.byte 0 = kReadResponse) :
    Heeds frame.answer fun s => s.setMotorState node (decodeRead frame) := by
  have hanswer : frame.answer = if frame.byte 1 = 0x3B then some (.offset node)
      else if frame.byte 1 = kReadSerialNumberSubCommand then some (.serial node) else none := by
    rw [Frame.answer, hnode]
    dsimp only
    rw [if_neg (hread ▸ by decide), if_pos hread]
  by_cases hoffset : frame.byte 1 = 0x3B
  · have hdecode : ∀ st, decodeRead frame st =
        { st with positionOffset := readInt32BE frame 2, positionOffsetReceived := true } := by
      intro st
      rw [decodeRead, hoffset]
      rfl
    rw [hanswer, if_pos hoffset]
    refine heeds_of_raise _ (fun s => ?_) (fun s key hkey => ?_)
    · rw [flag, motorState_setMotorState, if_pos rfl, hdecode]
    · exact flag_setMotorState (fun h => absurd h hkey) (fun _ st => by rw [hdecode]) s
  · rw [hanswer, if_neg hoffset]
    by_cases hserial : frame.byte 1 = kReadSerialNumberSubCommand
    · have hdecode : ∀ st, decodeRead frame st =
          { st with serialNumber := readUInt32BE frame 2, serialNumberReceived := true } := by
        intro st
        rw [decodeRead, hserial]
        rfl
      rw [if_pos hserial]
      refine heeds_of_raise _ (fun s => ?_) (fun s key hkey => ?_)
      · rw [flag, motorState_setMotorState, if_pos rfl, hdecode]
      · exact flag_setMotorState (fun _ st => by rw [hdecode]) (fun h => absurd h hkey) s
    · rw [if_neg hserial]
      have hdecode : ∀ st, (decodeRead frame st).positionOffsetReceived = st.positionOffsetReceived ∧
          (decodeRead frame st).serialNumberReceived = st.serialNumberReceived := by
        intro st
        unfold decodeRead
        split
        · next h => exact absurd (UInt8.toNat_inj.1 h) hserial
        · exact ⟨rfl, rfl⟩
        · exact ⟨rfl, rfl⟩
        · exact ⟨rfl, rfl⟩
        · next h => exact absurd (UInt8.toNat_inj.1 h) hoffset
        all_goals exact ⟨rfl, rfl⟩
      exact heeds_of_same fun s => funext fun key =>
        flag_setMotorState (fun _ st => (hdecode st).1) (fun _ st => (hdecode st).2) s

/-! ### calls that wait -/

variable {hears : Option AnswerKey} {g : PairingGhost}

/-- The register whose flag is looked at has been cleared before: a flag that is up has been
seen. -/
theorem seen_touch {key : AnswerKey} {f : EyouCan → EyouCan} {s : EyouCan}
    (hcleared : g.cleared key = true) (hflag : flag s key = true) :
    (g.touch f s).seen key = true := by
  simp [PairingGhost.touch, hcleared, hflag]

theorem cleared_clearWriteAck (subCommand : UInt8) (s : EyouCan) :
    (g.touch (clearWriteAck node subCommand) s).cleared (.ack node subCommand) = true := by
  have hflag : flag (clearWriteAck node subCommand allAnswered) (.ack node subCommand) = false := by
    simp [flag, clearWriteAck]
  simp [PairingGhost.touch, clears, hflag]

theorem awaitWriteAck_pairing (subCommand : UInt8)
    (hcleared : g.cleared (.ack node subCommand) = true) :
    (awaitWriteAck node subCommand).wp (portPairingRules hears)
      (fun a g' => g'.Extends g ∧ (a = true → g'.seen (.ack node subCommand) = true)) g := by
  simp only [awaitWriteAck, gets, vis_bind, ret_bind, wp_vis, wp_ite, pure_eq, wp_ret]
  refine ⟨heeds_of_same fun _ => rfl, fun s _ => ?_⟩
  have hext : (g.touch id s).Extends g := g.extends_touch id s
  by_cases hreceived : ((s.pendingWriteAcks (node, subCommand)).getD {}).received = true
  · rw [if_pos hreceived]
    exact ⟨hext, fun _ => seen_touch hcleared hreceived⟩
  · rw [if_neg hreceived]
    exact ⟨hext, fun h => absurd h Bool.false_ne_true⟩

theorem writeCommandAndWaitForAck_pairing (subCommand : UInt8) (value : UInt32)
    (payloadBytes : Nat) :
    (writeCommandAndWaitForAck node subCommand value payloadBytes).wp (portPairingRules hears)
      (fun a g' => a = true → g'.seen (.ack node subCommand) = true) g := by
  simp only [writeCommandAndWaitForAck, gets, Proto.modify, vis_bind, ret_bind, wp_vis, wp_ite,
    pure_eq, wp_ret]
  refine ⟨heeds_of_same fun _ => rfl, fun s _ => ?_⟩
  split
  · refine ⟨heeds_clearWriteAck hears subCommand, fun s' _ => ?_⟩
    have hcleared : ((portPairingRules hears).next ((portPairingRules hears).next g (.proto id) s)
        (.proto (clearWriteAck node subCommand)) s').cleared (.ack node subCommand) = true :=
      cleared_clearWriteAck subCommand s'
    rw [wp_bind]
    refine wp_mono (wp_of_keepsFlags (keeps_sendWriteCommand _ _ _ _)) fun _ g' hext => ?_
    exact wp_mono (awaitWriteAck_pairing subCommand (hext.cleared _ hcleared)) fun _ _ h => h.2
  · exact fun h => absurd h Bool.false_ne_true

theorem writeCommandBytesAndWaitForAck_pairing (subCommand : UInt8) (payload : Vector UInt8 4) :
    (writeCommandBytesAndWaitForAck node subCommand payload).wp (portPairingRules hears)
      (fun a g' => g'.Extends g ∧ (a = true → g'.seen (.ack node subCommand) = true)) g := by
  have hfail : ∀ g' : PairingGhost, g'.Extends g → g'.Extends g ∧
      (false = true → g'.seen (.ack node subCommand) = true) :=
    fun g' h => ⟨h, fun h => absurd h Bool.false_ne_true⟩
  simp only [writeCommandBytesAndWaitForAck, gets, Proto.modify, vis_bind, ret_bind, wp_vis, wp_ite,
    pure_eq, wp_ret]
  refine ⟨heeds_of_same fun _ => rfl, fun s _ => ?_⟩
  have hread : ((portPairingRules hears).next g (.proto id) s).Extends g := g.extends_touch id s
  generalize (portPairingRules hears).next g (.proto id) s = g₁ at hread
  split
  · refine ⟨heeds_clearWriteAck hears subCommand, fun s' _ => ?_⟩
    have hcleared : ((portPairingRules hears).next g₁
        (.proto (clearWriteAck node subCommand)) s').cleared (.ack node subCommand) = true :=
      cleared_clearWriteAck subCommand s'
    have hext : ((portPairingRules hears).next g₁
        (.proto (clearWriteAck node subCommand)) s').Extends g :=
      (g₁.extends_touch _ s').trans hread
    rw [wp_bind]
    refine wp_mono (wp_of_keepsFlags (keeps_submitTx _ _ _)) fun accepted g₂ hsubmit => ?_
    rw [wp_ite]
    split
    · refine ⟨heeds_of_same fun s => flag_normalWriteSentCount s _, fun s₂ _ => ?_⟩
      have hcount := (g₂.extends_touch (fun s : EyouCan =>
        { s with normalWriteSentCount := s.normalWriteSentCount + 1 }) s₂).trans hsubmit
      refine wp_mono (awaitWriteAck_pairing subCommand (hcount.cleared _ hcleared)) fun _ _ h => ?_
      exact ⟨h.1.trans (hcount.trans hext), h.2⟩
    · exact hfail _ (hsubmit.trans hext)
  · exact hfail _ hread

theorem persistAttempts_pairing (payload : Vector UInt8 4) (attempts : Nat) :
    (persistAttempts node payload attempts).wp (portPairingRules hears)
      (fun a g' => g'.Extends g ∧
        (a = true → g'.seen (.ack node kPersistParametersSubCommand) = true)) g := by
  induction attempts generalizing g with
  | zero => exact ⟨.rfl, fun h => absurd h Bool.false_ne_true⟩
  | succ attempts ih =>
      rw [persistAttempts, wp_bind]
      refine wp_mono (writeCommandBytesAndWaitForAck_pairing _ payload) fun ok g' hok => ?_
      rw [wp_ite]
      split
      · next h => exact ⟨hok.1, fun _ => hok.2 h⟩
      · exact wp_mono ih fun a g'' h => ⟨h.1.trans hok.1, h.2⟩

theorem pollState_pairing {key : AnswerKey} {found : EyouMotorState → Option α}
    (hfound : ∀ s : EyouCan, ((s.motorStates node).bind found).isSome = true → flag s key = true)
    (deadline : Time) (polls : Nat) (hcleared : g.cleared key = true) :
    (pollState node found deadline polls).wp (portPairingRules hears)
      (fun a g' => g'.Extends g ∧ (a.isSome = true → g'.seen key = true)) g := by
  induction polls generalizing g with
  | zero => exact ⟨.rfl, fun h => absurd h Bool.false_ne_true⟩
  | succ polls ih =>
      simp only [pollState, now, gets, vis_bind, ret_bind, wp_vis, wp_ite, pure_eq, wp_ret]
      refine ⟨trivial, fun t _ => ?_⟩
      split
      · refine ⟨heeds_of_same fun _ => rfl, fun s _ => ?_⟩
        have hext : (g.touch id s).Extends g := g.extends_touch id s
        cases hstate : (s.motorStates node).bind found with
        | some a => exact ⟨hext, fun _ => seen_touch hcleared (hfound s (by rw [hstate]; rfl))⟩
        | none =>
            exact wp_mono (ih (hext.cleared key hcleared)) fun a g' h => ⟨h.1.trans hext, h.2⟩
      · exact ⟨.rfl, fun h => absurd h Bool.false_ne_true⟩

/-- A blocking read: the flag is cleared, the register asked for, and the flag awaited. -/
theorem blockingRead_pairing {key : AnswerKey} {clear : EyouMotorState → EyouMotorState}
    {found : EyouMotorState → Option α} (subCommand : UInt8)
    (hclear : Heeds hears fun s => s.setMotorState (toProtocolNodeId motorId) clear)
    (hself : clears (fun s => s.setMotorState (toProtocolNodeId motorId) clear) key = true)
    (hfound : ∀ s : EyouCan, ((s.motorStates (toProtocolNodeId motorId)).bind found).isSome = true →
      flag s key = true) :
    (do
      let s ← gets fun s : EyouCan => s
      if s.canController then
        registerManagedMotorId motorId
        Proto.modify fun s => s.setMotorState (toProtocolNodeId motorId) clear
        let issued ← tryIssueReadCommand (toProtocolNodeId motorId) subCommand
        if issued then
          let t ← now
          pollState (toProtocolNodeId motorId) found (t + ms 200) 20
        else
          pure none
      else
        pure none : Proto EyouCan (Option α)).wp (portPairingRules hears)
      (fun a g' => g'.Extends g ∧ (a.isSome = true → g'.seen key = true)) g := by
  have hfail : ∀ g' : PairingGhost, g'.Extends g →
      g'.Extends g ∧ ((none : Option α).isSome = true → g'.seen key = true) :=
    fun g' h => ⟨h, fun h => absurd h Bool.false_ne_true⟩
  simp only [gets, Proto.modify, now, vis_bind, ret_bind, wp_vis, wp_ite, wp_bind, pure_eq, wp_ret]
  refine ⟨heeds_of_same fun _ => rfl, fun s _ => ?_⟩
  have hread : ((portPairingRules hears).next g (.proto id) s).Extends g := g.extends_touch id s
  generalize (portPairingRules hears).next g (.proto id) s = g₁ at hread
  split
  · refine wp_mono (wp_of_keepsFlags keeps_registerManagedMotorId) fun _ g₂ hregister => ?_
    refine ⟨hclear, fun s' _ => ?_⟩
    have hcleared : ((portPairingRules hears).next g₂
        (.proto fun s => s.setMotorState (toProtocolNodeId motorId) clear) s').cleared key = true := by
      simp [portPairingRules, PairingGhost.touch, hself]
    have hext := (g₂.extends_touch (fun s => s.setMotorState (toProtocolNodeId motorId) clear)
      s').trans (hregister.trans hread)
    refine wp_mono (wp_of_keepsFlags (keeps_tryIssueReadCommand _)) fun issued g₃ hissue => ?_
    split
    · refine ⟨trivial, fun t _ => ?_⟩
      refine wp_mono (pollState_pairing hfound _ _ (hissue.cleared _ hcleared)) fun a g' h => ?_
      exact ⟨h.1.trans (hissue.trans hext), h.2⟩
    · exact hfail _ (hissue.trans hext)
  · exact hfail _ hread

theorem readPositionOffset_pairing :
    (readPositionOffset motorId).wp (portPairingRules hears) (fun a g' => g'.Extends g ∧
      (a.isSome = true → g'.seen (.offset (toProtocolNodeId motorId)) = true)) g := by
  refine blockingRead_pairing 0x3B (heeds_clearOffset hears) ?_ fun s hfound => ?_
  · rw [clears, flag, motorState_setMotorState, if_pos rfl]
    rfl
  · rw [flag, motorState]
    cases hstate : s.motorStates (toProtocolNodeId motorId) with
    | none => simp [hstate] at hfound
    | some st => simpa [hstate, Option.isSome_iff_exists] using hfound

theorem readSerialNumber_pairing :
    (readSerialNumber motorId).wp (portPairingRules hears) (fun a g' => g'.Extends g ∧
      (a.isSome = true → g'.seen (.serial (toProtocolNodeId motorId)) = true)) g := by
  refine blockingRead_pairing kReadSerialNumberSubCommand (heeds_clearSerial hears) ?_
    fun s hfound => ?_
  · rw [clears, flag, motorState_setMotorState, if_pos rfl]
    rfl
  · rw [flag, motorState]
    cases hstate : s.motorStates (toProtocolNodeId motorId) with
    | none => simp [hstate] at hfound
    | some st => simpa [hstate, Option.isSome_iff_exists] using hfound

/-- What a call that succeeds has seen. -/
abbrev SeenAll (call : PairingCall) (a : Bool) (g : PairingGhost) : Prop :=
  a = true → ∀ key ∈ call.awaits, g.seen key = true

theorem setPositionOffset_pairing (offsetRaw : Int32) :
    (setPositionOffset motorId offsetRaw).wp (portPairingRules hears)
      (SeenAll (.setPositionOffset motorId offsetRaw)) g := by
  simp only [setPositionOffset, withController, gets, vis_bind, ret_bind, wp_vis, wp_ite, wp_bind,
    pure_eq, wp_ret]
  refine ⟨heeds_of_same fun _ => rfl, fun s _ => ?_⟩
  split
  · refine wp_mono (wp_of_keepsFlags keeps_registerManagedMotorId) fun _ g' _ => ?_
    refine wp_mono (writeCommandAndWaitForAck_pairing _ _ _) fun a g'' hseen htrue key hkey => ?_
    rw [List.mem_singleton.1 hkey]
    exact hseen htrue
  · exact fun h => absurd h Bool.false_ne_true

theorem persistParameters_pairing :
    (persistParameters motorId).wp (portPairingRules hears)
      (SeenAll (.persistParameters motorId)) g := by
  simp only [persistParameters, withController, gets, vis_bind, ret_bind, wp_vis, wp_ite, wp_bind,
    pure_eq, wp_ret]
  refine ⟨heeds_of_same fun _ => rfl, fun s _ => ?_⟩
  split
  · refine wp_mono readSerialNumber_pairing fun serial g₁ hserial => ?_
    cases serial with
    | none => exact fun h => absurd h Bool.false_ne_true
    | some serialNumber =>
        dsimp only
        rw [wp_bind]
        refine wp_mono (wp_of_keepsFlags keeps_registerManagedMotorId) fun _ g₂ hregister => ?_
        refine wp_mono (persistAttempts_pairing _ _) fun a g₃ hack htrue key hkey => ?_
        rcases List.mem_pair.1 hkey with rfl | rfl
        · exact (hack.1.trans hregister).seen _ (hserial.2 rfl)
        · exact hack.2 htrue
  · exact fun h => absurd h Bool.false_ne_true

/-- Handling a response takes no other answer than the frame's. -/
theorem handleResponse_pairing (frame : Frame) :
    (handleResponse frame).Upholds (portPairingRules frame.answer) := by
  intro g
  simp only [handleResponse, gets, Proto.modify, access, vis_bind, ret_bind, wp_vis, wp_ite, pure_eq,
    wp_ret]
  refine ⟨heeds_of_same fun _ => rfl, fun s _ => ?_⟩
  generalize (portPairingRules frame.answer).next g (.proto id) s = g
  split
  · trivial
  · cases hnode : responseNode frame with
    | none => trivial
    | some node =>
        dsimp only
        rw [wp_ite]
        split
        · have hsame : ∀ s : EyouCan, flag (s.setMotorState node fun st => st) = flag s :=
            fun s => funext fun key => flag_setMotorState (fun _ _ => rfl) (fun _ _ => rfl) s
          refine ⟨heeds_of_same hsame, fun s' _ => ?_⟩
          generalize (portPairingRules frame.answer).next g _ s' = g
          rw [wp_ite]
          split
          · next hack =>
            have hanswer : frame.answer = some (.ack node (frame.byte 1)) := by
              rw [Frame.answer, hnode]
              exact if_pos hack
            rw [hanswer, wp_bind]
            refine ⟨heeds_writeAck _ _, fun s'' _ => ?_⟩
            rw [wp_ret, wp_ite]
            split
            · rw [wp_bind]
              exact wp_mono (wp_of_keepsFlags (keeps_resyncAfter _)) fun _ _ _ => trivial
            · trivial
          · rw [wp_ite]
            split
            · next hread =>
              rw [wp_bind]
              refine wp_mono (wp_of_keepsFlags (keeps_markReadResponseReceived _)) fun _ g' _ => ?_
              refine ⟨heeds_decodeRead frame hnode hread, fun s'' _ => ?_⟩
              exact wp_mono (wp_of_keepsFlags (keeps_syncSharedFeedback _)) fun _ _ _ => trivial
            · trivial
        · trivial

end EyouCan

/-! ### on the device -/

/-- An operation of the device that leaves every flag alone. -/
def BusOp.KeepsFlags : BusOp → Prop
  | .eyou f => ∀ s, EyouCan.flag (f s) = EyouCan.flag s
  | _ => True

theorem wp_pairing_of_keepsFlags {hears : Option AnswerKey} {p : BusProg α} {g : PairingGhost}
    (hp : p.Stays BusOp.KeepsFlags) :
    p.wp (pairingRules hears) (fun _ g' => g'.Extends g) g := by
  have hrun := wp_of_only (P := pairingRules hears) (I := fun g' => g'.Extends g) hp
    (fun g' op hext hop => ?_) .rfl
  · exact wp_mono hrun fun _ _ h => h.2
  · cases op with
    | eyou f => exact ⟨EyouCan.heeds_of_same hop, fun s _ => (g'.extends_touch f s).trans hext⟩
    | _ => exact ⟨trivial, fun _ _ => hext⟩

theorem completion_keepsFlags (c : Completion) (attempted : Bool) (result : SendResult) (t : Time) :
    (c.run attempted result t).Stays BusOp.KeepsFlags := by
  cases c with
  | eyouRead node subCommand =>
      exact ⟨fun s => EyouCan.flag_onReadDispatchResult _ _ _ _ s, fun _ _ => trivial⟩
  | mtRead node command => exact ⟨trivial, fun _ _ => trivial⟩

theorem workerStep_keepsFlags (deviceName : String) :
    (DeviceRuntime.workerStep deviceName).Stays BusOp.KeepsFlags := by
  refine .vis trivial fun next => ?_
  cases next with
  | none => trivial
  | some r =>
      refine .vis trivial fun t => .vis trivial fun result => ?_
      have hrest : (DeviceRuntime.noteSharedSendResult deviceName result >>= fun _ =>
          Device.account result).Stays BusOp.KeepsFlags := by
        have hshared : (DeviceRuntime.noteSharedSendResult deviceName result).Stays
            BusOp.KeepsFlags :=
          .ite trivial (.vis trivial fun _ => .vis trivial fun _ => trivial)
        exact hshared.bind fun _ => .vis trivial fun _ => trivial
      cases r.completion with
      | none => exact hrest
      | some c => exact (completion_keepsFlags c true result t).bind fun _ => hrest

/-- What a thread of a protocol program knows, the thread on the device knows. -/
theorem pairing_onBus {hears : Option AnswerKey} {p : Proto EyouCan α} {g : PairingGhost}
    {Q : α → PairingGhost → Prop} (hQ : ∀ a g g', Q a g → g'.Extends g → Q a g')
    (hp : p.wp (portPairingRules hears) Q g) : p.onBus.wp (pairingRules hears) Q g := by
  have hrun := wp_interp (P := pairingRules hears) (f := PortOp.onBus)
    (R := fun g' g => g'.Extends g) (fun g' g op hext hop => ?_) .rfl hp
  · refine wp_mono hrun fun a g' ⟨g, hext, ha⟩ => hQ a g g' ha hext
  · cases op with
    | proto f => exact ⟨hop, fun s _ => ⟨trivial, hext.touch f s⟩⟩
    | shared f => exact ⟨trivial, fun _ _ => ⟨trivial, hext⟩⟩
    | submit r =>
        have hsubmit : (DeviceRuntime.submit r).Stays BusOp.KeepsFlags :=
          DeviceRuntime.submit_stays trivial trivial fun c _ t => completion_keepsFlags c _ _ t
        exact wp_mono (wp_pairing_of_keepsFlags hsubmit) fun _ g'' h => ⟨trivial, h.trans hext⟩
    | clock => exact ⟨trivial, fun _ _ => ⟨trivial, hext⟩⟩

/-- Every call follows the rules, and succeeds only when it has seen the answers it awaits. -/
theorem pairingRules_code (deviceName : String) (call : PairingCall) (g : PairingGhost) :
    (call.code deviceName).wp (pairingRules call.hears) (EyouCan.SeenAll call) g := by
  have hseen : ∀ (a : Bool) (g g' : PairingGhost), EyouCan.SeenAll call a g → g'.Extends g →
      EyouCan.SeenAll call a g' :=
    fun a g g' h hext htrue key hkey => hext.seen key (h htrue key hkey)
  cases call with
  | setPositionOffset id offsetRaw =>
      exact pairing_onBus hseen (EyouCan.setPositionOffset_pairing offsetRaw)
  | persistParameters id => exact pairing_onBus hseen EyouCan.persistParameters_pairing
  | readPositionOffset id =>
      rw [PairingCall.code, wp_bind]
      refine pairing_onBus (fun a g g' h hext => hseen _ g g' h hext) ?_
      refine wp_mono EyouCan.readPositionOffset_pairing fun offset g' h htrue key hkey => ?_
      rw [List.mem_singleton.1 hkey]
      exact h.2 htrue
  | readSerialNumber id =>
      rw [PairingCall.code, wp_bind]
      refine pairing_onBus (fun a g g' h hext => hseen _ g g' h hext) ?_
      refine wp_mono EyouCan.readSerialNumber_pairing fun serial g' h htrue key hkey => ?_
      rw [List.mem_singleton.1 hkey]
      exact h.2 htrue
  | issueRefreshQuery id query =>
      refine pairing_onBus hseen (wp_mono (wp_of_keepsFlags (EyouCan.keeps_issueRefreshQuery query))
        fun _ _ _ _ key hkey => ?_)
      exact absurd hkey List.not_mem_nil
  | work =>
      rw [PairingCall.code, wp_bind]
      refine wp_mono (wp_pairing_of_keepsFlags (workerStep_keepsFlags deviceName))
        fun _ _ _ _ key hkey => ?_
      exact absurd hkey List.not_mem_nil
  | receive frame =>
      rw [PairingCall.code, wp_bind]
      refine pairing_onBus (fun _ g g' h hext => hseen _ g g' h hext)
        (wp_mono (EyouCan.handleResponse_pairing frame g) fun _ _ _ _ key hkey => ?_)
      exact absurd hkey List.not_mem_nil

/-! ## answers that come in time -/

section

variable {ι : Type} [DecidableEq ι]

/-- A flag that somebody has cleared was raised by an answer to that call's request. -/
def AnswersItsCall (log : PairingLog ι) (b : WiredBus) : Prop :=
  ∀ i key, (log.row i).cleared key = true → b.bus.eyou.flag key = true →
    (log.row i).answered key = true

/-- What a thread knows is on record. -/
structure Recorded (log : PairingLog ι) (i : ι) (g : PairingGhost) : Prop where
  cleared : g.cleared = (log.row i).cleared
  seen : ∀ key, g.seen key = true → (log.row i).answered key = true

/-- The threads follow the rules from what is recorded of them. -/
abbrev KeepsPairing (w : PairingPool ι × PairingLog ι) : Prop :=
  Pool.Concludes (fun call => pairingRules call.hears) EyouCan.SeenAll AnswersItsCall
    (fun log i _ g => Recorded log i g) w.2 w.1

variable {log : PairingLog ι} {b : WiredBus} {i j : ι} {hears : Option AnswerKey}
  {f : EyouCan → EyouCan} {g : PairingGhost}

/-- **Step**: the object changes. -/
theorem AnswersItsCall.touched (h : AnswersItsCall log b) (hf : EyouCan.Heeds hears f)
    (htimely : ∀ key, hears = some key → EyouCan.raises f key = true →
      ∀ i, (log.row i).cleared key = true → log.heard j i = true)
    {log' : PairingLog ι} (hrow : log'.row = log.touched hears j f) {b' : WiredBus}
    (hb : b'.bus.eyou = f b.bus.eyou) : AnswersItsCall log' b' := by
  intro i key hcleared hflag
  rw [hrow] at hcleared ⊢
  rw [hb] at hflag
  have hkept : EyouCan.clears f key = false := by
    refine Bool.eq_false_of_not_eq_true fun hclears => ?_
    rw [hf.clears b.bus.eyou key hclears] at hflag
    exact absurd hflag (by decide)
  have hold : (log.row i).cleared key = true := by
    simpa [PairingLog.touched, hkept] using hcleared
  rcases hf.raises b.bus.eyou key hflag with hbefore | ⟨hheard, hraises⟩
  · simp [PairingLog.touched, h i key hold hbefore]
  · simp [PairingLog.touched, hheard, hraises, htimely key hheard hraises i hold]

theorem Recorded.touched (h : Recorded log j g) (hshared : AnswersItsCall log b)
    {log' : PairingLog ι} (hrow : log'.row = log.touched hears j f) :
    Recorded log' j (g.touch f b.bus.eyou) := by
  refine ⟨?_, fun key hseen => ?_⟩
  · funext key
    simp [hrow, PairingLog.touched, PairingGhost.touch, h.cleared]
  · have hold : (log.row j).answered key = true := by
      rcases Bool.or_eq_true_iff.1 hseen with hbefore | hnow
      · exact h.seen key hbefore
      · obtain ⟨hcleared, hflag⟩ := Bool.and_eq_true_iff.1 hnow
        exact hshared j key (h.cleared ▸ hcleared) hflag
    simp [hrow, PairingLog.touched, hold]

omit [DecidableEq ι] in
/-- Two records of a call that agree on its flags and its answers. -/
theorem Recorded.congr (h : Recorded log i g) {log' : PairingLog ι}
    (hcleared : (log'.row i).cleared = (log.row i).cleared)
    (hanswered : ∀ key, (log.row i).answered key = true → (log'.row i).answered key = true) :
    Recorded log' i g :=
  ⟨h.cleared.trans hcleared.symm, fun key hseen => hanswered key (h.seen key hseen)⟩

omit [DecidableEq ι] in
theorem AnswersItsCall.congr (h : AnswersItsCall log b) {log' : PairingLog ι} {b' : WiredBus}
    (hrow : ∀ i key, (log'.row i).cleared key = true → (log.row i).cleared key = true ∧
      ((log.row i).answered key = true → (log'.row i).answered key = true))
    (hb : b'.bus.eyou = b.bus.eyou) : AnswersItsCall log' b' := by
  intro i key hcleared hflag
  rw [hb] at hflag
  obtain ⟨hold, hanswered⟩ := hrow i key hcleared
  exact hanswered (h i key hold hflag)

theorem asked_keeps (log : PairingLog ι) (s : Submission ι) (i : ι) :
    (log.asked s i).cleared = (log.row i).cleared ∧
      (log.asked s i).answered = (log.row i).answered := by
  rw [PairingLog.asked]
  by_cases hcall : s.call = log.submissions.calls s.thread
  · rw [if_pos hcall]
    by_cases hi : i = s.thread
    · rw [hi, Function.update_self]
      exact ⟨rfl, rfl⟩
    · rw [Function.update_of_ne hi]
      exact ⟨rfl, rfl⟩
  · rw [if_neg hcall]
    exact ⟨rfl, rfl⟩

/-- Only who changes the object changes what is recorded of the flags. -/
theorem rows_act_keep (log : PairingLog ι) (p p' : PairingPool ι) {op : BusOp}
    (hop : ∀ f, op ≠ .eyou f) (i : ι) :
    (log.rows p (.act j op) p' i).cleared = (log.row i).cleared ∧
      (log.rows p (.act j op) p' i).answered = (log.row i).answered := by
  cases op with
  | eyou f => exact absurd rfl (hop f)
  | transmit frame =>
      rw [PairingLog.rows]
      split
      · cases log.submissions.taken j with
        | some s => exact asked_keeps log s i
        | none => exact ⟨rfl, rfl⟩
      · exact ⟨rfl, rfl⟩
  | _ => exact ⟨rfl, rfl⟩

theorem keepsPairing_step {deviceName : String} {w w' : PairingPool ι × PairingLog ι}
    {e : PairingEvent ι} (h : KeepsPairing w) (hC : TimelyAnswers w e)
    (hs : PairingStep deviceName w e w') : KeepsPairing w' := by
  obtain ⟨p', log'⟩ := w'
  obtain ⟨hs, hnote⟩ := hs
  dsimp only at hs hnote ⊢
  have hrow : log'.row = w.2.rows w.1 e p' := by rw [hnote]; rfl
  have hfresh : ∀ i, (log'.row = Function.update w.2.row i {}) →
      AnswersItsCall log' w.1.shared ∧ Recorded log' i {} ∧
        ∀ j g, j ≠ i → Recorded w.2 j g → Recorded log' j g := by
    intro i hupdate
    refine ⟨h.shared.congr (fun j key hcleared => ?_) rfl, ⟨?_, fun key hseen => ?_⟩,
      fun j g hji hrecorded => hrecorded.congr ?_ fun key => ?_⟩
    · by_cases hji : j = i
      · rw [hupdate, hji, Function.update_self] at hcleared
        exact absurd hcleared Bool.false_ne_true
      · rw [hupdate, Function.update_of_ne hji] at hcleared ⊢
        exact ⟨hcleared, fun h => h⟩
    · rw [hupdate, Function.update_self]
    · exact absurd hseen Bool.false_ne_true
    · rw [hupdate, Function.update_of_ne hji]
    · rw [hupdate, Function.update_of_ne hji]
      exact fun h => h
  refine h.step (fun i c he hi => ?_) (fun i c op k g r s' he hi hR hallow hserves _ => ?_)
    (fun i a he => ?_) (fun j c g hji hR => ?_) hs
  · obtain ⟨hshared, hself, -⟩ := hfresh i (by rw [hrow, he]; rfl)
    exact ⟨hshared, {}, hself, pairingRules_code deviceName c {}⟩
  · obtain ⟨⟨hadmits, hbus⟩, -⟩ := hserves
    refine ⟨trivial, ?_⟩
    by_cases htouch : ∃ f, op = .eyou f
    · obtain ⟨f, rfl⟩ := htouch
      obtain rfl : r = w.1.shared.bus.eyou := hadmits
      have hhandles : handles w.1 i = c.hears := by rw [handles, hi]; rfl
      have htouched : log'.row = w.2.touched c.hears i f := by rw [hrow, he, ← hhandles]; rfl
      have htimely : ∀ key, c.hears = some key → EyouCan.raises f key = true →
          ∀ j, (w.2.row j).cleared key = true → w.2.heard i j = true :=
        fun key hkey => hC i f key he (hhandles.trans hkey)
      exact ⟨h.shared.touched hallow htimely htouched (by rw [hbus]; rfl),
        hR.touched h.shared htouched⟩
    · have hkeep := rows_act_keep (j := i) w.2 w.1 p' fun f hf => htouch ⟨f, hf⟩
      have hsame : (w.1.shared.bus.after op r).eyou = w.1.shared.bus.eyou ∧
          (pairingRules c.hears).next g op r = g := by
        cases op with
        | eyou f => exact absurd ⟨f, rfl⟩ htouch
        | _ => exact ⟨rfl, rfl⟩
      rw [hsame.2]
      refine ⟨h.shared.congr (fun j key hcleared => ?_) (by rw [hbus, hsame.1]), hR.congr ?_ fun key => ?_⟩
      · rw [hrow, he, (hkeep j).1] at hcleared
        rw [hrow, he, (hkeep j).2]
        exact ⟨hcleared, fun h => h⟩
      · rw [hrow, he, (hkeep i).1]
      · rw [hrow, he, (hkeep i).2]
        exact fun h => h
  · exact (hfresh i (by rw [hrow, he]; rfl)).1
  · cases e with
    | call i c => exact (hfresh i hrow).2.2 j g hji hR
    | ret i a => exact (hfresh i hrow).2.2 j g hji hR
    | act i op =>
        have hne : decide (j = i) = false := decide_eq_false hji
        by_cases htouch : ∃ f, op = .eyou f
        · obtain ⟨f, rfl⟩ := htouch
          refine hR.congr ?_ fun key hanswered => ?_
          · rw [hrow]
            simp [PairingLog.rows, PairingLog.touched, hne]
          · rw [hrow]
            simp [PairingLog.rows, PairingLog.touched, hanswered]
        · have hkeep := rows_act_keep (j := i) w.2 w.1 p' (fun f hf => htouch ⟨f, hf⟩) j
          refine hR.congr ?_ fun key hanswered => ?_
          · rw [hrow, hkeep.1]
          · rw [hrow, hkeep.2]
            exact hanswered

/-- **Run**: while every answer is taken in time, a call that succeeds does so on answers to its
own requests. -/
theorem paired_of_timely (deviceName : String) (b : Bus) (options : RuntimeOptions)
    {w : PairingPool ι × PairingLog ι} {e : PairingEvent ι} {w' : PairingPool ι × PairingLog ι}
    (hr : Reach (PairingStep deviceName) TimelyAnswers
      (Pool.idle { bus := { b with runtime := { options } } }, {}) w)
    (hs : PairingStep deviceName w e w') : Paired w e := by
  have h : KeepsPairing w := by
    refine Reach.invariant (I := KeepsPairing) (.idle ?_)
      (fun w e w' h hC hs => keepsPairing_step h hC hs) hr
    exact fun i key hcleared => absurd hcleared Bool.false_ne_true
  rintro i t rfl hi key hkey
  obtain ⟨g, hrecorded, hseen⟩ := h.ret hi hs.1
  exact hrecorded.seen key (hseen rfl key hkey)

end

/-! ## a late answer -/

/-- The call a thread is about to return from, and its result. -/
def returning {ι : Type} (p : PairingPool ι) (i : ι) : Option (PairingCall × Bool) :=
  (p.thread i).bind fun t => match t.prog with
    | .ret a => some (t.call, a)
    | .vis _ _ => none

theorem step_of_returning {ι : Type} [DecidableEq ι] {p : PairingPool ι} {i : ι} {c : PairingCall}
    {a : Bool} (h : returning p i = some (c, a)) : p.thread i = some ⟨c, .ret a⟩ ∧
      ∀ deviceName, Pool.Step (PairingCall.code deviceName) (fun b _ => b.serves) p (.ret i a)
        (p.setThread i none) := by
  obtain ⟨⟨call, prog⟩, hi, hreturn⟩ := Option.bind_eq_some_iff.1 h
  cases prog with
  | vis op k => exact absurd hreturn (by simp)
  | ret b =>
      obtain ⟨rfl, rfl⟩ := Prod.mk.inj (Option.some.inj hreturn)
      exact ⟨hi, fun deviceName => .ret p i call b hi⟩

/-- The offset of PP motor 1 is to be written; the request is queued. -/
def offsetQueued {ι : Type} (writer : ι) (offsetRaw : Int32) : List (Pool.Move ι PairingCall) :=
  Pool.callFor writer (.setPositionOffset 1 offsetRaw) 10

/-- PP motor 1 acknowledges the write of its offset. -/
def offsetAck : Frame := dataFrame 1 8 #v[0x02, 0x3B, 0x01, 0, 0, 0, 0, 0]

/-- The queued request is sent and acknowledged. -/
def sentAndAnswered {ι : Type} (worker receiver : ι) : List (Pool.Move ι PairingCall) :=
  Pool.callFor worker .work 5 ++ Pool.callFor receiver (.receive offsetAck) 4

/-- A checked form of `TimelyAnswers`. -/
def timely (w : PairingPool (Fin 3) × PairingLog (Fin 3)) : PairingEvent (Fin 3) → Bool
  | .act j (.eyou f) => (handles w.1 j).all fun key =>
      !EyouCan.raises f key || decide (∀ i, (w.2.row i).cleared key = true → w.2.heard j i = true)
  | _ => true

theorem timely_spec {w : PairingPool (Fin 3) × PairingLog (Fin 3)} {e : PairingEvent (Fin 3)}
    (h : timely w e = true) : TimelyAnswers w e := by
  rintro j f key rfl hkey hraises
  simpa [timely, hkey, hraises] using h

/-- The offset is written, sent and acknowledged: the call succeeds on the answer to its own
request. -/
theorem offset_write_paired : ∃ w : PairingPool (Fin 3) × PairingLog (Fin 3),
    Reach (PairingStep "can0") TimelyAnswers
      (Pool.idle { bus := { Bus.powerOn "can0" {} {} 0 with runtime := { options := {} } } }, {}) w ∧
    returning w.1 0 = some (.setPositionOffset 1 100, true) ∧ Paired w (.ret 0 true) := by
  have hrun : (Pool.followWhile (PairingCall.code "can0") serveWired PairingLog.note timely
      (Pool.idle { bus := { Bus.powerOn "can0" {} {} 0 with runtime := { options := {} } } }, {})
      (offsetQueued (0 : Fin 3) 100 ++ sentAndAnswered 1 2 ++ [.go 0])).any
        (fun w => returning w.1 0 = some (.setPositionOffset 1 100, true)) = true := by
    decide +kernel
  obtain ⟨w, hr, htest⟩ := Pool.exists_of_followWhile (h := fun b _ => b.serves)
    (fun _ _ _ _ _ => serves_of_serveWired) (fun _ _ => timely_spec) hrun
  have hreturn := of_decide_eq_true htest
  have hs : PairingStep "can0" w (.ret 0 true) (w.1.setThread 0 none,
      PairingLog.note w.1 (.ret 0 true) (w.1.setThread 0 none) w.2) :=
    ⟨(step_of_returning hreturn).2 "can0", rfl⟩
  exact ⟨w, hr, hreturn, paired_of_timely "can0" (Bus.powerOn "can0" {} {} 0) {} hr hs⟩

/-- The first write of the offset times out and its acknowledgement comes late: when the second
write has cleared the flag but waits in the queue.  It succeeds without having been sent. -/
theorem late_answer_completes : ¬ ∀ (w w' : PairingPool (Fin 3) × PairingLog (Fin 3)) e,
    Reach (PairingStep "can0") (fun _ _ => True)
      (Pool.idle { bus := { Bus.powerOn "can0" {} {} 0 with runtime := { options := {} } } }, {}) w →
    PairingStep "can0" w e w' → Paired w e := by
  intro hclaim
  have hrun : (Pool.followNoting (PairingCall.code "can0") serveWired PairingLog.note
      (Pool.idle { bus := { Bus.powerOn "can0" {} {} 0 with runtime := { options := {} } } }, {})
      (offsetQueued (0 : Fin 3) 100 ++ [.go 0, .go 0] ++ Pool.callFor 1 .work 5 ++ offsetQueued 0 200 ++
        Pool.callFor 2 (.receive offsetAck) 4 ++ [.go 0])).any
        (fun w => decide (returning w.1 0 = some (.setPositionOffset 1 200, true)) &&
          !(w.2.row 0).answered (.ack 1 0x3B)) = true := by
    decide +kernel
  obtain ⟨w, hr, htest⟩ := Pool.exists_of_followNoting (h := fun b _ => b.serves)
    (C := fun _ _ => True) (fun _ _ _ _ _ => serves_of_serveWired) (fun _ _ _ _ _ _ => trivial) hrun
  obtain ⟨hreturn, hunanswered⟩ := Bool.and_eq_true_iff.1 htest
  have hi := (step_of_returning (of_decide_eq_true hreturn)).1
  have hs : PairingStep "can0" w (.ret 0 true) (w.1.setThread 0 none,
      PairingLog.note w.1 (.ret 0 true) (w.1.setThread 0 none) w.2) :=
    ⟨(step_of_returning (of_decide_eq_true hreturn)).2 "can0", rfl⟩
  have hanswered := hclaim w _ _ hr hs 0 _ rfl hi (.ack 1 0x3B) (by decide)
  rw [hanswered] at hunanswered
  exact absurd hunanswered (by decide)

end CanDriver
