import CanDriver.Dispatch.Submissions

/-!
# CanDriver.Device.VelocityPreload

The velocity a PP motor moves with when it is told a position.

`quickSetPosition` leaves the velocity register alone when it takes the register for configured.
What it goes by is what was last handed to the dispatcher: after every command the object
remembers the velocity of the last 0x09 frame submitted since the last mode switch or enable.
Whether that frame was sent, and what the motor said to it, is not looked at, so a position goes
out at the velocity in force exactly if the frame last sent is as good as the one last submitted
(`preconfigured_iff`).
-/

namespace CanDriver

open Interact Prog

/-! ## frames -/

/-- The motor and the velocity of a write to register 0x09. -/
def Frame.preload (frame : Frame) : Option (UInt8 × Int32) :=
  if (frame.byte 0 = EyouCan.kWriteCommand ∨ frame.byte 0 = EyouCan.kFastWriteCommand) ∧
      frame.byte 1 = 0x09 then
    some (frame.id.toUInt8, EyouCan.readInt32BE frame 2)
  else none

/-- Whether a frame writes register 0x0A. -/
def Frame.isTarget (frame : Frame) : Bool :=
  (frame.byte 0 = EyouCan.kWriteCommand || frame.byte 0 = EyouCan.kFastWriteCommand) &&
    frame.byte 1 = 0x0A

/-- The motor that refuses a write to register 0x09 with this frame. -/
def Frame.refusal (frame : Frame) : Option UInt8 :=
  match EyouCan.responseNode frame with
  | none => none
  | some node =>
      if frame.byte 0 = EyouCan.kWriteAck ∧ frame.byte 1 = 0x09 ∧
          EyouCan.dataByteOrZero frame 2 ≠ 0x01 ∧ EyouCan.dataByteOrZero frame 2 ≠ 0x05 then
        some node
      else none

namespace EyouCan

/-- What the object takes for configured: whether, and at which velocity. -/
def preloaded (s : EyouCan) (node : UInt8) : Bool × Int32 :=
  ((s.motorState node).positionVelocityConfigured, (s.motorState node).lastPositionVelocityRaw)

/-- The velocity in force for `quickSetPosition`. -/
def cspVelocityRaw (s : EyouCan) (node : UInt8) : Int32 :=
  (s.cspVelocityRawByMotorId node).getD s.defaultCspVelocityRaw

/-- Whether frames can be submitted at all. -/
def submits (s : EyouCan) : Bool := s.canController && s.txDispatcher

/-- What no call changes: whether there is a transport and a dispatcher, and the velocity in
force. -/
def terms (s : EyouCan) (node : UInt8) : (Bool × Bool) × Int32 :=
  ((s.canController, s.txDispatcher), s.cspVelocityRaw node)

end EyouCan

/-! ## the calls -/

/-- The commands of a PP motor that have to do with the velocity register, and what runs beside
them. -/
inductive PreloadCall where
  | setMode (id : MotorID) (mode : MotorMode)
  | enable (id : MotorID)
  | setVelocity (id : MotorID) (velocity : Int32)
  | setPosition (id : MotorID) (position : Int32)
  | quickSetPosition (id : MotorID) (position : Int32)
  | work
  | receive (frame : Frame)
deriving DecidableEq, Repr

namespace PreloadCall

/-- The program of a call. -/
def code (deviceName : String) : PreloadCall → BusProg Unit
  | setMode id mode => Proto.onBus (discard (EyouCan.setMode id mode))
  | enable id => Proto.onBus (discard (EyouCan.enable id))
  | setVelocity id velocity => Proto.onBus (discard (EyouCan.setVelocity id velocity))
  | setPosition id position => Proto.onBus (discard (EyouCan.setPosition id position))
  | quickSetPosition id position => Proto.onBus (discard (EyouCan.quickSetPosition id position))
  | work => DeviceRuntime.workerStep deviceName
  | receive frame => Proto.onBus (EyouCan.handleResponse frame)

/-- The motor a command is for. -/
def node : PreloadCall → Option UInt8
  | setMode id _ | enable id | setVelocity id _ | setPosition id _ | quickSetPosition id _ =>
      some (toProtocolNodeId id)
  | work | receive _ => none

/-- The command makes the velocity register unknown. -/
def forgets : PreloadCall → Bool
  | setMode _ _ | enable _ => true
  | _ => false

/-- The command is `quickSetPosition`. -/
def isQuick : PreloadCall → Bool
  | quickSetPosition _ _ => true
  | _ => false

end PreloadCall

/-! ## the record -/

/-- What is recorded of a run: the thread whose command is running and whether that has submitted
a 0x09 frame; and for each motor the velocity of the 0x09 frame last submitted and of the one last
sent since the last mode switch or enable, and whether the motor has refused the latter. -/
structure PreloadLog (ι : Type) where
  active : Option ι := none
  wrote : Bool := false
  submitted : UInt8 → Option Int32 := fun _ => none
  sent : UInt8 → Option Int32 := fun _ => none
  refused : UInt8 → Bool := fun _ => false

/-- The threads of a device with a wire that make these calls. -/
abbrev PreloadPool (ι : Type) := Pool busSig ι PreloadCall Unit WiredBus

/-- What happens in one step. -/
abbrev PreloadEvent (ι : Type) := Event busSig ι PreloadCall Unit

section

variable {ι : Type} [DecidableEq ι]

namespace PreloadLog

/-- A command starts. -/
def begin (log : PreloadLog ι) (i : ι) (node : UInt8) (forgets : Bool) : PreloadLog ι :=
  if forgets then
    { active := some i
      wrote := false
      submitted := Function.update log.submitted node none
      sent := Function.update log.sent node none
      refused := Function.update log.refused node false }
  else { log with active := some i, wrote := false }

/-- A call beside the commands starts: a refusal may be received. -/
def hear (log : PreloadLog ι) : PreloadCall → PreloadLog ι
  | .receive frame =>
      match frame.refusal with
      | some node => { log with refused := Function.update log.refused node true }
      | none => log
  | _ => log

/-- What a step adds to the record. -/
def note (p : PreloadPool ι) (e : PreloadEvent ι) (p' : PreloadPool ι) (log : PreloadLog ι) :
    PreloadLog ι :=
  match e with
  | .call i c =>
      match c.node with
      | some node => log.begin i node c.forgets
      | none => log.hear c
  | .ret i _ =>
      if (p.thread i).any fun t => t.call.node.isSome then { log with active := none } else log
  | .act i (.enqueue r) =>
      match r.frame.preload with
      | some (node, velocity) =>
          { log with
            wrote := log.wrote || decide (log.active = some i)
            submitted := Function.update log.submitted node (some velocity) }
      | none => log
  | .act _ (.transmit frame) =>
      if p.shared.wire.length < p'.shared.wire.length then
        match frame.preload with
        | some (node, velocity) =>
            { log with
              sent := Function.update log.sent node (some velocity)
              refused := Function.update log.refused node false }
        | none => log
      else log
  | _ => log

end PreloadLog

/-- Commands are made one at a time. -/
def Serialised (w : PreloadPool ι × PreloadLog ι) (e : PreloadEvent ι) : Prop :=
  ∀ i c, e = .call i c → c.node.isSome = true → w.2.active = none

/-- `quickSetPosition` submits a target for a motor without having submitted its velocity. -/
def TargetOnly (w : PreloadPool ι × PreloadLog ι) (e : PreloadEvent ι) (node : UInt8) : Prop :=
  w.2.wrote = false ∧ ∃ i r id position prog, e = .act i (.enqueue r) ∧ r.frame.isTarget = true ∧
    w.1.thread i = some ⟨.quickSetPosition id position, prog⟩ ∧ toProtocolNodeId id = node

/-- The 0x09 frame last sent to the motor carried the velocity in force, and was not refused. -/
def Preconfigured (w : PreloadPool ι × PreloadLog ι) (node : UInt8) : Prop :=
  w.2.sent node = some (w.1.shared.bus.eyou.cspVelocityRaw node) ∧ w.2.refused node = false

/-- The 0x09 frame last sent to the motor is as good as the one last submitted, and was not
refused. -/
def SentAsSubmitted (w : PreloadPool ι × PreloadLog ι) (node : UInt8) : Prop :=
  w.2.sent node = w.2.submitted node ∧ w.2.refused node = false

/-- One step on the device `deviceName`, and what is recorded of it. -/
abbrev PreloadStep (deviceName : String) :
    PreloadPool ι × PreloadLog ι → PreloadEvent ι → PreloadPool ι × PreloadLog ι → Prop :=
  Recording (Pool.Step (PreloadCall.code deviceName) fun b _ => b.serves) PreloadLog.note

end

/-! ## what the frames say -/

namespace EyouCan

theorem writeFrame_command (node subCommand : UInt8) (value : UInt32) (n : Nat)
    (commandType : UInt8) :
    (writeFrame node subCommand value n commandType).byte 0 = commandType ∧
      (writeFrame node subCommand value n commandType).byte 1 = subCommand := by
  constructor
  all_goals simp [Frame.byte, writeFrame, dataFrame]

theorem writeFrame_value (node subCommand : UInt8) (v : Int32) (commandType : UInt8) :
    readInt32BE (writeFrame node subCommand v.toUInt32 4 commandType) 2 = v := by
  have hbytes : readUInt32BE (writeFrame node subCommand v.toUInt32 4 commandType) 2 =
      wordOfBytes (v.toUInt32 >>> 24).toUInt8 (v.toUInt32 >>> 16).toUInt8 (v.toUInt32 >>> 8).toUInt8
        (v.toUInt32 >>> 0).toUInt8 := by
    simp [Frame.byte, writeFrame, dataFrame, readUInt32BE]
  have hzero : v.toUInt32 >>> 0 = v.toUInt32 := by
    apply UInt32.toNat_inj.1
    simp
  rw [readInt32BE, hbytes, hzero, wordOfBytes_split, Int32.toInt32_toUInt32]

theorem preload_writeFrame (node : UInt8) (v : Int32) {commandType : UInt8}
    (h : commandType = kWriteCommand ∨ commandType = kFastWriteCommand) :
    (writeFrame node 0x09 v.toUInt32 4 commandType).preload = some (node, v) := by
  obtain ⟨hcommand, hregister⟩ := writeFrame_command node 0x09 v.toUInt32 4 commandType
  have hid : (writeFrame node 0x09 v.toUInt32 4 commandType).id.toUInt8 = node :=
    UInt8.toUInt8_toUInt32 node
  rw [Frame.preload, hcommand, hregister, if_pos ⟨h, rfl⟩, hid, writeFrame_value]

theorem preload_writeFrame_of_ne {subCommand : UInt8} (h : subCommand ≠ 0x09) (node : UInt8)
    (value : UInt32) (n : Nat) (commandType : UInt8) :
    (writeFrame node subCommand value n commandType).preload = none := by
  have hregister := (writeFrame_command node subCommand value n commandType).2
  rw [Frame.preload, hregister, if_neg fun hboth => h hboth.2]

theorem isTarget_writeFrame_of_ne {subCommand : UInt8} (h : subCommand ≠ 0x0A) (node : UInt8)
    (value : UInt32) (n : Nat) (commandType : UInt8) :
    (writeFrame node subCommand value n commandType).isTarget = false := by
  have hregister := (writeFrame_command node subCommand value n commandType).2
  simp [Frame.isTarget, hregister, h]

end EyouCan

/-! ## the rules of the threads -/

/-- A change to the object that leaves alone how frames are submitted, which velocities are in
force, and the velocity registers of all motors but `node`. -/
structure EyouCan.LeavesOthers (node : UInt8) (f : EyouCan → EyouCan) : Prop where
  submits : ∀ s, (f s).submits = s.submits
  terms : ∀ s n, (f s).terms n = s.terms n
  preloaded : ∀ s n, n ≠ node → (f s).preloaded n = s.preloaded n

/-- A change to the object that has nothing to do with velocity registers. -/
structure EyouCan.LeavesPreload (f : EyouCan → EyouCan) : Prop where
  submits : ∀ s, (f s).submits = s.submits
  terms : ∀ s n, (f s).terms n = s.terms n
  preloaded : ∀ s n, (f s).preloaded n = s.preloaded n

theorem EyouCan.LeavesPreload.others {f : EyouCan → EyouCan} (h : LeavesPreload f) (node : UInt8) :
    LeavesOthers node f :=
  ⟨h.submits, h.terms, fun s n _ => h.preloaded s n⟩

/-- What the thread of a command knows of its motor: what the object takes for configured, on
which terms, and whether the 0x09 frame last submitted agrees with it. -/
structure PreloadGhost where
  known : Option (Bool × Int32) := none
  terms : Option ((Bool × Bool) × Int32) := none
  settled : Bool

namespace PreloadGhost

/-- What it knows after a change to the object it found in state `s`. -/
def touch (g : PreloadGhost) (node : UInt8) (f : EyouCan → EyouCan) (s : EyouCan) :
    PreloadGhost where
  known := some ((f s).preloaded node)
  terms := some ((f s).terms node)
  settled := !s.submits || !((f s).preloaded node).1 ||
    (g.settled && decide ((f s).preloaded node = s.preloaded node))

/-- What it knows after a submission. -/
def submit (g : PreloadGhost) (r : Request) : PreloadGhost :=
  match r.frame.preload with
  | none => g
  | some (_, velocity) => { g with settled := decide (g.known = some (true, velocity)) }

/-- What it knows is so. -/
structure Agrees (g : PreloadGhost) (node : UInt8) (s : EyouCan) : Prop where
  known : ∀ k, g.known = some k → s.preloaded node = k
  terms : ∀ v, g.terms = some v → s.terms node = v

/-- A velocity is submitted for the thread's own motor only, and `quickSetPosition` submits a
target only when the velocity in force has been submitted. -/
structure MaySubmit (g : PreloadGhost) (node : UInt8) (quick : Bool) (r : Request) : Prop where
  own : ∀ n v, r.frame.preload = some (n, v) → n = node
  target : quick = true → r.frame.isTarget = true →
    g.settled = true ∧ ∃ v, g.known = some (true, v) ∧ g.terms = some ((true, true), v)

/-- Who knows more. -/
structure Extends (g' g : PreloadGhost) : Prop where
  known : ∀ k, g.known = some k → g'.known = some k
  terms : ∀ v, g.terms = some v → g'.terms = some v
  settled : g.settled = true → g'.settled = true

variable {g g' g'' : PreloadGhost} {node : UInt8} {f : EyouCan → EyouCan} {s : EyouCan}

theorem Extends.rfl : Extends g g := ⟨fun _ h => h, fun _ h => h, fun h => h⟩

theorem Extends.trans (h : Extends g'' g') (h' : Extends g' g) : Extends g'' g :=
  ⟨fun k hk => h.known k (h'.known k hk), fun v hv => h.terms v (h'.terms v hv),
    fun hs => h.settled (h'.settled hs)⟩

theorem Extends.agrees (h : Extends g' g) (ha : g'.Agrees node s) : g.Agrees node s :=
  ⟨fun k hk => ha.known k (h.known k hk), fun v hv => ha.terms v (h.terms v hv)⟩

theorem Extends.maySubmit {quick : Bool} {r : Request} (h : Extends g' g)
    (hr : g.MaySubmit node quick r) : g'.MaySubmit node quick r := by
  refine ⟨hr.own, fun hquick htarget => ?_⟩
  obtain ⟨hsettled, v, hknown, hterms⟩ := hr.target hquick htarget
  exact ⟨h.settled hsettled, v, h.known _ hknown, h.terms _ hterms⟩

theorem Extends.touch (h : Extends g' g) (node : UInt8) (f : EyouCan → EyouCan) (s : EyouCan) :
    Extends (g'.touch node f s) (g.touch node f s) := by
  refine ⟨fun k hk => hk, fun v hv => hv, fun hs => ?_⟩
  rcases Bool.or_eq_true_iff.1 hs with hleft | hright
  · simp only [PreloadGhost.touch, hleft, Bool.true_or]
  · obtain ⟨hsettled, hsame⟩ := Bool.and_eq_true_iff.1 hright
    simp only [PreloadGhost.touch, h.settled hsettled, hsame, Bool.and_self, Bool.or_true]

theorem Extends.submit (h : Extends g' g) (r : Request) : Extends (g'.submit r) (g.submit r) := by
  rw [PreloadGhost.submit, PreloadGhost.submit]
  cases r.frame.preload with
  | none => exact h
  | some x => exact ⟨h.known, h.terms, fun hs => decide_eq_true (h.known _ (of_decide_eq_true hs))⟩

/-- A change that has nothing to do with the velocity leaves the thread what it knows. -/
theorem extends_touch (hf : EyouCan.LeavesPreload f) (ha : g.Agrees node s) :
    Extends (g.touch node f s) g := by
  refine ⟨fun k hk => ?_, fun v hv => ?_, fun hs => ?_⟩
  · rw [PreloadGhost.touch, hf.preloaded, ha.known k hk]
  · rw [PreloadGhost.touch, hf.terms, ha.terms v hv]
  · simp [PreloadGhost.touch, hf.preloaded, hs]

end PreloadGhost

/-- The rules of a command for a motor, on the device. -/
def commandRules (node : UInt8) (quick : Bool) : Protocol busSig PreloadGhost where
  allow g
    | .eyou f => EyouCan.LeavesOthers node f
    | .enqueue r => g.MaySubmit node quick r
    | _ => True
  accepts g
    | .eyou _, s => g.Agrees node s
    | _, _ => True
  next g
    | .eyou f, s => g.touch node f s
    | .enqueue r, _ => g.submit r
    | _, _ => g

/-- The same rules for a protocol program. -/
def portCommandRules (node : UInt8) (quick : Bool) : Protocol (portSig EyouCan) PreloadGhost where
  allow g
    | .proto f => EyouCan.LeavesOthers node f
    | .submit r => g.MaySubmit node quick r
    | _ => True
  accepts g
    | .proto _, s => g.Agrees node s
    | _, _ => True
  next g
    | .proto f, s => g.touch node f s
    | .submit r, _ => g.submit r
    | _, _ => g

/-! ### programs that have nothing to do with the velocity -/

/-- An operation that has nothing to do with velocity registers, and submits no target. -/
def PortOp.LeavesPreload : PortOp EyouCan → Prop
  | .proto f => EyouCan.LeavesPreload f
  | .submit r => r.frame.preload = none ∧ r.frame.isTarget = false
  | _ => True

theorem maySubmit_of_leaves {g : PreloadGhost} {node : UInt8} {quick : Bool} {r : Request}
    (h : r.frame.preload = none ∧ r.frame.isTarget = false) : g.MaySubmit node quick r := by
  refine ⟨fun n v hpreload => ?_, fun _ htarget => ?_⟩
  · rw [h.1] at hpreload
    exact absurd hpreload (by simp)
  · rw [h.2] at htarget
    exact absurd htarget Bool.false_ne_true

/-- A command may run such a program, and knows afterwards what it knew before. -/
theorem wp_of_leavesPreload {node : UInt8} {quick : Bool} {p : Proto EyouCan α} {g : PreloadGhost}
    (hp : p.Stays PortOp.LeavesPreload) :
    p.wp (portCommandRules node quick) (fun _ g' => g'.Extends g) g := by
  have hrun := wp_of_only (P := portCommandRules node quick) (I := fun g' => g'.Extends g) hp
    (fun g' op hext hop => ?_) .rfl
  · exact wp_mono hrun fun _ _ h => h.2
  · cases op with
    | proto f =>
        exact ⟨EyouCan.LeavesPreload.others hop node,
          fun s hagrees => (PreloadGhost.extends_touch hop hagrees).trans hext⟩
    | submit r =>
        refine ⟨maySubmit_of_leaves hop, fun _ _ => ?_⟩
        change (g'.submit r).Extends g
        rw [PreloadGhost.submit, hop.1]
        exact hext
    | _ => exact ⟨trivial, fun _ _ => hext⟩

namespace EyouCan

open Proto

variable {motorId : MotorID} {node : UInt8}

theorem leavesPreload_id : LeavesPreload id := ⟨fun _ => rfl, fun _ _ => rfl, fun _ _ => rfl⟩

theorem leaves_modify {f : EyouCan → EyouCan} (h : LeavesPreload f) :
    (Proto.modify f).Stays PortOp.LeavesPreload :=
  ⟨h, fun _ _ => trivial⟩

theorem leaves_gets (f : EyouCan → α) : (gets f).Stays PortOp.LeavesPreload :=
  ⟨leavesPreload_id, fun _ _ => trivial⟩

theorem leaves_now : (now : Proto EyouCan Time).Stays PortOp.LeavesPreload :=
  ⟨trivial, fun _ _ => trivial⟩

theorem leaves_publish (f : AxisKey → SharedDriverState → SharedDriverState) :
    (publish node f).Stays PortOp.LeavesPreload :=
  (leaves_gets _).bind fun _ => .ite ⟨trivial, fun _ _ => trivial⟩ trivial

theorem leaves_syncSharedCommand (targetPosition targetVelocity : Int32) (desiredMode : MotorMode)
    (valid : Bool) : (syncSharedCommand node targetPosition targetVelocity desiredMode
      valid).Stays PortOp.LeavesPreload :=
  leaves_now.bind fun _ => leaves_publish _

theorem leaves_registerManagedMotorId :
    (registerManagedMotorId motorId).Stays PortOp.LeavesPreload := by
  have hremember : LeavesPreload fun s : EyouCan => s.remember motorId :=
    ⟨fun _ => rfl, fun _ _ => rfl, fun _ _ => rfl⟩
  exact (leaves_modify hremember).bind fun _ =>
    (leaves_gets _).bind fun _ => .ite ⟨trivial, fun _ _ => trivial⟩ trivial

theorem leaves_submitTx {frame : Frame} (category : Category) (source : TxSource)
    (h : frame.preload = none ∧ frame.isTarget = false) :
    (submitTx frame category source).Stays PortOp.LeavesPreload :=
  (leaves_gets _).bind fun _ => .ite ⟨h, fun _ _ => trivial⟩ trivial

/-- Counting a write has nothing to do with the velocity. -/
theorem leavesPreload_count (commandType : UInt8) : LeavesPreload fun s : EyouCan =>
    if commandType = kFastWriteCommand then
      { s with fastWriteSentCount := s.fastWriteSentCount + 1 }
    else if commandType = kWriteCommand then
      { s with normalWriteSentCount := s.normalWriteSentCount + 1 }
    else s := by
  by_cases hfast : commandType = kFastWriteCommand
  · simp only [hfast, ↓reduceIte]
    exact ⟨fun _ => rfl, fun _ _ => rfl, fun _ _ => rfl⟩
  · by_cases hnormal : commandType = kWriteCommand
    · rw [hnormal] at hfast ⊢
      simp only [hfast, ↓reduceIte]
      exact ⟨fun _ => rfl, fun _ _ => rfl, fun _ _ => rfl⟩
    · simp only [hfast, hnormal, ↓reduceIte]
      exact leavesPreload_id

theorem leaves_sendWriteCommand {subCommand : UInt8} (hvelocity : subCommand ≠ 0x09)
    (htarget : subCommand ≠ 0x0A) (value : UInt32) (payloadBytes : Nat) (commandType : UInt8) :
    (sendWriteCommand node subCommand value payloadBytes
      commandType).Stays PortOp.LeavesPreload :=
  (leaves_gets _).bind fun _ => .ite ((leaves_submitTx _ _
    ⟨preload_writeFrame_of_ne hvelocity _ _ _ _, isTarget_writeFrame_of_ne htarget _ _ _ _⟩).bind
    fun _ => .ite (leaves_modify (leavesPreload_count commandType)) trivial) trivial

theorem leavesPreload_onReadDispatchResult (subCommand : UInt8) (attemptedSend : Bool)
    (result : SendResult) (eventTime : Time) :
    LeavesPreload (onReadDispatchResult node subCommand attemptedSend result eventTime) := by
  have hsame : ∀ s : EyouCan, onReadDispatchResult node subCommand attemptedSend result eventTime s = s ∨
      ∃ reads, onReadDispatchResult node subCommand attemptedSend result eventTime s =
        { s with pendingReadRequests := reads } := by
    intro s
    rw [onReadDispatchResult]
    split
    · exact .inl rfl
    · split
      · exact .inl rfl
      · exact .inr ⟨_, rfl⟩
  refine ⟨fun s => ?_, fun s n => ?_, fun s n => ?_⟩
  all_goals
    rcases hsame s with h | ⟨reads, h⟩
    · rw [h]
    · rw [h]
      rfl

theorem leaves_tryIssueReadCommand (subCommand : UInt8) :
    (tryIssueReadCommand node subCommand).Stays PortOp.LeavesPreload := by
  have hread : (sendReadCommand node subCommand).Stays PortOp.LeavesPreload :=
    (leaves_gets _).bind fun _ => .ite (.ite ⟨⟨rfl, rfl⟩, fun _ _ => trivial⟩
      (leaves_now.bind fun _ => leaves_modify (leavesPreload_onReadDispatchResult _ _ _ _))) trivial
  have hclaim : LeavesPreload fun s => (claimRead node subCommand s).2 :=
    ⟨fun _ => rfl, fun _ _ => rfl, fun _ _ => rfl⟩
  exact (leaves_gets _).bind fun _ => .ite trivial (.vis hclaim fun _ =>
    .ite (hread.bind fun _ => trivial) trivial)

/-! ### commands -/

variable {quick : Bool} {g : PreloadGhost}

theorem preloaded_setMotorState (s : EyouCan) (f : EyouMotorState → EyouMotorState) (n : UInt8) :
    (s.setMotorState node f).preloaded n =
      if n = node then ((f (s.motorState node)).positionVelocityConfigured,
        (f (s.motorState node)).lastPositionVelocityRaw)
      else s.preloaded n := by
  by_cases h : n = node
  · rw [if_pos h, h]
    simp [preloaded, setMotorState, motorState]
  · rw [if_neg h]
    simp [preloaded, setMotorState, motorState, put_of_ne _ _ h]

theorem leavesOthers_setMotorState (f : EyouMotorState → EyouMotorState) :
    LeavesOthers node fun s => s.setMotorState node f :=
  ⟨fun _ => rfl, fun _ _ => rfl, fun s n h => by rw [preloaded_setMotorState, if_neg h]⟩

/-- Without a transport a command does nothing, and no frame goes out. -/
theorem withController_preload {p : Proto EyouCan Bool}
    (hp : ∀ g' : PreloadGhost, g'.Extends g →
      p.wp (portCommandRules node quick) (fun _ g'' => g''.settled = true) g') :
    (withController p).wp (portCommandRules node quick) (fun _ g' => g'.settled = true) g := by
  simp only [withController, gets, vis_bind, ret_bind, wp_vis, wp_ite, pure_eq, wp_ret, id_eq]
  refine ⟨leavesPreload_id.others node, fun s hagrees => ?_⟩
  by_cases hcontroller : s.canController = true
  · rw [if_pos hcontroller]
    exact hp _ (PreloadGhost.extends_touch leavesPreload_id hagrees)
  · rw [if_neg hcontroller]
    simp [portCommandRules, PreloadGhost.touch, submits, hcontroller]

/-- Whoever cannot submit has nothing to make good. -/
theorem settled_touch_of_silent {f : EyouCan → EyouCan} {s : EyouCan} (h : s.submits = false) :
    (g.touch node f s).settled = true := by
  simp [PreloadGhost.touch, h]

/-- The velocity the object takes for configured is submitted. -/
theorem sendWriteCommand_preload {v : Int32} {commandType : UInt8}
    (hcommand : commandType = kWriteCommand ∨ commandType = kFastWriteCommand)
    (hknown : g.known = some (true, v)) :
    (sendWriteCommand node 0x09 v.toUInt32 4 commandType).wp (portCommandRules node quick)
      (fun _ g' => g'.Extends { g with settled := true }) g := by
  have hframe := preload_writeFrame node v hcommand
  have hvelocity : (writeFrame node 0x09 v.toUInt32 4 commandType).isTarget = false :=
    isTarget_writeFrame_of_ne (by decide) _ _ _ _
  simp only [sendWriteCommand, submitTx, gets, Proto.modify, submit, vis_bind, ret_bind, wp_vis,
    wp_ite, wp_bind, pure_eq, wp_ret, id_eq]
  refine ⟨leavesPreload_id.others node, fun s hagrees => ?_⟩
  have hext := PreloadGhost.extends_touch leavesPreload_id hagrees
  by_cases hcontroller : s.canController = true
  · rw [if_pos hcontroller]
    refine ⟨leavesPreload_id.others node, fun s' hagrees' => ?_⟩
    have hext' := (PreloadGhost.extends_touch leavesPreload_id hagrees').trans hext
    by_cases hdispatcher : s'.txDispatcher = true
    · rw [if_pos hdispatcher]
      refine ⟨⟨fun n v' hpreload => ?_, fun _ htarget => ?_⟩, fun _ _ => ?_⟩
      · obtain ⟨rfl, -⟩ := Prod.mk.inj (Option.some.inj (hframe.symm.trans hpreload))
        rfl
      · exact absurd (htarget.symm.trans hvelocity) (by decide)
      · rw [if_pos trivial]
        refine ⟨(leavesPreload_count commandType).others node, fun s'' hagrees'' => ?_⟩
        refine (PreloadGhost.extends_touch (leavesPreload_count commandType) hagrees'').trans ?_
        refine ⟨fun k hk => ?_, fun v' hv => ?_, fun _ => ?_⟩
        all_goals simp only [portCommandRules, PreloadGhost.submit, hframe]
        · exact hext'.known k hk
        · exact hext'.terms v' hv
        · exact decide_eq_true (hext'.known _ hknown)
    · rw [if_neg hdispatcher, if_neg Bool.false_ne_true]
      have hsilent : s'.submits = false := by simp [submits, hdispatcher]
      exact ⟨hext'.known, hext'.terms, fun _ => settled_touch_of_silent hsilent⟩
  · rw [if_neg hcontroller]
    have hsilent : s.submits = false := by simp [submits, hcontroller]
    exact ⟨hext.known, hext.terms, fun _ => settled_touch_of_silent hsilent⟩

theorem sendMaybeFast_preload {v : Int32} (hknown : g.known = some (true, v)) :
    (sendMaybeFast node 0x09 v.toUInt32).wp (portCommandRules node quick)
      (fun _ g' => g'.Extends { g with settled := true }) g := by
  simp only [sendMaybeFast, gets, vis_bind, ret_bind, wp_vis, wp_ite, wp_bind]
  refine ⟨leavesPreload_id.others node, fun s hagrees => ?_⟩
  have hext := PreloadGhost.extends_touch leavesPreload_id hagrees
  have hsettled : ∀ g' : PreloadGhost, g'.Extends g →
      PreloadGhost.Extends { g' with settled := true } { g with settled := true } :=
    fun g' h => ⟨h.known, h.terms, fun h => h⟩
  split
  · refine wp_mono (sendWriteCommand_preload (.inr rfl) (hext.known _ hknown)) fun _ g' hfast => ?_
    have hboth := hfast.trans (hsettled _ hext)
    refine wp_mono (sendWriteCommand_preload (.inl rfl) (hboth.known _ hknown)) fun _ g'' hslow => ?_
    exact hslow.trans ⟨hboth.known, hboth.terms, fun h => h⟩
  · refine wp_mono (sendWriteCommand_preload (.inl rfl) (hext.known _ hknown)) fun _ g' hslow => ?_
    exact hslow.trans (hsettled _ hext)

/-- A mode switch and an enable make the register unknown, and write something else. -/
theorem forget_preload {f : EyouMotorState → EyouMotorState} {p : Proto EyouCan Bool}
    (hf : ∀ st, (f st).positionVelocityConfigured = false) (hp : p.Stays PortOp.LeavesPreload) :
    (withController do
      registerManagedMotorId motorId
      Proto.modify fun s => s.setMotorState (toProtocolNodeId motorId) f
      p).wp (portCommandRules (toProtocolNodeId motorId) quick) (fun _ g' => g'.settled = true) g := by
  refine withController_preload fun g' _ => ?_
  rw [wp_bind]
  refine wp_mono (wp_of_leavesPreload leaves_registerManagedMotorId) fun _ g₁ _ => ?_
  rw [wp_bind]
  refine ⟨leavesOthers_setMotorState f, fun s _ => ?_⟩
  rw [wp_ret]
  refine wp_mono (wp_of_leavesPreload hp) fun _ g₂ hext => hext.settled ?_
  simp [portCommandRules, PreloadGhost.touch, preloaded_setMotorState, hf]

theorem setMode_preload (mode : MotorMode) :
    (setMode motorId mode).wp (portCommandRules (toProtocolNodeId motorId) quick)
      (fun _ g' => g'.settled = true) g :=
  forget_preload (fun _ => rfl) <| (leaves_publish _).bind fun _ =>
    (leaves_sendWriteCommand (by decide) (by decide) _ _ _).bind fun _ => trivial

theorem enable_preload :
    (enable motorId).wp (portCommandRules (toProtocolNodeId motorId) quick)
      (fun _ g' => g'.settled = true) g :=
  forget_preload (fun _ => rfl) <| (leaves_publish _).bind fun _ =>
    (leaves_sendWriteCommand (by decide) (by decide) _ _ _).bind fun _ =>
      (leaves_tryIssueReadCommand _).bind fun _ => trivial

theorem setVelocity_preload (velocity : Int32) :
    (setVelocity motorId velocity).wp (portCommandRules (toProtocolNodeId motorId) quick)
      (fun _ g' => g'.settled = true) g := by
  refine withController_preload fun g' _ => ?_
  rw [wp_bind]
  refine wp_mono (wp_of_leavesPreload leaves_registerManagedMotorId) fun _ g₁ _ => ?_
  rw [wp_bind]
  refine ⟨leavesOthers_setMotorState _, fun s _ => ?_⟩
  rw [wp_ret, wp_bind]
  refine wp_mono (wp_of_leavesPreload (leaves_syncSharedCommand _ _ _ _)) fun _ g₂ hext => ?_
  have hknown : g₂.known = some (true, velocity) := by
    refine hext.known _ ?_
    simp [portCommandRules, PreloadGhost.touch, preloaded_setMotorState]
  rw [wp_bind]
  exact wp_mono (sendMaybeFast_preload hknown) fun _ g₃ h => h.settled rfl

/-- After the decision the object takes the velocity for configured. -/
theorem preloaded_notePositionVelocity (node : UInt8) (velocityRaw : Int32) (forceWrite : Bool)
    (s : EyouCan) :
    (notePositionVelocity node velocityRaw forceWrite s).2.preloaded node = (true, velocityRaw) ∧
      ((notePositionVelocity node velocityRaw forceWrite s).1 = false →
        s.preloaded node = (true, velocityRaw)) := by
  rw [notePositionVelocity]
  split
  · refine ⟨?_, fun h => absurd h (by simp)⟩
    rw [preloaded_setMotorState, if_pos rfl]
  · next hwrite =>
    simp only [Bool.or_eq_true, Bool.not_eq_true', bne_iff_ne, ne_eq, not_or, Bool.not_eq_false,
      Decidable.not_not] at hwrite
    have hsame : s.preloaded node = (true, velocityRaw) := by
      rw [preloaded, hwrite.1.2, hwrite.2]
    refine ⟨?_, fun _ => hsame⟩
    rw [preloaded_setMotorState, if_pos rfl]
    exact hsame

theorem leavesOthers_notePositionVelocity (velocityRaw : Int32) (forceWrite : Bool) :
    LeavesOthers node fun s => (notePositionVelocity node velocityRaw forceWrite s).2 := by
  refine ⟨fun s => ?_, fun s n => ?_, fun s n hn => ?_⟩
  all_goals
    rw [notePositionVelocity]
    split
  · rfl
  · rfl
  · rfl
  · rfl
  · rw [preloaded_setMotorState, if_neg hn]
  · rw [preloaded_setMotorState, if_neg hn]

/-- What is known after the velocity has been taken care of. -/
structure Ensured (g : PreloadGhost) (velocityRaw : Int32) (a : Bool) (g' : PreloadGhost) : Prop where
  settled : g'.settled = true
  known : a = true → g'.known = some (true, velocityRaw)
  terms : ∀ v, g.terms = some v → g'.terms = some v

theorem ensurePositionVelocityConfigured_preload (velocityRaw : Int32) (forceWrite : Bool)
    (hsettled : g.settled = true) :
    (ensurePositionVelocityConfigured node velocityRaw forceWrite).wp (portCommandRules node quick)
      (Ensured g velocityRaw) g := by
  simp only [ensurePositionVelocityConfigured, access, vis_bind, ret_bind, wp_vis, wp_ite, wp_bind,
    pure_eq, wp_ret]
  split
  · exact ⟨hsettled, fun h => absurd h Bool.false_ne_true, fun _ h => h⟩
  · refine ⟨leavesOthers_notePositionVelocity _ _, fun s hagrees => ?_⟩
    obtain ⟨hafter, hbefore⟩ := preloaded_notePositionVelocity node velocityRaw forceWrite s
    have hterms : ∀ v, g.terms = some v →
        (g.touch node (fun s => (notePositionVelocity node velocityRaw forceWrite s).2) s).terms =
          some v := by
      intro v hv
      rw [PreloadGhost.touch, (leavesOthers_notePositionVelocity _ _).terms, hagrees.terms v hv]
    have hknown : (g.touch node (fun s => (notePositionVelocity node velocityRaw forceWrite s).2)
        s).known = some (true, velocityRaw) := by
      rw [PreloadGhost.touch, hafter]
    by_cases hwrite : (notePositionVelocity node velocityRaw forceWrite s).1 = true
    · rw [if_pos hwrite]
      refine wp_mono (sendMaybeFast_preload hknown) fun _ g' hext => ?_
      exact ⟨hext.settled rfl, fun _ => hext.known _ hknown, fun v hv => hext.terms v (hterms v hv)⟩
    · rw [if_neg hwrite]
      refine ⟨?_, fun _ => hknown, hterms⟩
      simp [portCommandRules, PreloadGhost.touch, hafter, hsettled,
        hbefore (Bool.eq_false_of_not_eq_true hwrite)]

/-- A position is submitted after the velocity. -/
theorem sendTarget_preload {commandType : UInt8} {position : Int32}
    (h : quick = true → g.settled = true ∧
      ∃ v link, g.known = some (true, v) ∧ g.terms = some (link, v))
    (hsettled : g.settled = true) :
    (sendWriteCommand node 0x0A position.toUInt32 4 commandType).wp (portCommandRules node quick)
      (fun _ g' => g'.Extends g) g := by
  have hframe : (writeFrame node 0x0A position.toUInt32 4 commandType).preload = none :=
    preload_writeFrame_of_ne (by decide) _ _ _ _
  simp only [sendWriteCommand, submitTx, gets, Proto.modify, submit, vis_bind, ret_bind, wp_vis,
    wp_ite, wp_bind, pure_eq, wp_ret, id_eq]
  refine ⟨leavesPreload_id.others node, fun s hagrees => ?_⟩
  have hext := PreloadGhost.extends_touch leavesPreload_id hagrees
  split
  · next hcontroller =>
    refine ⟨leavesPreload_id.others node, fun s' hagrees' => ?_⟩
    have hext' := (PreloadGhost.extends_touch leavesPreload_id hagrees').trans hext
    split
    · next hdispatcher =>
      refine ⟨⟨fun n v' hpreload => ?_, fun hquick _ => ?_⟩, fun _ _ => ?_⟩
      · exact absurd (hframe.symm.trans hpreload) (by simp)
      · obtain ⟨-, v, link, hknown, hterms⟩ := h hquick
        have hboth : link = (true, true) := by
          have hfirst := congrArg (fun terms => terms.1.1) (hagrees.terms _ hterms)
          have hsecond := congrArg (fun terms => terms.1.2)
            (hagrees'.terms _ (hext.terms _ hterms))
          exact Prod.ext (hfirst.symm.trans hcontroller) (hsecond.symm.trans hdispatcher)
        exact ⟨hext'.settled hsettled, v, hext'.known _ hknown, hboth ▸ hext'.terms _ hterms⟩
      · rw [if_pos trivial]
        refine ⟨(leavesPreload_count commandType).others node, fun s'' hagrees'' => ?_⟩
        refine (PreloadGhost.extends_touch (leavesPreload_count commandType) hagrees'').trans ?_
        simp only [portCommandRules, PreloadGhost.submit, hframe]
        exact hext'
    · rw [if_neg Bool.false_ne_true]
      exact hext'
  · exact hext

theorem setPosition_preload (position : Int32) (hsettled : g.settled = true) :
    (setPosition motorId position).wp (portCommandRules (toProtocolNodeId motorId) false)
      (fun _ g' => g'.settled = true) g := by
  have hcommanded : LeavesPreload fun s : EyouCan => s.setMotorState (toProtocolNodeId motorId)
      fun st => { st with commandedPosition := position } := by
    refine ⟨fun _ => rfl, fun _ _ => rfl, fun s n => ?_⟩
    rw [preloaded_setMotorState]
    split
    · next h => rw [h]; rfl
    · rfl
  refine withController_preload fun g₀ h₀ => ?_
  rw [wp_bind]
  refine wp_mono (wp_of_leavesPreload leaves_registerManagedMotorId) fun _ g₁ h₁ => ?_
  rw [wp_bind]
  refine wp_mono (wp_of_leavesPreload (leaves_modify hcommanded)) fun _ g₂ h₂ => ?_
  rw [wp_bind]
  refine wp_mono (wp_of_leavesPreload (leaves_syncSharedCommand _ _ _ _)) fun _ g₃ h₃ => ?_
  rw [wp_bind]
  refine wp_mono (wp_of_leavesPreload (leaves_gets _)) fun velocityRaw g₄ h₄ => ?_
  have hext := h₄.trans (h₃.trans (h₂.trans (h₁.trans h₀)))
  rw [wp_bind]
  refine wp_mono (ensurePositionVelocityConfigured_preload velocityRaw true
    (hext.settled hsettled)) fun configured g₅ h₅ => ?_
  rw [wp_ite]
  split
  · rw [wp_bind]
    simp only [sendMaybeFast, wp_bind, wp_ite]
    refine wp_mono (wp_of_leavesPreload (leaves_gets _)) fun fast g₆ h₆ => ?_
    have hsettled₆ := h₆.settled h₅.settled
    split
    · refine wp_mono (sendTarget_preload (fun h => absurd h Bool.false_ne_true) hsettled₆)
        fun _ g₇ h₇ => ?_
      exact wp_mono (sendTarget_preload (fun h => absurd h Bool.false_ne_true)
        (h₇.settled hsettled₆)) fun _ g₈ h₈ => h₈.settled (h₇.settled hsettled₆)
    · exact wp_mono (sendTarget_preload (fun h => absurd h Bool.false_ne_true) hsettled₆)
        fun _ g₇ h₇ => h₇.settled hsettled₆
  · exact h₅.settled

theorem quickSetPosition_preload (position : Int32) (hsettled : g.settled = true) :
    (quickSetPosition motorId position).wp (portCommandRules (toProtocolNodeId motorId) quick)
      (fun _ g' => g'.settled = true) g := by
  have hcommanded : LeavesPreload fun s : EyouCan => s.setMotorState (toProtocolNodeId motorId)
      fun st => { st with commandedPosition := position } := by
    refine ⟨fun _ => rfl, fun _ _ => rfl, fun s n => ?_⟩
    rw [preloaded_setMotorState]
    split
    · next h => rw [h]; rfl
    · rfl
  refine withController_preload fun g₀ h₀ => ?_
  rw [wp_bind]
  refine wp_mono (wp_of_leavesPreload leaves_registerManagedMotorId) fun _ g₁ h₁ => ?_
  rw [wp_bind]
  refine wp_mono (wp_of_leavesPreload (leaves_modify hcommanded)) fun _ g₂ h₂ => ?_
  rw [wp_bind]
  refine wp_mono (wp_of_leavesPreload (leaves_syncSharedCommand _ _ _ _)) fun _ g₃ h₃ => ?_
  rw [wp_bind]
  refine ⟨leavesPreload_id.others _, fun s hagrees => ?_⟩
  have h₄ := PreloadGhost.extends_touch leavesPreload_id hagrees
  have hext := h₄.trans (h₃.trans (h₂.trans (h₁.trans h₀)))
  rw [wp_ret, wp_bind]
  refine wp_mono (ensurePositionVelocityConfigured_preload (s.cspVelocityRaw _) false
    (hext.settled hsettled)) fun configured g₅ h₅ => ?_
  rw [wp_ite]
  split
  · next hconfigured =>
    rw [wp_bind]
    refine wp_mono (sendTarget_preload (fun _ => ⟨h₅.settled, _, _, h₅.known hconfigured,
      h₅.terms _ rfl⟩) h₅.settled) fun _ g₆ h₆ => h₆.settled h₅.settled
  · exact h₅.settled

/-! ### beside the commands -/

theorem leavesPreload_setMotorState {f : EyouMotorState → EyouMotorState}
    (h : ∀ st, (f st).positionVelocityConfigured = st.positionVelocityConfigured ∧
      (f st).lastPositionVelocityRaw = st.lastPositionVelocityRaw) :
    LeavesPreload fun s => s.setMotorState node f := by
  refine ⟨fun _ => rfl, fun _ _ => rfl, fun s n => ?_⟩
  rw [preloaded_setMotorState]
  split
  · next hn => rw [(h _).1, (h _).2, hn, preloaded]
  · rfl

theorem decodeRead_preload (frame : Frame) (st : EyouMotorState) :
    (decodeRead frame st).positionVelocityConfigured = st.positionVelocityConfigured ∧
      (decodeRead frame st).lastPositionVelocityRaw = st.lastPositionVelocityRaw := by
  unfold decodeRead
  split
  all_goals exact ⟨rfl, rfl⟩

theorem leaves_markReadResponseReceived (motorId subCommand : UInt8) :
    (markReadResponseReceived motorId subCommand).Stays PortOp.LeavesPreload := by
  refine leaves_now.bind fun t => leaves_modify ⟨fun s => ?_, fun s n => ?_, fun s n => ?_⟩
  all_goals dsimp only
  all_goals split
  all_goals rfl

theorem leaves_handleResponse (frame : Frame) :
    (handleResponse frame).Stays PortOp.LeavesPreload := by
  have hack : ∀ node writeState, LeavesPreload fun s : EyouCan =>
      { s with
        pendingWriteAcks :=
          put s.pendingWriteAcks (node, frame.byte 1) { received := true, state := writeState } } :=
    fun _ _ => ⟨fun _ => rfl, fun _ _ => rfl, fun _ _ => rfl⟩
  have hresync : ∀ node, (resyncAfter node (frame.byte 1)).Stays PortOp.LeavesPreload := by
    intro node
    unfold resyncAfter
    split
    all_goals first | exact leaves_tryIssueReadCommand _ | trivial
  refine (leaves_gets _).bind fun s => .ite trivial ?_
  cases responseNode frame with
  | none => trivial
  | some node =>
      refine .ite ((leaves_modify (leavesPreload_setMotorState fun _ => ⟨rfl, rfl⟩)).bind fun _ => ?_)
        trivial
      refine .ite ((leaves_modify (hack _ _)).bind fun _ => .ite ((hresync node).bind fun _ => trivial)
        trivial) (.ite ?_ trivial)
      refine (leaves_markReadResponseReceived _ _).bind fun _ => ?_
      exact .vis (leavesPreload_setMotorState (decodeRead_preload frame)) fun _ =>
        leaves_now.bind fun _ => leaves_publish _

end EyouCan

/-! ### on the device -/

/-- An operation of the device that has nothing to do with velocity registers. -/
def BusOp.LeavesPreload : BusOp → Prop
  | .eyou f => EyouCan.LeavesPreload f
  | .enqueue r => r.frame.preload = none ∧ r.frame.isTarget = false
  | _ => True

theorem completion_leavesPreload (c : Completion) (attempted : Bool) (result : SendResult)
    (t : Time) : (c.run attempted result t).Stays BusOp.LeavesPreload := by
  cases c with
  | eyouRead node subCommand =>
      exact ⟨EyouCan.leavesPreload_onReadDispatchResult _ _ _ _, fun _ _ => trivial⟩
  | mtRead node command => exact ⟨trivial, fun _ _ => trivial⟩

theorem workerStep_leavesPreload (deviceName : String) :
    (DeviceRuntime.workerStep deviceName).Stays BusOp.LeavesPreload := by
  refine .vis trivial fun next => ?_
  cases next with
  | none => trivial
  | some r =>
      refine .vis trivial fun t => .vis trivial fun result => ?_
      have hrest : (DeviceRuntime.noteSharedSendResult deviceName result >>= fun _ =>
          Device.account result).Stays BusOp.LeavesPreload := by
        have hshared : (DeviceRuntime.noteSharedSendResult deviceName result).Stays
            BusOp.LeavesPreload :=
          .ite trivial (.vis trivial fun _ => .vis trivial fun _ => trivial)
        exact hshared.bind fun _ => .vis trivial fun _ => trivial
      cases r.completion with
      | none => exact hrest
      | some c => exact (completion_leavesPreload c true result t).bind fun _ => hrest

theorem onBus_leavesPreload {p : Proto EyouCan α} (hp : p.Stays PortOp.LeavesPreload) :
    p.onBus.Stays BusOp.LeavesPreload := by
  refine wp_only_interp (fun op hop => ?_) hp
  cases op with
  | proto f => exact ⟨hop, fun _ _ => trivial⟩
  | shared f => exact ⟨trivial, fun _ _ => trivial⟩
  | submit r => exact DeviceRuntime.submit_stays hop trivial fun c _ t => completion_leavesPreload c _ _ t
  | clock => exact ⟨trivial, fun _ _ => trivial⟩

/-- What a command knows as a program of its protocol, it knows on the device. -/
theorem command_onBus {node : UInt8} {quick : Bool} {p : Proto EyouCan α} {g : PreloadGhost}
    (hp : p.wp (portCommandRules node quick) (fun _ g' => g'.settled = true) g) :
    p.onBus.wp (commandRules node quick) (fun _ g' => g'.settled = true) g := by
  have hrun := wp_interp (P := commandRules node quick) (f := PortOp.onBus)
    (R := fun g' g => g'.Extends g) (fun g' g op hext hop => ?_) .rfl hp
  · exact wp_mono hrun fun a g' ⟨g, hext, hsettled⟩ => hext.settled hsettled
  · cases op with
    | proto f => exact ⟨hop, fun s hagrees => ⟨hext.agrees hagrees, hext.touch node f s⟩⟩
    | shared f => exact ⟨trivial, fun _ _ => ⟨trivial, hext⟩⟩
    | submit r =>
        refine ⟨hext.maySubmit hop, fun accepted _ => ?_⟩
        change (if accepted = true then ret () else DeviceRuntime.completeDropped r).wp _ _ _
        rw [wp_ite]
        split
        · exact ⟨trivial, hext.submit r⟩
        · have hdropped : (DeviceRuntime.completeDropped r).Stays BusOp.LeavesPreload := by
            unfold DeviceRuntime.completeDropped
            split
            · exact .vis trivial fun t => completion_leavesPreload _ _ _ t
            · trivial
          have hquiet := wp_of_only (P := commandRules node quick)
            (I := fun g'' => g''.Extends (g.submit r)) hdropped (fun g₁ op h₁ hop => ?_)
            (hext.submit r)
          · exact wp_mono hquiet fun _ g'' h => ⟨trivial, h.2⟩
          · cases op with
            | eyou f =>
                exact ⟨EyouCan.LeavesPreload.others hop node,
                  fun s hagrees => (PreloadGhost.extends_touch hop hagrees).trans h₁⟩
            | enqueue q =>
                refine ⟨maySubmit_of_leaves hop, fun _ _ => ?_⟩
                change (g₁.submit q).Extends (g.submit r)
                rw [PreloadGhost.submit, hop.1]
                exact h₁
            | _ => exact ⟨trivial, fun _ _ => h₁⟩
    | clock => exact ⟨trivial, fun _ _ => ⟨trivial, hext⟩⟩

/-- The rules beside the commands. -/
def besideRules : Protocol busSig PreloadGhost where
  allow _ op := op.LeavesPreload
  accepts _ _ _ := True
  next g _ _ := g

/-- The rules of a call. -/
def preloadRules (c : PreloadCall) : Protocol busSig PreloadGhost :=
  match c.node with
  | some node => commandRules node c.isQuick
  | none => besideRules

/-- Where a call may return: a command has settled. -/
abbrev MayReturn (c : PreloadCall) (_ : Unit) (g : PreloadGhost) : Prop :=
  c.node.isSome = true → g.settled = true

/-- Every call follows its rules; a command that forgets the velocity starts unsettled. -/
theorem preloadRules_code (deviceName : String) (c : PreloadCall) :
    (c.code deviceName).wp (preloadRules c) (MayReturn c) { settled := !c.forgets } := by
  have hcommand : ∀ {node : UInt8} {quick : Bool} {p : Proto EyouCan Bool} {g : PreloadGhost},
      p.wp (portCommandRules node quick) (fun _ g' => g'.settled = true) g →
      (discard p).onBus.wp (commandRules node quick)
        (fun (_ : Unit) g' => (some node).isSome = true → g'.settled = true) g := by
    intro node quick p g hp
    refine wp_mono (command_onBus ?_) fun _ g' h _ => h
    change (p >>= fun _ => ret ()).wp _ _ _
    rw [wp_bind]
    exact wp_mono hp fun _ _ h => h
  cases c with
  | setMode id mode => exact hcommand (EyouCan.setMode_preload mode)
  | enable id => exact hcommand EyouCan.enable_preload
  | setVelocity id velocity => exact hcommand (EyouCan.setVelocity_preload velocity)
  | setPosition id position => exact hcommand (EyouCan.setPosition_preload position rfl)
  | quickSetPosition id position => exact hcommand (EyouCan.quickSetPosition_preload position rfl)
  | work =>
      have hstays := workerStep_leavesPreload deviceName
      refine wp_mono (hstays.mono fun op hop _ => hop).wp fun _ _ _ h => ?_
      exact absurd h Bool.false_ne_true
  | receive frame =>
      have hstays := onBus_leavesPreload (EyouCan.leaves_handleResponse frame)
      refine wp_mono (hstays.mono fun op hop _ => hop).wp fun _ _ _ h => ?_
      exact absurd h Bool.false_ne_true

/-! ## the velocity last submitted -/

section

variable {ι : Type} [DecidableEq ι]

/-- What the object takes for configured is what was submitted last, if it submits at all. -/
def SettledAt (log : PreloadLog ι) (s : EyouCan) (node : UInt8) : Prop :=
  s.submits = true → (s.preloaded node).1 = true → log.submitted node = some (s.preloaded node).2

/-- While no command is running, everything is settled. -/
def SettledIdle (w : PreloadLog ι × WiredBus) (b : WiredBus) : Prop :=
  w.2 = b ∧ (w.1.active = none → ∀ n, SettledAt w.1 b.bus.eyou n)

/-- A command is on record: what it knows is so, and no other motor is unsettled. -/
structure CommandRecord (w : PreloadLog ι × WiredBus) (i : ι) (node : UInt8) (g : PreloadGhost) :
    Prop where
  active : w.1.active = some i
  agrees : g.Agrees node w.2.bus.eyou
  settled : g.settled = true → SettledAt w.1 w.2.bus.eyou node
  others : ∀ n, n ≠ node → SettledAt w.1 w.2.bus.eyou n

/-- The threads follow their rules, and the running command is on record. -/
abbrev KeepsPreload (w : PreloadPool ι × PreloadLog ι) : Prop :=
  Pool.Concludes preloadRules MayReturn SettledIdle
    (fun w i c g => ∀ node, c.node = some node → CommandRecord w i node g) (w.2, w.1.shared) w.1

/-- Nothing that the velocity depends on has changed. -/
structure SamePreload (w w' : PreloadLog ι × WiredBus) : Prop where
  active : w'.1.active = w.1.active
  submitted : w'.1.submitted = w.1.submitted
  submits : w'.2.bus.eyou.submits = w.2.bus.eyou.submits
  terms : ∀ n, w'.2.bus.eyou.terms n = w.2.bus.eyou.terms n
  preloaded : ∀ n, w'.2.bus.eyou.preloaded n = w.2.bus.eyou.preloaded n

variable {w w' : PreloadLog ι × WiredBus} {i : ι} {node : UInt8} {g : PreloadGhost}

omit [DecidableEq ι] in
theorem SamePreload.settledAt (h : SamePreload w w') {n : UInt8}
    (hsettled : SettledAt w.1 w.2.bus.eyou n) : SettledAt w'.1 w'.2.bus.eyou n := by
  intro hsubmits hconfigured
  rw [h.submits] at hsubmits
  rw [h.preloaded] at hconfigured
  rw [h.submitted, h.preloaded]
  exact hsettled hsubmits hconfigured

omit [DecidableEq ι] in
theorem SamePreload.record (h : SamePreload w w') (hrecord : CommandRecord w i node g) :
    CommandRecord w' i node g := by
  refine ⟨h.active.trans hrecord.active, ⟨fun k hk => ?_, fun v hv => ?_⟩, fun hsettled => ?_,
    fun n hn => ?_⟩
  · rw [h.preloaded, hrecord.agrees.known k hk]
  · rw [h.terms, hrecord.agrees.terms v hv]
  · exact h.settledAt (hrecord.settled hsettled)
  · exact h.settledAt (hrecord.others n hn)

omit [DecidableEq ι] in
theorem SamePreload.idle (h : SamePreload w w') (hidle : SettledIdle w w.2) :
    SettledIdle w' w'.2 := by
  refine ⟨rfl, fun hactive n => h.settledAt (hidle.2 ?_ n)⟩
  rw [← h.active, hactive]

/-- An operation beside the commands changes nothing the velocity depends on. -/
theorem samePreload_act {log : PreloadLog ι} {p p' : PreloadPool ι} {op : BusOp} {r : op.Ans}
    (hop : op.LeavesPreload) (hadmits : p.shared.bus.admits op r)
    (hbus : p'.shared.bus = p.shared.bus.after op r) :
    SamePreload (log, p.shared) (log.note p (.act i op) p', p'.shared) := by
  have heyou : ∀ f : EyouCan → EyouCan, EyouCan.LeavesPreload f →
      p'.shared.bus.eyou = f p.shared.bus.eyou → log.note p (.act i op) p' = log ∨
        (log.note p (.act i op) p').active = log.active ∧
          (log.note p (.act i op) p').submitted = log.submitted →
      SamePreload (log, p.shared) (log.note p (.act i op) p', p'.shared) := by
    intro f hf heq hlog
    have hboth : (log.note p (.act i op) p').active = log.active ∧
        (log.note p (.act i op) p').submitted = log.submitted := by
      rcases hlog with h | h
      · rw [h]
        exact ⟨rfl, rfl⟩
      · exact h
    refine ⟨hboth.1, hboth.2, ?_, fun n => ?_, fun n => ?_⟩
    · rw [heq, hf.submits]
    · rw [heq, hf.terms]
    · rw [heq, hf.preloaded]
  cases op with
  | eyou f => exact heyou f hop (by rw [hbus]; rfl) (.inl rfl)
  | enqueue q =>
      refine heyou id EyouCan.leavesPreload_id (by rw [hbus]; rfl) (.inl ?_)
      rw [PreloadLog.note, hop.1]
  | transmit frame =>
      refine heyou id EyouCan.leavesPreload_id (by rw [hbus]; rfl) (.inr ?_)
      rw [PreloadLog.note]
      split
      · cases frame.preload with
        | none => exact ⟨rfl, rfl⟩
        | some x => exact ⟨rfl, rfl⟩
      · exact ⟨rfl, rfl⟩
  | _ => exact heyou id EyouCan.leavesPreload_id (by rw [hbus]; rfl) (.inl rfl)

/-- A call beside the commands changes nothing the velocity depends on. -/
theorem samePreload_call {log : PreloadLog ι} {p p' : PreloadPool ι} {c : PreloadCall}
    (hc : c.node = none) (hshared : p'.shared = p.shared) :
    SamePreload (log, p.shared) (log.note p (.call i c) p', p'.shared) := by
  have hlog : (log.note p (.call i c) p').active = log.active ∧
      (log.note p (.call i c) p').submitted = log.submitted := by
    rw [PreloadLog.note, hc]
    cases c with
    | receive frame =>
        dsimp only [PreloadLog.hear]
        cases frame.refusal with
        | none => exact ⟨rfl, rfl⟩
        | some node => exact ⟨rfl, rfl⟩
    | _ => exact ⟨rfl, rfl⟩
  refine ⟨hlog.1, hlog.2, ?_, fun n => ?_, fun n => ?_⟩
  all_goals rw [hshared]

/-- **Step**: a command keeps its record. -/
theorem CommandRecord.act {log : PreloadLog ι} {p p' : PreloadPool ι} {quick : Bool} {op : BusOp}
    {r : op.Ans} (h : CommandRecord (log, p.shared) i node g)
    (hallow : (commandRules node quick).allow g op) (hadmits : p.shared.bus.admits op r)
    (hbus : p'.shared.bus = p.shared.bus.after op r) :
    (commandRules node quick).accepts g op r ∧
      CommandRecord (log.note p (.act i op) p', p'.shared) i node
        ((commandRules node quick).next g op r) := by
  cases op with
  | eyou f =>
      obtain rfl : r = p.shared.bus.eyou := hadmits
      have heyou : p'.shared.bus.eyou = f p.shared.bus.eyou := by rw [hbus]; rfl
      refine ⟨h.agrees, h.active, ⟨fun k hk => ?_, fun v hv => ?_⟩, fun hsettled => ?_,
        fun n hn => ?_⟩
      · rw [heyou]
        exact Option.some.inj hk
      · rw [heyou]
        exact Option.some.inj hv
      · intro hsubmits hconfigured
        rw [heyou] at hsubmits hconfigured ⊢
        rw [hallow.submits] at hsubmits
        have hkept : g.settled = true ∧
            (f p.shared.bus.eyou).preloaded node = p.shared.bus.eyou.preloaded node := by
          simpa [commandRules, PreloadGhost.touch, hsubmits, hconfigured] using hsettled
        rw [hkept.2] at hconfigured ⊢
        exact h.settled hkept.1 hsubmits hconfigured
      · intro hsubmits hconfigured
        rw [heyou, hallow.submits] at hsubmits
        rw [heyou, hallow.preloaded _ n hn] at hconfigured ⊢
        exact h.others n hn hsubmits hconfigured
  | enqueue q =>
      have heyou : p'.shared.bus.eyou = p.shared.bus.eyou := by rw [hbus]; rfl
      cases hpreload : q.frame.preload with
      | none =>
          have hlog : log.note p (.act i (.enqueue q)) p' = log := by
            rw [PreloadLog.note, hpreload]
          have hghost : (commandRules node quick).next g (.enqueue q) r = g := by
            change g.submit q = g
            rw [PreloadGhost.submit, hpreload]
          rw [hghost, hlog]
          have hsame : SamePreload (log, p.shared) (log, p'.shared) := by
            refine ⟨rfl, rfl, ?_, fun n => ?_, fun n => ?_⟩
            all_goals rw [heyou]
          exact ⟨trivial, hsame.record h⟩
      | some x =>
          obtain ⟨n, velocity⟩ := x
          obtain rfl : n = node := hallow.own n velocity hpreload
          have hsubmitted : (log.note p (.act i (.enqueue q)) p').submitted =
              Function.update log.submitted n (some velocity) := by
            rw [PreloadLog.note, hpreload]
          have hactive : (log.note p (.act i (.enqueue q)) p').active = log.active := by
            rw [PreloadLog.note, hpreload]
          have hghost : (commandRules n quick).next g (.enqueue q) r =
              { g with settled := decide (g.known = some (true, velocity)) } := by
            change g.submit q = _
            rw [PreloadGhost.submit, hpreload]
          rw [hghost]
          refine ⟨trivial, hactive.trans h.active, ⟨?_, ?_⟩, fun hsettled => ?_, fun n' hn => ?_⟩
          · rw [heyou]
            exact h.agrees.known
          · rw [heyou]
            exact h.agrees.terms
          · have hknown := h.agrees.known _ (of_decide_eq_true hsettled)
            intro _ _
            rw [heyou, hknown, hsubmitted, Function.update_self]
          · intro hsubmits hconfigured
            rw [heyou] at hsubmits hconfigured ⊢
            rw [hsubmitted, Function.update_of_ne hn]
            exact h.others n' hn hsubmits hconfigured
  | _ =>
      refine ⟨trivial, (samePreload_act ?_ hadmits hbus).record h⟩
      trivial

theorem keepsPreload_step {deviceName : String} {w w' : PreloadPool ι × PreloadLog ι}
    {e : PreloadEvent ι} (h : KeepsPreload w) (hC : Serialised w e)
    (hs : PreloadStep deviceName w e w') : KeepsPreload w' := by
  obtain ⟨p', log'⟩ := w'
  obtain ⟨hs, hnote⟩ := hs
  dsimp only at hs hnote ⊢
  have hquiet : (∀ i op, e ≠ .act i op) → p'.shared = w.1.shared := by
    intro he
    cases hs with
    | act i c op k r s' hi hop => exact absurd rfl (he i op)
    | call | ret => rfl
  have hactive : ∀ i t node, w.1.thread i = some t → t.call.node = some node →
      ∃ g, CommandRecord (w.2, w.1.shared) i node g ∧
        t.prog.wp (preloadRules t.call) (MayReturn t.call) g := by
    intro i t node hi hnode
    obtain ⟨g, hR, hwp⟩ := h.thread i t hi
    exact ⟨g, hR node hnode, hwp⟩
  refine h.step (fun i c he hi => ?_) (fun i c op k g r s' he hi hR hallow hserves hshared => ?_)
    (fun i a he => ?_) (fun j c g hji hR node hnode => ?_) hs
  · have hsame := hquiet fun i' op hact => by simp [he] at hact
    cases hnode : c.node with
    | none =>
        have hpreload : SamePreload (w.2, w.1.shared) (log', p'.shared) := by
          rw [hnote, he]
          exact samePreload_call hnode hsame
        have hidle := hpreload.idle h.shared
        rw [hsame] at hidle ⊢
        exact ⟨hidle, _, fun node hsome => by simp at hsome, preloadRules_code deviceName c⟩
    | some node =>
        have hnone : w.2.active = none := hC i c he (by rw [hnode]; rfl)
        have hlog : log' = w.2.begin i node c.forgets := by
          rw [hnote, he, PreloadLog.note, hnode]
        have hbegun : log'.active = some i := by
          rw [hlog, PreloadLog.begin]
          split <;> rfl
        have hsettled := h.shared.2 hnone
        rw [hsame]
        refine ⟨⟨rfl, fun hidle => ?_⟩, _, fun node' hsome => ?_, preloadRules_code deviceName c⟩
        · exact absurd (hbegun.symm.trans hidle) (by simp)
        · obtain rfl : node = node' := Option.some.inj hsome
          refine ⟨hbegun, ⟨fun k hk => by simp at hk, fun v hv => by simp at hv⟩, fun hold => ?_,
            fun n hn => ?_⟩
          · intro hsubmits hconfigured
            have hforgets : c.forgets = false := by simpa using hold
            have hsubmitted : log'.submitted = w.2.submitted := by
              rw [hlog, PreloadLog.begin, hforgets]
              rfl
            rw [hsubmitted]
            exact hsettled node hsubmits hconfigured
          · intro hsubmits hconfigured
            have hsubmitted : log'.submitted n = w.2.submitted n := by
              rw [hlog, PreloadLog.begin]
              split
              · exact Function.update_of_ne hn _ _
              · rfl
            rw [hsubmitted]
            exact hsettled n hsubmits hconfigured
  · obtain ⟨⟨hadmits, hbus⟩, -⟩ := hserves
    rw [← hshared] at hbus ⊢
    cases hnode : c.node with
    | none =>
        have hrules : preloadRules c = besideRules := by rw [preloadRules, hnode]
        rw [hrules] at hallow ⊢
        have hpreload : SamePreload (w.2, w.1.shared) (log', p'.shared) := by
          rw [hnote, he]
          exact samePreload_act hallow hadmits hbus
        exact ⟨trivial, hpreload.idle h.shared, fun node hsome => by simp at hsome⟩
    | some node =>
        have hrules : preloadRules c = commandRules node c.isQuick := by rw [preloadRules, hnode]
        rw [hrules] at hallow ⊢
        obtain ⟨haccepts, hrecord⟩ := (hR node hnode).act hallow hadmits hbus
        rw [← he, ← hnote] at hrecord
        refine ⟨haccepts, ⟨rfl, fun hidle => ?_⟩, fun node' hsome => ?_⟩
        · exact absurd (hrecord.active.symm.trans hidle) (by simp)
        · exact (Option.some.inj hsome) ▸ hrecord
  · have hsame := hquiet fun i' op hact => by simp [he] at hact
    obtain ⟨t, hi⟩ : ∃ t, w.1.thread i = some t := by
      rw [he] at hs
      cases hs with
      | ret _ c _ hi => exact ⟨_, hi⟩
    rw [hsame]
    refine ⟨rfl, fun hidle => ?_⟩
    cases hnode : t.call.node with
    | none =>
        have hlog : log' = w.2 := by
          rw [hnote, he, PreloadLog.note, hi, Option.any_some, hnode]
          rfl
        rw [hlog] at hidle ⊢
        exact h.shared.2 hidle
    | some node =>
        have hsubmitted : log'.submitted = w.2.submitted := by
          rw [hnote, he, PreloadLog.note, hi, Option.any_some, hnode]
          rfl
        rw [he] at hs
        obtain ⟨g, hR, hmay⟩ := h.ret hi hs
        have hrecord := hR node hnode
        intro n hsubmits hconfigured
        rw [hsubmitted]
        by_cases hn : n = node
        · subst hn
          exact hrecord.settled (hmay (by rw [hnode]; rfl)) hsubmits hconfigured
        · exact hrecord.others n hn hsubmits hconfigured
  · -- no other command runs beside one that is on record
    have hrecord := hR node hnode
    have halone : ∀ i t, i ≠ j → w.1.thread i = some t → t.call.node = none := by
      intro i t hij hi
      cases hother : t.call.node with
      | none => rfl
      | some n =>
          obtain ⟨g', hrecord', -⟩ := hactive i t n hi hother
          exact absurd (Option.some.inj (hrecord'.active.symm.trans hrecord.active)) hij
    rw [hnote]
    cases hs with
    | call i c' hi =>
        have hother : c'.node = none := by
          refine Option.not_isSome_iff_eq_none.1 fun hcommand => ?_
          exact absurd ((hC i c' rfl hcommand).symm.trans hrecord.active) (by simp)
        exact (samePreload_call hother rfl).record hrecord
    | ret i c' a hi =>
        have hother := halone i _ (Ne.symm hji) hi
        have hlog : w.2.note w.1 (.ret i a) (w.1.setThread i none) = w.2 := by
          rw [PreloadLog.note, hi, Option.any_some, hother]
          rfl
        rw [hlog]
        exact hrecord
    | act i c' op k r s' hi hserves =>
        have hother := halone i _ (Ne.symm hji) hi
        obtain ⟨g', -, hwp⟩ := h.thread i _ hi
        have hnone : c'.node = none := hother
        have hrules : preloadRules c' = besideRules := by rw [preloadRules, hnone]
        rw [hrules] at hwp
        exact (samePreload_act hwp.1 hserves.1.1 hserves.1.2).record hrecord

/-- **Run**: a target goes out without its velocity at the velocity in force exactly if the 0x09
frame last sent is as good as the one last submitted and was not refused. -/
theorem preconfigured_iff (deviceName : String) (b : Bus) (options : RuntimeOptions)
    {w w' : PreloadPool ι × PreloadLog ι} {e : PreloadEvent ι}
    (hr : Reach (PreloadStep deviceName) Serialised (Pool.idle
      { bus := { b with
          eyou := { b.eyou with motorStates := fun _ => none }
          runtime := { options } } }, {}) w)
    (hs : PreloadStep deviceName w e w') (node : UInt8) (htarget : TargetOnly w e node) :
    Preconfigured w node ↔ SentAsSubmitted w node := by
  have h : KeepsPreload w := by
    refine Reach.invariant (I := KeepsPreload) (.idle ⟨rfl, fun _ n _ hconfigured => ?_⟩)
      (fun w e w' h hC hs => keepsPreload_step h hC hs) hr
    exact absurd hconfigured Bool.false_ne_true
  obtain ⟨-, i, r, id, position, prog, rfl, hframe, hi, rfl⟩ := htarget
  obtain ⟨g, hR, hwp⟩ := h.thread i _ hi
  have hrecord := hR _ rfl
  have hmay : g.MaySubmit (toProtocolNodeId id) true r := by
    obtain ⟨p', log'⟩ := w'
    obtain ⟨hs, -⟩ := hs
    cases hs with
    | act _ c _ k _ _ hi' _ =>
        obtain rfl : prog = .vis (.enqueue r) k := by
          have hsame := Option.some.inj (hi.symm.trans hi')
          exact (Thread.mk.inj hsame).2
        exact hwp.1
  obtain ⟨hsettled, v, hknown, hterms⟩ := hmay.target rfl hframe
  have hpreloaded := hrecord.agrees.known _ hknown
  have hterms := hrecord.agrees.terms _ hterms
  have hsubmits : w.1.shared.bus.eyou.submits = true := by
    have hlink := (Prod.mk.inj (Prod.mk.inj hterms).1)
    rw [EyouCan.submits, hlink.1, hlink.2]
    rfl
  have hsubmitted : w.2.submitted (toProtocolNodeId id) = some v := by
    have hlast := hrecord.settled hsettled hsubmits (by rw [hpreloaded])
    rw [hpreloaded] at hlast
    exact hlast
  have hforce : w.1.shared.bus.eyou.cspVelocityRaw (toProtocolNodeId id) = v :=
    (Prod.mk.inj hterms).2
  rw [Preconfigured, SentAsSubmitted, hsubmitted, hforce]

end

/-! ## a velocity that was never sent -/

/-- Thread 0 is about to submit a target for motor 1, without its velocity. -/
def targeting (w : PreloadPool (Fin 3) × PreloadLog (Fin 3)) : Bool :=
  !w.2.wrote && (w.1.thread 0).any fun t => match t.prog with
    | .vis (.enqueue r) _ => r.frame.isTarget && t.call.isQuick && t.call.node = some 1
    | _ => false

theorem step_of_targeting {w : PreloadPool (Fin 3) × PreloadLog (Fin 3)} (h : targeting w = true) :
    ∃ e w', PreloadStep "can0" w e w' ∧ TargetOnly w e 1 := by
  obtain ⟨hwrote, hthread⟩ := Bool.and_eq_true_iff.1 h
  obtain ⟨⟨c, prog⟩, hi, htest⟩ := (Option.any_eq_true _ _).1 hthread
  cases prog with
  | ret a => exact absurd htest (by simp)
  | vis op k =>
      cases op with
      | enqueue r =>
          simp only [Bool.and_eq_true, decide_eq_true_eq] at htest
          obtain ⟨⟨htarget, hquick⟩, hnode⟩ := htest
          cases c with
          | quickSetPosition id position =>
              have hs : Pool.Step (PreloadCall.code "can0") (fun b _ => b.serves) w.1
                  (.act 0 (.enqueue r)) _ :=
                .act w.1 0 _ (.enqueue r) k (w.1.shared.bus.runtime.enqueue r).1
                  { w.1.shared with bus := w.1.shared.bus.after (.enqueue r) true } hi
                  ⟨⟨rfl, rfl⟩, rfl⟩
              refine ⟨_, (_, _), ⟨hs, rfl⟩, by simpa using hwrote, 0, r, id, position, _, rfl, htarget,
                hi, Option.some.inj hnode⟩
          | _ => exact absurd hquick Bool.false_ne_true
      | _ => exact absurd htest (by simp)

/-- A checked form of `Serialised`. -/
def serialised (w : PreloadPool (Fin 3) × PreloadLog (Fin 3)) : PreloadEvent (Fin 3) → Bool
  | .call _ c => c.node.isNone || w.2.active.isNone
  | _ => true

theorem serialised_spec {w : PreloadPool (Fin 3) × PreloadLog (Fin 3)} {e : PreloadEvent (Fin 3)}
    (h : serialised w e = true) : Serialised w e := by
  rintro i c rfl hcommand
  cases hnode : c.node with
  | none => exact absurd (hnode ▸ hcommand) (by simp)
  | some node => simpa [serialised, hnode] using h

/-- PP motor 1 is told a position for the second time, up to the target. -/
def secondTarget : List (Pool.Move (Fin 3) PreloadCall) :=
  Pool.callFor 0 (.quickSetPosition 1 200) 12

/-- The velocity goes out before the first target is submitted; the second target needs none. -/
theorem second_target_preconfigured : ∃ (w w' : PreloadPool (Fin 3) × PreloadLog (Fin 3)) (e : _),
    Reach (PreloadStep "can0") Serialised (Pool.idle
      { bus := { Bus.powerOn "can0" {} {} 0 with
          eyou := { deviceName := "can0" }
          runtime := { options := {} } } }, {}) w ∧
    PreloadStep "can0" w e w' ∧ TargetOnly w e 1 ∧ Preconfigured w 1 := by
  have hrun : (Pool.followWhile (PreloadCall.code "can0") serveWired PreloadLog.note serialised
      (Pool.idle
        { bus := { Bus.powerOn "can0" {} {} 0 with
            eyou := { deviceName := "can0" }
            runtime := { options := {} } } }, {})
      (Pool.callFor 0 (.quickSetPosition 1 100) 15 ++ Pool.callFor 1 .work 5 ++
        List.replicate 5 (.go 0) ++ secondTarget)).any
        (fun w => targeting w && decide (w.2.sent 1 = w.2.submitted 1) && !w.2.refused 1) = true := by
    decide +kernel
  obtain ⟨w, hr, htest⟩ := Pool.exists_of_followWhile (h := fun b _ => b.serves)
    (fun _ _ _ _ _ => serves_of_serveWired) (fun _ _ => serialised_spec) hrun
  obtain ⟨htargeting, hrefused⟩ := Bool.and_eq_true_iff.1 htest
  obtain ⟨htargeting, hsent⟩ := Bool.and_eq_true_iff.1 htargeting
  obtain ⟨e, w', hs, htarget⟩ := step_of_targeting htargeting
  have hgood := (preconfigured_iff "can0" (Bus.powerOn "can0" {} {} 0) {} hr hs 1 htarget).2
    ⟨of_decide_eq_true hsent, by simpa using hrefused⟩
  exact ⟨w, w', e, hr, hs, htarget, hgood⟩

/-- The first target takes the place of its velocity in the control queue, which holds one frame
for each CAN id: the second target goes out though no velocity was ever sent. -/
theorem target_without_velocity : ¬ ∀ (w w' : PreloadPool (Fin 3) × PreloadLog (Fin 3)) e,
    Reach (PreloadStep "can0") Serialised (Pool.idle
      { bus := { Bus.powerOn "can0" {} {} 0 with
          eyou := { deviceName := "can0" }
          runtime := { options := {} } } }, {}) w →
    PreloadStep "can0" w e w' → ∀ node, TargetOnly w e node → Preconfigured w node := by
  intro hclaim
  have hrun : (Pool.followWhile (PreloadCall.code "can0") serveWired PreloadLog.note serialised
      (Pool.idle
        { bus := { Bus.powerOn "can0" {} {} 0 with
            eyou := { deviceName := "can0" }
            runtime := { options := {} } } }, {})
      (Pool.callFor 0 (.quickSetPosition 1 100) 20 ++ Pool.callFor 1 .work 5 ++ secondTarget)).any
        (fun w => targeting w && decide (w.2.sent 1 = none)) = true := by
    decide +kernel
  obtain ⟨w, hr, htest⟩ := Pool.exists_of_followWhile (h := fun b _ => b.serves)
    (fun _ _ _ _ _ => serves_of_serveWired) (fun _ _ => serialised_spec) hrun
  obtain ⟨htargeting, hsent⟩ := Bool.and_eq_true_iff.1 htest
  obtain ⟨e, w', hs, htarget⟩ := step_of_targeting htargeting
  have hgood := (hclaim w w' e hr hs 1 htarget).1
  rw [of_decide_eq_true hsent] at hgood
  exact absurd hgood (by simp)

end CanDriver
