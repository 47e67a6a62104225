import CanDriver.BusCall

/-!
# CanDriver.Device.KeepaliveCalls

What the calls of a DM motor do to the velocity it is told to keep.

The object remembers the velocity commanded last, and the keepalive repeats it.  Operations
change it or the intent of the motor, keepalives read it; everything else has nothing to do with
either, the operations and keepalives of other motors included.
-/

namespace CanDriver

open Interact Prog

/-! ## the calls -/

/-- Operations and keepalives of DM motors, and what runs beside them. -/
inductive KeepaliveCall where
  | operate (id : MotorID) (call : MotorCall)
  | keepalive (id : MotorID)
  | work
  | receive (frame : Frame)
deriving DecidableEq, Repr

/-- Whether a call tells a motor to do something. -/
def MotorCall.commands : MotorCall → Bool
  | .setMode _ | .setVelocity _ | .enable | .disable | .stop | .resetFault => true
  | _ => false

/-- The velocity a call commands. -/
def MotorCall.velocity : MotorCall → Option Int32
  | .setVelocity v => some v
  | .disable | .stop => some 0
  | _ => none

/-- What a call has to do with one motor. -/
inductive MotorPart where
  | operation | keepalive | beside
deriving DecidableEq, Repr

namespace KeepaliveCall

/-- The program of a call. -/
def code (deviceName : String) : KeepaliveCall → BusProg Unit
  | operate id call => Proto.onBus (DamiaoCan.motorCall id call)
  | keepalive id => Proto.onBus (discard (DamiaoCan.issueRefreshQuery id .keepalive))
  | work => DeviceRuntime.workerStep deviceName
  | receive frame => Proto.onBus (DamiaoCan.handleResponse frame)

/-- The motor a call is for. -/
def motor : KeepaliveCall → Option MotorID
  | operate id _ | keepalive id => some id
  | work | receive _ => none

/-- What the call has to do with the motor at a node. -/
def part (node : UInt8) : KeepaliveCall → MotorPart
  | operate id call =>
      if toProtocolNodeId id = node ∧ call.commands = true then .operation else .beside
  | keepalive id => if toProtocolNodeId id = node then .keepalive else .beside
  | work | receive _ => .beside

/-- The call commands another velocity than this. -/
def changes (velocity : Int32) : KeepaliveCall → Bool
  | operate _ call => call.velocity.any fun v => decide (v ≠ velocity)
  | _ => false

/-- The call leaves the intent to run, and does not command a velocity. -/
def neutral : KeepaliveCall → Bool
  | operate _ .enable | operate _ .resetFault => true
  | _ => false

end KeepaliveCall

/-- The velocity commanded last. -/
def DamiaoCan.commanded (s : DamiaoCan) (node : UInt8) : Int32 :=
  (s.motorState node).commandedVelocity

/-- A request for a keepalive of a motor. -/
def Request.IsKeepalive (node : UInt8) (r : Request) : Prop :=
  r.source = .dmIssueRefreshQuery ∧ r.frame.id = DamiaoCan.kDamiaoSpeedFrameBase + node.toUInt32

instance (node : UInt8) (r : Request) : Decidable (r.IsKeepalive node) :=
  inferInstanceAs (Decidable (_ ∧ _))

/-- The axis of a DM motor. -/
def dmKey (deviceName : String) (motorId : MotorID) : AxisKey :=
  makeAxisKey deviceName .DM motorId

/-! ## the rules of the threads -/

section

variable (deviceName : String) (motorId : MotorID)

/-- The object belongs to the device, publishes, and knows every motor by an id of its node and
this one by its own. -/
structure DamiaoCan.KnowsMotor (s : DamiaoCan) : Prop where
  device : s.deviceName = deviceName
  sharedState : s.sharedState = true
  ids : ∀ n id, s.systemMotorIdsByNodeId n = some id →
    toProtocolNodeId id = n ∧ (n = toProtocolNodeId motorId → id = motorId)

/-- The motor is on the object's map. -/
def DamiaoCan.Names (s : DamiaoCan) : Prop :=
  s.systemMotorIdsByNodeId (toProtocolNodeId motorId) = some motorId

instance (s : DamiaoCan) : Decidable (s.Names motorId) := inferInstanceAs (Decidable (_ = _))

/-- A change to the object that leaves the names of the motors in order. -/
structure DamiaoCan.KeepsNames (f : DamiaoCan → DamiaoCan) : Prop where
  knows : ∀ s, KnowsMotor deviceName motorId s → KnowsMotor deviceName motorId (f s)
  names : ∀ s, KnowsMotor deviceName motorId s → Names motorId s → Names motorId (f s)

/-- A change to the records under which a running motor keeps running. -/
def KeepsRunning (f : SharedDriverState → SharedDriverState) : Prop :=
  ∀ s, s.getAxisIntent (dmKey deviceName motorId) = .run →
    (f s).getAxisIntent (dmKey deviceName motorId) = .run

end

/-- What a thread knows: whether its operation may change the velocity, the velocity commanded,
that the motor is running, that it is on the map; and a worker what it has taken. -/
structure KeepaliveGhost where
  free : Bool := false
  velocity : Option Int32 := none
  running : Bool := false
  named : Bool := false
  popped : Option Request := none

namespace KeepaliveGhost

variable {deviceName : String} {motorId : MotorID}

/-- What it knows of the object is so. -/
structure Agrees (g : KeepaliveGhost) (motorId : MotorID) (s : DamiaoCan) : Prop where
  velocity : ∀ v, g.velocity = some v → s.commanded (toProtocolNodeId motorId) = v
  named : g.named = true → s.Names motorId

/-- What it knows after a change to the object it found in state `s`. -/
def touch (g : KeepaliveGhost) (motorId : MotorID) (f : DamiaoCan → DamiaoCan) (s : DamiaoCan) :
    KeepaliveGhost :=
  { g with
    velocity := some ((f s).commanded (toProtocolNodeId motorId))
    named := g.named || decide ((f s).Names motorId) }

end KeepaliveGhost

section

variable (deviceName : String) (motorId : MotorID)

/-- What the thread of an operation or of a keepalive of the motor may do, as a program of the
protocol. -/
def portMotorRules (operation : Bool) : Protocol (portSig DamiaoCan) KeepaliveGhost where
  allow g
    | .proto f => DamiaoCan.KeepsNames deviceName motorId f ∧
        ((operation = true ∧ g.free = true) ∨ ∀ s, g.Agrees motorId s →
          (f s).commanded (toProtocolNodeId motorId) = s.commanded (toProtocolNodeId motorId))
    | .shared f => (operation = true ∧ (g.free = true ∨ g.velocity = some 0)) ∨
        KeepsRunning deviceName motorId f
    | .submit r => r.completion = none ∧ (r.IsKeepalive (toProtocolNodeId motorId) →
        operation = false ∧ ∃ v, g.velocity = some v ∧
          r.frame = DamiaoCan.speedFrame (toProtocolNodeId motorId)
            (DamiaoCan.rawToVelocityRadPerSec v))
    | .clock => True
  accepts g
    | .proto _, s => DamiaoCan.KnowsMotor deviceName motorId s ∧ g.Agrees motorId s
    | .shared _, s => operation = true → g.running = true →
        s.getAxisIntent (dmKey deviceName motorId) = .run
    | _, _ => True
  next g
    | .proto f, s => g.touch motorId f s
    | .shared f, s =>
        { g with running := decide ((f s).getAxisIntent (dmKey deviceName motorId) = .run) }
    | _, _ => g

/-- What a program may do that has nothing to do with the motor. -/
def asidePort : Protocol (portSig DamiaoCan) Unit where
  allow _
    | .proto f => DamiaoCan.KeepsNames deviceName motorId f ∧
        ∀ s, (f s).commanded (toProtocolNodeId motorId) = s.commanded (toProtocolNodeId motorId)
    | .shared f => KeepsRunning deviceName motorId f
    | .submit r => r.completion = none ∧ ¬r.IsKeepalive (toProtocolNodeId motorId)
    | .clock => True
  accepts _
    | .proto _, s => DamiaoCan.KnowsMotor deviceName motorId s
    | _, _ => True
  next _ _ _ := ()

end

variable {deviceName : String} {motorId : MotorID} {operation : Bool} {g g' : KeepaliveGhost}

/-- Who knows more. -/
structure KeepaliveGhost.Extends (operation : Bool) (g' g : KeepaliveGhost) : Prop where
  free : g'.free = g.free
  velocity : ∀ v, g.velocity = some v → g'.velocity = some v
  running : operation = true → g.running = true → g'.running = true
  named : g.named = true → g'.named = true

theorem KeepaliveGhost.Extends.refl (g : KeepaliveGhost) : g.Extends operation g :=
  ⟨rfl, fun _ h => h, fun _ h => h, fun h => h⟩

theorem KeepaliveGhost.Extends.trans {g'' : KeepaliveGhost} (h : g''.Extends operation g')
    (h' : g'.Extends operation g) : g''.Extends operation g :=
  ⟨h.free.trans h'.free, fun v hv => h.velocity v (h'.velocity v hv),
    fun ho hr => h.running ho (h'.running ho hr), fun hn => h.named (h'.named hn)⟩

/-- A program that has nothing to do with the motor leaves the thread what it knows. -/
theorem wp_of_aside {p : Proto DamiaoCan α} (hp : p.Obeys (asidePort deviceName motorId)) :
    p.wp (portMotorRules deviceName motorId operation) (fun _ g' => g'.Extends operation g) g := by
  have hrun := wp_of_abstraction (P := portMotorRules deviceName motorId operation)
    (R := fun g' _ => g'.Extends operation g) (fun g' _ op hext hop => ?_) (.refl g) hp
  · exact wp_mono hrun fun _ _ h => h.elim fun _ h => h.1
  · cases op with
    | proto f =>
        refine ⟨⟨hop.1, .inr fun s _ => hop.2 s⟩, fun s hs => ⟨hs.1, ?_⟩⟩
        have hnext : (g'.touch motorId f s).Extends operation g' := by
          refine ⟨rfl, fun v hv => ?_, fun _ h => h, fun hn => ?_⟩
          · exact congrArg some ((hop.2 s).trans (hs.2.velocity v hv))
          · exact Bool.or_eq_true_iff.2 (.inl hn)
        exact hnext.trans hext
    | shared f =>
        refine ⟨.inr hop, fun s hs => ⟨trivial, ?_⟩⟩
        have hnext : KeepaliveGhost.Extends operation
            { g' with running := decide ((f s).getAxisIntent (dmKey deviceName motorId) = .run) }
            g' :=
          ⟨rfl, fun v hv => hv, fun ho hr => decide_eq_true (hop s (hs ho hr)), fun hn => hn⟩
        exact hnext.trans hext
    | submit r => exact ⟨⟨hop.1, fun h => absurd h hop.2⟩, fun _ _ => ⟨trivial, hext⟩⟩
    | clock => exact ⟨trivial, fun _ _ => ⟨trivial, hext⟩⟩

/-- The motor is to run, or not to move. -/
def KeepaliveGhost.Steady (g : KeepaliveGhost) : Prop := g.velocity = some 0 ∨ g.running = true

theorem KeepaliveGhost.Steady.extends (h : g.Steady) (hext : g'.Extends true g) : g'.Steady :=
  h.imp (fun hv => hext.velocity 0 hv) fun hr => hext.running rfl hr

/-! ### programs that have nothing to do with the motor -/

namespace DamiaoCan

open Proto

variable {id : MotorID} {node : UInt8}

theorem keepsNames_of_same {f : DamiaoCan → DamiaoCan}
    (hdevice : ∀ s, (f s).deviceName = s.deviceName)
    (hshared : ∀ s, (f s).sharedState = s.sharedState)
    (hids : ∀ s, (f s).systemMotorIdsByNodeId = s.systemMotorIdsByNodeId) :
    KeepsNames deviceName motorId f where
  knows s h := ⟨(hdevice s).trans h.device, (hshared s).trans h.sharedState, hids s ▸ h.ids⟩
  names s _ h := by
    rw [Names, hids]
    exact h

theorem keepsNames_id : KeepsNames deviceName motorId fun s => s :=
  keepsNames_of_same (fun _ => rfl) (fun _ => rfl) fun _ => rfl

theorem keepsNames_setMotorState (f : DmMotorState → DmMotorState) :
    KeepsNames deviceName motorId fun s => s.setMotorState node f :=
  keepsNames_of_same (fun _ => rfl) (fun _ => rfl) fun _ => rfl

/-- A motor is entered under the id it is called by. -/
theorem keepsNames_remember
    (hown : toProtocolNodeId id = toProtocolNodeId motorId → id = motorId) :
    KeepsNames deviceName motorId fun s => s.remember id where
  knows s h := by
    refine ⟨h.device, h.sharedState, fun n id' hn => ?_⟩
    by_cases hnode : n = toProtocolNodeId id
    · subst hnode
      obtain rfl : id = id' := by simpa [remember] using hn
      exact ⟨rfl, fun he => hown he⟩
    · exact h.ids n id' (by simpa [remember, put_of_ne _ _ hnode] using hn)
  names s _ h := by
    by_cases hnode : toProtocolNodeId motorId = toProtocolNodeId id
    · rw [hown hnode.symm]
      simp [Names, remember]
    · simpa [Names, remember, put_of_ne _ _ hnode] using h

theorem commanded_setMotorState (s : DamiaoCan) (f : DmMotorState → DmMotorState) (n : UInt8) :
    (s.setMotorState node f).commanded n =
      if n = node then (f (s.motorState node)).commandedVelocity else s.commanded n := by
  by_cases h : n = node
  · rw [if_pos h, h]
    simp [commanded, setMotorState, motorState]
  · rw [if_neg h]
    simp [commanded, setMotorState, motorState, put_of_ne _ _ h]

/-- Another motor has another axis. -/
theorem KnowsMotor.axisKey_ne {s : DamiaoCan} (h : KnowsMotor deviceName motorId s)
    (hnode : node ≠ toProtocolNodeId motorId) : dmKey deviceName motorId ≠ s.axisKey node := by
  intro he
  have hid : motorId = s.resolveSystemMotorId node := congrArg AxisKey.motorId he
  rw [resolveSystemMotorId] at hid
  cases hn : s.systemMotorIdsByNodeId node with
  | none =>
      rw [hn, Option.getD_none] at hid
      refine hnode ?_
      rw [hid]
      simp
  | some id =>
      rw [hn, Option.getD_some] at hid
      exact hnode (hid ▸ (h.ids node id hn).1.symm)

/-- The motor's own axis, once it is on the map. -/
theorem KnowsMotor.axisKey_eq {s : DamiaoCan} (h : KnowsMotor deviceName motorId s)
    (hnames : s.Names motorId) :
    s.axisKey (toProtocolNodeId motorId) = dmKey deviceName motorId := by
  rw [axisKey, resolveSystemMotorId, hnames, Option.getD_some, h.device]
  rfl

abbrev Aside (deviceName : String) (motorId : MotorID) (p : Proto DamiaoCan α) : Prop :=
  p.Obeys (asidePort deviceName motorId)

theorem aside_modify {f : DamiaoCan → DamiaoCan} (hnames : KeepsNames deviceName motorId f)
    (hcommanded : ∀ s, (f s).commanded (toProtocolNodeId motorId) =
      s.commanded (toProtocolNodeId motorId)) :
    Aside deviceName motorId (Proto.modify f) :=
  ⟨⟨hnames, hcommanded⟩, fun _ _ => trivial⟩

theorem aside_gets (f : DamiaoCan → α) : Aside deviceName motorId (gets f) :=
  ⟨⟨keepsNames_id, fun _ => rfl⟩, fun _ _ => trivial⟩

theorem aside_now : Aside deviceName motorId (now : Proto DamiaoCan Time) :=
  ⟨trivial, fun _ _ => trivial⟩

theorem aside_publish {f : AxisKey → SharedDriverState → SharedDriverState}
    (hf : ∀ s, KnowsMotor deviceName motorId s →
      KeepsRunning deviceName motorId (f (s.axisKey node))) :
    Aside deviceName motorId (publish node f) := by
  refine .vis ⟨keepsNames_id, fun _ => rfl⟩ fun s hs => ?_
  dsimp only [Prog.bind]
  exact .ite ⟨hf s hs, fun _ _ => trivial⟩ trivial

/-- What is published of feedback and commands leaves the intents alone. -/
theorem aside_publish_of_intent {f : AxisKey → SharedDriverState → SharedDriverState}
    (hf : ∀ k s key, (f k s).getAxisIntent key = s.getAxisIntent key) :
    Aside deviceName motorId (publish node f) :=
  aside_publish fun _ _ s hs => (hf _ s _).trans hs

theorem aside_syncSharedFeedback (st : DmMotorState) :
    Aside deviceName motorId (syncSharedFeedback node st) :=
  aside_now.bind fun _ => aside_publish_of_intent fun _ _ _ =>
    SharedDriverState.getAxisIntent_mutateAxisFeedback

theorem aside_syncSharedCommand (targetVelocity : Int32) (valid : Bool) :
    Aside deviceName motorId (syncSharedCommand node targetVelocity valid) :=
  aside_now.bind fun _ => aside_publish_of_intent fun _ _ _ =>
    SharedDriverState.getAxisIntent_mutateAxisCommand

theorem aside_syncSharedModeSelection (mode : MotorMode) :
    Aside deviceName motorId (syncSharedModeSelection node mode) :=
  aside_publish_of_intent fun _ _ _ => SharedDriverState.getAxisIntent_mutateAxisCommand

/-- The intent of another motor. -/
theorem aside_syncSharedIntent (hnode : node ≠ toProtocolNodeId motorId) (intent : AxisIntent) :
    Aside deviceName motorId (syncSharedIntent node intent) :=
  aside_publish fun _ hs _ hrun =>
    (SharedDriverState.getAxisIntent_setAxisIntent_of_ne (hs.axisKey_ne hnode)).trans hrun

theorem aside_registerManagedMotorId
    (hown : toProtocolNodeId id = toProtocolNodeId motorId → id = motorId) :
    Aside deviceName motorId (registerManagedMotorId id) := by
  refine (aside_modify (keepsNames_remember hown) fun _ => rfl).bind fun _ =>
    (aside_gets _).bind fun s => .ite ⟨fun shared hrun => ?_, fun _ _ => trivial⟩ trivial
  exact SharedDriverState.getAxisIntent_registerAxis.trans hrun

/-- A frame that is no keepalive of the motor. -/
theorem aside_submitTx {frame : Frame} {category : Category} {source : TxSource}
    (h : source = .dmIssueRefreshQuery →
      frame.id ≠ kDamiaoSpeedFrameBase + (toProtocolNodeId motorId).toUInt32) :
    Aside deviceName motorId (submitTx frame category source) := by
  refine (aside_gets _).bind fun s => .ite ?_ trivial
  exact .vis ⟨rfl, fun hkeepalive => h hkeepalive.1 hkeepalive.2⟩ fun _ _ => trivial

theorem aside_setMotorState {f : DmMotorState → DmMotorState}
    (hf : node = toProtocolNodeId motorId → ∀ st, (f st).commandedVelocity = st.commandedVelocity) :
    Aside deviceName motorId (Proto.modify fun s => s.setMotorState node f) := by
  refine aside_modify (keepsNames_setMotorState f) fun s => ?_
  rw [commanded_setMotorState]
  split
  · next h => rw [hf h.symm, h]; rfl
  · rfl

theorem aside_ensureVelocityModeConfigured :
    Aside deviceName motorId (ensureVelocityModeConfigured node) := by
  have hpending : ∀ acks : DamiaoCan → UInt8 × UInt8 → Option DmRegisterAck,
      KeepsNames deviceName motorId fun s : DamiaoCan =>
        { s with pendingRegisterAcks := acks s } := fun acks =>
    keepsNames_of_same (fun _ => rfl) (fun _ => rfl) fun _ => rfl
  have hwrite : Aside deviceName motorId
      (writeRegisterAndWaitForAck node kDamiaoControlModeRegister kDamiaoVelocityModeValue) := by
    refine (aside_gets _).bind fun s => .ite (.bind ?_ fun _ => .bind ?_ fun accepted =>
      .ite ?_ trivial) trivial
    · exact ⟨⟨hpending fun s => put s.pendingRegisterAcks _ {}, fun _ => rfl⟩,
        fun _ _ => trivial⟩
    · exact aside_submitTx fun h => absurd h (by decide)
    · exact ⟨⟨hpending fun s => Function.update s.pendingRegisterAcks _ none, fun _ => rfl⟩,
        fun _ _ => trivial⟩
  refine (aside_gets _).bind fun configured => .ite trivial (hwrite.bind fun acked =>
    .ite (.bind ?_ fun _ => .bind ?_ fun _ => trivial) trivial)
  · exact aside_setMotorState fun _ _ => rfl
  · exact aside_syncSharedModeSelection _

theorem aside_setMode (hown : toProtocolNodeId id = toProtocolNodeId motorId → id = motorId)
    (mode : MotorMode) : Aside deviceName motorId (setMode id mode) := by
  refine .ite ?_ trivial
  exact (aside_registerManagedMotorId hown).bind fun _ =>
    aside_ensureVelocityModeConfigured.bind fun configured =>
      .ite ((aside_syncSharedModeSelection _).bind fun _ => trivial) trivial

/-- Commands are no keepalives. -/
theorem aside_sendSpeedFrame {velocity : ℚ} {category : Category} {source : TxSource}
    (h : source ≠ .dmIssueRefreshQuery) :
    Aside deviceName motorId (sendSpeedFrame node velocity category source) :=
  aside_submitTx fun he => absurd he h

theorem aside_sendMotorCommand {command : UInt8} {category : Category} {source : TxSource}
    (h : source ≠ .dmIssueRefreshQuery) :
    Aside deviceName motorId (sendMotorCommand node command category source) :=
  aside_submitTx fun he => absurd he h

/-- A call for another motor, or one that tells the motor nothing. -/
theorem aside_motorCall (hown : toProtocolNodeId id = toProtocolNodeId motorId → id = motorId)
    {call : MotorCall}
    (h : ¬(toProtocolNodeId id = toProtocolNodeId motorId ∧ call.commands = true)) :
    Aside deviceName motorId (motorCall id call) := by
  have hregister : Aside deviceName motorId (registerManagedMotorId id) :=
    aside_registerManagedMotorId hown
  cases call with
  | setMode mode => exact (aside_setMode hown mode).discard
  | setVelocity velocity =>
      have hnode : toProtocolNodeId id ≠ toProtocolNodeId motorId := fun he => h ⟨he, rfl⟩
      refine Obeys.discard (hregister.bind fun _ => aside_ensureVelocityModeConfigured.bind
        fun configured => .ite ?_ trivial)
      exact (aside_setMotorState fun he => absurd he hnode).bind fun _ =>
        (aside_syncSharedCommand _ _).bind fun _ => (aside_syncSharedIntent hnode _).bind fun _ =>
          aside_sendSpeedFrame (by decide)
  | enable =>
      have hnode : toProtocolNodeId id ≠ toProtocolNodeId motorId := fun he => h ⟨he, rfl⟩
      refine Obeys.discard (hregister.bind fun _ => aside_ensureVelocityModeConfigured.bind
        fun configured => .ite ?_ trivial)
      refine (aside_syncSharedModeSelection _).bind fun _ =>
        (aside_syncSharedIntent hnode _).bind fun _ => (aside_sendMotorCommand (by decide)).bind
          fun sent => .ite ?_ trivial
      exact (aside_sendSpeedFrame (by decide)).bind fun sent => .ite (aside_gets _) trivial
  | disable =>
      have hnode : toProtocolNodeId id ≠ toProtocolNodeId motorId := fun he => h ⟨he, rfl⟩
      refine Obeys.discard (hregister.bind fun _ =>
        (aside_setMotorState fun he => absurd he hnode).bind fun _ =>
          (aside_syncSharedCommand _ _).bind fun _ => (aside_syncSharedIntent hnode _).bind fun _ =>
            (aside_sendSpeedFrame (by decide)).bind fun sent => .ite ?_ trivial)
      exact (aside_sendMotorCommand (by decide)).bind fun sent => .ite (aside_gets _) trivial
  | stop =>
      have hnode : toProtocolNodeId id ≠ toProtocolNodeId motorId := fun he => h ⟨he, rfl⟩
      exact Obeys.discard (hregister.bind fun _ =>
        (aside_setMotorState fun he => absurd he hnode).bind fun _ =>
          (aside_syncSharedCommand _ _).bind fun _ => (aside_syncSharedIntent hnode _).bind fun _ =>
            aside_sendSpeedFrame (by decide))
  | resetFault =>
      have hnode : toProtocolNodeId id ≠ toProtocolNodeId motorId := fun he => h ⟨he, rfl⟩
      exact Obeys.discard (hregister.bind fun _ => (aside_syncSharedIntent hnode _).bind fun _ =>
        aside_sendMotorCommand (by decide))
  | setAcceleration acceleration | setDeceleration deceleration =>
      refine Obeys.discard (hregister.bind fun _ => .bind ?_ fun _ => trivial)
      exact aside_setMotorState fun _ _ => rfl
  | setPosition | quickSetPosition => exact trivial
  | getPosition | getVelocity | getCurrent | isEnabled | hasFault =>
      exact Obeys.discard (aside_gets _)

/-- The keepalive of another motor. -/
theorem aside_issueRefreshQuery
    (hown : toProtocolNodeId id = toProtocolNodeId motorId → id = motorId)
    (hnode : toProtocolNodeId id ≠ toProtocolNodeId motorId) {query : DmRefreshQuery} :
    Aside deviceName motorId (issueRefreshQuery id query) := by
  refine (aside_gets _).bind fun s => .ite trivial ((aside_registerManagedMotorId hown).bind
    fun _ => (aside_gets _).bind fun velocity => aside_submitTx fun _ hid => hnode ?_)
  exact UInt8.toUInt32_inj.1 ((UInt32.add_right_inj _).1 hid)

/-- Feedback and acknowledgements say nothing about what is commanded. -/
theorem aside_handleResponse (frame : Frame) : Aside deviceName motorId (handleResponse frame) := by
  have hfeedback : Aside deviceName motorId (handleFeedback frame) := by
    refine .ite trivial ((aside_gets _).bind fun s => .ite ?_ trivial)
    refine .vis ⟨keepsNames_setMotorState _, fun s => ?_⟩ fun s _ => aside_syncSharedFeedback _
    rw [commanded_setMotorState]
    split
    · next h => rw [h]; rfl
    · rfl
  refine .ite trivial (.ite ?_ hfeedback)
  refine .vis ?_ fun s _ => .ite trivial hfeedback
  have hsame : ∀ s : DamiaoCan, (matchRegisterAck frame s).2 =
      { s with pendingRegisterAcks := (matchRegisterAck frame s).2.pendingRegisterAcks } := by
    intro s
    rw [matchRegisterAck]
    split
    · rfl
    · rfl
  have hnames : KeepsNames deviceName motorId fun s => (matchRegisterAck frame s).2 :=
    keepsNames_of_same (fun s => (congrArg DamiaoCan.deviceName (hsame s)).trans rfl)
      (fun s => (congrArg DamiaoCan.sharedState (hsame s)).trans rfl)
      fun s => (congrArg DamiaoCan.systemMotorIdsByNodeId (hsame s)).trans rfl
  exact ⟨hnames, fun s => (congrArg (fun s => commanded s _) (hsame s)).trans rfl⟩

/-! ### operations of the motor -/

/-- Looking at the object tells the thread no less than it knew. -/
theorem extends_touch_id {s : DamiaoCan} (hs : g.Agrees motorId s) :
    (g.touch motorId (fun s => s) s).Extends operation g := by
  refine ⟨rfl, fun v hv => congrArg some (hs.velocity v hv), fun _ h => h, fun hn => ?_⟩
  exact Bool.or_eq_true_iff.2 (.inl hn)

/-- A motor that is registered is on the map. -/
theorem register_keepalive :
    (registerManagedMotorId motorId).wp (portMotorRules deviceName motorId operation)
      (fun _ g' => g'.Extends operation g ∧ g'.named = true) g := by
  rw [registerManagedMotorId, wp_bind]
  refine ⟨⟨keepsNames_remember fun _ => rfl, .inr fun _ _ => rfl⟩, fun s hs => ?_⟩
  rw [wp_ret]
  have hnext : (g.touch motorId (fun s => s.remember motorId) s).Extends operation g := by
    refine ⟨rfl, fun v hv => congrArg some (hs.2.velocity v hv), fun _ h => h, fun hn => ?_⟩
    exact Bool.or_eq_true_iff.2 (.inl hn)
  have hnamed : (g.touch motorId (fun s => s.remember motorId) s).named = true := by
    have hput : (s.remember motorId).Names motorId := put_self _ _ _
    simp [KeepaliveGhost.touch, hput]
  have hrest : Aside deviceName motorId (gets (fun s => s) >>= fun s : DamiaoCan =>
      if s.publishes then
        modifyShared fun shared => shared.registerAxis (makeAxisKey s.deviceName .DM motorId)
      else pure ()) := by
    refine (aside_gets _).bind fun s => .ite ⟨fun shared hrun => ?_, fun _ _ => trivial⟩ trivial
    exact SharedDriverState.getAxisIntent_registerAxis.trans hrun
  refine wp_mono (wp_of_aside hrest) fun _ g' hext => ?_
  exact ⟨hext.trans hnext, hext.named hnamed⟩

/-- The intent is published where it may be, and a motor that is to run is known to be running. -/
theorem publishIntent_keepalive (hdevice : deviceName ≠ "") (hnamed : g.named = true)
    {intent : AxisIntent} (hmay : intent = .run ∨ g.velocity = some 0) :
    (syncSharedIntent (toProtocolNodeId motorId) intent).wp (portMotorRules deviceName motorId true)
      (fun _ g' => g'.Extends false g ∧ (intent = .run → g'.running = true)) g := by
  rw [syncSharedIntent, publish, wp_bind]
  refine ⟨⟨keepsNames_id, .inr fun _ _ => rfl⟩, fun s hs => ?_⟩
  rw [wp_ret]
  have hkey := hs.1.axisKey_eq (hs.2.named hnamed)
  have hpublishes : s.publishes = true := by
    simp [publishes, hs.1.sharedState, hs.1.device, hdevice]
  have hext : (g.touch motorId (fun s => s) s).Extends false g := extends_touch_id hs.2
  rw [id, if_pos hpublishes, hkey]
  refine ⟨?_, fun shared _ => ⟨?_, fun hrun => ?_⟩⟩
  · rcases hmay with rfl | hzero
    · exact .inr fun _ _ => SharedDriverState.getAxisIntent_setAxisIntent_self
    · exact .inl ⟨rfl, .inr (hext.velocity 0 hzero)⟩
  · exact ⟨hext.free, hext.velocity, fun h => absurd h Bool.false_ne_true, hext.named⟩
  · subst hrun
    exact decide_eq_true SharedDriverState.getAxisIntent_setAxisIntent_self

/-- The velocity is changed by an operation that may, or stays what it is. -/
theorem setCommanded_keepalive {f : DmMotorState → DmMotorState} {v : Int32}
    (hf : ∀ st, (f st).commandedVelocity = v) (hmay : g.free = true ∨ g.velocity = some v) :
    (Proto.modify fun s => s.setMotorState (toProtocolNodeId motorId) f).wp
      (portMotorRules deviceName motorId true)
      (fun _ g' => g'.velocity = some v ∧ (g.named = true → g'.named = true)) g := by
  have hset : ∀ s : DamiaoCan, (s.setMotorState (toProtocolNodeId motorId) f).commanded
      (toProtocolNodeId motorId) = v := fun s => by rw [commanded_setMotorState, if_pos rfl, hf]
  refine ⟨⟨keepsNames_setMotorState f, ?_⟩, fun s _ => ⟨congrArg some (hset s), fun hn => ?_⟩⟩
  · rcases hmay with hfree | hv
    · exact .inl ⟨rfl, hfree⟩
    · exact .inr fun s hs => (hset s).trans (hs.velocity v hv).symm
  · exact Bool.or_eq_true_iff.2 (.inl hn)

theorem setVelocity_keepalive (hdevice : deviceName ≠ "") (hstart : g.Steady) {v : Int32}
    (hmay : g.free = true ∨ g.velocity = some v) :
    (setVelocity motorId v).wp (portMotorRules deviceName motorId true)
      (fun _ g' => g'.Steady) g := by
  rw [setVelocity, wp_bind]
  refine wp_mono register_keepalive fun _ g₁ ⟨h₁, hnamed₁⟩ => ?_
  rw [wp_bind]
  refine wp_mono (wp_of_aside aside_ensureVelocityModeConfigured) fun configured g₂ h₂ => ?_
  have hext := h₂.trans h₁
  rw [wp_ite]
  split
  · rw [wp_bind]
    have hmay₂ : g₂.free = true ∨ g₂.velocity = some v :=
      hmay.imp (fun h => hext.free.trans h) fun h => hext.velocity v h
    refine wp_mono (setCommanded_keepalive (fun _ => rfl) hmay₂) fun _ g₃ ⟨_, hnamed₃⟩ => ?_
    rw [wp_bind]
    refine wp_mono (wp_of_aside (aside_syncSharedCommand _ _)) fun _ g₄ h₄ => ?_
    have hnamed₄ := h₄.named (hnamed₃ (h₂.named hnamed₁))
    rw [wp_bind]
    refine wp_mono (publishIntent_keepalive hdevice hnamed₄ (.inl rfl)) fun _ g₅ ⟨_, hrun⟩ => ?_
    refine wp_mono (wp_of_aside (aside_sendSpeedFrame (by decide))) fun _ g₆ h₆ => ?_
    exact .inr (h₆.running rfl (hrun rfl))
  · exact hstart.extends hext

/-- Disabling and stopping command velocity zero before they do anything else. -/
theorem neutralize_keepalive (hdevice : deviceName ≠ "")
    (hmay : g.free = true ∨ g.velocity = some 0) {f : DmMotorState → DmMotorState}
    (hf : ∀ st, (f st).commandedVelocity = 0) (intent : AxisIntent) {p : Proto DamiaoCan α}
    (hp : Aside deviceName motorId p) :
    (do
      registerManagedMotorId motorId
      Proto.modify fun s => s.setMotorState (toProtocolNodeId motorId) f
      syncSharedCommand (toProtocolNodeId motorId) 0 true
      syncSharedIntent (toProtocolNodeId motorId) intent
      p).wp (portMotorRules deviceName motorId true) (fun _ g' => g'.Steady) g := by
  rw [wp_bind]
  refine wp_mono register_keepalive fun _ g₁ ⟨h₁, hnamed₁⟩ => ?_
  rw [wp_bind]
  have hmay₁ : g₁.free = true ∨ g₁.velocity = some 0 :=
    hmay.imp (fun h => h₁.free.trans h) fun h => h₁.velocity 0 h
  refine wp_mono (setCommanded_keepalive hf hmay₁) fun _ g₂ ⟨hzero₂, hnamed₂⟩ => ?_
  rw [wp_bind]
  refine wp_mono (wp_of_aside (aside_syncSharedCommand _ _)) fun _ g₃ h₃ => ?_
  have hzero₃ := h₃.velocity 0 hzero₂
  rw [wp_bind]
  refine wp_mono (publishIntent_keepalive hdevice (h₃.named (hnamed₂ hnamed₁)) (.inr hzero₃))
    fun _ g₄ ⟨h₄, _⟩ => ?_
  refine wp_mono (wp_of_aside hp) fun _ g₅ h₅ => ?_
  exact .inl (h₅.velocity 0 (h₄.velocity 0 hzero₃))

theorem disable_keepalive (hdevice : deviceName ≠ "")
    (hmay : g.free = true ∨ g.velocity = some 0) :
    (disable motorId).wp (portMotorRules deviceName motorId true) (fun _ g' => g'.Steady) g := by
  refine neutralize_keepalive hdevice hmay (fun _ => rfl) .disable ?_
  refine (aside_sendSpeedFrame (by decide)).bind fun sent => .ite ?_ trivial
  exact (aside_sendMotorCommand (by decide)).bind fun sent => .ite (aside_gets _) trivial

theorem stop_keepalive (hdevice : deviceName ≠ "")
    (hmay : g.free = true ∨ g.velocity = some 0) :
    (stop motorId).wp (portMotorRules deviceName motorId true) (fun _ g' => g'.Steady) g :=
  neutralize_keepalive hdevice hmay (fun _ => rfl) .hold (aside_sendSpeedFrame (by decide))

theorem enable_keepalive (hdevice : deviceName ≠ "") (hzero : g.velocity = some 0) :
    (enable motorId).wp (portMotorRules deviceName motorId true) (fun _ g' => g'.Steady) g := by
  rw [enable, wp_bind]
  refine wp_mono register_keepalive fun _ g₁ ⟨h₁, hnamed₁⟩ => ?_
  rw [wp_bind]
  refine wp_mono (wp_of_aside aside_ensureVelocityModeConfigured) fun configured g₂ h₂ => ?_
  have hzero₂ := h₂.velocity 0 (h₁.velocity 0 hzero)
  rw [wp_ite]
  split
  · rw [wp_bind]
    refine wp_mono (wp_of_aside (aside_syncSharedModeSelection _)) fun _ g₃ h₃ => ?_
    have hzero₃ := h₃.velocity 0 hzero₂
    rw [wp_bind]
    refine wp_mono (publishIntent_keepalive hdevice (h₃.named (h₂.named hnamed₁)) (.inr hzero₃))
      fun _ g₄ ⟨h₄, _⟩ => ?_
    refine wp_mono (wp_of_aside (.bind ?_ fun sent => .ite (.bind ?_ fun sent =>
      .ite (aside_gets _) trivial) trivial)) fun _ g₅ h₅ => ?_
    · exact aside_sendMotorCommand (by decide)
    · exact aside_sendSpeedFrame (by decide)
    · exact .inl (h₅.velocity 0 (h₄.velocity 0 hzero₃))
  · exact .inl hzero₂

theorem resetFault_keepalive (hdevice : deviceName ≠ "") (hzero : g.velocity = some 0) :
    (resetFault motorId).wp (portMotorRules deviceName motorId true) (fun _ g' => g'.Steady) g := by
  rw [resetFault, wp_bind]
  refine wp_mono register_keepalive fun _ g₁ ⟨h₁, hnamed₁⟩ => ?_
  have hzero₁ := h₁.velocity 0 hzero
  rw [wp_bind]
  refine wp_mono (publishIntent_keepalive hdevice hnamed₁ (.inr hzero₁)) fun _ g₂ ⟨h₂, _⟩ => ?_
  refine wp_mono (wp_of_aside (aside_sendMotorCommand (by decide))) fun _ g₃ h₃ => ?_
  exact .inl (h₃.velocity 0 (h₂.velocity 0 hzero₁))

/-- **Operations**: a motor that is to run, or not to move, is so after an operation; enabling it
or resetting its fault needs velocity zero. -/
theorem motorCall_keepalive (hdevice : deviceName ≠ "") (hstart : g.Steady) {call : MotorCall}
    (hcommands : call.commands = true)
    (hmay : ∀ v, call.velocity = some v → g.free = true ∨ g.velocity = some v)
    (hneutral : (KeepaliveCall.operate motorId call).neutral = true → g.velocity = some 0) :
    (motorCall motorId call).wp (portMotorRules deviceName motorId true)
      (fun _ g' => g'.Steady) g := by
  have hdiscard : ∀ {p : Proto DamiaoCan Bool},
      p.wp (portMotorRules deviceName motorId true) (fun _ g' => g'.Steady) g →
      (discard p).wp (portMotorRules deviceName motorId true) (fun _ g' => g'.Steady) g :=
    fun hp => wp_bind.2 hp
  cases call with
  | setVelocity v => exact hdiscard (setVelocity_keepalive hdevice hstart (hmay v rfl))
  | disable => exact hdiscard (disable_keepalive hdevice (hmay 0 rfl))
  | stop => exact hdiscard (stop_keepalive hdevice (hmay 0 rfl))
  | enable => exact hdiscard (enable_keepalive hdevice (hneutral rfl))
  | resetFault => exact hdiscard (resetFault_keepalive hdevice (hneutral rfl))
  | setMode mode =>
      refine hdiscard (wp_mono (wp_of_aside (aside_setMode (fun _ => rfl) mode)) fun _ g' h => ?_)
      exact hstart.extends h
  | _ => exact absurd hcommands Bool.false_ne_true

/-- A keepalive is submitted with the velocity it has read. -/
theorem issueRefreshQuery_keepalive (query : DmRefreshQuery) :
    (issueRefreshQuery motorId query).wp (portMotorRules deviceName motorId false)
      (fun _ _ => True) g := by
  rw [issueRefreshQuery, wp_bind]
  refine wp_mono (wp_of_aside (aside_gets _)) fun s g₁ h₁ => ?_
  rw [wp_ite]
  split
  · trivial
  · rw [wp_bind]
    refine wp_mono (wp_of_aside (aside_registerManagedMotorId fun _ => rfl)) fun _ g₂ h₂ => ?_
    rw [wp_bind]
    refine ⟨⟨keepsNames_id, .inr fun _ _ => rfl⟩, fun s hs => ?_⟩
    rw [wp_ret, sendSpeedFrame, submitTx, wp_bind]
    have hvelocity : ((s.motorStates (toProtocolNodeId motorId)).map fun st =>
        st.commandedVelocity).getD 0 = s.commanded (toProtocolNodeId motorId) := by
      rw [commanded, motorState]
      cases s.motorStates (toProtocolNodeId motorId) with
      | none => rfl
      | some st => rfl
    dsimp only
    rw [hvelocity]
    refine ⟨⟨keepsNames_id, .inr fun _ _ => rfl⟩, fun s' hs' => ?_⟩
    rw [wp_ret, wp_ite]
    split
    · refine ⟨⟨rfl, fun _ => ⟨rfl, _, ?_, rfl⟩⟩, fun _ _ => trivial⟩
      exact congrArg some (hs'.2.velocity _ rfl)
    · trivial

end DamiaoCan

end CanDriver
