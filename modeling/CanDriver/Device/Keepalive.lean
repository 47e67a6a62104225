import CanDriver.Device.KeepaliveCalls
import CanDriver.Lib.Record
import CanDriver.Reads.Waiting

/-!
# CanDriver.Device.Keepalive

The speed a DM motor is kept alive with.

The keepalive repeats the velocity commanded last.  It goes through the query queue, which is
served when all others are empty, so commands overtake it; and enabling a motor or resetting its
fault leaves the velocity of before commanded.  Where neither happens a keepalive is sent with
the velocity commanded at that moment, and with velocity zero unless the motor is told to run.
-/

namespace CanDriver

open Interact Prog

/-! ## the record -/

/-- What is recorded of one motor: the thread whose operation of it is running and whether that
changes the commanded velocity; the threads that are at a keepalive of it; and the request a
worker has taken and not sent yet. -/
structure KeepaliveLog (ι : Type) where
  active : Option ι := none
  changing : Bool := false
  ticking : ι → Bool := fun _ => false
  taken : ι → Option Request := fun _ => none

/-- The threads of a device that make these calls. -/
abbrev KeepalivePool (ι : Type) := Pool busSig ι KeepaliveCall Unit Bus

/-- What happens in one step. -/
abbrev KeepaliveEvent (ι : Type) := Event busSig ι KeepaliveCall Unit

section

variable {ι : Type} [DecidableEq ι]

/-- What a step adds to the record of the motor at a node. -/
def KeepaliveLog.note (node : UInt8) (p : KeepalivePool ι) (e : KeepaliveEvent ι)
    (p' : KeepalivePool ι) (log : KeepaliveLog ι) : KeepaliveLog ι :=
  match e with
  | .call i c =>
      match c.part node with
      | .operation =>
          { log with active := some i, changing := c.changes (p.shared.dm.commanded node) }
      | .keepalive => { log with ticking := Function.update log.ticking i true }
      | .beside => log
  | .ret i _ =>
      match p.thread i with
      | none => log
      | some t =>
          match t.call.part node with
          | .operation => { log with active := none, changing := false }
          | .keepalive => { log with ticking := Function.update log.ticking i false }
          | .beside => log
  | .act i .pop => { log with taken := Function.update log.taken i p'.shared.runtime.sending }
  | .act i (.transmit _) => { log with taken := Function.update log.taken i none }
  | _ => log

/-- One step on the device `deviceName`, and what is recorded of it for the motor at a node. -/
abbrev KeepaliveStep (deviceName : String) (node : UInt8) :
    KeepalivePool ι × KeepaliveLog ι → KeepaliveEvent ι → KeepalivePool ι × KeepaliveLog ι → Prop :=
  Recording (Pool.Step (KeepaliveCall.code deviceName) fun b _ => b.serves)
    (KeepaliveLog.note node)

omit [DecidableEq ι] in
/-- A request is waiting in a queue or in the hands of a worker. -/
def KeepaliveLog.Outstanding (log : KeepaliveLog ι) (rt : DeviceRuntime) (r : Request) : Prop :=
  r ∈ rt.queued ∨ ∃ i, log.taken i = some r

omit [DecidableEq ι] in
/-- A keepalive of the motor is under way: asked for, waiting or about to be sent. -/
def KeepaliveLog.UnderWay (log : KeepaliveLog ι) (node : UInt8) (rt : DeviceRuntime) : Prop :=
  (∃ i, log.ticking i = true) ∨ ∃ r, log.Outstanding rt r ∧ r.IsKeepalive node

/-- The motor is always called by the same id, and its operations are a sequence. -/
structure Sequenced (motorId : MotorID) (w : KeepalivePool ι × KeepaliveLog ι)
    (e : KeepaliveEvent ι) : Prop where
  own : ∀ i c id, e = .call i c → c.motor = some id →
    toProtocolNodeId id = toProtocolNodeId motorId → id = motorId
  alone : ∀ i c, e = .call i c → c.part (toProtocolNodeId motorId) = .operation →
    w.2.active = none

/-- The motor is enabled, or its fault reset, only while velocity zero is commanded; and its
velocity is changed and a keepalive of it is under way at different times. -/
structure KeptApart (node : UInt8) (w : KeepalivePool ι × KeepaliveLog ι) (e : KeepaliveEvent ι) :
    Prop where
  neutral : ∀ i c, e = .call i c → c.part node = .operation → c.neutral = true →
    w.1.shared.dm.commanded node = 0
  quiet : ∀ i c, e = .call i c → c.part node = .operation →
    c.changes (w.1.shared.dm.commanded node) = true → ¬w.2.UnderWay node w.1.shared.runtime
  steady : ∀ i c, e = .call i c → c.part node = .keepalive → w.2.changing = false

/-- Whatever is sent was taken from a queue; and if it is a keepalive of the motor it carries the
velocity commanded last, and velocity zero unless the intent is to run. -/
def SafeToSend (deviceName : String) (motorId : MotorID) (w : KeepalivePool ι × KeepaliveLog ι)
    (e : KeepaliveEvent ι) : Prop :=
  ∀ i frame, e = .act i (.transmit frame) → ∃ r, w.2.taken i = some r ∧ r.frame = frame ∧
    (r.IsKeepalive (toProtocolNodeId motorId) →
      frame = DamiaoCan.speedFrame (toProtocolNodeId motorId) (DamiaoCan.rawToVelocityRadPerSec
        (w.1.shared.dm.commanded (toProtocolNodeId motorId))) ∧
      (w.1.shared.shared.getAxisIntent (dmKey deviceName motorId) = .run ∨
        frame = DamiaoCan.speedFrame (toProtocolNodeId motorId) 0))

end

/-! ## on the device -/

section

variable (deviceName : String) (motorId : MotorID)

/-- What a call may do on the device, by what it has to do with the motor.  Only a worker, which
runs beside the operations and keepalives, takes requests and sends them. -/
def keepaliveRules (part : MotorPart) : Protocol busSig KeepaliveGhost where
  allow g
    | .dm f => DamiaoCan.KeepsNames deviceName motorId f ∧
        ((part = .operation ∧ g.free = true) ∨ ∀ s, g.Agrees motorId s →
          (f s).commanded (toProtocolNodeId motorId) = s.commanded (toProtocolNodeId motorId))
    | .shared f => (part = .operation ∧ (g.free = true ∨ g.velocity = some 0)) ∨
        KeepsRunning deviceName motorId f
    | .enqueue r => r.IsKeepalive (toProtocolNodeId motorId) → part = .keepalive ∧
        ∃ v, g.velocity = some v ∧ r.frame = DamiaoCan.speedFrame (toProtocolNodeId motorId)
          (DamiaoCan.rawToVelocityRadPerSec v)
    | .pop => part = .beside
    | .transmit frame => part = .beside ∧ ∃ r, g.popped = some r ∧ r.frame = frame
    | .clock | .account _ | .eyou _ | .mt _ => True
    | _ => False
  accepts g
    | .dm _, s => DamiaoCan.KnowsMotor deviceName motorId s ∧ g.Agrees motorId s
    | .shared _, s => part = .operation → g.running = true →
        s.getAxisIntent (dmKey deviceName motorId) = .run
    | _, _ => True
  next g
    | .dm f, s => if part = .beside then g else g.touch motorId f s
    | .shared f, s =>
        { g with running := decide ((f s).getAxisIntent (dmKey deviceName motorId) = .run) }
    | .pop, r => { g with popped := r }
    | .transmit _, _ => { g with popped := none }
    | _, _ => g

end

variable {deviceName : String} {motorId : MotorID} {g : KeepaliveGhost}

/-- Nothing is known of the object. -/
def KeepaliveGhost.Blank (g : KeepaliveGhost) : Prop := g.velocity = none ∧ g.named = false

theorem KeepaliveGhost.Blank.agrees (h : g.Blank) (s : DamiaoCan) : g.Agrees motorId s :=
  ⟨fun v hv => absurd (h.1.symm.trans hv) (by simp),
    fun hn => absurd (h.2.symm.trans hn) (by simp)⟩

/-- A request without a completion is taken or dropped, and no more. -/
theorem wp_submit {P : Protocol busSig γ} {g : γ} {r : Request} {Q : Unit → γ → Prop}
    (hcompletion : r.completion = none) (hallow : P.allow g (.enqueue r))
    (hnext : ∀ accepted, Q () (P.next g (.enqueue r) accepted)) :
    (DeviceRuntime.submit r).wp P Q g := by
  rw [DeviceRuntime.submit, wp_bind]
  refine ⟨hallow, fun accepted _ => ?_⟩
  rw [wp_ret, wp_ite, DeviceRuntime.completeDropped, hcompletion]
  split
  · exact hnext _
  · exact hnext _

theorem onBus_aside {p : Proto DamiaoCan Unit} (hp : p.Obeys (asidePort deviceName motorId))
    (hg : g.Blank) :
    p.onBus.wp (keepaliveRules deviceName motorId .beside) (fun _ _ => True) g := by
  have hrun := wp_interp (P := keepaliveRules deviceName motorId .beside)
    (R := fun g _ => g.Blank) (f := PortOp.onBus) (fun g _ op hblank hop => ?_) hg hp
  · exact wp_mono hrun fun _ _ _ => trivial
  · cases op with
    | proto f =>
        exact ⟨⟨hop.1, .inr fun s _ => hop.2 s⟩, fun s hs => ⟨hs.1, hblank⟩⟩
    | shared f => exact ⟨.inr hop, fun s _ => ⟨trivial, hblank⟩⟩
    | submit r => exact wp_submit hop.1 (fun h => absurd h hop.2) fun _ => ⟨trivial, hblank⟩
    | clock => exact ⟨trivial, fun _ _ => ⟨trivial, hblank⟩⟩

theorem onBus_motor {p : Proto DamiaoCan Unit} {part : MotorPart} (hpart : part ≠ .beside)
    {Q : KeepaliveGhost → Prop}
    (hp : p.wp (portMotorRules deviceName motorId (decide (part = .operation))) (fun _ => Q) g) :
    p.onBus.wp (keepaliveRules deviceName motorId part) (fun _ => Q) g := by
  have hrun := wp_interp (P := keepaliveRules deviceName motorId part)
    (R := fun g d => g = d) (f := PortOp.onBus) (fun g d op heq hop => ?_) rfl hp
  · refine wp_mono hrun fun _ g' ⟨d, heq, hd⟩ => ?_
    subst heq
    exact hd
  · subst heq
    cases op with
    | proto f =>
        refine ⟨⟨hop.1, hop.2.imp (fun h => ⟨of_decide_eq_true h.1, h.2⟩) fun h => h⟩,
          fun s hs => ⟨hs, ?_⟩⟩
        exact if_neg hpart
    | shared f =>
        refine ⟨hop.imp (fun h => ⟨of_decide_eq_true h.1, h.2⟩) fun h => h, fun s hs => ⟨?_, rfl⟩⟩
        exact fun hoperation => hs (of_decide_eq_true hoperation)
    | submit r =>
        refine wp_submit hop.1 (fun hkeepalive => ?_) fun _ => ⟨trivial, rfl⟩
        obtain ⟨hoperation, hframe⟩ := hop.2 hkeepalive
        refine ⟨?_, hframe⟩
        cases part with
        | operation => exact absurd hoperation (by decide)
        | keepalive => rfl
        | beside => exact absurd rfl hpart
    | clock => exact ⟨trivial, fun _ _ => ⟨trivial, rfl⟩⟩

/-- A worker sends what it has taken. -/
theorem workerStep_keepalive :
    (DeviceRuntime.workerStep deviceName).wp (keepaliveRules deviceName motorId .beside)
      (fun _ _ => True) g := by
  refine ⟨rfl, fun next _ => ?_⟩
  cases next with
  | none => trivial
  | some r =>
      refine ⟨trivial, fun t _ => ⟨⟨rfl, r, rfl, rfl⟩, fun result _ => ?_⟩⟩
      have hrest : ∀ g, (DeviceRuntime.noteSharedSendResult deviceName result >>= fun _ =>
          Device.account result).wp (keepaliveRules deviceName motorId .beside)
            (fun _ _ => True) g := by
        intro g
        rw [wp_bind, DeviceRuntime.noteSharedSendResult, wp_ite]
        split
        · exact ⟨trivial, fun _ _ => trivial⟩
        · exact ⟨trivial, fun _ _ => ⟨.inr fun _ h => h, fun _ _ => ⟨trivial, fun _ _ => trivial⟩⟩⟩
      have hcompletion : ∀ (c : Completion) g, (c.run true result t >>= fun _ =>
          DeviceRuntime.noteSharedSendResult deviceName result >>= fun _ =>
            Device.account result).wp (keepaliveRules deviceName motorId .beside)
              (fun _ _ => True) g := by
        intro c g
        cases c with
        | eyouRead => exact ⟨trivial, fun _ _ => hrest _⟩
        | mtRead => exact ⟨trivial, fun _ _ => hrest _⟩
      dsimp only [Prog.bind]
      cases r.completion with
      | none => exact hrest _
      | some c => exact hcompletion c _

/-- **Calls**: every call keeps to the rules, and after an operation the motor is to run, or not
to move. -/
theorem keepaliveCall_code (hdevice : deviceName ≠ "") {c : KeepaliveCall}
    (hown : ∀ id, c.motor = some id → toProtocolNodeId id = toProtocolNodeId motorId → id = motorId)
    (hblank : c.part (toProtocolNodeId motorId) = .beside → g.Blank)
    (hstart : c.part (toProtocolNodeId motorId) = .operation → g.Steady ∧
      (∀ id call v, c = .operate id call → call.velocity = some v →
        g.free = true ∨ g.velocity = some v) ∧ (c.neutral = true → g.velocity = some 0)) :
    (c.code deviceName).wp
      (keepaliveRules deviceName motorId (c.part (toProtocolNodeId motorId)))
      (fun _ g' => c.part (toProtocolNodeId motorId) = .operation → g'.Steady) g := by
  have hbeside : c.part (toProtocolNodeId motorId) = .beside →
      (c.code deviceName).wp (keepaliveRules deviceName motorId .beside) (fun _ _ => True) g →
      (c.code deviceName).wp (keepaliveRules deviceName motorId (c.part (toProtocolNodeId motorId)))
        (fun _ g' => c.part (toProtocolNodeId motorId) = .operation → g'.Steady) g := by
    intro hpart hwp
    rw [hpart]
    exact wp_mono hwp fun _ _ _ h => absurd h (by decide)
  cases c with
  | operate id call =>
      by_cases hmotor : toProtocolNodeId id = toProtocolNodeId motorId ∧ call.commands = true
      · have hpart : (KeepaliveCall.operate id call).part (toProtocolNodeId motorId) = .operation :=
          if_pos hmotor
        obtain rfl := hown id rfl hmotor.1
        obtain ⟨hsteady, hmay, hneutral⟩ := hstart hpart
        rw [hpart]
        exact wp_mono (onBus_motor (by decide) (DamiaoCan.motorCall_keepalive hdevice
          hsteady hmotor.2 (fun v => hmay id call v rfl) hneutral)) fun _ _ h _ => h
      · have hpart : (KeepaliveCall.operate id call).part (toProtocolNodeId motorId) = .beside :=
          if_neg hmotor
        exact hbeside hpart (onBus_aside (DamiaoCan.aside_motorCall (hown id rfl) hmotor)
          (hblank hpart))
  | keepalive id =>
      by_cases hmotor : toProtocolNodeId id = toProtocolNodeId motorId
      · have hpart : (KeepaliveCall.keepalive id).part (toProtocolNodeId motorId) = .keepalive :=
          if_pos hmotor
        obtain rfl := hown id rfl hmotor
        rw [hpart]
        refine onBus_motor (Q := fun _ => MotorPart.keepalive = .operation → _) (by decide) ?_
        exact wp_bind.2 (wp_mono (DamiaoCan.issueRefreshQuery_keepalive .keepalive)
          fun _ _ _ h => absurd h (by decide))
      · have hpart : (KeepaliveCall.keepalive id).part (toProtocolNodeId motorId) = .beside :=
          if_neg hmotor
        refine hbeside hpart (onBus_aside ?_ (hblank hpart))
        exact (DamiaoCan.aside_issueRefreshQuery (hown id rfl) hmotor).discard
  | work => exact hbeside rfl workerStep_keepalive
  | receive frame =>
      exact hbeside rfl (onBus_aside (DamiaoCan.aside_handleResponse frame) (hblank rfl))

/-! ## the invariant -/

namespace DeviceRuntime

variable {rt rt' : DeviceRuntime} {r x : Request}

/-- Nothing but the submitted request is added to what is waiting. -/
theorem Enqueued.mem_queued {result : Bool × DeviceRuntime} (h : rt.Enqueued r result)
    (hx : x ∈ result.2.queued) : x ∈ rt.queued ∨ x = r := by
  obtain ⟨accepted, rt'⟩ := result
  cases accepted with
  | false =>
      cases h
      exact .inl hx
  | true =>
      have hmem := h.perm.mem_iff.1 (List.mem_append_left _ hx)
      simpa using hmem

/-- What a worker takes was waiting, and nothing is added. -/
theorem mem_queued_of_startSend (hx : x ∈ rt.startSend.2.queued ∨ rt.startSend.1 = some x) :
    x ∈ rt.queued := by
  rcases rt.startSend_cases with hnone | ⟨r, rt', hpopped, hsend⟩
  · rw [hnone] at hx
    simpa using hx
  · rw [hpopped.queued_eq, List.mem_cons]
    rw [hsend] at hx
    exact hx.symm.imp (fun h => (Option.some.inj h).symm) fun h => h

theorem sending_startSend (h : rt.sending = none) : rt.startSend.2.sending = rt.startSend.1 := by
  rcases rt.startSend_cases with hnone | ⟨r, rt', -, hsend⟩
  · rw [hnone]
    exact h
  · rw [hsend]

end DeviceRuntime

section

variable {ι : Type}

/-- While no operation changes the velocity, the motor is to run or not to move; what is under
way carries the velocity commanded last, and nothing is under way while it is changed. -/
structure KeepsAlive (deviceName : String) (motorId : MotorID) (log : KeepaliveLog ι) (b : Bus) :
    Prop where
  knows : DamiaoCan.KnowsMotor deviceName motorId b.dm
  steady : log.changing = false → b.dm.commanded (toProtocolNodeId motorId) = 0 ∨
    b.shared.getAxisIntent (dmKey deviceName motorId) = .run
  carried : ∀ r, log.Outstanding b.runtime r → r.IsKeepalive (toProtocolNodeId motorId) →
    r.frame = DamiaoCan.speedFrame (toProtocolNodeId motorId)
      (DamiaoCan.rawToVelocityRadPerSec (b.dm.commanded (toProtocolNodeId motorId)))
  apart : log.changing = true → ¬log.UnderWay (toProtocolNodeId motorId) b.runtime
  idle : log.active = none → log.changing = false

/-- What the thread of a call knows, and how the record speaks of it. -/
structure KeepaliveRecord (deviceName : String) (motorId : MotorID) (w : KeepaliveLog ι × Bus)
    (i : ι) (part : MotorPart) (g : KeepaliveGhost) : Prop where
  taken : w.1.taken i = g.popped
  agrees : g.Agrees motorId w.2.dm
  blank : part = .beside → g.Blank
  active : part = .operation → w.1.active = some i
  free : part = .operation → g.free = w.1.changing
  running : part = .operation → g.running = true →
    w.2.shared.getAxisIntent (dmKey deviceName motorId) = .run
  ticking : part = .keepalive → w.1.ticking i = true

/-- What an operation on the device does to the motor, whose call may change the velocity. -/
structure KeepaliveMove (deviceName : String) (motorId : MotorID) (i : ι) (part : MotorPart)
    (w w' : KeepaliveLog ι × Bus) : Prop where
  knows : DamiaoCan.KnowsMotor deviceName motorId w'.2.dm
  names : w.2.dm.Names motorId → w'.2.dm.Names motorId
  commanded : (part = .operation ∧ w.1.changing = true) ∨
    w'.2.dm.commanded (toProtocolNodeId motorId) = w.2.dm.commanded (toProtocolNodeId motorId)
  running : part = .operation ∨ (w.2.shared.getAxisIntent (dmKey deviceName motorId) = .run →
    w'.2.shared.getAxisIntent (dmKey deviceName motorId) = .run)
  steady : w.1.changing = false →
    w.2.shared.getAxisIntent (dmKey deviceName motorId) = .run →
    w.2.dm.commanded (toProtocolNodeId motorId) = 0 ∨
      w'.2.shared.getAxisIntent (dmKey deviceName motorId) = .run
  outstanding : ∀ r, w'.1.Outstanding w'.2.runtime r → r.IsKeepalive (toProtocolNodeId motorId) →
    w.1.Outstanding w.2.runtime r ∨ (part = .keepalive ∧
      r.frame = DamiaoCan.speedFrame (toProtocolNodeId motorId)
        (DamiaoCan.rawToVelocityRadPerSec (w.2.dm.commanded (toProtocolNodeId motorId))))
  active : w'.1.active = w.1.active
  changing : w'.1.changing = w.1.changing
  ticking : w'.1.ticking = w.1.ticking
  taken : ∀ j, j ≠ i → w'.1.taken j = w.1.taken j

variable {w w' : KeepaliveLog ι × Bus} {i j : ι} {part : MotorPart}

/-- **Step**: such a move keeps the invariant. -/
theorem KeepaliveMove.keeps (h : KeepaliveMove deviceName motorId i part w w')
    (hr : KeepaliveRecord deviceName motorId w i part g)
    (hw : KeepsAlive deviceName motorId w.1 w.2) : KeepsAlive deviceName motorId w'.1 w'.2 := by
  have hunder : w'.1.UnderWay (toProtocolNodeId motorId) w'.2.runtime →
      w.1.UnderWay (toProtocolNodeId motorId) w.2.runtime := by
    rintro (⟨j, hj⟩ | ⟨r, houtstanding, hkeepalive⟩)
    · exact .inl ⟨j, h.ticking ▸ hj⟩
    · rcases h.outstanding r houtstanding hkeepalive with hbefore | ⟨hpart, -⟩
      · exact .inr ⟨r, hbefore, hkeepalive⟩
      · exact .inl ⟨i, hr.ticking hpart⟩
  have hsame : w'.1.changing = false ∨ w'.1.UnderWay (toProtocolNodeId motorId) w'.2.runtime →
      w'.2.dm.commanded (toProtocolNodeId motorId) =
        w.2.dm.commanded (toProtocolNodeId motorId) := by
    intro hquiet
    rcases h.commanded with ⟨-, hchanging⟩ | hsame
    · rcases hquiet with hquiet | hquiet
      · rw [h.changing, hchanging] at hquiet
        exact absurd hquiet (by decide)
      · exact absurd (hunder hquiet) (hw.apart hchanging)
    · exact hsame
  refine ⟨h.knows, fun hchanging => ?_, fun r houtstanding hkeepalive => ?_, fun hchanging => ?_,
    fun hactive => ?_⟩
  · have hbefore : w.1.changing = false := h.changing ▸ hchanging
    rw [hsame (.inl hchanging)]
    rcases hw.steady hbefore with hzero | hrun
    · exact .inl hzero
    · exact h.steady hbefore hrun
  · rw [hsame (.inr (.inr ⟨r, houtstanding, hkeepalive⟩))]
    rcases h.outstanding r houtstanding hkeepalive with hbefore | ⟨-, hframe⟩
    · exact hw.carried r hbefore hkeepalive
    · exact hframe
  · exact fun hunderWay => hw.apart (h.changing ▸ hchanging) (hunder hunderWay)
  · rw [h.changing]
    exact hw.idle (h.active ▸ hactive)

/-- **Step**: and it leaves the other threads what they know. -/
theorem KeepaliveMove.other (h : KeepaliveMove deviceName motorId i part w w')
    (hi : part = .operation → w.1.active = some i) (hw : KeepsAlive deviceName motorId w.1 w.2)
    (hji : j ≠ i) {part' : MotorPart} (hr : KeepaliveRecord deviceName motorId w j part' g) :
    KeepaliveRecord deviceName motorId w' j part' g := by
  have halone : part' = .operation → part ≠ .operation := fun hpart' hpart =>
    hji (Option.some.inj ((hr.active hpart').symm.trans (hi hpart)))
  refine ⟨(h.taken j hji).trans hr.taken, ⟨fun v hv => ?_, fun hn => h.names (hr.agrees.named hn)⟩,
    hr.blank, fun hpart => h.active.trans (hr.active hpart),
    fun hpart => (hr.free hpart).trans h.changing.symm, fun hpart hrun => ?_,
    fun hpart => (congrFun h.ticking j).trans (hr.ticking hpart)⟩
  · rcases h.commanded with ⟨hpart, hchanging⟩ | hsame
    · cases part' with
      | operation => exact absurd hpart (halone rfl)
      | keepalive => exact absurd (.inl ⟨j, hr.ticking rfl⟩) (hw.apart hchanging)
      | beside => exact absurd ((hr.blank rfl).1.symm.trans hv) (by simp)
    · exact hsame.trans (hr.agrees.velocity v hv)
  · rcases h.running with hoperation | hkeeps
    · exact absurd hoperation (halone hpart)
    · exact hkeeps (hr.running hpart hrun)

/-- What happens to the motor when nothing but the queues and the worker's hands change. -/
theorem KeepaliveMove.of_same (hw : KeepsAlive deviceName motorId w.1 w.2) (hdm : w'.2.dm = w.2.dm)
    (hshared : w'.2.shared = w.2.shared)
    (houtstanding : ∀ r, w'.1.Outstanding w'.2.runtime r →
      r.IsKeepalive (toProtocolNodeId motorId) → w.1.Outstanding w.2.runtime r ∨
        (part = .keepalive ∧ r.frame = DamiaoCan.speedFrame (toProtocolNodeId motorId)
          (DamiaoCan.rawToVelocityRadPerSec (w.2.dm.commanded (toProtocolNodeId motorId)))))
    (hlog : ∃ taken, w'.1 = { w.1 with taken } ∧ ∀ j, j ≠ i → taken j = w.1.taken j) :
    KeepaliveMove deviceName motorId i part w w' := by
  obtain ⟨taken, hlog, htaken⟩ := hlog
  refine ⟨hdm ▸ hw.knows, fun h => hdm ▸ h, .inr (by rw [hdm]), .inr fun h => hshared ▸ h,
    fun _ h => .inr (hshared ▸ h), houtstanding, ?_, ?_, ?_, fun j hj => ?_⟩
  all_goals rw [hlog]
  exact htaken j hj

variable [DecidableEq ι]

/-- **Step**: what the rules allow is such a move, and the thread knows what it did. -/
theorem keepaliveMove_act {p : KeepalivePool ι} (p' : KeepalivePool ι) {log : KeepaliveLog ι}
    {op : BusOp} {r : op.Ans} (hw : KeepsAlive deviceName motorId log p.shared)
    (hr : KeepaliveRecord deviceName motorId (log, p.shared) i part g)
    (hallow : (keepaliveRules deviceName motorId part).allow g op)
    (hadmits : p.shared.admits op r) (hbus : p'.shared = p.shared.after op r) :
    (keepaliveRules deviceName motorId part).accepts g op r ∧
      KeepaliveMove deviceName motorId i part (log, p.shared)
        (log.note (toProtocolNodeId motorId) p (.act i op) p', p'.shared) ∧
      KeepaliveRecord deviceName motorId
        (log.note (toProtocolNodeId motorId) p (.act i op) p', p'.shared) i part
        ((keepaliveRules deviceName motorId part).next g op r) := by
  cases op with
  | dm f =>
      obtain rfl : r = p.shared.dm := hadmits
      rw [hbus]
      refine ⟨⟨hw.knows, hr.agrees⟩, ⟨hallow.1.knows _ hw.knows, hallow.1.names _ hw.knows, ?_,
        .inr fun h => h, fun _ h => .inr h, fun _ h _ => .inl h, rfl, rfl, rfl, fun _ _ => rfl⟩, ?_⟩
      · rcases hallow.2 with ⟨hpart, hfree⟩ | hsame
        · exact .inl ⟨hpart, (hr.free hpart).symm.trans hfree⟩
        · exact .inr (hsame _ hr.agrees)
      · by_cases hpart : part = .beside
        · have hnext : (keepaliveRules deviceName motorId part).next g (.dm f) p.shared.dm = g :=
            if_pos hpart
          rw [hnext]
          exact ⟨hr.taken, (hr.blank hpart).agrees _, hr.blank, hr.active, hr.free, hr.running,
            hr.ticking⟩
        · have hnext : (keepaliveRules deviceName motorId part).next g (.dm f) p.shared.dm =
            g.touch motorId f p.shared.dm := if_neg hpart
          rw [hnext]
          refine ⟨hr.taken, ⟨fun v hv => Option.some.inj hv, fun hn => ?_⟩,
            fun h => absurd h hpart, hr.active, hr.free, hr.running, hr.ticking⟩
          rcases Bool.or_eq_true_iff.1 hn with hnamed | hnames
          · exact hallow.1.names _ hw.knows (hr.agrees.named hnamed)
          · exact of_decide_eq_true hnames
  | shared f =>
      obtain rfl : r = p.shared.shared := hadmits
      rw [hbus]
      refine ⟨fun hpart hrun => hr.running hpart hrun, ⟨hw.knows, fun h => h, .inr rfl, ?_,
        fun hchanging hrun => ?_, fun _ h _ => .inl h, rfl, rfl, rfl, fun _ _ => rfl⟩, ?_⟩
      · exact hallow.imp (fun h => h.1) fun h => h _
      · rcases hallow with ⟨hpart, hfree | hzero⟩ | hkeeps
        · exact absurd ((hr.free hpart).symm.trans hfree) (by rw [hchanging]; decide)
        · exact .inl (hr.agrees.velocity 0 hzero)
        · exact .inr (hkeeps _ hrun)
      · exact ⟨hr.taken, ⟨hr.agrees.velocity, hr.agrees.named⟩, hr.blank, hr.active, hr.free,
          fun _ h => of_decide_eq_true h, hr.ticking⟩
  | enqueue q =>
      rw [hbus]
      refine ⟨trivial, .of_same hw rfl rfl (fun x hx hkeepalive => ?_) ⟨_, rfl, fun _ _ => rfl⟩, ?_⟩
      · rcases hx with hqueued | htaken
        · rcases (p.shared.runtime.enqueue_enqueued q).mem_queued hqueued with hbefore | rfl
          · exact .inl (.inl hbefore)
          · obtain ⟨hpart, v, hv, hframe⟩ := hallow hkeepalive
            refine .inr ⟨hpart, ?_⟩
            rw [hr.agrees.velocity v hv]
            exact hframe
        · exact .inl (.inr htaken)
      · exact ⟨hr.taken, hr.agrees, hr.blank, hr.active, hr.free, hr.running, hr.ticking⟩
  | pop =>
      obtain ⟨hsending, rfl⟩ := hadmits
      have hpopped : p.shared.runtime.startSend.2.sending = p.shared.runtime.startSend.1 :=
        DeviceRuntime.sending_startSend hsending
      have hlog : log.note (toProtocolNodeId motorId) p (.act i .pop) p' =
          { log with taken := Function.update log.taken i p.shared.runtime.startSend.1 } := by
        rw [KeepaliveLog.note, hbus]
        exact congrArg (fun x => { log with taken := Function.update log.taken i x }) hpopped
      rw [hlog, hbus]
      refine ⟨trivial, .of_same hw rfl rfl (fun x hx _ => .inl ?_)
        ⟨_, rfl, fun j hj => Function.update_of_ne hj _ _⟩, ?_⟩
      · rcases hx with hqueued | ⟨j, hj⟩
        · exact .inl (DeviceRuntime.mem_queued_of_startSend (.inl hqueued))
        · by_cases hji : j = i
          · subst hji
            have htaken := (Function.update_self _ _ _).symm.trans hj
            exact .inl (DeviceRuntime.mem_queued_of_startSend (.inr htaken))
          · exact .inr ⟨j, (Function.update_of_ne hji _ _).symm.trans hj⟩
      · exact ⟨Function.update_self _ _ _, ⟨hr.agrees.velocity, hr.agrees.named⟩, hr.blank,
          hr.active, hr.free, hr.running, hr.ticking⟩
  | transmit frame =>
      rw [hbus]
      refine ⟨trivial, .of_same hw rfl rfl (fun x hx _ => .inl ?_)
        ⟨_, rfl, fun j hj => Function.update_of_ne hj _ _⟩, ?_⟩
      · refine hx.imp (fun h => h) fun ⟨j, hj⟩ => ?_
        by_cases hji : j = i
        · subst hji
          exact absurd ((Function.update_self _ _ _).symm.trans hj) (by simp)
        · exact ⟨j, (Function.update_of_ne hji _ _).symm.trans hj⟩
      · exact ⟨Function.update_self _ _ _, ⟨hr.agrees.velocity, hr.agrees.named⟩, hr.blank,
          hr.active, hr.free, hr.running, hr.ticking⟩
  | clock | account | eyou | mt =>
      rw [hbus]
      exact ⟨trivial, .of_same hw rfl rfl (fun _ h _ => .inl h) ⟨_, rfl, fun _ _ => rfl⟩,
        ⟨hr.taken, hr.agrees, hr.blank, hr.active, hr.free, hr.running, hr.ticking⟩⟩
  | _ => exact hallow.elim

/-! ## runs -/

/-- What holds in every run. -/
abbrev KeptAlive (deviceName : String) (motorId : MotorID) (w : KeepalivePool ι × KeepaliveLog ι) :
    Prop :=
  Pool.Concludes
    (fun c => keepaliveRules deviceName motorId (c.part (toProtocolNodeId motorId)))
    (fun c _ g => c.part (toProtocolNodeId motorId) = .operation → g.Steady)
    (fun w b => w.2 = b ∧ KeepsAlive deviceName motorId w.1 b)
    (fun w i c g => KeepaliveRecord deviceName motorId w i (c.part (toProtocolNodeId motorId)) g)
    (w.2, w.1.shared) w.1

variable {w w' : KeepalivePool ι × KeepaliveLog ι} {e : KeepaliveEvent ι}

/-- **Step**: a call begins. -/
theorem keepsAlive_call {c : KeepaliveCall} (hdevice : deviceName ≠ "")
    (hw : KeepsAlive deviceName motorId w.2 w.1.shared)
    (hsequenced : Sequenced motorId w (.call i c))
    (hapart : KeptApart (toProtocolNodeId motorId) w (.call i c)) (p' : KeepalivePool ι) :
    KeepsAlive deviceName motorId (w.2.note (toProtocolNodeId motorId) w.1 (.call i c) p')
        w.1.shared ∧
      ∃ g, KeepaliveRecord deviceName motorId
          (w.2.note (toProtocolNodeId motorId) w.1 (.call i c) p', w.1.shared) i
          (c.part (toProtocolNodeId motorId)) g ∧
        (c.code deviceName).wp
          (keepaliveRules deviceName motorId (c.part (toProtocolNodeId motorId)))
          (fun _ g' => c.part (toProtocolNodeId motorId) = .operation → g'.Steady) g := by
  have hown : ∀ id, c.motor = some id → toProtocolNodeId id = toProtocolNodeId motorId →
      id = motorId := fun id => hsequenced.own i c id rfl
  rw [KeepaliveLog.note]
  cases hpart : c.part (toProtocolNodeId motorId) with
  | operation =>
      have hactive := hsequenced.alone i c rfl hpart
      have hsteady := hw.steady (hw.idle hactive)
      refine ⟨⟨hw.knows, fun _ => hsteady, hw.carried, fun hchanging => ?_,
        fun h => absurd h (by simp)⟩, ?_⟩
      · exact hapart.quiet i c rfl hpart hchanging
      · let g : KeepaliveGhost :=
          { free := c.changes (w.1.shared.dm.commanded (toProtocolNodeId motorId))
            velocity := some (w.1.shared.dm.commanded (toProtocolNodeId motorId))
            running := decide (w.1.shared.shared.getAxisIntent (dmKey deviceName motorId) = .run)
            popped := w.2.taken i }
        refine ⟨g, ⟨rfl, ⟨fun v hv => Option.some.inj hv, fun h => absurd h Bool.false_ne_true⟩,
          fun h => absurd h (by decide), fun _ => rfl, fun _ => rfl,
          fun _ h => of_decide_eq_true h, fun h => absurd h (by decide)⟩, ?_⟩
        have hcode := keepaliveCall_code (g := g) hdevice hown (fun h => absurd (hpart.symm.trans h)
          (by decide)) fun _ => ⟨?_, fun id call v hc hv => ?_, fun hneutral => ?_⟩
        · rw [hpart] at hcode
          exact hcode
        · exact hsteady.imp (fun h => congrArg some h) fun h => decide_eq_true h
        · subst hc
          by_cases hsame : v = w.1.shared.dm.commanded (toProtocolNodeId motorId)
          · exact .inr (congrArg some hsame.symm)
          · exact .inl (by simp [g, KeepaliveCall.changes, hv, hsame])
        · exact congrArg some (hapart.neutral i c rfl hpart hneutral)
  | keepalive =>
      have hchanging := hapart.steady i c rfl hpart
      refine ⟨⟨hw.knows, hw.steady, hw.carried, fun h => ?_, hw.idle⟩, ?_⟩
      · exact absurd (hchanging.symm.trans h) (by decide)
      · refine ⟨{ popped := w.2.taken i }, ⟨rfl, KeepaliveGhost.Blank.agrees ⟨rfl, rfl⟩ _,
          fun h => absurd h (by decide), fun h => absurd h (by decide),
          fun h => absurd h (by decide), fun h => absurd h (by decide),
          fun _ => Function.update_self _ _ _⟩, ?_⟩
        have hcode := keepaliveCall_code (g := { popped := w.2.taken i }) hdevice hown
          (fun h => absurd (hpart.symm.trans h) (by decide))
          fun h => absurd (hpart.symm.trans h) (by decide)
        rw [hpart] at hcode
        exact hcode
  | beside =>
      refine ⟨hw, { popped := w.2.taken i }, ⟨rfl, KeepaliveGhost.Blank.agrees ⟨rfl, rfl⟩ _,
        fun _ => ⟨rfl, rfl⟩, fun h => absurd h (by decide), fun h => absurd h (by decide),
        fun h => absurd h (by decide), fun h => absurd h (by decide)⟩, ?_⟩
      have hcode := keepaliveCall_code (g := { popped := w.2.taken i }) hdevice hown
        (fun _ => ⟨rfl, rfl⟩) fun h => absurd (hpart.symm.trans h) (by decide)
      rw [hpart] at hcode
      exact hcode

omit [DecidableEq ι] in
/-- A thread whose operation, or keepalive, is not concerned knows what it knew. -/
theorem KeepaliveRecord.of_log {log log' : KeepaliveLog ι} {b : Bus} {part : MotorPart}
    (h : KeepaliveRecord deviceName motorId (log, b) i part g) (htaken : log'.taken i = log.taken i)
    (hoperation : part = .operation → log'.active = log.active ∧ log'.changing = log.changing)
    (hticking : part = .keepalive → log'.ticking i = log.ticking i) :
    KeepaliveRecord deviceName motorId (log', b) i part g where
  taken := htaken.trans h.taken
  agrees := h.agrees
  blank := h.blank
  active hpart := (hoperation hpart).1.trans (h.active hpart)
  free hpart := (h.free hpart).trans (hoperation hpart).2.symm
  running := h.running
  ticking hpart := (hticking hpart).trans (h.ticking hpart)

/-- **Step**: the invariant of the threads is kept. -/
theorem keptAlive_step (hdevice : deviceName ≠ "") (h : KeptAlive deviceName motorId w)
    (hC : Sequenced motorId w e ∧ KeptApart (toProtocolNodeId motorId) w e)
    (hs : KeepaliveStep deviceName (toProtocolNodeId motorId) w e w') :
    KeptAlive deviceName motorId w' := by
  obtain ⟨p', log'⟩ := w'
  obtain ⟨hs, hnote⟩ := hs
  obtain ⟨hsequenced, hapart⟩ := hC
  dsimp only at hs hnote ⊢
  have hw := h.shared.2
  have hquiet : (∀ i op, e ≠ .act i op) → p'.shared = w.1.shared := by
    intro he
    cases hs with
    | act i c op k r s' hi hop => exact absurd rfl (he i op)
    | call | ret => rfl
  refine h.step (fun i c he hi => ?_) (fun i c op k g r s' he hi hR hallow hserves hshared => ?_)
    (fun i a he => ?_) (fun j c g hji hR => ?_) hs
  · subst he
    have hsame := hquiet fun i' op hact => by simp at hact
    obtain ⟨hkeeps, hg⟩ := keepsAlive_call hdevice hw hsequenced hapart p'
    rw [hsame, hnote]
    exact ⟨⟨rfl, hkeeps⟩, hg⟩
  · obtain ⟨hadmits, hbus⟩ := hserves
    rw [← hshared] at hbus ⊢
    subst he
    obtain ⟨haccepts, hmove, hrecord⟩ := keepaliveMove_act p' hw hR hallow hadmits hbus
    rw [← hnote] at hmove hrecord
    exact ⟨haccepts, ⟨rfl, hmove.keeps hR hw⟩, hrecord⟩
  · subst he
    have hsame := hquiet fun i' op hact => by simp at hact
    obtain ⟨t, hi⟩ : ∃ t, w.1.thread i = some t := by
      cases hs with
      | ret _ c _ hi => exact ⟨_, hi⟩
    obtain ⟨g, hR, hsteady⟩ := h.ret hi hs
    rw [hsame]
    refine ⟨rfl, ?_⟩
    rw [hnote, KeepaliveLog.note, hi]
    dsimp only
    cases hpart : t.call.part (toProtocolNodeId motorId) with
    | operation =>
        refine ⟨hw.knows, fun _ => ?_, hw.carried, fun h => absurd h Bool.false_ne_true,
          fun _ => rfl⟩
        exact (hsteady hpart).imp (fun h => hR.agrees.velocity 0 h) fun h => hR.running hpart h
    | keepalive =>
        refine ⟨hw.knows, hw.steady, hw.carried, fun hchanging hunder => hw.apart hchanging ?_,
          hw.idle⟩
        refine hunder.imp (fun ⟨j, hj⟩ => ⟨j, ?_⟩) fun h => h
        by_cases hji : j = i
        · subst hji
          exact absurd ((Function.update_self _ _ _).symm.trans hj) Bool.false_ne_true
        · exact (Function.update_of_ne hji _ _).symm.trans hj
    | beside => exact hw
  · cases hs with
    | call i c' hi =>
        rw [hnote]
        refine hR.of_log ?_ (fun hoperation => ?_) fun _ => ?_
        all_goals
          rw [KeepaliveLog.note]
          cases hpart : c'.part (toProtocolNodeId motorId)
        all_goals try rfl
        · have hidle := hsequenced.alone i c' rfl hpart
          exact absurd ((hR.active hoperation).symm.trans hidle) (by simp)
        · exact ⟨rfl, rfl⟩
        · exact ⟨rfl, rfl⟩
        · exact Function.update_of_ne hji _ _
    | ret i c' a hi =>
        obtain ⟨g', hR', -⟩ := h.thread i _ hi
        rw [hnote]
        refine hR.of_log ?_ (fun hoperation => ?_) fun _ => ?_
        all_goals
          rw [KeepaliveLog.note, hi]
          dsimp only
          cases hpart : c'.part (toProtocolNodeId motorId)
        all_goals try rfl
        · have hboth := (hR.active hoperation).symm.trans (hR'.active hpart)
          exact absurd (Option.some.inj hboth) hji
        · exact ⟨rfl, rfl⟩
        · exact ⟨rfl, rfl⟩
        · exact Function.update_of_ne hji _ _
    | act i c' op k r s' hi hserves =>
        obtain ⟨g', hR', hwp⟩ := h.thread i _ hi
        obtain ⟨-, hmove, -⟩ := keepaliveMove_act
          ⟨s', (w.1.setThread i (some ⟨c', k r⟩)).thread⟩ hw hR' hwp.1 hserves.1 hserves.2
        rw [hnote]
        exact hmove.other hR'.active hw hji hR

/-- **Run**: while velocity zero is commanded whenever the motor is enabled or its fault reset,
and its velocity is not changed while a keepalive of it is under way, every keepalive that is sent
carries the velocity commanded last, and velocity zero unless the motor is to run. -/
theorem keepalive_safe (motorId : MotorID) (hdevice : deviceName ≠ "") (b : Bus)
    (options : RuntimeOptions)
    (hr : Reach (KeepaliveStep deviceName (toProtocolNodeId motorId))
      (fun w e => Sequenced motorId w e ∧ KeptApart (toProtocolNodeId motorId) w e)
      (Pool.idle { b with dm := { deviceName }, runtime := { options } }, {}) w)
    (hs : KeepaliveStep deviceName (toProtocolNodeId motorId) w e w') :
    SafeToSend deviceName motorId w e := by
  have h : KeptAlive deviceName motorId w := by
    refine Reach.invariant (I := KeptAlive deviceName motorId) (.idle ⟨rfl, ?_⟩)
      (fun w e w' h hC hs => keptAlive_step hdevice h hC hs) hr
    refine ⟨⟨rfl, rfl, fun n id h => absurd h (by simp)⟩, fun _ => .inl rfl, fun r hr => ?_,
      fun h => absurd h Bool.false_ne_true, fun _ => rfl⟩
    rcases hr with hqueued | ⟨i, hi⟩
    · exact absurd hqueued (by simp [DeviceRuntime.queued])
    · exact absurd hi (by simp)
  rintro i frame rfl
  obtain ⟨p', log'⟩ := w'
  obtain ⟨hs, -⟩ := hs
  cases hs with
  | act _ c _ k _ _ hi _ =>
      obtain ⟨g, hR, hwp⟩ := h.thread i _ hi
      obtain ⟨-, r, hpopped, rfl⟩ := hwp.1
      have htaken : w.2.taken i = some r := hR.taken.trans hpopped
      have houtstanding : w.2.Outstanding w.1.shared.runtime r := .inr ⟨i, htaken⟩
      refine ⟨r, htaken, rfl, fun hkeepalive => ?_⟩
      have hframe := h.shared.2.carried r houtstanding hkeepalive
      refine ⟨hframe, ?_⟩
      have hquiet : w.2.changing = false := by
        refine Bool.eq_false_of_not_eq_true fun hchanging => ?_
        exact h.shared.2.apart hchanging (.inr ⟨r, houtstanding, hkeepalive⟩)
      rcases h.shared.2.steady hquiet with hzero | hrun
      · refine .inr ?_
        rw [hframe, hzero]
        have hraw : DamiaoCan.rawToVelocityRadPerSec 0 = 0 := by decide +kernel
        rw [hraw]
      · exact .inl hrun

end

/-! ## a fault reset with a velocity commanded -/

/-- The step thread 3 is about to make, if it is to send a frame. -/
def aboutToSend (w : KeepalivePool (Fin 4) × KeepaliveLog (Fin 4)) : Option Frame :=
  match w.1.thread 3 with
  | some ⟨_, .vis (.transmit frame) _⟩ => some frame
  | _ => none

theorem step_of_aboutToSend {w : KeepalivePool (Fin 4) × KeepaliveLog (Fin 4)} {frame : Frame}
    (h : aboutToSend w = some frame) :
    ∃ w', KeepaliveStep "can0" 1 w (.act 3 (.transmit frame)) w' := by
  rw [aboutToSend] at h
  split at h
  · next c frame' k hi =>
    obtain rfl := Option.some.inj h
    have hs : Pool.Step (KeepaliveCall.code "can0") (fun b _ => b.serves) w.1
        (.act 3 (.transmit frame')) _ :=
      .act w.1 3 c (.transmit frame') k SendResult.ok w.1.shared hi ⟨trivial, rfl⟩
    exact ⟨(_, _), hs, rfl⟩
  · exact absurd h (by simp)

/-- DM motor 1 repeats the register write that puts it into velocity mode. -/
def velocityModeReached : Frame :=
  { DamiaoCan.registerFrame 1 DamiaoCan.kDamiaoControlModeRegister
      DamiaoCan.kDamiaoVelocityModeValue with id := DamiaoCan.kDamiaoMasterId }

/-- Motor 1 is told to move, once it has acknowledged the mode. -/
def toldToMove : List (Pool.Move (Fin 4) KeepaliveCall) :=
  Pool.callFor 0 (.operate 1 (.setVelocity 100)) 8 ++
    Pool.callFor 1 (.receive velocityModeReached) 2 ++ List.replicate 13 (.go 0)

/-- A checked form of `Sequenced`. -/
def sequenced (w : KeepalivePool (Fin 4) × KeepaliveLog (Fin 4)) : KeepaliveEvent (Fin 4) → Bool
  | .call _ c =>
      c.motor.all (fun id => id == 1) && (decide (c.part 1 ≠ .operation) || w.2.active.isNone)
  | _ => true

theorem sequenced_spec {w : KeepalivePool (Fin 4) × KeepaliveLog (Fin 4)}
    {e : KeepaliveEvent (Fin 4)} (h : sequenced w e = true) : Sequenced 1 w e := by
  refine ⟨fun i c id he hid _ => ?_, fun i c he hpart => ?_⟩
  all_goals
    subst he
    obtain ⟨hown, hactive⟩ := Bool.and_eq_true_iff.1 h
  · rw [hid] at hown
    exact eq_of_beq hown
  · have hpart : c.part 1 = .operation := hpart
    simpa [hpart] using hactive

/-- A checked form of `KeptApart`. -/
def keptApart (w : KeepalivePool (Fin 4) × KeepaliveLog (Fin 4)) : KeepaliveEvent (Fin 4) → Bool
  | .call _ c =>
      match c.part 1 with
      | .operation =>
          (!c.neutral || w.1.shared.dm.commanded 1 == 0) &&
            (!c.changes (w.1.shared.dm.commanded 1) ||
              decide (∀ i, w.2.ticking i = false ∧ w.2.taken i = none) &&
                w.1.shared.runtime.queued.all fun r => !decide (r.IsKeepalive 1))
      | .keepalive => !w.2.changing
      | .beside => true
  | _ => true

theorem keptApart_spec {w : KeepalivePool (Fin 4) × KeepaliveLog (Fin 4)}
    {e : KeepaliveEvent (Fin 4)} (h : keptApart w e = true) : KeptApart 1 w e := by
  refine ⟨fun i c he hpart hneutral => ?_, fun i c he hpart hchanges => ?_, fun i c he hpart => ?_⟩
  all_goals
    subst he
    rw [keptApart, hpart] at h
  · simp only [hneutral, Bool.and_eq_true, Bool.not_true, Bool.false_or, beq_iff_eq] at h
    exact h.1
  · simp only [hchanges, Bool.and_eq_true, Bool.not_true, Bool.false_or, decide_eq_true_eq,
      List.all_eq_true] at h
    obtain ⟨-, hthreads, hqueued⟩ := h
    rintro (⟨j, hj⟩ | ⟨r, hr | ⟨j, hj⟩, hkeepalive⟩)
    · exact absurd ((hthreads j).1.symm.trans hj) Bool.false_ne_true
    · have hnot := hqueued r hr
      simp only [hkeepalive, decide_true, Bool.not_true, Bool.false_eq_true] at hnot
    · exact absurd ((hthreads j).2.symm.trans hj) (by simp)
  · simpa using h

/-- A keepalive after a stop carries velocity zero. -/
theorem keepalive_after_stop : ∃ (w w' : KeepalivePool (Fin 4) × KeepaliveLog (Fin 4)) (e : _),
    Reach (KeepaliveStep "can0" 1) (fun w e => Sequenced 1 w e ∧ KeptApart 1 w e)
      (Pool.idle { Bus.powerOn "can0" {} {} 0 with
        dm := { deviceName := "can0" }, runtime := { options := {} } }, {}) w ∧
    KeepaliveStep "can0" 1 w e w' ∧ SafeToSend "can0" 1 w e ∧
    e = .act 3 (.transmit (DamiaoCan.speedFrame 1 0)) := by
  have hrun : (Pool.followWhile (KeepaliveCall.code "can0") (fun b _ => b.serve)
      (KeepaliveLog.note 1) (fun w e => sequenced w e && keptApart w e)
      (Pool.idle { Bus.powerOn "can0" {} {} 0 with
        dm := { deviceName := "can0" }, runtime := { options := {} } }, {})
      (toldToMove ++ Pool.callFor 0 (.operate 1 .stop) 12 ++ Pool.callFor 3 .work 5 ++
        Pool.callFor 3 .work 5 ++ Pool.callFor 2 (.keepalive 1) 8 ++ Pool.callFor 3 .work 2)).any
        (fun w => decide (aboutToSend w = some (DamiaoCan.speedFrame 1 0))) = true := by
    decide +kernel
  have hchecks : ∀ (w : KeepalivePool (Fin 4) × KeepaliveLog (Fin 4)) e,
      (sequenced w e && keptApart w e) = true → Sequenced 1 w e ∧ KeptApart 1 w e := fun w e h =>
    (Bool.and_eq_true_iff.1 h).imp sequenced_spec keptApart_spec
  obtain ⟨w, hr, htest⟩ := Pool.exists_of_followWhile (h := fun b _ => b.serves)
    (fun _ _ _ _ _ => serves_of_serve) hchecks hrun
  obtain ⟨w', hs⟩ := step_of_aboutToSend (of_decide_eq_true htest)
  exact ⟨w, w', _, hr, hs, keepalive_safe 1 (by decide) (Bus.powerOn "can0" {} {} 0) {} hr hs, rfl⟩

/-- Resetting a fault leaves the velocity commanded, and the keepalive sends it again. -/
theorem keepalive_after_resetFault : ¬ ∀ (w w' : KeepalivePool (Fin 4) × KeepaliveLog (Fin 4)) e,
    Reach (KeepaliveStep "can0" 1) (Sequenced 1)
      (Pool.idle { Bus.powerOn "can0" {} {} 0 with
        dm := { deviceName := "can0" }, runtime := { options := {} } }, {}) w →
    KeepaliveStep "can0" 1 w e w' → SafeToSend "can0" 1 w e := by
  intro hclaim
  have hrun : (Pool.followWhile (KeepaliveCall.code "can0") (fun b _ => b.serve)
      (KeepaliveLog.note 1) sequenced (Pool.idle { Bus.powerOn "can0" {} {} 0 with
        dm := { deviceName := "can0" }, runtime := { options := {} } }, {})
      (toldToMove ++ Pool.callFor 0 (.operate 1 .resetFault) 8 ++ Pool.callFor 3 .work 5 ++
        Pool.callFor 3 .work 5 ++ Pool.callFor 3 .work 5 ++ Pool.callFor 2 (.keepalive 1) 8 ++
        Pool.callFor 3 .work 2)).any
        (fun w => (aboutToSend w).any (fun frame => decide (frame ≠ DamiaoCan.speedFrame 1 0)) &&
          (w.2.taken 3).any (fun r => decide (r.IsKeepalive 1)) &&
          decide (w.1.shared.shared.getAxisIntent (dmKey "can0" 1) ≠ .run)) = true := by
    decide +kernel
  obtain ⟨w, hr, htest⟩ := Pool.exists_of_followWhile (h := fun b _ => b.serves)
    (fun _ _ _ _ _ => serves_of_serve) (fun _ _ => sequenced_spec) hrun
  simp only [Bool.and_eq_true, decide_eq_true_eq, Option.any_eq_true] at htest
  obtain ⟨⟨⟨frame, hsend, hmoves⟩, r, htaken, hkeepalive⟩, hintent⟩ := htest
  obtain ⟨w', hs⟩ := step_of_aboutToSend hsend
  obtain ⟨r', htaken', -, hsafe⟩ := hclaim w w' _ hr hs 3 frame rfl
  obtain rfl : r = r' := Option.some.inj (htaken.symm.trans htaken')
  rcases (hsafe hkeepalive).2 with hrunning | hzero
  · exact hintent hrunning
  · exact hmoves hzero

end CanDriver
