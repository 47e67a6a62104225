import CanDriver.OperationalCoordinator

/-!
# CanDriver.Coordinator.Lifecycle

The lifecycle law of the coordinator when its calls run one after another.

The driver is seen at its own calls: which functions of the driver table are
set is a `Wiring`, what each call answers is up to an arbitrary `drv` over an
arbitrary world.  `Obeys` says, for one call, when each mode may be entered and
left; it speaks about every intermediate mode the call passes through, not only
about the mode before and after.

The proof turns the law into a protocol over a `Ledger` (the mode a call found,
the mode now, the driver calls made so far), gives one rule per operation and
one for `DoTransition`, and checks the program of each request against it.
-/

namespace CanDriver

open Interact

/-! ## the driver at its calls -/

/-- One call into the driver table. -/
inductive DriverCall where
  | initDevice (device : String) (loopback : Bool)
  | enableAll
  | disableAll
  | haltAll
  | recoverAll
  | shutdownAll (force : Bool)
  | enableHealthy (detail : String)
  | motionHealthy (detail : String)
  | holdCommands
  | armFreshCommandLatch
deriving DecidableEq, Repr

/-- What each driver call returns. -/
@[reducible] def DriverCall.Ans : DriverCall → Type
  | enableHealthy _ => Bool × String
  | motionHealthy _ => Bool × String
  | holdCommands => Unit
  | armFreshCommandLatch => Unit
  | _ => Result

/-- The driver as an interface. -/
abbrev driverSig : Sig := ⟨DriverCall, DriverCall.Ans⟩

/-- One driver call. -/
def ask (c : DriverCall) : Prog driverSig c.Ans := Prog.vis (S := driverSig) c .ret

/-- Which functions of the driver table are set. -/
structure Wiring where
  initDevice : Bool
  enableAll : Bool
  disableAll : Bool
  haltAll : Bool
  recoverAll : Bool
  shutdownAll : Bool
  enableHealthy : Bool
  motionHealthy : Bool
  holdCommands : Bool
  armFreshCommandLatch : Bool

/-- The driver table of a wiring. -/
def Wiring.ops (w : Wiring) : DriverOps driverSig where
  initDevice := if w.initDevice then some fun d l => ask (.initDevice d l) else none
  enableAll := if w.enableAll then some (ask .enableAll) else none
  disableAll := if w.disableAll then some (ask .disableAll) else none
  haltAll := if w.haltAll then some (ask .haltAll) else none
  recoverAll := if w.recoverAll then some (ask .recoverAll) else none
  shutdownAll := if w.shutdownAll then some fun f => ask (.shutdownAll f) else none
  enableHealthy := if w.enableHealthy then some fun d => ask (.enableHealthy d) else none
  motionHealthy := if w.motionHealthy then some fun d => ask (.motionHealthy d) else none
  holdCommands := if w.holdCommands then some (ask .holdCommands) else none
  armFreshCommandLatch :=
    if w.armFreshCommandLatch then some (ask .armFreshCommandLatch) else none

/-! ## running calls one after another -/

/-- The mode and whatever the driver works on. -/
structure System (W : Type) where
  mode : SystemOpMode
  world : W

/-- Serve one operation; the mutex is always free. -/
def serve (drv : (c : DriverCall) → W → c.Ans × W) :
    (op : (coordSig driverSig).Op) → System W → (coordSig driverSig).Ans op × System W
  | .lock, s => ((), s)
  | .unlock, s => ((), s)
  | .load, s => (s.mode, s)
  | .store m, s => ((), { s with mode := m })
  | .exchange m, s => (s.mode, { s with mode := m })
  | .compareExchange expected desired, s =>
      (decide (s.mode = expected),
        { s with mode := if s.mode = expected then desired else s.mode })
  | .driver c, s => ((drv c s.world).1, { s with world := (drv c s.world).2 })

/-- One call from start to end. -/
def runCall (w : Wiring) (drv : (c : DriverCall) → W → c.Ans × W) (s : System W) (c : CoordCall) :
    Option Result × System W :=
  (c.code w.ops).eval (serve drv) s

/-- The operations of one call. -/
def callTrace (w : Wiring) (drv : (c : DriverCall) → W → c.Ans × W) (s : System W)
    (c : CoordCall) : List (Σ op, (coordSig driverSig).Ans op) :=
  (c.code w.ops).trace (serve drv) s

/-- A sequence of calls. -/
def runCalls (w : Wiring) (drv : (c : DriverCall) → W → c.Ans × W) (s : System W)
    (cs : List CoordCall) : System W :=
  cs.foldl (fun s c => (runCall w drv s c).2) s

/-! ## the law -/

/-- A driver call together with its answer. -/
abbrev DriverEvent := Σ c : DriverCall, c.Ans

/-- The driver event of an operation, if it is one. -/
def driverEvent : (op : (coordSig driverSig).Op) → (coordSig driverSig).Ans op → List DriverEvent
  | .driver c, r => [⟨c, r⟩]
  | _, _ => []

/-- The driver events of a trace. -/
def driverEvents (tr : List (Σ op, (coordSig driverSig).Ans op)) : List DriverEvent :=
  tr.flatMap fun e => driverEvent e.1 e.2

/-- The mode a trace leads to. -/
def modeAt (m : SystemOpMode) (tr : List (Σ op, (coordSig driverSig).Ans op)) : SystemOpMode :=
  tr.foldl (fun m e => ModeOp.modeAfter m e.1) m

/-- The events of an optional driver function. -/
def whenSet (set : Bool) (e : DriverEvent) : List DriverEvent := if set then [e] else []

/-- Command hold and latch, as far as they are wired. -/
def holdAndArm (w : Wiring) : List DriverEvent :=
  whenSet w.holdCommands ⟨.holdCommands, ()⟩ ++
    whenSet w.armFreshCommandLatch ⟨.armFreshCommandLatch, ()⟩

/-- When a call that found the mode `entry` may enter `to`, having made the
driver calls `evs` so far. -/
def MayEnter (w : Wiring) (c : CoordCall) (entry : SystemOpMode) (evs : List DriverEvent) :
    SystemOpMode → Prop
  | .running =>
      c = .requestRelease ∧ entry = .armed ∧
        ∃ d, evs = whenSet w.motionHealthy ⟨.motionHealthy "", (true, d)⟩ ++
          whenSet w.armFreshCommandLatch ⟨.armFreshCommandLatch, ()⟩
  | .armed =>
      (c = .requestEnable ∧ entry = .standby ∧
        ∃ d msg, evs = whenSet w.enableHealthy ⟨.enableHealthy "", (true, d)⟩ ++
          ⟨.enableAll, ⟨true, msg⟩⟩ :: holdAndArm w) ∨
      (c = .requestHalt ∧ entry = .running ∧
        ∃ msg, evs = whenSet w.holdCommands ⟨.holdCommands, ()⟩ ++ [⟨.haltAll, ⟨true, msg⟩⟩])
  | .standby =>
      (∃ device loopback msg, c = .requestInit device loopback ∧ entry = .configured ∧
        evs = ⟨.initDevice device loopback, ⟨true, msg⟩⟩ :: holdAndArm w) ∨
      (∃ msg, c = .requestDisable ∧ (entry = .armed ∨ entry = .running) ∧
        evs = whenSet w.holdCommands ⟨.holdCommands, ()⟩ ++ [⟨.disableAll, ⟨true, msg⟩⟩]) ∨
      (∃ msg, c = .requestRecover ∧ entry = .faulted ∧
        evs = ⟨.recoverAll, ⟨true, msg⟩⟩ :: holdAndArm w)
  | _ => True

/-- The calls that may take the mode out of `Faulted`. -/
def CoordCall.leavesFaulted : CoordCall → Prop
  | requestRecover => True
  | requestShutdown _ => True
  | setInactive => True
  | setConfigured => True
  | _ => False

/-- The requests whose failure must leave the mode alone. -/
def CoordCall.restoresMode : CoordCall → Prop
  | requestInit _ _ => True
  | requestEnable => True
  | requestDisable => True
  | requestRelease => True
  | requestHalt => True
  | requestRecover => True
  | _ => False

/-- The lifecycle law for one call: `entry` is the mode it found, `tr` its
operations, `r` its result and `exit` the mode it left. -/
structure Obeys (w : Wiring) (c : CoordCall) (entry : SystemOpMode)
    (tr : List (Σ op, (coordSig driverSig).Ans op)) (r : Option Result)
    (exit : SystemOpMode) : Prop where
  /-- The modes passed through are those of the trace. -/
  exit_eq : exit = modeAt entry tr
  /-- A mode is entered only as `MayEnter` says. -/
  entered : ∀ pre op a post, tr = pre ++ ⟨op, a⟩ :: post →
    ModeOp.modeAfter (modeAt entry pre) op ≠ modeAt entry pre →
    MayEnter w c entry (driverEvents pre) (ModeOp.modeAfter (modeAt entry pre) op)
  /-- A call that enters `Standby` reports success. -/
  standby_ok : exit = .standby → entry ≠ .standby → ∃ msg, r = some ⟨true, msg⟩
  /-- `Faulted` is left only by a recover, a shutdown or a forced mode. -/
  faulted_left : ∀ pre op a post, tr = pre ++ ⟨op, a⟩ :: post →
    modeAt entry pre = .faulted → ModeOp.modeAfter (modeAt entry pre) op ≠ .faulted →
    c.leavesFaulted
  /-- The recover that leaves it for good is a successful one. -/
  recovered : c = .requestRecover → entry = .faulted → exit ≠ .faulted →
    ∃ msg, r = some ⟨true, msg⟩
  /-- A failed request leaves the mode as it was before the call. -/
  failed : c.restoresMode → ∀ msg, r = some ⟨false, msg⟩ → exit = entry

/-! ## the law as a protocol -/

/-- What the law needs to know about a call under way. -/
structure Ledger where
  entry : SystemOpMode
  mode : SystemOpMode
  calls : List DriverEvent

/-- Only the answers about the mode are constrained: the driver may say anything. -/
def Ledger.admits (g : Ledger) : (op : ModeOp driverSig) → op.Ans → Prop
  | .load, r => r = g.mode
  | .exchange _, r => r = g.mode
  | .compareExchange expected _, r => r = decide (g.mode = expected)
  | _, _ => True

/-- The mode may become `m`. -/
def Ledger.mayBecome (w : Wiring) (c : CoordCall) (g : Ledger) (m : SystemOpMode) : Prop :=
  (m ≠ g.mode → MayEnter w c g.entry g.calls m) ∧
    (g.mode = .faulted → m ≠ .faulted → c.leavesFaulted)

/-- The protocol of the law: any operation whose effect on the mode is justified. -/
def law (w : Wiring) (c : CoordCall) : Protocol (coordSig driverSig) Ledger where
  allow g op := g.mayBecome w c (ModeOp.modeAfter g.mode op)
  accepts := Ledger.admits
  next g op r :=
    { g with mode := ModeOp.modeAfter g.mode op, calls := g.calls ++ driverEvent op r }

/-- What the law says when a call returns. -/
def Settled (c : CoordCall) (r : Option Result) (g : Ledger) : Prop :=
  (g.mode = .standby → g.entry ≠ .standby → ∃ msg, r = some ⟨true, msg⟩) ∧
  (c = .requestRecover → g.entry = .faulted → g.mode ≠ .faulted → ∃ msg, r = some ⟨true, msg⟩) ∧
  (c.restoresMode → ∀ msg, r = some ⟨false, msg⟩ → g.mode = g.entry)

/-- The ledger at the end of a trace. -/
theorem law_after (w : Wiring) (c : CoordCall) (g : Ledger)
    (tr : List (Σ op, (coordSig driverSig).Ans op)) :
    (law w c).after g tr = ⟨g.entry, modeAt g.mode tr, g.calls ++ driverEvents tr⟩ := by
  induction tr generalizing g with
  | nil => simp [Protocol.after, modeAt, driverEvents]
  | cons e tr ih =>
      have h := ih ((law w c).next g e.1 e.2)
      simp only [Protocol.after, List.foldl_cons] at h ⊢
      rw [h]
      simp [law, modeAt, driverEvents]

/-- Serving the operations one after another simulates the law, whatever the
driver answers. -/
theorem serve_simulates (w : Wiring) (c : CoordCall) (drv : (c : DriverCall) → W → c.Ans × W) :
    Prog.Simulates (serve drv) (law w c) (fun s g => g.mode = s.mode) := by
  rintro op s ⟨entry, mode, calls⟩ hmode -
  obtain rfl : mode = s.mode := hmode
  cases op <;> exact ⟨by trivial, rfl⟩

section Rules

variable {w : Wiring} {c : CoordCall} {g : Ledger}

/-- An operation that leaves the mode alone is always allowed. -/
theorem mayBecome_self : g.mayBecome w c g.mode :=
  ⟨fun h => absurd rfl h, fun h₁ h₂ => absurd h₁ h₂⟩

@[simp] theorem wp_lock {Q : Unit → Ledger → Prop} : lock.wp (law w c) Q g ↔ Q () g := by
  constructor
  · intro h
    simpa [law, driverEvent, ModeOp.modeAfter] using h.2 () trivial
  · intro h
    exact ⟨mayBecome_self, fun _ _ => by simpa [law, driverEvent, ModeOp.modeAfter] using h⟩

@[simp] theorem wp_unlock {Q : Unit → Ledger → Prop} : unlock.wp (law w c) Q g ↔ Q () g := by
  constructor
  · intro h
    simpa [law, driverEvent, ModeOp.modeAfter] using h.2 () trivial
  · intro h
    exact ⟨mayBecome_self, fun _ _ => by simpa [law, driverEvent, ModeOp.modeAfter] using h⟩

@[simp] theorem wp_load {Q : SystemOpMode → Ledger → Prop} :
    load.wp (law w c) Q g ↔ Q g.mode g := by
  constructor
  · intro h
    simpa [law, driverEvent, ModeOp.modeAfter] using h.2 g.mode rfl
  · intro h
    refine ⟨mayBecome_self, ?_⟩
    rintro _ rfl
    simpa [law, driverEvent, ModeOp.modeAfter] using h

@[simp] theorem wp_store {m : SystemOpMode} {Q : Unit → Ledger → Prop} :
    (store m).wp (law w c) Q g ↔ g.mayBecome w c m ∧ Q () { g with mode := m } := by
  refine and_congr Iff.rfl ⟨fun h => ?_, fun h _ _ => ?_⟩
  · simpa [law, driverEvent, ModeOp.modeAfter] using h () trivial
  · simpa [law, driverEvent, ModeOp.modeAfter] using h

@[simp] theorem wp_exchange {m : SystemOpMode} {Q : SystemOpMode → Ledger → Prop} :
    (exchange m).wp (law w c) Q g ↔ g.mayBecome w c m ∧ Q g.mode { g with mode := m } := by
  refine and_congr Iff.rfl ⟨fun h => ?_, ?_⟩
  · simpa [law, driverEvent, ModeOp.modeAfter] using h g.mode rfl
  · rintro h _ rfl
    simpa [law, driverEvent, ModeOp.modeAfter] using h

/-- The compare-exchange of a fault: it takes effect only on the expected mode. -/
theorem wp_compareExchange {m : SystemOpMode} {Q : Bool → Ledger → Prop}
    (hQ : Q true { g with mode := m }) (hm : g.mayBecome w c m) :
    (compareExchange g.mode m).wp (law w c) Q g := by
  refine ⟨by simpa [law, ModeOp.modeAfter] using hm, ?_⟩
  rintro _ rfl
  simpa [law, driverEvent, ModeOp.modeAfter] using hQ

theorem wp_driver {q : DriverCall} {Q : q.Ans → Ledger → Prop} :
    (driver (ask q)).wp (law w c) Q g ↔ ∀ r, Q r { g with calls := g.calls ++ [⟨q, r⟩] } :=
  ⟨fun h r => h.2 r trivial, fun h => ⟨mayBecome_self, fun r _ => h r⟩⟩

@[simp] theorem wp_hold {Q : Unit → Ledger → Prop} :
    (hook w.ops.holdCommands).wp (law w c) Q g ↔
      Q () { g with calls := g.calls ++ whenSet w.holdCommands ⟨.holdCommands, ()⟩ } := by
  unfold Wiring.ops whenSet
  cases w.holdCommands with
  | false => simp [hook]
  | true => exact wp_driver.trans ⟨fun h => h (), fun h _ => h⟩

@[simp] theorem wp_arm {Q : Unit → Ledger → Prop} :
    (hook w.ops.armFreshCommandLatch).wp (law w c) Q g ↔
      Q () { g with
        calls := g.calls ++ whenSet w.armFreshCommandLatch ⟨.armFreshCommandLatch, ()⟩ } := by
  unfold Wiring.ops whenSet
  cases w.armFreshCommandLatch with
  | false => simp [hook]
  | true => exact wp_driver.trans ⟨fun h => h (), fun h _ => h⟩

/-- A health check that is not wired passes without a driver call. -/
theorem wp_enableHealthy {Q : Bool × String → Ledger → Prop}
    (hQ : ∀ x, Q x
      { g with calls := g.calls ++ whenSet w.enableHealthy ⟨.enableHealthy "", x⟩ }) :
    (healthy w.ops.enableHealthy "").wp (law w c) Q g := by
  unfold Wiring.ops
  cases hw : w.enableHealthy with
  | false => simpa [healthy, whenSet, hw] using hQ (true, "")
  | true => exact wp_driver.2 fun x => by simpa [whenSet, hw] using hQ x

theorem wp_motionHealthy {Q : Bool × String → Ledger → Prop}
    (hQ : ∀ x, Q x
      { g with calls := g.calls ++ whenSet w.motionHealthy ⟨.motionHealthy "", x⟩ }) :
    (healthy w.ops.motionHealthy "").wp (law w c) Q g := by
  unfold Wiring.ops
  cases hw : w.motionHealthy with
  | false => simpa [healthy, whenSet, hw] using hQ (true, "")
  | true => exact wp_driver.2 fun x => by simpa [whenSet, hw] using hQ x

/-- What an action has to establish for the transition to `to` around it. -/
def Acts (w : Wiring) (c : CoordCall) (target : SystemOpMode) (Q : Result → Ledger → Prop)
    (x : Bool × String) (g : Ledger) : Prop :=
  (x.1 = true → g.mayBecome w c target ∧ ∀ msg, Q ⟨true, msg⟩ { g with mode := target }) ∧
    (x.1 = false → ∀ msg, Q ⟨false, msg⟩ g)

/-- **Transition rule**: outside the allowed modes nothing happens; inside, the
action decides between storing the target and leaving the mode to itself. -/
theorem wp_doTransition {allowedFrom : List SystemOpMode} {target : SystemOpMode}
    {action : Coord driverSig (Bool × String)} {Q : Result → Ledger → Prop}
    (hskip : g.mode ∉ allowedFrom → ∀ msg, Q ⟨decide (g.mode = target), msg⟩ g)
    (haction : g.mode ∈ allowedFrom → action.wp (law w c) (Acts w c target Q) g) :
    (doTransition allowedFrom target action).wp (law w c) Q g := by
  simp only [doTransition, Prog.wp_bind, wp_lock, wp_load]
  by_cases hmem : g.mode ∈ allowedFrom
  · simp only [hmem, if_true, Prog.wp_bind]
    refine Prog.wp_mono (haction hmem) fun x g' hx => ?_
    obtain ⟨ok, detail⟩ := x
    cases ok with
    | true =>
        obtain ⟨hstore, hQ⟩ := hx.1 rfl
        simpa [Prog.wp_bind] using ⟨hstore, hQ _⟩
    | false => simpa [Prog.wp_bind] using hx.2 rfl _
  · have hQ := hskip hmem
    simp only [hmem, if_false, Prog.wp_bind, wp_unlock]
    by_cases hto : g.mode = target
    · simp only [hto, decide_true] at hQ
      simpa [hto] using hQ _
    · simp only [hto, decide_false] at hQ
      simpa [hto] using hQ _

end Rules

/-! ## every call obeys -/

variable {w : Wiring}

/-- A failed transition, or one into the mode the call found, settles. -/
theorem settled_same {c : CoordCall} {ok : Bool} {msg : String} {evs : List DriverEvent}
    (m : SystemOpMode) : Settled c (some ⟨ok, msg⟩) ⟨m, m, evs⟩ :=
  ⟨fun h h' => absurd h h', fun _ h h' => absurd h h', fun _ _ _ => rfl⟩

/-- A successful call settles wherever it ends. -/
theorem settled_ok {c : CoordCall} {msg : String} {g : Ledger} : Settled c (some ⟨true, msg⟩) g :=
  ⟨fun _ _ => ⟨msg, rfl⟩, fun _ _ _ => ⟨msg, rfl⟩, fun _ msg' h => by simp at h⟩

theorem wp_requestInit (m : SystemOpMode) (device : String) (loopback : Bool) :
    (requestInit w.ops device loopback).wp (law w (.requestInit device loopback))
      (fun r g => Settled (.requestInit device loopback) (some r) g) ⟨m, m, []⟩ := by
  refine wp_doTransition (fun _ _ => settled_same m) fun hm => ?_
  obtain rfl : m = .configured := by simpa using hm
  cases hw : w.initDevice with
  | false =>
      have hop : w.ops.initDevice = none := by simp [Wiring.ops, hw]
      simp [initAction, hop, Acts, settled_same]
  | true =>
      have hop : w.ops.initDevice = some fun d l => ask (.initDevice d l) := by
        simp [Wiring.ops, hw]
      simp only [initAction, hop, Prog.wp_bind]
      refine wp_driver.2 fun ⟨ok, msg⟩ => ?_
      cases ok with
      | false => simp [Acts, settled_same]
      | true =>
          have hmay : MayEnter w (.requestInit device loopback) .configured
              (⟨.initDevice device loopback, ⟨true, msg⟩⟩ :: holdAndArm w) .standby :=
            .inl ⟨device, loopback, msg, rfl, rfl, rfl⟩
          simpa [Prog.wp_bind, Acts, settled_ok, Ledger.mayBecome, holdAndArm] using hmay

theorem wp_enableTransition (m : SystemOpMode) :
    (doTransition [.standby] .armed (enableAction w.ops)).wp (law w .requestEnable)
      (fun r g => Settled .requestEnable (some r) g) ⟨m, m, []⟩ := by
  refine wp_doTransition (fun _ _ => settled_same m) fun hm => ?_
  obtain rfl : m = .standby := by simpa using hm
  rw [enableAction, Prog.wp_bind]
  refine wp_enableHealthy fun ⟨ok, detail⟩ => ?_
  cases ok with
  | false => simp [Acts, settled_same]
  | true =>
      cases hw : w.enableAll with
      | false =>
          have hop : w.ops.enableAll = none := by simp [Wiring.ops, hw]
          simp [hop, Acts, settled_same]
      | true =>
          have hop : w.ops.enableAll = some (ask .enableAll) := by simp [Wiring.ops, hw]
          simp only [hop, if_true, Prog.wp_bind]
          refine wp_driver.2 fun ⟨ok, msg⟩ => ?_
          cases ok with
          | false => simp [Acts, settled_same]
          | true =>
              have hmay : MayEnter w .requestEnable .standby
                  (whenSet w.enableHealthy ⟨.enableHealthy "", (true, detail)⟩ ++
                    ⟨.enableAll, ⟨true, msg⟩⟩ :: holdAndArm w) .armed :=
                .inl ⟨rfl, rfl, detail, msg, rfl⟩
              simpa [Prog.wp_bind, Acts, settled_ok, Ledger.mayBecome, holdAndArm] using hmay

theorem wp_requestEnable (m : SystemOpMode) :
    (requestEnable w.ops).wp (law w .requestEnable)
      (fun r g => Settled .requestEnable (some r) g) ⟨m, m, []⟩ := by
  simp only [requestEnable, Prog.wp_bind, wp_load]
  by_cases hm : m = .armed
  · simp only [hm, if_true, Prog.wp_bind, wp_lock, wp_load, revalidateArmedEnable]
    refine wp_motionHealthy fun ⟨ok, detail⟩ => ?_
    cases ok <;> simp [settled_same]
  · simpa only [hm, if_false] using wp_enableTransition m

theorem wp_requestDisable (m : SystemOpMode) :
    (requestDisable w.ops).wp (law w .requestDisable)
      (fun r g => Settled .requestDisable (some r) g) ⟨m, m, []⟩ := by
  refine wp_doTransition (fun _ _ => settled_same m) fun hm => ?_
  simp only [holdThen, Prog.wp_bind, wp_hold]
  cases hw : w.disableAll with
  | false =>
      have hop : w.ops.disableAll = none := by simp [Wiring.ops, hw]
      simp [hop, Acts, settled_same]
  | true =>
      have hop : w.ops.disableAll = some (ask .disableAll) := by simp [Wiring.ops, hw]
      simp only [hop, Prog.wp_bind]
      refine wp_driver.2 fun ⟨ok, msg⟩ => ?_
      cases ok with
      | false => simp [Acts, settled_same]
      | true =>
          have hfrom : m = .standby ∨ m = .armed ∨ m = .running := by simpa using hm
          rcases hfrom with rfl | rfl | rfl <;>
            simp [Acts, settled_ok, Ledger.mayBecome, MayEnter]

theorem wp_requestRelease (m : SystemOpMode) :
    (requestRelease w.ops).wp (law w .requestRelease)
      (fun r g => Settled .requestRelease (some r) g) ⟨m, m, []⟩ := by
  refine wp_doTransition (fun _ _ => settled_same m) fun hm => ?_
  obtain rfl : m = .armed := by simpa using hm
  rw [releaseAction, Prog.wp_bind]
  refine wp_motionHealthy fun ⟨ok, detail⟩ => ?_
  cases ok with
  | false => simp [Acts, settled_same]
  | true =>
      have hmay : MayEnter w .requestRelease .armed
          (whenSet w.motionHealthy ⟨.motionHealthy "", (true, detail)⟩ ++
            whenSet w.armFreshCommandLatch ⟨.armFreshCommandLatch, ()⟩) .running :=
        ⟨rfl, rfl, detail, rfl⟩
      simpa [Prog.wp_bind, Acts, settled_ok, Ledger.mayBecome] using hmay

theorem wp_requestHalt (m : SystemOpMode) :
    (requestHalt w.ops).wp (law w .requestHalt)
      (fun r g => Settled .requestHalt (some r) g) ⟨m, m, []⟩ := by
  refine wp_doTransition (fun _ _ => settled_same m) fun hm => ?_
  obtain rfl : m = .running := by simpa using hm
  simp only [holdThen, Prog.wp_bind, wp_hold]
  cases hw : w.haltAll with
  | false =>
      have hop : w.ops.haltAll = none := by simp [Wiring.ops, hw]
      simp [hop, Acts, settled_same]
  | true =>
      have hop : w.ops.haltAll = some (ask .haltAll) := by simp [Wiring.ops, hw]
      simp only [hop, Prog.wp_bind]
      refine wp_driver.2 fun ⟨ok, msg⟩ => ?_
      cases ok with
      | false => simp [Acts, settled_same]
      | true => simp [Acts, settled_ok, Ledger.mayBecome, MayEnter]

theorem wp_requestRecover (m : SystemOpMode) :
    (requestRecover w.ops).wp (law w .requestRecover)
      (fun r g => Settled .requestRecover (some r) g) ⟨m, m, []⟩ := by
  refine wp_doTransition (fun _ _ => settled_same m) fun hm => ?_
  obtain rfl : m = .faulted := by simpa using hm
  have hleave : ∀ evs, Ledger.mayBecome w .requestRecover ⟨.faulted, .faulted, evs⟩ .recovering :=
    fun _ => ⟨fun _ => trivial, fun _ _ => trivial⟩
  have hback : ∀ evs, Ledger.mayBecome w .requestRecover ⟨.faulted, .recovering, evs⟩ .faulted :=
    fun _ => ⟨fun _ => trivial, fun _ _ => trivial⟩
  rw [recoverAction, Prog.wp_bind, wp_store]
  refine ⟨hleave _, ?_⟩
  cases hw : w.recoverAll with
  | false =>
      have hop : w.ops.recoverAll = none := by simp [Wiring.ops, hw]
      simp [hop, Prog.wp_bind, hback, Acts, settled_same]
  | true =>
      have hop : w.ops.recoverAll = some (ask .recoverAll) := by simp [Wiring.ops, hw]
      simp only [hop, Prog.wp_bind]
      refine wp_driver.2 fun ⟨ok, msg⟩ => ?_
      cases ok with
      | false => simp [Prog.wp_bind, hback, Acts, settled_same]
      | true => simp [Prog.wp_bind, Acts, settled_ok, Ledger.mayBecome, MayEnter, holdAndArm]

/-- A shutdown may go through any mode but `Standby`, `Armed` and `Running`, and
its failure restores nothing. -/
theorem wp_requestShutdown (m : SystemOpMode) (force : Bool) :
    (requestShutdown w.ops force).wp (law w (.requestShutdown force))
      (fun r g => Settled (.requestShutdown force) (some r) g) ⟨m, m, []⟩ := by
  have hmay : ∀ m' evs target, target = .shuttingDown ∨ target = .configured →
      Ledger.mayBecome w (.requestShutdown force) ⟨m, m', evs⟩ target := by
    rintro m' evs target (rfl | rfl)
    · exact ⟨fun _ => trivial, fun _ _ => trivial⟩
    · exact ⟨fun _ => trivial, fun _ _ => trivial⟩
  have hsettled : ∀ r evs, Settled (.requestShutdown force) r ⟨m, .configured, evs⟩ :=
    fun r evs => ⟨fun h => by simp at h, fun h => by simp at h, fun h => h.elim⟩
  refine wp_doTransition (fun hm => ?_) fun _ => ?_
  · exact absurd (by cases m <;> simp) hm
  · simp only [shutdownAction, Prog.wp_bind, wp_store]
    refine ⟨hmay _ _ _ (.inl rfl), ?_⟩
    cases hw : w.shutdownAll with
    | false =>
        have hop : w.ops.shutdownAll = none := by simp [Wiring.ops, hw]
        simp [hop, Prog.wp_bind, hmay, Acts, hsettled]
    | true =>
        have hop : w.ops.shutdownAll = some fun f => ask (.shutdownAll f) := by
          simp [Wiring.ops, hw]
        simp only [hop, Prog.wp_bind]
        refine wp_driver.2 fun ⟨ok, msg⟩ => ?_
        cases ok <;> simp [hmay, Acts, hsettled]

theorem wp_updateFromFeedback (m : SystemOpMode) (unhealthy : Bool) :
    (updateFromFeedback unhealthy).wp (law w (.updateFromFeedback unhealthy))
      (fun _ g => Settled (.updateFromFeedback unhealthy) none g) ⟨m, m, []⟩ := by
  cases unhealthy with
  | false => simp [updateFromFeedback, Settled, CoordCall.restoresMode]
  | true =>
      simp only [updateFromFeedback, if_true, Prog.wp_bind, wp_load]
      by_cases hm : m = .armed ∨ m = .running
      · simp only [hm, if_true, Prog.wp_bind]
        refine wp_compareExchange (by simp [Settled, CoordCall.restoresMode]) ?_
        exact ⟨fun _ => trivial, fun _ h => absurd rfl h⟩
      · simp [hm, Settled, CoordCall.restoresMode]

/-- The program of every call follows the law from whatever mode it finds. -/
theorem wp_code (c : CoordCall) (m : SystemOpMode) :
    (c.code w.ops).wp (law w c) (Settled c) ⟨m, m, []⟩ := by
  cases c with
  | requestInit device loopback => exact Prog.wp_bind.2 (wp_requestInit m device loopback)
  | requestEnable => exact Prog.wp_bind.2 (wp_requestEnable m)
  | requestDisable => exact Prog.wp_bind.2 (wp_requestDisable m)
  | requestRelease => exact Prog.wp_bind.2 (wp_requestRelease m)
  | requestHalt => exact Prog.wp_bind.2 (wp_requestHalt m)
  | requestRecover => exact Prog.wp_bind.2 (wp_requestRecover m)
  | requestShutdown force => exact Prog.wp_bind.2 (wp_requestShutdown m force)
  | updateFromFeedback unhealthy => exact Prog.wp_bind.2 (wp_updateFromFeedback m unhealthy)
  | setInactive =>
      simp [CoordCall.code, setInactive, forceMode, Prog.wp_bind, Ledger.mayBecome, MayEnter,
        CoordCall.leavesFaulted, Settled, CoordCall.restoresMode]
  | setConfigured =>
      simp [CoordCall.code, setConfigured, forceMode, Prog.wp_bind, Ledger.mayBecome, MayEnter,
        CoordCall.leavesFaulted, Settled, CoordCall.restoresMode]
  | setFaulted =>
      simp [CoordCall.code, setFaulted, forceMode, Prog.wp_bind, Ledger.mayBecome, MayEnter,
        Settled, CoordCall.restoresMode]

/-- **Call**: one call obeys the law, whatever the mode it finds and whatever
the driver answers. -/
theorem obeys_call (drv : (c : DriverCall) → W → c.Ans × W) (s : System W) (c : CoordCall) :
    Obeys w c s.mode (callTrace w drv s c) (runCall w drv s c).1 (runCall w drv s c).2.mode := by
  have hsim := serve_simulates w c drv
  have hwp := wp_code (w := w) c s.mode
  have hend := Prog.eval_of_wp (s := s) hsim rfl hwp
  have hallow : ∀ pre op a post, callTrace w drv s c = pre ++ ⟨op, a⟩ :: post →
      Ledger.mayBecome w c ⟨s.mode, modeAt s.mode pre, driverEvents pre⟩
        (ModeOp.modeAfter (modeAt s.mode pre) op) := by
    intro pre op a post htr
    have h := Prog.allow_of_trace (s := s) hsim rfl hwp htr
    rw [law_after] at h
    exact h
  simp only [law_after, List.nil_append] at hend
  obtain ⟨⟨hstandby, hrecover, hfailed⟩, hmode⟩ := hend
  simp only [hmode] at hstandby hrecover hfailed
  exact {
    exit_eq := hmode.symm
    entered := fun pre op a post htr => (hallow pre op a post htr).1
    standby_ok := hstandby
    faulted_left := fun pre op a post htr => (hallow pre op a post htr).2
    recovered := hrecover
    failed := hfailed }

/-- **Run**: in any sequence of calls every call obeys the lifecycle law. -/
theorem lifecycle_law (w : Wiring) (drv : (c : DriverCall) → W → c.Ans × W) (s : System W)
    (cs : List CoordCall) (c : CoordCall) :
    let s := runCalls w drv s cs
    Obeys w c s.mode (callTrace w drv s c) (runCall w drv s c).1 (runCall w drv s c).2.mode :=
  obeys_call drv (runCalls w drv s cs) c

end CanDriver
