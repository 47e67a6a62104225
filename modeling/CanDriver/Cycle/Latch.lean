import CanDriver.Cycle.Run

/-!
# CanDriver.Cycle.Latch

What the fresh-command latch promises to a single joint.

The latch is one for all joints: the first of them with a changed or an aligned command
releases every one.  A joint is safe from its old command exactly as long as no cycle lets
the latch go while this joint is still waiting (`dispatched_only_fresh`).
-/

namespace CanDriver

open Interact

/-- What is noted for one joint: its command when the latch was last armed, whether since then
it has been seen with a changed or an aligned command, whether it had been each time the latch
was let go, and whether it had been each time a command was sent for it. -/
structure LatchNotes where
  baseline : Option CommandSnapshot := none
  fresh : Bool := true
  releasedFresh : Bool := true
  sentFresh : Bool := true
deriving DecidableEq, Repr

namespace LatchNotes

/-- Look at the joint. -/
def observe (index : Nat) (c : HwCore) (n : LatchNotes) : LatchNotes :=
  { n with
    fresh := n.fresh || (c.hw.joints[index]?).any fun joint =>
      n.baseline.any fun baseline => snapshotFresh (CommandSnapshot.ofJoint joint) baseline }

/-- What is noted of an operation. -/
def note (index : Nat) (c : HwCore) : HwOp → LatchNotes → LatchNotes
  | .hw _, n => n.observe index c
  | .gate (.arm snapshots), n =>
      { n with
        baseline := snapshots[index]?
        fresh := (snapshots[index]?).any CommandSnapshot.targetNearActual }
  | .gate (.consume snapshots), n =>
      if c.gate.satisfiedBy snapshots then { n with releasedFresh := n.releasedFresh && n.fresh }
      else n
  | .send sent _ _ _ _ _, n =>
      if sent = index then { n with sentFresh := n.sentFresh && n.fresh } else n
  | _, n => n

/-- What is noted between the cycles. -/
def seen (index : Nat) (_ : HwCore) (_ : CycleEvent) (c : HwCore) (n : LatchNotes) : LatchNotes :=
  n.observe index c

@[simp] theorem releasedFresh_observe (index : Nat) (c : HwCore) (n : LatchNotes) :
    (n.observe index c).releasedFresh = n.releasedFresh := rfl

@[simp] theorem sentFresh_observe (index : Nat) (c : HwCore) (n : LatchNotes) :
    (n.observe index c).sentFresh = n.sentFresh := rfl

/-- A joint that was fresh stays fresh. -/
theorem fresh_observe {n : LatchNotes} (index : Nat) (c : HwCore) (h : n.fresh = true) :
    (n.observe index c).fresh = true := by
  rw [observe, h, Bool.true_or]

end LatchNotes

/-! ## the invariants -/

variable {index : Nat}

/-- If the joint was fresh whenever the latch was let go, it was whenever a command was sent,
and it is where the latch asks for nothing. -/
def LatchInvariant (s : HwCore × LatchNotes) : Prop :=
  s.2.releasedFresh = true →
    s.2.sentFresh = true ∧ (s.1.gate.freshCommandRequired = false → s.2.fresh = true)

/-- Past the latch the joint is fresh. -/
def Released (s : HwCore × LatchNotes) : Prop :=
  LatchInvariant s ∧ (s.2.releasedFresh = true → s.2.fresh = true)

/-- In a dispatch the joint is fresh, or its command is not valid. -/
def Dispatching (index : Nat) (s : HwCore × LatchNotes) : Prop :=
  LatchInvariant s ∧ (s.2.releasedFresh = true → s.2.fresh = true ∨ s.1.valid index = false)

/-- The commands are held. -/
def Held (index : Nat) (s : HwCore × LatchNotes) : Prop :=
  LatchInvariant s ∧ s.1.valid index = false

/-- A look at the joint keeps the invariant. -/
theorem latchInvariant_hw (index : Nat) (op : JointOp) {s : HwCore × LatchNotes} (h : LatchInvariant s) :
    LatchInvariant (s.1.after (.hw op), LatchNotes.note index s.1 (.hw op) s.2) := by
  intro hreleased
  obtain ⟨hsent, hfresh⟩ := h hreleased
  exact ⟨hsent, fun hgate => LatchNotes.fresh_observe index s.1 (hfresh hgate)⟩

/-- So it does past the latch. -/
theorem released_hw (index : Nat) (op : JointOp) {s : HwCore × LatchNotes} (h : Released s) :
    Released (s.1.after (.hw op), LatchNotes.note index s.1 (.hw op) s.2) :=
  ⟨latchInvariant_hw index op h.1, fun hreleased =>
    LatchNotes.fresh_observe index s.1 (h.2 hreleased)⟩

/-- A passive operation keeps the invariant. -/
theorem latchInvariant_passive {op : HwOp} (hop : Passive op) {s : HwCore × LatchNotes}
    (h : LatchInvariant s) :
    LatchInvariant (s.1.after op, LatchNotes.note index s.1 op s.2) := by
  cases op with
  | hw op => exact latchInvariant_hw index op h
  | gate op =>
      cases op with
      | read => exact h
      | observe device isReady => exact h
      | arm snapshots => exact hop.elim
      | consume snapshots => exact hop.elim
  | send sent route device protocol motorId raw => exact hop.elim
  | _ => exact h

/-- A passive operation leaves a fresh joint fresh. -/
theorem fresh_passive {op : HwOp} (hop : Passive op) (c : HwCore) {n : LatchNotes}
    (h : n.fresh = true) : (LatchNotes.note index c op n).fresh = true := by
  cases op with
  | hw op => exact LatchNotes.fresh_observe index c h
  | gate op =>
      cases op with
      | read => exact h
      | observe device isReady => exact h
      | arm snapshots => exact hop.elim
      | consume snapshots => exact hop.elim
  | send sent route device protocol motorId raw => exact hop.elim
  | _ => exact h

/-- A passive operation does not let the latch go. -/
theorem releasedFresh_passive {op : HwOp} (hop : Passive op) (c : HwCore) (n : LatchNotes) :
    (LatchNotes.note index c op n).releasedFresh = n.releasedFresh := by
  cases op with
  | gate op =>
      cases op with
      | read => rfl
      | observe device isReady => rfl
      | arm snapshots => exact hop.elim
      | consume snapshots => exact hop.elim
  | send sent route device protocol motorId raw => exact hop.elim
  | _ => rfl

/-- **The rule of the latch**: what holds in a dispatch survives all that happens in one. -/
theorem latchRule (index : Nat) :
    DispatchRule (LatchNotes.note index) (Dispatching index) (Held index) where
  passive s op hop h := by
    refine ⟨latchInvariant_passive hop h.1, fun hreleased => ?_⟩
    rw [releasedFresh_passive hop] at hreleased
    rcases h.2 hreleased with hfresh | hvalid
    · exact .inl (fresh_passive hop s.1 hfresh)
    · exact .inr (valid_passive s.1 hop hvalid)
  hold s h := ⟨latchInvariant_hw index .hold h.1, valid_hold s.1 index⟩
  arm s h := by
    refine ⟨fun hreleased => ⟨(h.1 hreleased).1, fun hgate => ?_⟩, fun _ => .inr h.2⟩
    simp [HwCore.after, GateOp.apply, CommandGate.arm] at hgate
  send s sent route device protocol motorId raw h hvalid := by
    rw [LatchNotes.note]
    split
    · next heq =>
      subst heq
      refine ⟨fun hreleased => ?_, h.2⟩
      have hfresh : s.2.fresh = true := by
        rcases h.2 hreleased with hfresh | hinvalid
        · exact hfresh
        · rw [hvalid] at hinvalid
          exact absurd hinvalid (by decide)
      refine ⟨?_, (h.1 hreleased).2⟩
      rw [(h.1 hreleased).1, hfresh]
      rfl
    · exact h

/-! ## cycles -/

/-- A joint that is released may be dispatched. -/
theorem Released.dispatching {s : HwCore × LatchNotes} (h : Released s) (index : Nat) :
    Dispatching index s :=
  ⟨h.1, fun hreleased => .inl (h.2 hreleased)⟩

/-- The latch lets a cycle pass only with the joint released. -/
theorem wp_consumeFreshCommandLatch {s : HwCore × LatchNotes} (h : LatchInvariant s) :
    consumeFreshCommandLatchIfSatisfied.wp (noting (LatchNotes.note index))
      (fun passes s => LatchInvariant s ∧ (passes = true → Released s)) s := by
  rw [consumeFreshCommandLatchIfSatisfied, Prog.wp_bind]
  refine wp_askHw fun gate hgate => ?_
  have hgate : gate = s.1.gate := hgate
  subst hgate
  rw [Prog.wp_ite]
  split
  · next hrequired =>
    rw [Bool.not_eq_true'] at hrequired
    exact ⟨h, fun _ => ⟨h, fun hreleased => (h hreleased).2 hrequired⟩⟩
  · rw [Prog.wp_bind]
    refine wp_askHw fun hw hhw => ?_
    have hread := latchInvariant_hw index .read h
    rw [Prog.wp_bind]
    refine wp_askHw fun gate hgate => ?_
    have hgate : gate = s.1.gate := hgate
    subst hgate
    rw [Prog.pure_eq, Prog.wp_ret]
    dsimp only [LatchNotes.note, HwCore.after, GateOp.apply, JointOp.apply] at hread ⊢
    cases hsatisfied : s.1.gate.satisfiedBy hw.captureCommandSnapshots with
    | true =>
        rw [if_pos rfl]
        have hfresh : ∀ a b : Bool, (a && b) = true → a = true ∧ b = true := by decide
        refine ⟨fun hreleased => ?_, fun _ => ⟨fun hreleased => ?_, fun hreleased => ?_⟩⟩
        · exact ⟨(hread (hfresh _ _ hreleased).1).1, fun _ => (hfresh _ _ hreleased).2⟩
        · exact ⟨(hread (hfresh _ _ hreleased).1).1, fun _ => (hfresh _ _ hreleased).2⟩
        · exact (hfresh _ _ hreleased).2
    | false =>
        rw [if_neg Bool.false_ne_true, CommandGate.consume_of_not_satisfied hsatisfied]
        exact ⟨hread, fun h => absurd h Bool.false_ne_true⟩

/-- The commands of a cycle that passed the latch. -/
theorem wp_commandCycle (config : WriteConfig) (limiter : CommandLimiter)
    (groups : List CanDriverDeviceProtocolGroup) {s : HwCore × LatchNotes} (h : Released s) :
    (commandCycle config limiter groups).wp (noting (LatchNotes.note index))
      (fun _ => LatchInvariant) s := by
  rw [commandCycle, Prog.wp_bind, modifyHw, Prog.wp_bind]
  refine wp_askHw fun _ _ => ?_
  have hlimited := released_hw index (.limit limiter) h
  rw [Prog.pure_eq, Prog.wp_ret, Prog.wp_bind]
  refine wp_askHw fun now _ => ?_
  rw [Prog.wp_bind]
  refine wp_askHw fun hw _ => ?_
  have hprepared := released_hw index (.prepare config now) hlimited
  refine Prog.wp_mono ((latchRule index).wp_dispatch config _ false groups
    (hprepared.dispatching index)) fun _ s hs => hs.1

/-- A cycle keeps the invariant. -/
theorem wp_write (config : WriteConfig) (limiter : CommandLimiter)
    (groups : List CanDriverDeviceProtocolGroup) {s : HwCore × LatchNotes}
    (h : LatchInvariant s) :
    (write config limiter groups).wp (atAnyMode (noting (LatchNotes.note index)))
      (fun _ => LatchInvariant) s := by
  have hinvalidate : ∀ s : HwCore × LatchNotes, LatchInvariant s →
      (driver invalidateCommands).wp (atAnyMode (noting (LatchNotes.note index)))
        (fun _ => LatchInvariant) s := by
    intro s hs
    refine wp_driverAny ?_
    rw [invalidateCommands, modifyHw, Prog.wp_bind]
    exact wp_askHw fun _ _ => latchInvariant_hw index .invalidate hs
  rw [write, Prog.wp_bind]
  refine wp_driverAny (wp_askHw fun active _ => ?_)
  rw [Prog.wp_ite]
  split
  · refine wp_loadAny fun mode => ?_
    rw [Prog.wp_ite]
    split
    · rw [Prog.wp_bind]
      refine Prog.wp_mono (wp_driverAny (wp_consumeFreshCommandLatch h)) fun fresh s hs => ?_
      rw [Prog.wp_ite]
      split
      · next hfresh =>
        rw [Prog.wp_bind]
        refine Prog.wp_mono (wp_driverAny (wp_commandCycle config limiter groups (hs.2 hfresh)))
          fun anyFault s hs => ?_
        exact wp_reportHealth config anyFault (fun _ _ _ => rfl) hs
      · exact hinvalidate s hs.1
    · exact hinvalidate _ h
  · exact h

/-- Arming the latch makes the joint wait. -/
theorem wp_armFreshCommandLatch {s : HwCore × LatchNotes} (h : LatchInvariant s) :
    armFreshCommandLatch.wp (noting (LatchNotes.note index)) (fun _ => LatchInvariant) s := by
  rw [armFreshCommandLatch, Prog.wp_bind]
  refine wp_askHw fun hw _ => ?_
  rw [modifyGate, Prog.wp_bind]
  refine wp_askHw fun _ _ => ?_
  intro hreleased
  refine ⟨(h hreleased).1, fun hgate => ?_⟩
  simp [HwCore.after, GateOp.apply, CommandGate.arm] at hgate

/-- What happens between the cycles keeps the invariant as well. -/
theorem latchInvariant_seen (c : HwCore) {s : HwCore × LatchNotes} (hgate : c.gate = s.1.gate)
    (h : LatchInvariant s) : LatchInvariant (c, s.2.observe index c) := by
  intro hreleased
  refine ⟨(h hreleased).1, fun hrequired => LatchNotes.fresh_observe index c ?_⟩
  exact (h hreleased).2 (hgate ▸ hrequired)

/-- **Step**: every event of a run keeps the invariant. -/
theorem latchInvariant_step (groups : List CanDriverDeviceProtocolGroup) {e : CycleEvent}
    {s s' : HwCore × LatchNotes} (h : LatchInvariant s)
    (hs : e.Step groups (LatchNotes.note index) (LatchNotes.seen index) s s') :
    LatchInvariant s' := by
  cases e with
  | change =>
      obtain ⟨joints, _, rfl⟩ := hs
      exact latchInvariant_seen _ (by rfl) h
  | switch motorId mode =>
      obtain ⟨_, rfl⟩ := hs
      exact latchInvariant_seen _ (by rfl) h
  | hold =>
      refine Prog.Runs.of_wp (Q := fun _ => LatchInvariant) hs ?_
      rw [holdCommands, modifyHw, Prog.wp_bind]
      exact wp_askHw fun _ _ => latchInvariant_hw index .hold h
  | arm => exact hs.of_wp (wp_armFreshCommandLatch h)
  | cycle config limiter => exact hs.of_wp (wp_write config limiter groups h)

/-- **Fresh commands only**: in every run in which a joint had a changed or an aligned command
since the last arming whenever a cycle let the latch go, it had one whenever a command was
sent for it. -/
theorem dispatched_only_fresh (groups : List CanDriverDeviceProtocolGroup) (hw : CanDriverHW)
    (index : Nat) (s : HwCore × LatchNotes)
    (hr : Reach (CycleEvent.Step groups (LatchNotes.note index) (LatchNotes.seen index))
      (fun _ _ => True) ({ hw }, {}) s)
    (hreleased : s.2.releasedFresh = true) : s.2.sentFresh = true := by
  have hinv : LatchInvariant s :=
    Reach.invariant (I := LatchInvariant) (fun _ => ⟨rfl, fun _ => rfl⟩)
      (fun _ _ _ h _ hs => latchInvariant_step groups h hs) hr
  exact (hinv hreleased).1

/-! ## runs -/

/-- Two joints at rest, each with an old command far away. -/
def restingJoints : CanDriverHW where
  joints :=
    [{ name := "lift", canDevice := "can0", controlMode := "position", motorId := 1,
       protocol := .PP, posCmd := .finite 50 },
     { name := "tilt", canDevice := "can0", controlMode := "position", motorId := 2,
       protocol := .PP, posCmd := .finite 100 }]
  commandValidBuffer := [false, false]

/-- The group of the two joints. -/
def restingGroup : CanDriverDeviceProtocolGroup := ⟨"can0", .PP, [0, 1]⟩

/-- New position commands for the joints in `changed`. -/
def commandJoints (changed : List Nat) : CommandLimiter := fun index joint =>
  (if index ∈ changed then .finite 60 else joint.posCmd, joint.velCmd)

/-- With both commands renewed after the arming, the second joint is moved by a fresh one. -/
theorem both_renewed_dispatched :
    ∃ s, Reach (CycleEvent.Step [restingGroup] (LatchNotes.note 1) (LatchNotes.seen 1))
      (fun _ _ => True) ({ hw := restingJoints }, {}) s ∧
      s.1.valid 1 = true ∧ s.2.sentFresh = true := by
  obtain ⟨s, hr, htest⟩ := exists_of_playAll [restingGroup] (LatchNotes.note 1) (LatchNotes.seen 1)
    [.arm, .cycle {}, .command (commandJoints [0, 1]), .cycle {}] ({ hw := restingJoints }, {})
    (fun s => s.1.valid 1 && s.2.releasedFresh) (by decide +kernel)
  rw [Bool.and_eq_true] at htest
  exact ⟨s, hr, htest.1, dispatched_only_fresh [restingGroup] restingJoints 1 s hr htest.2⟩

/-- A new command for the first joint alone sends the second one to its old command. -/
theorem renewed_neighbour_releases :
    ∃ s, Reach (CycleEvent.Step [restingGroup] (LatchNotes.note 1) (LatchNotes.seen 1))
      (fun _ _ => True) ({ hw := restingJoints }, {}) s ∧ s.2.sentFresh = false := by
  obtain ⟨s, hr, htest⟩ := exists_of_playAll [restingGroup] (LatchNotes.note 1) (LatchNotes.seen 1)
    [.arm, .cycle {}, .command (commandJoints [0]), .cycle {}] ({ hw := restingJoints }, {})
    (fun s => !s.2.sentFresh) (by decide +kernel)
  exact ⟨s, hr, Bool.not_eq_true' _ ▸ htest⟩

end CanDriver
