import CanDriver.Cycle.Watch

/-!
# CanDriver.Cycle.Recovery

A device that is lost and comes back.

The first group that finds the device ready again consumes the readiness edge; the groups
after it are kept still only by what the hold has done to the commands.  `recoveryRule` says
that this is enough: from the loss of a device to the release of the latch that was armed at
its return, nothing is sent to it.
-/

namespace CanDriver

open Interact

/-! ## what is noted of a device -/

/-- Where a device stands: it moves, it was seen not ready, it was seen ready again, or its
commands are held until the latch is released. -/
inductive RecoveryPhase where
  | moving | lost | back | waiting
deriving DecidableEq, Repr

/-- What is noted of a device: where it stands, whether all commands to it were sent while it
was moving, whether its direct commands were cleared each time it came back; and of the cycle
that goes on, whether the device came back in it and whether a command was sent. -/
structure RecoveryNotes where
  phase : RecoveryPhase := .moving
  quiet : Bool := true
  cleared : Bool := true
  cameBack : Bool := false
  moved : Bool := false
deriving DecidableEq

/-- No joint of a device has a direct command. -/
def CanDriverHW.directCleared (hw : CanDriverHW) (device : String) : Bool :=
  hw.joints.all fun joint =>
    joint.canDevice != device || !joint.hasDirectPosCmd && !joint.hasDirectVelCmd

namespace RecoveryNotes

/-- The device is looked at. -/
def look (isReady : Bool) (n : RecoveryNotes) : RecoveryNotes :=
  { n with
    phase := if isReady then (if n.phase = .lost then .back else n.phase) else .lost
    cameBack := n.cameBack || (isReady && decide (n.phase = .lost)) }

/-- The latch is armed. -/
def armed (directCleared : Bool) (n : RecoveryNotes) : RecoveryNotes :=
  if n.phase = .back then { n with phase := .waiting, cleared := n.cleared && directCleared } else n

/-- The latch is released. -/
def released (n : RecoveryNotes) : RecoveryNotes :=
  if n.phase = .waiting then { n with phase := .moving } else n

/-- A command is sent. -/
def sent (n : RecoveryNotes) : RecoveryNotes :=
  { n with quiet := n.quiet && decide (n.phase = .moving), moved := true }

/-- What is noted of an operation. -/
def note (device : String) (c : HwCore) : HwOp → RecoveryNotes → RecoveryNotes
  | .active, n => { n with cameBack := false, moved := false }
  | .gate (.observe device' isReady), n => if device' = device then n.look isReady else n
  | .gate (.arm _), n => n.armed (c.hw.directCleared device)
  | .gate (.consume snapshots), n => if c.gate.satisfiedBy snapshots then n.released else n
  | .send _ _ device' _ _ _, n => if device' = device then n.sent else n
  | _, n => n

/-- Nothing is noted between the cycles. -/
def seen (_ : HwCore) (_ : CycleEvent) (_ : HwCore) (n : RecoveryNotes) : RecoveryNotes := n

end RecoveryNotes

/-! ## the invariants -/

variable {device : String}

/-- What holds of a device at any time outside a group. -/
structure Recovering (device : String) (s : HwCore × RecoveryNotes) : Prop where
  quiet : s.2.quiet = true
  cleared : s.2.cleared = true
  known : s.2.phase = .lost ↔ s.1.gate.lastDeviceReadyState device = some false
  settled : s.2.phase ≠ .back
  latched : s.2.phase = .waiting → s.1.gate.freshCommandRequired = true

/-- In a dispatch no command is valid while the latch is awaited. -/
def Still (device : String) (s : HwCore × RecoveryNotes) : Prop :=
  Recovering device s ∧ (s.2.phase = .waiting → ∀ index, s.1.valid index = false)

/-- In a group of the device it is not lost. -/
def StillIn (device : String) (group : CanDriverDeviceProtocolGroup) (s : HwCore × RecoveryNotes) :
    Prop :=
  Still device s ∧ (group.canDevice = device → s.2.phase ≠ .lost)

/-- Only the gate and the notes matter to the first part. -/
theorem Recovering.of_gate {s s' : HwCore × RecoveryNotes} (h : Recovering device s)
    (hgate : s'.1.gate = s.1.gate) (hnotes : s'.2 = s.2) : Recovering device s' := by
  obtain ⟨quiet, cleared, known, settled, latched⟩ := h
  rw [← hnotes] at quiet cleared known settled latched
  rw [← hgate] at known latched
  exact ⟨quiet, cleared, known, settled, latched⟩

/-- The latch may be armed again at any time. -/
theorem Recovering.of_arm {s s' : HwCore × RecoveryNotes} (h : Recovering device s)
    {snapshots : List CommandSnapshot} {directCleared : Bool}
    (hgate : s'.1.gate = s.1.gate.arm snapshots) (hnotes : s'.2 = s.2.armed directCleared) :
    Recovering device s' := by
  rw [RecoveryNotes.armed, if_neg h.settled] at hnotes
  obtain ⟨quiet, cleared, known, settled, latched⟩ := h
  rw [← hnotes] at quiet cleared known settled
  refine ⟨quiet, cleared, ?_, settled, fun _ => ?_⟩
  · rw [hgate]
    exact known
  · rw [hgate]
    rfl

/-- What a group needs depends on the gate, on the validity of the commands and on the notes. -/
theorem StillIn.of_same {group : CanDriverDeviceProtocolGroup} {s s' : HwCore × RecoveryNotes}
    (h : StillIn device group s) (hgate : s'.1.gate = s.1.gate)
    (hvalid : s'.1.hw.commandValidBuffer = s.1.hw.commandValidBuffer) (hnotes : s'.2 = s.2) :
    StillIn device group s' := by
  refine ⟨⟨h.1.1.of_gate hgate hnotes, fun hwaiting index => ?_⟩, fun hdevice => ?_⟩
  · rw [HwCore.valid, hvalid]
    exact h.1.2 (hnotes ▸ hwaiting) index
  · rw [hnotes]
    exact h.2 hdevice

/-- The look at a device. -/
theorem recovering_observe_false {s : HwCore × RecoveryNotes} (h : Recovering device s)
    (device' : String) :
    Recovering device (s.1.after (.gate (.observe device' false)),
      RecoveryNotes.note device s.1 (.gate (.observe device' false)) s.2) := by
  by_cases hdevice : device' = device
  · subst hdevice
    rw [RecoveryNotes.note, if_pos rfl]
    have hknown : (CommandGate.observeDeviceReady device' false s.1.gate).lastDeviceReadyState
        device' = some false := put_self ..
    exact ⟨h.quiet, h.cleared, iff_of_true rfl hknown, by simp [RecoveryNotes.look],
      by simp [RecoveryNotes.look]⟩
  · rw [RecoveryNotes.note, if_neg hdevice]
    have hknown : (CommandGate.observeDeviceReady device' false s.1.gate).lastDeviceReadyState
        device = s.1.gate.lastDeviceReadyState device := put_of_ne _ _ (Ne.symm hdevice)
    exact ⟨h.quiet, h.cleared, hknown ▸ h.known, h.settled, h.latched⟩

theorem recovering_observe_true {s : HwCore × RecoveryNotes} (h : Recovering device s)
    {device' : String} (hknown : s.1.gate.lastDeviceReadyState device' ≠ some false) :
    Recovering device (s.1.after (.gate (.observe device' true)),
      RecoveryNotes.note device s.1 (.gate (.observe device' true)) s.2) ∧
    (RecoveryNotes.note device s.1 (.gate (.observe device' true)) s.2).phase = s.2.phase ∧
    (device' = device → s.2.phase ≠ .lost) := by
  by_cases hdevice : device' = device
  · subst hdevice
    have hlost : s.2.phase ≠ .lost := fun hlost => hknown (h.known.1 hlost)
    have hphase : (s.2.look true).phase = s.2.phase := by
      simp [RecoveryNotes.look, hlost]
    rw [RecoveryNotes.note, if_pos rfl]
    have hready : (CommandGate.observeDeviceReady device' true s.1.gate).lastDeviceReadyState
        device' = some true := put_self ..
    refine ⟨⟨h.quiet, h.cleared, ?_, hphase ▸ h.settled, hphase ▸ h.latched⟩, hphase,
      fun _ => hlost⟩
    refine iff_of_false (hphase ▸ hlost) fun hfalse => ?_
    have hcontra := hready.symm.trans hfalse
    simp at hcontra
  · rw [RecoveryNotes.note, if_neg hdevice]
    have hsame : (CommandGate.observeDeviceReady device' true s.1.gate).lastDeviceReadyState
        device = s.1.gate.lastDeviceReadyState device := put_of_ne _ _ (Ne.symm hdevice)
    exact ⟨⟨h.quiet, h.cleared, hsame ▸ h.known, h.settled, h.latched⟩, rfl,
      fun heq => absurd heq hdevice⟩

/-- Held joints have no direct commands. -/
theorem directCleared_hold (hw : CanDriverHW) (device : String) :
    hw.holdCommandsForLifecycleTransition.directCleared device = true := by
  rw [CanDriverHW.directCleared, CanDriverHW.holdCommandsForLifecycleTransition, List.all_map,
    List.all_eq_true]
  intro joint _
  rw [Function.comp_apply, CanDriverJointConfig.holdCommand]
  dsimp only
  split
  · simp
  · simp

/-- The notes, as a watch that does not ask for the answers. -/
abbrev watchRecovery (device : String) (c : HwCore) (op : HwOp) (_ : op.Ans) (n : RecoveryNotes) :
    RecoveryNotes :=
  RecoveryNotes.note device c op n

/-- A hold clears the direct commands before the latch is armed. -/
theorem heldBack_notes (device : String) (s : HwCore × RecoveryNotes) :
    (heldBack (watchRecovery device) s).2 = s.2.armed true := by
  rw [← directCleared_hold s.1.hw device]
  rfl

/-- A device that came back is held, and so is every joint. -/
theorem still_recovered {s : HwCore × RecoveryNotes} (h : Recovering device s) {device' : String}
    (hknown : s.1.gate.lastDeviceReadyState device' = some false) :
    Still device (heldBack (watchRecovery device) (looked (watchRecovery device) device' true s)) := by
  have hinvalid : ∀ index, (heldBack (watchRecovery device)
      (looked (watchRecovery device) device' true s)).1.valid index = false :=
    fun index => valid_hold s.1 index
  have hnotes := heldBack_notes device (looked (watchRecovery device) device' true s)
  have hseen : (looked (watchRecovery device) device' true s).2 =
      if device' = device then s.2.look true else s.2 := rfl
  have hready : (heldBack (watchRecovery device)
      (looked (watchRecovery device) device' true s)).1.gate.lastDeviceReadyState =
      put s.1.gate.lastDeviceReadyState device' true := rfl
  by_cases hdevice : device' = device
  · subst hdevice
    have hlost : s.2.phase = .lost := h.known.2 hknown
    have hback : (s.2.look true).phase = .back := by
      simp [RecoveryNotes.look, hlost]
    rw [hseen, if_pos rfl, RecoveryNotes.armed, if_pos hback] at hnotes
    refine ⟨⟨?_, ?_, ?_, ?_, fun _ => rfl⟩, fun _ => hinvalid⟩
    · rw [hnotes]
      exact h.quiet
    · rw [hnotes, Bool.and_true]
      exact h.cleared
    · rw [hnotes, hready, put_self]
      simp
    · rw [hnotes]
      simp
  · rw [hseen, if_neg hdevice, RecoveryNotes.armed, if_neg h.settled] at hnotes
    refine ⟨⟨?_, ?_, ?_, ?_, fun _ => rfl⟩, fun _ => hinvalid⟩
    · rw [hnotes]
      exact h.quiet
    · rw [hnotes]
      exact h.cleared
    · rw [hnotes, hready, put_of_ne _ _ (Ne.symm hdevice)]
      exact h.known
    · rw [hnotes]
      exact h.settled

/-- **The rule of the return**: all that happens in a dispatch keeps a held device still. -/
theorem recoveryRule (device : String) (config : WriteConfig)
    (hhold : config.safetyHoldAfterDeviceRecover = true)
    (groups : List CanDriverDeviceProtocolGroup) (prepared : List CanDriverPreparedCommand) :
    WatchRule unguarded (watchRecovery device) config groups prepared (Still device)
      (fun group _ _ => StillIn device group) where
  free _ _ _ := trivial
  lost group _ s h := by
    have hlook := recovering_observe_false h.1 group.canDevice
    refine ⟨hlook.of_gate (by rfl) (by rfl), fun hwaiting index => ?_⟩
    have hwas : s.2.phase = .waiting := by
      have hphase : (RecoveryNotes.note device s.1 (.gate (.observe group.canDevice false)) s.2).phase =
          .waiting := hwaiting
      rw [RecoveryNotes.note] at hphase
      split at hphase
      · cases hphase
      · exact hphase
    have hinvalid : (looked (watchRecovery device) group.canDevice false s).1.valid index = false :=
      h.2 hwas index
    have hpassive : Passive (.hw (.clearGroup group)) := trivial
    exact valid_passive _ hpassive hinvalid
  recovered group _ s h _ hknown := still_recovered h.1 hknown
  enter group _ s h hknown nowNs shared := by
    obtain ⟨hlook, hphase, hlost⟩ := recovering_observe_true h.1 (hknown hhold)
    refine ⟨⟨hlook.of_gate (by rfl) (by rfl), fun hwaiting => ?_⟩, fun hdevice => ?_⟩
    · exact h.2 (hphase.symm.trans hwaiting)
    · exact fun h => hlost hdevice (hphase.symm.trans h)
  leave _ _ _ _ h := h.1
  incidental group shared nowNs s op r hop _ h := by
    cases op with
    | hw op =>
        cases op with
        | read => exact h
        | _ => exact hop.elim
    | hasProtocol | lockDevice | unlockDevice | hasFault | isEnabled => exact h
    | _ => exact hop.elim
  calm _ _ _ _ _ h _ := h.of_same rfl rfl rfl
  again _ _ _ _ _ h _ := h.of_same rfl rfl rfl
  stop _ _ _ _ _ _ _ h _ _ _ := h.of_same rfl rfl rfl
  send group _ shared nowNs s index command h _ hvalid _ := by
    refine ⟨trivial, fun r => ?_⟩
    by_cases hdevice : group.canDevice = device
    · have hmoving : s.2.phase = .moving := by
        cases hphase : s.2.phase with
        | moving => rfl
        | lost => exact absurd hphase (h.2 hdevice)
        | back => exact absurd hphase h.1.1.settled
        | waiting =>
            have hinvalid := h.1.2 hphase index
            rw [hvalid] at hinvalid
            cases hinvalid
      have hsent : (watched (watchRecovery device) (.send index command.route group.canDevice
          group.protocol command.motorId command.raw) r s).2 = s.2.sent := if_pos hdevice
      refine ⟨⟨⟨?_, ?_, ?_, ?_, ?_⟩, ?_⟩, ?_⟩ <;> rw [hsent]
      · rw [RecoveryNotes.sent, h.1.1.quiet, hmoving]
        rfl
      · exact h.1.1.cleared
      · exact h.1.1.known
      · exact h.1.1.settled
      · exact h.1.1.latched
      · exact h.1.2
      · exact h.2
    · have hsent : (watched (watchRecovery device) (.send index command.route group.canDevice
          group.protocol command.motorId command.raw) r s).2 = s.2 := if_neg hdevice
      have hnext : watched (watchRecovery device) (.send index command.route group.canDevice
          group.protocol command.motorId command.raw) r s = s := Prod.ext rfl hsent
      rw [hnext]
      exact h

/-! ## cycles -/

/-- A cycle passes the latch only with no device waiting for it. -/
theorem wp_consumeLatch {s : HwCore × RecoveryNotes} (h : Recovering device s) :
    consumeFreshCommandLatchIfSatisfied.wp (noting (RecoveryNotes.note device))
      (fun passes s => Recovering device s ∧ (passes = true → s.2.phase ≠ .waiting)) s := by
  rw [consumeFreshCommandLatchIfSatisfied, Prog.wp_bind]
  refine wp_askHw fun gate hgate => ?_
  obtain rfl := hgate
  rw [Prog.wp_ite]
  split
  · next hrequired =>
    rw [Bool.not_eq_true'] at hrequired
    refine ⟨h, fun _ hwaiting => ?_⟩
    have hlatched : s.1.gate.freshCommandRequired = true := h.latched hwaiting
    rw [hrequired] at hlatched
    cases hlatched
  · rw [Prog.wp_bind]
    refine wp_askHw fun hw hhw => ?_
    rw [Prog.wp_bind]
    refine wp_askHw fun gate hgate => ?_
    obtain rfl := hgate
    rw [Prog.pure_eq, Prog.wp_ret]
    have hread : Recovering device (s.1, s.2) := h
    dsimp only [RecoveryNotes.note, HwCore.after, GateOp.apply, JointOp.apply]
    cases hsatisfied : s.1.gate.satisfiedBy hw.captureCommandSnapshots with
    | true =>
        rw [if_pos rfl, RecoveryNotes.released]
        split
        · next hwaiting =>
          refine ⟨⟨h.quiet, h.cleared, ?_, by simp, by simp⟩, by simp⟩
          have hknown : s.1.gate.lastDeviceReadyState device ≠ some false := by
            rw [Ne, ← h.known, hwaiting]
            simp
          rw [CommandGate.lastDeviceReadyState_consume]
          exact iff_of_false (by simp) hknown
        · next hmoving =>
          refine ⟨⟨h.quiet, h.cleared, ?_, h.settled, fun hwaiting => absurd hwaiting hmoving⟩,
            fun _ => hmoving⟩
          rw [CommandGate.lastDeviceReadyState_consume]
          exact h.known
    | false =>
        rw [if_neg Bool.false_ne_true, CommandGate.consume_of_not_satisfied hsatisfied]
        exact ⟨h, fun h => absurd h Bool.false_ne_true⟩

/-- The commands of a cycle that passed the latch. -/
theorem wp_commandCycleBack (config : WriteConfig)
    (hhold : config.safetyHoldAfterDeviceRecover = true) (limiter : CommandLimiter)
    (groups : List CanDriverDeviceProtocolGroup) {s : HwCore × RecoveryNotes}
    (h : Recovering device s) (hmoving : s.2.phase ≠ .waiting) :
    (commandCycle config limiter groups).wp (noting (RecoveryNotes.note device))
      (fun _ => Recovering device) s := by
  rw [commandCycle, Prog.wp_bind, modifyHw, Prog.wp_bind]
  refine wp_askHw fun _ _ => ?_
  rw [Prog.pure_eq, Prog.wp_ret, Prog.wp_bind]
  refine wp_askHw fun now _ => ?_
  rw [Prog.wp_bind]
  refine wp_askHw fun hw _ => ?_
  refine Prog.wp_mono ((recoveryRule device config hhold groups
    (preparedCommands config now hw)).wp_dispatch false groups (fun _ h => h) ?_) fun _ s hs => hs.1
  exact ⟨h.of_gate rfl rfl, fun hwaiting => absurd hwaiting hmoving⟩

/-- A cycle keeps the invariant. -/
theorem wp_writeBack (config : WriteConfig)
    (hhold : config.safetyHoldAfterDeviceRecover = true) (limiter : CommandLimiter)
    (groups : List CanDriverDeviceProtocolGroup) {s : HwCore × RecoveryNotes}
    (h : Recovering device s) :
    (write config limiter groups).wp (atAnyMode (noting (RecoveryNotes.note device)))
      (fun _ => Recovering device) s := by
  have hinvalidate : ∀ s : HwCore × RecoveryNotes, Recovering device s →
      (driver invalidateCommands).wp (atAnyMode (noting (RecoveryNotes.note device)))
        (fun _ => Recovering device) s := by
    intro s hs
    refine wp_driverAny ?_
    rw [invalidateCommands, modifyHw, Prog.wp_bind]
    exact wp_askHw fun _ _ => hs.of_gate rfl rfl
  rw [write, Prog.wp_bind]
  refine wp_driverAny (wp_askHw fun active _ => ?_)
  have hbegin : Recovering device (s.1.after .active, RecoveryNotes.note device s.1 .active s.2) :=
    ⟨h.quiet, h.cleared, h.known, h.settled, h.latched⟩
  rw [Prog.wp_ite]
  split
  · refine wp_loadAny fun mode => ?_
    rw [Prog.wp_ite]
    split
    · rw [Prog.wp_bind]
      refine Prog.wp_mono (wp_driverAny (wp_consumeLatch hbegin)) fun fresh s hs => ?_
      rw [Prog.wp_ite]
      split
      · next hfresh =>
        rw [Prog.wp_bind]
        refine Prog.wp_mono (wp_driverAny (wp_commandCycleBack config hhold limiter groups hs.1
          (hs.2 hfresh))) fun anyFault s hs => ?_
        exact wp_reportHealth config anyFault (fun _ _ _ => rfl) hs
      · exact hinvalidate s hs.1
    · exact hinvalidate _ hbegin
  · exact hbegin

/-- **Step**: every event of a run keeps the invariant. -/
theorem recovering_step (groups : List CanDriverDeviceProtocolGroup) {e : CycleEvent}
    (hhold : ∀ config limiter, e = .cycle config limiter →
      config.safetyHoldAfterDeviceRecover = true)
    {s s' : HwCore × RecoveryNotes} (h : Recovering device s)
    (hs : e.Step groups (RecoveryNotes.note device) RecoveryNotes.seen s s') :
    Recovering device s' := by
  cases e with
  | change =>
      obtain ⟨joints, _, rfl⟩ := hs
      exact h.of_gate rfl rfl
  | switch motorId mode =>
      obtain ⟨_, rfl⟩ := hs
      exact h.of_gate rfl rfl
  | hold =>
      refine Prog.Runs.of_wp (Q := fun _ => Recovering device) hs ?_
      rw [holdCommands, modifyHw, Prog.wp_bind]
      exact wp_askHw fun _ _ => h.of_gate rfl rfl
  | arm =>
      refine Prog.Runs.of_wp (Q := fun _ => Recovering device) hs ?_
      rw [armFreshCommandLatch, Prog.wp_bind]
      refine wp_askHw fun hw _ => ?_
      rw [modifyGate, Prog.wp_bind]
      refine wp_askHw fun _ _ => ?_
      exact h.of_arm rfl rfl
  | cycle config limiter =>
      exact hs.of_wp (wp_writeBack config (hhold config limiter rfl) limiter groups h)

/-- **Return of a device**: in every run of control cycles that hold the commands when a device
comes back, every command to a device was sent while it was neither lost nor waiting for the
latch, and its joints had no direct commands whenever the latch was armed at its return. -/
theorem recovered_device_waits (groups : List CanDriverDeviceProtocolGroup) (hw : CanDriverHW)
    (device : String) (s : HwCore × RecoveryNotes)
    (hr : Reach (CycleEvent.Step groups (RecoveryNotes.note device) RecoveryNotes.seen)
      (fun _ e => ∀ config limiter, e = .cycle config limiter →
        config.safetyHoldAfterDeviceRecover = true) ({ hw }, {}) s) :
    s.2.quiet = true ∧ s.2.cleared = true := by
  have hinv : Recovering device s :=
    Reach.invariant (I := Recovering device)
      ⟨rfl, rfl, iff_of_false (by simp) (by simp), by simp, by simp⟩
      (fun _ _ _ h hhold hs => recovering_step groups hhold h hs) hr
  exact ⟨hinv.quiet, hinv.cleared⟩

/-! ## a device between two looks -/

/-- A device that is ready at the first look, and changes at every look from then on; all else
as at rest. -/
def flickeringAnswer (s : HwCore × ν) : (op : ModeOp hwSig) → Option op.Ans
  | .driver (.lifecycle (.isDeviceReady device)) =>
      some ((s.1.gate.lastDeviceReadyState device).all fun wasReady => !wasReady)
  | op => answerRunning s op

theorem accepts_of_flickeringAnswer {note : HwCore → HwOp → ν → ν} {s : HwCore × ν}
    {op : ModeOp hwSig} {r : op.Ans} (h : flickeringAnswer s op = some r) :
    (atAnyMode (noting note)).accepts s op r := by
  cases op with
  | driver op =>
      cases op with
      | lifecycle op =>
          cases op with
          | _ => trivial
      | _ => exact accepts_of_answerRunning h
  | _ => trivial

/-- Three joints of one device, each with another protocol. -/
def mixedHw : CanDriverHW where
  joints :=
    [{ name := "lift", canDevice := "can0", controlMode := "position", motorId := 1, protocol := .MT },
     { name := "tilt", canDevice := "can0", controlMode := "position", motorId := 2, protocol := .PP },
     { name := "grip", canDevice := "can0", controlMode := "velocity", motorId := 3, protocol := .DM }]
  commandValidBuffer := [false, false, false]

/-- Their groups. -/
def mixedGroups : List CanDriverDeviceProtocolGroup :=
  [⟨"can0", .MT, [0]⟩, ⟨"can0", .PP, [1]⟩, ⟨"can0", .DM, [2]⟩]

/-- A cycle whose first group is dispatched and whose second one is not; the third finds the
device ready again. -/
theorem reach_flickering :
    ∃ s, Reach (CycleEvent.Step mixedGroups (RecoveryNotes.note "can0") RecoveryNotes.seen)
      (fun _ e => ∀ config limiter, e = .cycle config limiter →
        config.safetyHoldAfterDeviceRecover = true) ({ hw := mixedHw }, {}) s ∧
      s.2.cameBack = true ∧ s.2.moved = true ∧ s.2.phase = .waiting := by
  obtain ⟨⟨_, s⟩, hrun, htest⟩ := (Option.any_eq_true _ _).1
    (show ((write {} keepCommands mixedGroups).run (atAnyMode (noting (RecoveryNotes.note "can0")))
      flickeringAnswer (({ hw := mixedHw } : HwCore), ({} : RecoveryNotes))).any (fun e =>
        e.2.2.cameBack && (e.2.2.moved && decide (e.2.2.phase = .waiting))) = true by decide +kernel)
  rw [Bool.and_eq_true, Bool.and_eq_true, decide_eq_true_eq] at htest
  have hstep : CycleEvent.Step mixedGroups (RecoveryNotes.note "can0") RecoveryNotes.seen
      ({ hw := mixedHw }, {}) (.cycle {} keepCommands) s :=
    Prog.runs_of_run (fun _ _ _ => accepts_of_flickeringAnswer) hrun
  refine ⟨s, Reach.step .refl (fun config limiter h => ?_) hstep, htest⟩
  cases h
  rfl

/-- The device is held where the cycle ends, and nothing was sent to it out of turn. -/
theorem flickering_device_waits :
    ∃ s : HwCore × RecoveryNotes, s.2.phase = .waiting ∧ s.2.quiet = true ∧ s.2.cleared = true := by
  obtain ⟨s, hr, -, -, hphase⟩ := reach_flickering
  exact ⟨s, hphase, recovered_device_waits mixedGroups mixedHw "can0" s hr⟩

/-- But it went from not ready to ready in a cycle in which a command was sent to it. -/
theorem command_sent_before_return :
    ∃ s, Reach (CycleEvent.Step mixedGroups (RecoveryNotes.note "can0") RecoveryNotes.seen)
      (fun _ e => ∀ config limiter, e = .cycle config limiter →
        config.safetyHoldAfterDeviceRecover = true) ({ hw := mixedHw }, {}) s ∧
      s.2.cameBack = true ∧ s.2.moved = true := by
  obtain ⟨s, hr, hback, hmoved, -⟩ := reach_flickering
  exact ⟨s, hr, hback, hmoved⟩

end CanDriver
