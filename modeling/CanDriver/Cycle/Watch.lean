import CanDriver.Cycle.Run

/-!
# CanDriver.Cycle.Watch

The dispatch of a control cycle, with its answers watched.

`WatchRule` splits a dispatch where it matters to a claim about stops, enabled flags and
devices that come back: at the look at a device, at the snapshot of the shared state, at the
fault flag of a joint and at its command.  `WatchRule.wp_dispatch` puts the pieces together.
-/

namespace CanDriver

open Interact

/-- The hardware interface, with every operation and its answer noted; it asks for what the
guard says. -/
def watching (guard : HwCore × ν → HwOp → Prop) (watch : HwCore → (op : HwOp) → op.Ans → ν → ν) :
    Protocol hwSig (HwCore × ν) where
  allow s op := guard s op
  accepts s op r := s.1.Admits op r
  next s op r := (s.1.after op, watch s.1 op r s.2)

/-- A guard that asks for nothing. -/
def unguarded (_ : HwCore × ν) (_ : HwOp) : Prop := True

variable {guard : HwCore × ν → HwOp → Prop} {watch : HwCore → (op : HwOp) → op.Ans → ν → ν}

/-- The state after a watched operation. -/
def watched (watch : HwCore → (op : HwOp) → op.Ans → ν → ν) (op : HwOp) (r : op.Ans)
    (s : HwCore × ν) : HwCore × ν :=
  (s.1.after op, watch s.1 op r s.2)

theorem wp_watchHw {Q : op.Ans → HwCore × ν → Prop} {s : HwCore × ν} (hguard : guard s op)
    (h : ∀ r, s.1.Admits op r → Q r (watched watch op r s)) :
    (askHw op).wp (watching guard watch) Q s :=
  ⟨hguard, h⟩

theorem wp_watchModifyHw {Q : Unit → HwCore × ν → Prop} {op : JointOp} {s : HwCore × ν}
    (hguard : guard s (.hw op)) (h : Q () (watched watch (.hw op) s.1.hw s)) :
    (modifyHw op).wp (watching guard watch) Q s := by
  rw [modifyHw, Prog.wp_bind]
  refine wp_watchHw hguard fun hw hhw => ?_
  have hhw : hw = s.1.hw := hhw
  subst hhw
  exact h

/-- Whether an operation sends a command. -/
def HwOp.Sends : HwOp → Prop
  | .send _ _ _ _ _ _ => True
  | _ => False

/-- The operations inside a group that are neither about a fault nor a command. -/
def Incidental : HwOp → Prop
  | .hw .read => True
  | .hasProtocol _ _ => True
  | .lockDevice _ => True
  | .unlockDevice _ => True
  | .hasFault _ _ _ => True
  | .isEnabled _ _ _ => True
  | _ => False

/-- A command of a group: the joint at an index has it. -/
structure CommandOf (group : CanDriverDeviceProtocolGroup)
    (prepared : List CanDriverPreparedCommand) (index : Nat) (command : CanDriverPreparedCommand) :
    Prop where
  member : index ∈ group.jointIndices
  command : prepared[index]? = some command

/-- The status a command of a group is dispatched by. -/
def groupStatus (config : WriteConfig) (group : CanDriverDeviceProtocolGroup)
    (shared : SharedDriverState) (nowNs : Time) (command : CanDriverPreparedCommand) :
    Option (Bool × Bool) :=
  motionStatus config shared nowNs (makeAxisKey group.canDevice group.protocol command.motorId)

/-- After the look at the device of a group. -/
def looked (watch : HwCore → (op : HwOp) → op.Ans → ν → ν) (device : String) (isReady : Bool)
    (s : HwCore × ν) : HwCore × ν :=
  let s := watched watch (.lifecycle (.isDeviceReady device)) isReady s
  watched watch (.gate (.observe device isReady)) s.1.gate s

/-- After the hold of the commands of a device that came back. -/
def heldBack (watch : HwCore → (op : HwOp) → op.Ans → ν → ν) (s : HwCore × ν) : HwCore × ν :=
  let s := watched watch (.hw .hold) s.1.hw s
  let s := watched watch (.hw .read) s.1.hw s
  watched watch (.gate (.arm s.1.hw.captureCommandSnapshots)) s.1.gate s

/-- What a dispatch keeps: `J` holds between the groups, `K` inside a group after its snapshot
of the shared state. -/
structure WatchRule (guard : HwCore × ν → HwOp → Prop) (watch : HwCore → (op : HwOp) → op.Ans → ν → ν)
    (config : WriteConfig) (groups : List CanDriverDeviceProtocolGroup)
    (prepared : List CanDriverPreparedCommand) (J : HwCore × ν → Prop)
    (K : CanDriverDeviceProtocolGroup → SharedDriverState → Time → HwCore × ν → Prop) : Prop where
  /-- The guard asks for something only where a command is sent. -/
  free : ∀ s op, ¬ op.Sends → guard s op
  /-- The commands of a device that is not ready are cleared. -/
  lost : ∀ group ∈ groups, ∀ s, J s →
    J (watched watch (.hw (.clearGroup group)) (looked watch group.canDevice false s).1.hw
      (looked watch group.canDevice false s))
  /-- All commands are held where a device has come back. -/
  recovered : ∀ group ∈ groups, ∀ s, J s → config.safetyHoldAfterDeviceRecover = true →
    s.1.gate.lastDeviceReadyState group.canDevice = some false →
    J (heldBack watch (looked watch group.canDevice true s))
  /-- The snapshot of the shared state. -/
  enter : ∀ group ∈ groups, ∀ s, J s →
    (config.safetyHoldAfterDeviceRecover = true →
      s.1.gate.lastDeviceReadyState group.canDevice ≠ some false) →
    ∀ nowNs shared, K group shared nowNs
      (watched watch (.lifecycle .shared) shared
        (watched watch (.lifecycle .clock) nowNs (looked watch group.canDevice true s)))
  leave : ∀ group shared nowNs s, K group shared nowNs s → J s
  incidental : ∀ group shared nowNs s op r, Incidental op → s.1.Admits op r →
    K group shared nowNs s → K group shared nowNs (watched watch op r s)
  /-- No fault. -/
  calm : ∀ group shared nowNs s index, K group shared nowNs s → config.safetyStopOnFault = true →
    K group shared nowNs (watched watch (.hw (.noteStopIssued index false)) s.1.hw s)
  /-- A fault that a stop was sent for already. -/
  again : ∀ group shared nowNs s index, K group shared nowNs s → s.1.hw.stopIssued index = true →
    K group shared nowNs (watched watch (.hw (.noteStopIssued index true)) s.1.hw s)
  /-- A fault that a stop is sent for. -/
  stop : ∀ group ∈ groups, ∀ shared nowNs s index command, K group shared nowNs s →
    CommandOf group prepared index command → s.1.hw.stopIssued index = false → ∀ accepted,
    K group shared nowNs
      (watched watch (.stop group.canDevice group.protocol command.motorId) accepted
        (watched watch (.hw (.noteStopIssued index true)) s.1.hw s))
  /-- A command is sent. -/
  send : ∀ group ∈ groups, ∀ shared nowNs s index command, K group shared nowNs s →
    CommandOf group prepared index command → s.1.valid index = true →
    (config.safetyRequireEnabledForMotion = true →
      ∀ status, groupStatus config group shared nowNs command = some status → status.1 = true) →
    guard s (.send index command.route group.canDevice group.protocol command.motorId command.raw) ∧
    ∀ r, K group shared nowNs
      (watched watch (.send index command.route group.canDevice group.protocol command.motorId
        command.raw) r s)

namespace WatchRule

variable {config : WriteConfig} {groups : List CanDriverDeviceProtocolGroup}
  {prepared : List CanDriverPreparedCommand} {J : HwCore × ν → Prop}
  {K : CanDriverDeviceProtocolGroup → SharedDriverState → Time → HwCore × ν → Prop}
  {group : CanDriverDeviceProtocolGroup} {shared : SharedDriverState} {nowNs : Time}

/-- Sending a command. -/
theorem wp_sendCommand (rule : WatchRule guard watch config groups prepared J K) (hgroup : group ∈ groups)
    {index : Nat} {command : CanDriverPreparedCommand} (hcommand : CommandOf group prepared index command)
    {s : HwCore × ν} (hs : K group shared nowNs s) (hvalid : s.1.valid index = true) :
    (sendCommand config group index command (groupStatus config group shared nowNs command)).wp
      (watching guard watch) (fun _ => K group shared nowNs) s := by
  have henabled : (dispatchEnabled group.canDevice group.protocol command.motorId
      (groupStatus config group shared nowNs command)).wp (watching guard watch)
      (fun enabled s => (K group shared nowNs s ∧ s.1.valid index = true) ∧
        ∀ status, groupStatus config group shared nowNs command = some status →
          status.1 = enabled) s := by
    cases hstatus : groupStatus config group shared nowNs command with
    | some status =>
        refine ⟨⟨hs, hvalid⟩, fun status' hsome => ?_⟩
        rw [Option.some.inj hsome]
    | none =>
        refine wp_watchHw (rule.free _ _ id) fun enabled hadmits => ⟨⟨?_, hvalid⟩, fun _ hsome => ?_⟩
        · exact rule.incidental group shared nowNs s (.isEnabled _ _ _) enabled trivial hadmits hs
        · cases hsome
  rw [sendCommand, Prog.wp_bind]
  refine Prog.wp_mono henabled fun enabled s hs => ?_
  obtain ⟨⟨hs, hvalid⟩, hstatus⟩ := hs
  rw [Prog.wp_ite]
  split
  · exact hs
  · next hblocked =>
    have hsanction : config.safetyRequireEnabledForMotion = true → enabled = true := by
      intro hrequire
      simpa [hrequire] using hblocked
    rw [Prog.wp_bind]
    obtain ⟨hguard, hsent⟩ := rule.send group hgroup shared nowNs s index command hs hcommand hvalid
      fun hrequire status hsome => (hstatus status hsome).trans (hsanction hrequire)
    exact wp_watchHw hguard fun r _ => hsent r

/-- The dispatch of one joint. -/
theorem wp_dispatchJoint (rule : WatchRule guard watch config groups prepared J K)
    (hgroup : group ∈ groups) {index : Nat} {command : CanDriverPreparedCommand}
    (hcommand : CommandOf group prepared index command) {s : HwCore × ν}
    (hs : K group shared nowNs s) :
    (dispatchJoint config group index command (groupStatus config group shared nowNs command)).wp
      (watching guard watch) (fun _ => K group shared nowNs) s := by
  rw [dispatchJoint, Prog.wp_bind]
  refine wp_watchHw (rule.free _ _ id) fun hw hhw => ?_
  have hread := rule.incidental group shared nowNs s (.hw .read) hw trivial hhw hs
  have hhw : hw = s.1.hw := hhw
  subst hhw
  rw [Prog.wp_ite]
  split
  · exact hread
  · next hskip =>
    have hvalid : s.1.valid index = true := by
      rw [Bool.or_eq_true, Bool.not_eq_true', Bool.not_eq_true', not_or, Bool.not_eq_false] at hskip
      exact Bool.not_eq_false _ ▸ hskip.2
    have hfault : (dispatchFault group.canDevice group.protocol command.motorId
        (groupStatus config group shared nowNs command)).wp (watching guard watch)
        (fun _ s => K group shared nowNs s ∧ s.1.valid index = true)
        (watched watch (.hw .read) s.1.hw s) := by
      cases groupStatus config group shared nowNs command with
      | some status => exact ⟨hread, hvalid⟩
      | none =>
          refine wp_watchHw (rule.free _ _ id) fun fault hadmits => ⟨?_, hvalid⟩
          exact rule.incidental _ _ _ _ (.hasFault _ _ _) fault trivial hadmits hread
    rw [Prog.wp_bind]
    refine Prog.wp_mono hfault fun fault s hs => ?_
    rw [Prog.wp_ite]
    split
    · rw [Prog.wp_bind]
      refine wp_watchHw (rule.free _ _ id) fun hw hhw => ?_
      have hhw : hw = s.1.hw := hhw
      subst hhw
      rw [Prog.wp_ite]
      split
      · next hissued => exact rule.again group shared nowNs s index hs.1 hissued
      · next hissued =>
        rw [Prog.wp_bind]
        refine wp_watchHw (rule.free _ _ id) fun accepted _ => ?_
        exact rule.stop group hgroup shared nowNs s index command hs.1 hcommand
          (Bool.eq_false_of_not_eq_true hissued) accepted
    · rw [Prog.wp_ite]
      split
      · next hstop =>
        rw [Prog.wp_bind]
        refine wp_watchModifyHw (rule.free _ _ id) ?_
        have hcalm := rule.calm group shared nowNs s index hs.1 hstop
        rw [Prog.wp_bind]
        exact Prog.wp_mono (rule.wp_sendCommand hgroup hcommand hcalm hs.2) fun _ s hs => hs
      · rw [Prog.wp_bind]
        exact Prog.wp_mono (rule.wp_sendCommand hgroup hcommand hs.1 hs.2) fun _ s hs => hs

/-- The inner loop of a dispatch. -/
theorem wp_dispatchJoints (rule : WatchRule guard watch config groups prepared J K)
    (hgroup : group ∈ groups) (anyFault : Bool) (indices : List Nat)
    (hindices : ∀ index ∈ indices, index ∈ group.jointIndices) {s : HwCore × ν}
    (hs : K group shared nowNs s) :
    (dispatchJoints config group prepared (groupStatus config group shared nowNs) anyFault
      indices).wp (watching guard watch) (fun _ => K group shared nowNs) s := by
  induction indices generalizing anyFault s with
  | nil => exact hs
  | cons index indices ih =>
      have hrest : ∀ index ∈ indices, index ∈ group.jointIndices :=
        fun index hindex => hindices index (List.mem_cons_of_mem _ hindex)
      rw [dispatchJoints]
      cases hcommand : prepared[index]? with
      | none => exact ih anyFault hrest hs
      | some command =>
          dsimp only
          rw [Prog.wp_bind]
          have hof : CommandOf group prepared index command :=
            ⟨hindices index List.mem_cons_self, hcommand⟩
          exact Prog.wp_mono (rule.wp_dispatchJoint hgroup hof hs) fun fault s hs => ih _ hrest hs

/-- The dispatch of one group, after the look at its device. -/
theorem wp_dispatchGroup (rule : WatchRule guard watch config groups prepared J K)
    (hgroup : group ∈ groups) (anyFault : Bool) {s : HwCore × ν}
    (hs : ∀ nowNs shared, K group shared nowNs
      (watched watch (.lifecycle .shared) shared (watched watch (.lifecycle .clock) nowNs s))) :
    (dispatchGroup config group prepared anyFault).wp (watching guard watch) (fun _ => J) s := by
  rw [dispatchGroup, Prog.wp_bind]
  refine wp_watchHw (rule.free _ _ id) fun nowNs _ => ?_
  rw [Prog.wp_bind]
  refine wp_watchHw (rule.free _ _ id) fun shared _ => ?_
  have hs := hs nowNs shared
  rw [Prog.wp_bind]
  refine wp_watchHw (rule.free _ _ id) fun has hadmits => ?_
  have hs := rule.incidental group shared nowNs _ (.hasProtocol _ _) has trivial hadmits hs
  rw [Prog.wp_ite]
  split
  · exact rule.leave group shared nowNs _ hs
  · rw [Prog.wp_bind]
    refine wp_watchHw (rule.free _ _ id) fun _ hadmits => ?_
    have hs := rule.incidental group shared nowNs _ (.lockDevice _) () trivial hadmits hs
    rw [Prog.wp_bind]
    refine Prog.wp_mono (rule.wp_dispatchJoints hgroup anyFault _ (fun _ h => h) hs)
      fun fault s hs => ?_
    rw [Prog.wp_bind]
    refine wp_watchHw (rule.free _ _ id) fun _ hadmits => ?_
    exact rule.leave group shared nowNs _
      (rule.incidental group shared nowNs _ (.unlockDevice _) () trivial hadmits hs)

/-- **The dispatch** keeps what the rule says. -/
theorem wp_dispatch (rule : WatchRule guard watch config groups prepared J K) (anyFault : Bool)
    (rest : List CanDriverDeviceProtocolGroup) (hrest : ∀ group ∈ rest, group ∈ groups)
    {s : HwCore × ν} (hs : J s) :
    (dispatchPreparedCommands config prepared anyFault rest).wp (watching guard watch)
      (fun _ => J) s := by
  induction rest generalizing anyFault s with
  | nil => exact hs
  | cons group rest ih =>
      have hgroup := hrest group List.mem_cons_self
      have ih := fun anyFault {s} =>
        ih anyFault (fun group h => hrest group (List.mem_cons_of_mem _ h)) (s := s)
      rw [dispatchPreparedCommands, Prog.wp_bind]
      refine wp_watchHw (rule.free _ _ id) fun isReady _ => ?_
      rw [Prog.wp_bind]
      refine wp_watchHw (rule.free _ _ id) fun gate hgate => ?_
      have hgate : gate = s.1.gate := hgate
      subst hgate
      cases isReady with
      | false =>
          rw [Bool.not_false, if_pos rfl, Prog.wp_bind]
          exact wp_watchModifyHw (rule.free _ _ id) (ih anyFault (rule.lost group hgroup s hs))
      | true =>
          rw [Bool.not_true, if_neg Bool.false_ne_true, Prog.wp_ite]
          split
          · next hback =>
            rw [Bool.and_eq_true, beq_iff_eq] at hback
            rw [Prog.wp_bind, holdCommands]
            refine wp_watchModifyHw (rule.free _ _ id) ?_
            rw [Prog.wp_bind, armFreshCommandLatch, Prog.wp_bind]
            refine wp_watchHw (rule.free _ _ id) fun hw hhw => ?_
            obtain rfl := hhw
            rw [modifyGate, Prog.wp_bind]
            refine wp_watchHw (rule.free _ _ id) fun gate hgate => ?_
            obtain rfl := hgate
            exact ih anyFault (rule.recovered group hgroup s hs hback.1 
              (CommandGate.deviceEvent_ready.1 hback.2))
          · next hback =>
            rw [Prog.wp_bind]
            refine Prog.wp_mono (rule.wp_dispatchGroup hgroup anyFault
              (rule.enter group hgroup s hs fun hhold hknown => hback ?_)) fun fault s hs => ih fault hs
            rw [hhold, Bool.true_and, beq_iff_eq]
            exact CommandGate.deviceEvent_ready.2 hknown

end WatchRule

end CanDriver
