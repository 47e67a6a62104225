import CanDriver.CanDriverIoRuntime
import CanDriver.Lib.Pool

/-!
# CanDriver.Cycle.Run

Control cycles one after another, with everything that may happen between them.

The protocols and the devices answer as they like.  Every operation may be noted down in a
record `ν` that the code does not see; what is claimed about a run is read off this record.

`DispatchRule` says what an invariant of a dispatch has to survive, and
`DispatchRule.wp_dispatch` that it then holds where the dispatch ends.
-/

namespace CanDriver

open Interact

/-! ## the hardware interface and what it notes -/

/-- What a control cycle works on. -/
structure HwCore where
  hw : CanDriverHW := {}
  gate : CommandGate := {}

namespace HwCore

/-- What is stored is found again; everything else is answered at will. -/
def Admits (c : HwCore) : (op : HwOp) → op.Ans → Prop
  | .hw _, r => r = c.hw
  | .gate _, r => r = c.gate
  | _, _ => True

/-- The state after an operation. -/
def after (c : HwCore) : HwOp → HwCore
  | .hw op => { c with hw := op.apply c.hw }
  | .gate op => { c with gate := op.apply c.gate }
  | _ => c

/-- Whether the command of a joint is marked valid. -/
def valid (c : HwCore) (index : Nat) : Bool := c.hw.commandValidBuffer[index]?.getD false

end HwCore

/-- The hardware interface, with every operation noted. -/
def noting (note : HwCore → HwOp → ν → ν) : Protocol hwSig (HwCore × ν) where
  allow _ _ := True
  accepts s op r := s.1.Admits op r
  next s op _ := (s.1.after op, note s.1 op s.2)

/-- The coordinator above it, its mode being whatever it is. -/
def atAnyMode (P : Protocol D γ) : Protocol (coordSig D) γ where
  allow _ _ := True
  accepts s op r :=
    match op, r with
    | .driver op, r => P.accepts s op r
    | _, _ => True
  next s op r :=
    match op, r with
    | .driver op, r => P.next s op r
    | _, _ => s

/-- What is proved of a program behind the driver table holds of it in the coordinator. -/
theorem wp_driverAny {D : Sig} {P : Protocol D γ} {Q : α → γ → Prop} {p : Prog D α} {s : γ}
    (h : p.wp P Q s) : (driver p).wp (atAnyMode P) Q s := by
  induction p generalizing s with
  | ret a => exact h
  | vis op k ih => exact ⟨trivial, fun r hr => ih r (h.2 r hr)⟩

/-- An operation on the mode changes nothing here. -/
theorem wp_loadAny {D : Sig} {P : Protocol D γ} {Q : α → γ → Prop} {s : γ}
    {f : SystemOpMode → Coord D α} (h : ∀ mode, (f mode).wp (atAnyMode P) Q s) :
    (load >>= f).wp (atAnyMode P) Q s :=
  ⟨trivial, fun mode _ => h mode⟩

theorem wp_updateFromFeedbackAny {D : Sig} {P : Protocol D γ} {Q : Unit → γ → Prop} {s : γ}
    (unhealthy : Bool) (h : Q () s) : (updateFromFeedback unhealthy).wp (atAnyMode P) Q s := by
  rw [updateFromFeedback, Prog.wp_ite]
  split
  · refine wp_loadAny fun mode => ?_
    rw [Prog.wp_ite]
    split
    · exact ⟨trivial, fun _ _ => h⟩
    · exact h
  · exact h

/-! ## runs -/

/-- Two records of one joint that differ in its commands and its feedback. -/
def CanDriverJointConfig.SameButCommands (joint joint' : CanDriverJointConfig) : Prop :=
  joint' =
    { joint with
      pos := joint'.pos
      vel := joint'.vel
      posCmd := joint'.posCmd
      velCmd := joint'.velCmd
      directPosCmd := joint'.directPosCmd
      directVelCmd := joint'.directVelCmd
      hasDirectPosCmd := joint'.hasDirectPosCmd
      hasDirectVelCmd := joint'.hasDirectVelCmd
      lastDirectPosTime := joint'.lastDirectPosTime
      lastDirectVelTime := joint'.lastDirectVelTime }

/-- What happens between control cycles: commands and feedback change, a joint is switched to
another mode, the commands are held, the latch is armed; and the cycles themselves. -/
inductive CycleEvent where
  | change
  | switch (motorId : MotorID) (mode : AxisControlMode)
  | hold
  | arm
  | cycle (config : WriteConfig) (limiter : CommandLimiter)

/-- One step of a run.  `seen` notes the state after a change or a switch. -/
def CycleEvent.Step (groups : List CanDriverDeviceProtocolGroup) (note : HwCore → HwOp → ν → ν)
    (seen : HwCore → CycleEvent → HwCore → ν → ν) (s : HwCore × ν) :
    CycleEvent → HwCore × ν → Prop
  | .change, s' =>
      ∃ joints, List.Forall₂ CanDriverJointConfig.SameButCommands s.1.hw.joints joints ∧
        s' = ({ s.1 with hw := { s.1.hw with joints } },
          seen s.1 .change { s.1 with hw := { s.1.hw with joints } } s.2)
  | .switch motorId mode, s' =>
      (s.1.hw.commitModeSwitch motorId mode).1 = true ∧
        s' = ({ s.1 with hw := (s.1.hw.commitModeSwitch motorId mode).2 },
          seen s.1 (.switch motorId mode)
            { s.1 with hw := (s.1.hw.commitModeSwitch motorId mode).2 } s.2)
  | .hold, s' => Prog.Runs (noting note) holdCommands s () s'
  | .arm, s' => Prog.Runs (noting note) armFreshCommandLatch s () s'
  | .cycle config limiter, s' =>
      Prog.Runs (atAnyMode (noting note)) (write config limiter groups) s () s'

/-! ## invariants of a dispatch -/

variable {note : HwCore → HwOp → ν → ν}

/-- The operations of a dispatch that move nothing and mark no command valid. -/
def Passive : HwOp → Prop
  | .hw .read => True
  | .hw .invalidate => True
  | .hw (.clearGroup _) => True
  | .hw (.noteStopIssued _ _) => True
  | .hw _ => False
  | .gate .read => True
  | .gate (.observe _ _) => True
  | .gate _ => False
  | .send _ _ _ _ _ _ => False
  | _ => True

/-- A passive operation marks no command valid. -/
theorem valid_passive (c : HwCore) {index : Nat} {op : HwOp} (hop : Passive op) (h : c.valid index = false) :
    (c.after op).valid index = false := by
  cases op with
  | hw op =>
      cases op with
      | read => exact h
      | invalidate =>
          simp only [HwCore.valid, HwCore.after, JointOp.apply, CanDriverHW.invalidateCommands,
            List.getElem?_map] at h ⊢
          cases c.hw.commandValidBuffer[index]? <;> rfl
      | clearGroup group =>
          simp only [HwCore.valid, HwCore.after, JointOp.apply, clearGroupCommands,
            List.getElem?_mapIdx] at h ⊢
          cases hv : c.hw.commandValidBuffer[index]? with
          | none => rfl
          | some v =>
              rw [hv] at h
              have hv : v = false := h
              simp [hv]
      | noteStopIssued k issued => exact h
      | hold => exact hop.elim
      | limit limiter => exact hop.elim
      | prepare config now => exact hop.elim
  | _ => exact h

/-- Held commands are not valid. -/
theorem valid_hold (c : HwCore) (index : Nat) : (c.after (.hw .hold)).valid index = false := by
  simp only [HwCore.valid, HwCore.after, JointOp.apply,
    CanDriverHW.holdCommandsForLifecycleTransition, List.getElem?_map]
  cases c.hw.commandValidBuffer[index]? <;> rfl

/-- An invariant of a dispatch: it survives the passive operations, a hold of the commands
with the arming of the latch that follows it, and the sending of a valid command. -/
structure DispatchRule (note : HwCore → HwOp → ν → ν) (J H : HwCore × ν → Prop) : Prop where
  passive : ∀ s op, Passive op → J s → J (s.1.after op, note s.1 op s.2)
  hold : ∀ s, J s → H (s.1.after (.hw .hold), note s.1 (.hw .hold) s.2)
  arm : ∀ s, H s →
    J ((s.1.after (.hw .read)).after (.gate (.arm s.1.hw.captureCommandSnapshots)),
      note (s.1.after (.hw .read)) (.gate (.arm s.1.hw.captureCommandSnapshots))
        (note s.1 (.hw .read) s.2))
  send : ∀ s index route device protocol motorId raw, J s → s.1.valid index = true →
    J (s.1, note s.1 (.send index route device protocol motorId raw) s.2)

theorem wp_askHw {Q : op.Ans → HwCore × ν → Prop} {s : HwCore × ν}
    (h : ∀ r, s.1.Admits op r → Q r (s.1.after op, note s.1 op s.2)) :
    (askHw op).wp (noting note) Q s :=
  ⟨trivial, h⟩

namespace DispatchRule

variable {J H : HwCore × ν → Prop}

theorem wp_passive (rule : DispatchRule note J H) (op : HwOp) (hop : Passive op)
    {s : HwCore × ν} (hs : J s) : (askHw op).wp (noting note) (fun _ => J) s :=
  wp_askHw fun _ _ => rule.passive s op hop hs

/-- Sending a command. -/
theorem wp_sendCommand (rule : DispatchRule note J H) (config : WriteConfig)
    (group : CanDriverDeviceProtocolGroup) (index : Nat) (command : CanDriverPreparedCommand)
    (status : Option (Bool × Bool)) {s : HwCore × ν} (hs : J s) (hvalid : s.1.valid index = true) :
    (sendCommand config group index command status).wp (noting note) (fun _ => J) s := by
  have henabled : (dispatchEnabled group.canDevice group.protocol command.motorId status).wp
      (noting note) (fun _ s => J s ∧ s.1.valid index = true) s := by
    cases status with
    | some status => exact ⟨hs, hvalid⟩
    | none =>
        refine wp_askHw fun _ _ => ⟨rule.passive s (.isEnabled _ _ _) trivial hs, hvalid⟩
  rw [sendCommand, Prog.wp_bind]
  refine Prog.wp_mono henabled fun enabled s hs => ?_
  rw [Prog.wp_ite]
  split
  · exact hs.1
  · refine ⟨trivial, fun _ _ => ?_⟩
    exact rule.send s index command.route group.canDevice group.protocol command.motorId command.raw
      hs.1 hs.2

/-- The dispatch of one joint. -/
theorem wp_dispatchJoint (rule : DispatchRule note J H) (config : WriteConfig)
    (group : CanDriverDeviceProtocolGroup) (index : Nat) (command : CanDriverPreparedCommand)
    (status : Option (Bool × Bool)) {s : HwCore × ν} (hs : J s) :
    (dispatchJoint config group index command status).wp (noting note) (fun _ => J) s := by
  rw [dispatchJoint, Prog.wp_bind]
  refine wp_askHw fun hw hhw => ?_
  have hhw : hw = s.1.hw := hhw
  subst hhw
  have hread := rule.passive s (.hw .read) trivial hs
  rw [Prog.wp_ite]
  split
  · exact hread
  · next hskip =>
    have hvalid : s.1.valid index = true := by
      rw [Bool.or_eq_true, Bool.not_eq_true', Bool.not_eq_true', not_or, Bool.not_eq_false] at hskip
      exact Bool.not_eq_false _ ▸ hskip.2
    have hfault : (dispatchFault group.canDevice group.protocol command.motorId status).wp
        (noting note) (fun _ s => J s ∧ s.1.valid index = true)
        (s.1.after (.hw .read), note s.1 (.hw .read) s.2) := by
      cases status with
      | some status => exact ⟨hread, hvalid⟩
      | none => exact wp_askHw fun _ _ => ⟨rule.passive _ (.hasFault _ _ _) trivial hread, hvalid⟩
    rw [Prog.wp_bind]
    refine Prog.wp_mono hfault fun fault s hs => ?_
    rw [Prog.wp_ite]
    split
    · rw [Prog.wp_bind]
      refine wp_askHw fun hw _ => ?_
      have hnoted := rule.passive s (.hw (.noteStopIssued index true)) trivial hs.1
      rw [Prog.wp_ite]
      split
      · exact hnoted
      · rw [Prog.wp_bind]
        exact wp_askHw fun _ _ => rule.passive _ (.stop _ _ _) trivial hnoted
    · rw [Prog.wp_ite]
      split
      · rw [Prog.wp_bind, modifyHw, Prog.wp_bind]
        refine wp_askHw fun hw _ => ?_
        have hnoted := rule.passive s (.hw (.noteStopIssued index false)) trivial hs.1
        rw [Prog.pure_eq, Prog.wp_ret, Prog.wp_bind]
        refine Prog.wp_mono (rule.wp_sendCommand config group index command status hnoted hs.2)
          fun _ s hs => hs
      · rw [Prog.wp_bind]
        exact Prog.wp_mono (rule.wp_sendCommand config group index command status hs.1 hs.2)
          fun _ s hs => hs

/-- The inner loop of a dispatch. -/
theorem wp_dispatchJoints (rule : DispatchRule note J H) (config : WriteConfig)
    (group : CanDriverDeviceProtocolGroup) (prepared : List CanDriverPreparedCommand)
    (statuses : CanDriverPreparedCommand → Option (Bool × Bool)) (anyFault : Bool)
    (indices : List Nat) {s : HwCore × ν} (hs : J s) :
    (dispatchJoints config group prepared statuses anyFault indices).wp (noting note)
      (fun _ => J) s := by
  induction indices generalizing anyFault s with
  | nil => exact hs
  | cons index indices ih =>
      rw [dispatchJoints]
      cases prepared[index]? with
      | none => exact ih anyFault hs
      | some command =>
          dsimp only
          rw [Prog.wp_bind]
          exact Prog.wp_mono (rule.wp_dispatchJoint config group index command _ hs)
            fun fault s hs => ih _ hs

/-- The dispatch of one group. -/
theorem wp_dispatchGroup (rule : DispatchRule note J H) (config : WriteConfig)
    (group : CanDriverDeviceProtocolGroup) (prepared : List CanDriverPreparedCommand)
    (anyFault : Bool) {s : HwCore × ν} (hs : J s) :
    (dispatchGroup config group prepared anyFault).wp (noting note) (fun _ => J) s := by
  rw [dispatchGroup, Prog.wp_bind]
  refine Prog.wp_mono (rule.wp_passive (.lifecycle .clock) trivial hs) fun nowNs s hs => ?_
  rw [Prog.wp_bind]
  refine Prog.wp_mono (rule.wp_passive (.lifecycle .shared) trivial hs) fun shared s hs => ?_
  rw [Prog.wp_bind]
  refine Prog.wp_mono (rule.wp_passive (.hasProtocol _ _) trivial hs) fun has s hs => ?_
  rw [Prog.wp_ite]
  split
  · exact hs
  · rw [Prog.wp_bind]
    refine Prog.wp_mono (rule.wp_passive (.lockDevice _) trivial hs) fun _ s hs => ?_
    rw [Prog.wp_bind]
    refine Prog.wp_mono (rule.wp_dispatchJoints config group prepared _ anyFault _ hs)
      fun fault s hs => ?_
    rw [Prog.wp_bind]
    exact Prog.wp_mono (rule.wp_passive (.unlockDevice _) trivial hs) fun _ s hs => hs

/-- **The dispatch** keeps its invariant. -/
theorem wp_dispatch (rule : DispatchRule note J H) (config : WriteConfig)
    (prepared : List CanDriverPreparedCommand) (anyFault : Bool)
    (groups : List CanDriverDeviceProtocolGroup) {s : HwCore × ν} (hs : J s) :
    (dispatchPreparedCommands config prepared anyFault groups).wp (noting note)
      (fun _ => J) s := by
  induction groups generalizing anyFault s with
  | nil => exact hs
  | cons group groups ih =>
      rw [dispatchPreparedCommands, Prog.wp_bind]
      refine Prog.wp_mono (rule.wp_passive (.lifecycle (.isDeviceReady _)) trivial hs)
        fun isReady s hs => ?_
      rw [Prog.wp_bind]
      refine Prog.wp_mono (rule.wp_passive (.gate (.observe _ _)) trivial hs)
        fun gate s hs => ?_
      rw [Prog.wp_ite]
      split
      · rw [Prog.wp_bind, modifyHw, Prog.wp_bind]
        exact wp_askHw fun _ _ => ih anyFault (rule.passive s (.hw (.clearGroup _)) trivial hs)
      · rw [Prog.wp_ite]
        split
        · rw [Prog.wp_bind, holdCommands, modifyHw, Prog.wp_bind]
          refine wp_askHw fun _ _ => ?_
          have hheld := rule.hold s hs
          rw [Prog.pure_eq, Prog.wp_ret, Prog.wp_bind, armFreshCommandLatch, Prog.wp_bind]
          refine wp_askHw fun hw hhw => ?_
          have hhw : hw = (s.1.after (.hw .hold)).hw := hhw
          subst hhw
          rw [modifyGate, Prog.wp_bind]
          exact wp_askHw fun _ _ => ih anyFault (rule.arm _ hheld)
        · rw [Prog.wp_bind]
          exact Prog.wp_mono (rule.wp_dispatchGroup config group prepared anyFault hs)
            fun fault s hs => ih fault hs

end DispatchRule

/-! ## what only looks -/

/-- A lifecycle program changes nothing of the hardware interface. -/
theorem wp_onLifecycle {Q : HwCore × ν → Prop} (p : Lifecycle α) {s : HwCore × ν}
    (hnote : ∀ c op n, note c (.lifecycle op) n = n) (h : Q s) :
    (onLifecycle p).wp (noting note) (fun _ => Q) s := by
  induction p with
  | ret a => exact h
  | vis op k ih =>
      refine ⟨trivial, fun r _ => ?_⟩
      have hnext : (noting note).next s (HwOp.lifecycle op) r = s := by
        show (s.1.after (.lifecycle op), note s.1 (.lifecycle op) s.2) = s
        rw [hnote]
        rfl
      rw [hnext]
      exact ih r

/-- The report of a cycle changes nothing of the hardware interface. -/
theorem wp_reportHealth {Q : HwCore × ν → Prop} (config : WriteConfig) (anyFault : Bool)
    {s : HwCore × ν} (hnote : ∀ c op n, note c (.lifecycle op) n = n) (h : Q s) :
    (reportHealth config anyFault).wp (atAnyMode (noting note)) (fun _ => Q) s := by
  rw [reportHealth, Prog.wp_ite]
  split
  · exact wp_updateFromFeedbackAny _ h
  · have hhealth : (lifecycleHealthHealthy config).wp (atAnyMode (noting note))
        (fun _ => Q) s := by
      refine wp_loadAny fun mode => ?_
      cases mode with
      | armed => exact wp_driverAny (wp_onLifecycle _ hnote h)
      | running =>
          dsimp only
          rw [Prog.wp_ite]
          split
          · exact wp_driverAny (wp_onLifecycle _ hnote h)
          · exact wp_driverAny (wp_onLifecycle _ hnote h)
      | _ => exact h
    rw [Prog.wp_bind]
    exact Prog.wp_mono hhealth fun _ s hs => wp_updateFromFeedbackAny _ hs

/-! ## scripted runs -/

/-- A device that is ready, with enabled axes and no faults, and no targets to check. -/
def HwCore.answer (c : HwCore) : (op : HwOp) → Option op.Ans
  | .hw _ => some c.hw
  | .gate _ => some c.gate
  | .lifecycle (.targets _) => some {}
  | .lifecycle (.isDeviceReady _) => some true
  | .lifecycle .shared => some {}
  | .lifecycle .clock => some 0
  | .lifecycle _ => none
  | .active => some true
  | .rosNow => some 0
  | .hasProtocol _ _ => some true
  | .lockDevice _ => some ()
  | .unlockDevice _ => some ()
  | .hasFault _ _ _ => some false
  | .isEnabled _ _ _ => some true
  | .stop _ _ _ => some true
  | .send _ _ _ _ _ _ => some true

/-- Its answers, whatever is noted. -/
def answerCore (s : HwCore × ν) : (op : HwOp) → Option op.Ans := s.1.answer

/-- The same below a coordinator in mode `Running`. -/
def answerRunning (s : HwCore × ν) : (op : ModeOp hwSig) → Option op.Ans
  | .load => some .running
  | .driver op => s.1.answer op
  | _ => none

theorem admits_of_answer_core {c : HwCore} (h : c.answer op = some r) : c.Admits op r := by
  cases op with
  | hw op => exact (Option.some.inj h).symm
  | gate op => exact (Option.some.inj h).symm
  | _ => trivial

theorem accepts_of_answerRunning {s : HwCore × ν} (h : answerRunning s op = some r) :
    (atAnyMode (noting note)).accepts s op r := by
  cases op with
  | driver op => exact admits_of_answer_core (c := s.1) h
  | _ => trivial

/-- A script of a run; commands are changed as a limiter would change them. -/
inductive CycleMove where
  | command (limiter : CommandLimiter)
  | switch (motorId : MotorID) (mode : AxisControlMode)
  | hold
  | arm
  | cycle (config : WriteConfig)

/-- The event of a move. -/
def CycleMove.event : CycleMove → CycleEvent
  | .command _ => .change
  | .switch motorId mode => .switch motorId mode
  | .hold => .hold
  | .arm => .arm
  | .cycle config => .cycle config keepCommands

variable (groups : List CanDriverDeviceProtocolGroup) (note : HwCore → HwOp → ν → ν)
  (seen : HwCore → CycleEvent → HwCore → ν → ν)

/-- Make a move. -/
def CycleMove.play (s : HwCore × ν) : CycleMove → Option (HwCore × ν)
  | .command limiter =>
      let c := { s.1 with hw := { s.1.hw with joints := (s.1.hw.enforceLimits limiter).joints } }
      some (c, seen s.1 .change c s.2)
  | .switch motorId mode =>
      let outcome := s.1.hw.commitModeSwitch motorId mode
      let c := { s.1 with hw := outcome.2 }
      if outcome.1 then some (c, seen s.1 (.switch motorId mode) c s.2) else none
  | .hold => (holdCommands.run (noting note) answerCore s).map Prod.snd
  | .arm => (armFreshCommandLatch.run (noting note) answerCore s).map Prod.snd
  | .cycle config =>
      ((write config keepCommands groups).run (atAnyMode (noting note)) answerRunning s).map
        Prod.snd

variable {groups note seen}

/-- The limits change nothing but commands. -/
theorem sameButCommands_enforceLimits (limiter : CommandLimiter) (hw : CanDriverHW) :
    List.Forall₂ CanDriverJointConfig.SameButCommands hw.joints
      (hw.enforceLimits limiter).joints := by
  rw [List.forall₂_iff_get]
  refine ⟨by simp [CanDriverHW.enforceLimits], fun index h h' => ?_⟩
  simp [CanDriverHW.enforceLimits, CanDriverJointConfig.SameButCommands]

/-- A run to the end is a run. -/
theorem runs_of_map_run {P : Protocol S γ} {f : γ → (op : S.Op) → Option (S.Ans op)}
    (hf : ∀ g op r, f g op = some r → P.accepts g op r) {p : Prog S Unit} {g g' : γ}
    (h : (p.run P f g).map Prod.snd = some g') : Prog.Runs P p g () g' := by
  obtain ⟨⟨a, g₁⟩, hrun, rfl⟩ := Option.map_eq_some_iff.1 h
  exact Prog.runs_of_run hf hrun

/-- A move is a step. -/
theorem CycleMove.step_of_play {s s' : HwCore × ν} {m : CycleMove}
    (h : m.play groups note seen s = some s') : m.event.Step groups note seen s s' := by
  cases m with
  | command limiter =>
      exact ⟨_, sameButCommands_enforceLimits limiter s.1.hw, (Option.some.inj h).symm⟩
  | switch motorId mode =>
      obtain ⟨hok, heq⟩ := Option.ite_none_right_eq_some.1 h
      exact ⟨hok, (Option.some.inj heq).symm⟩
  | hold =>
      have h : (holdCommands.run (noting note) answerCore s).map Prod.snd = some s' := h
      exact runs_of_map_run (fun s _ _ => admits_of_answer_core (c := s.1)) h
  | arm =>
      have h : (armFreshCommandLatch.run (noting note) answerCore s).map Prod.snd = some s' := h
      exact runs_of_map_run (fun s _ _ => admits_of_answer_core (c := s.1)) h
  | cycle config => exact runs_of_map_run (fun _ _ _ => accepts_of_answerRunning) h

/-- Make moves one after another. -/
def playAll (groups : List CanDriverDeviceProtocolGroup) (note : HwCore → HwOp → ν → ν)
    (seen : HwCore → CycleEvent → HwCore → ν → ν) : List CycleMove → HwCore × ν →
    Option (HwCore × ν)
  | [], s => some s
  | m :: ms, s => (m.play groups note seen s).bind (playAll groups note seen ms)

/-- A played script is a run. -/
theorem reach_of_playAll {s₀ s s' : HwCore × ν} {ms : List CycleMove}
    (hs : Reach (CycleEvent.Step groups note seen) (fun _ _ => True) s₀ s)
    (h : playAll groups note seen ms s = some s') :
    Reach (CycleEvent.Step groups note seen) (fun _ _ => True) s₀ s' := by
  induction ms generalizing s with
  | nil => exact Option.some.inj h ▸ hs
  | cons m ms ih =>
      obtain ⟨s₁, hplay, hrest⟩ := Option.bind_eq_some_iff.1 h
      exact ih (hs.step trivial (m.step_of_play hplay)) hrest

/-- A test of where a script leads holds of a state that is reached. -/
theorem exists_of_playAll (groups : List CanDriverDeviceProtocolGroup)
    (note : HwCore → HwOp → ν → ν) (seen : HwCore → CycleEvent → HwCore → ν → ν)
    (ms : List CycleMove) (s₀ : HwCore × ν) (test : HwCore × ν → Bool)
    (h : (playAll groups note seen ms s₀).any test = true) :
    ∃ s, Reach (CycleEvent.Step groups note seen) (fun _ _ => True) s₀ s ∧ test s = true := by
  obtain ⟨s, hplay, htest⟩ := (Option.any_eq_true _ _).1 h
  exact ⟨s, reach_of_playAll .refl hplay, htest⟩

end CanDriver
