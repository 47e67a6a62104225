import CanDriver.BusCall
import CanDriver.Cycle.Watch

/-!
# CanDriver.Cycle.Enabled

The enabled flag a motion command is sent on.

The drivers of a device and the dispatch of prepared commands take their steps in any order;
they meet in the shared state, of which the dispatch takes a snapshot for each group.  The
snapshot is read without the flag that says whether the enabled value is valid, so a command is
founded only as long as no snapshot says `enabled` of an axis without vouching for it
(`commands_founded`).
-/

namespace CanDriver

open Interact

/-! ## what a snapshot says -/

/-- The feedback of an axis is fresh, but its enabled flag is not valid. -/
def doubtful (config : WriteConfig) (shared : SharedDriverState) (nowNs : Time) (key : AxisKey) :
    Bool :=
  (shared.getAxisFeedback key).any fun feedback =>
    sharedFeedbackFresh feedback nowNs config.feedbackFreshnessTimeoutNs && !feedback.enabledValid

/-- The enabled flag of an axis is set. -/
def saysEnabled (shared : SharedDriverState) (key : AxisKey) : Bool :=
  (shared.getAxisFeedback key).any AxisFeedbackState.enabled

/-- A doubtful axis is dispatched by the flag it should not go by. -/
theorem motionStatus_of_doubtful {config : WriteConfig} {shared : SharedDriverState} {nowNs : Time}
    {key : AxisKey} (h : doubtful config shared nowNs key = true) :
    ∃ status, motionStatus config shared nowNs key = some status ∧
      status.1 = saysEnabled shared key := by
  obtain ⟨feedback, hfeedback, hfresh⟩ := (Option.any_eq_true _ _).1 h
  rw [Bool.and_eq_true] at hfresh
  refine ⟨(feedback.enabled, feedback.fault), ?_, ?_⟩
  · rw [motionStatus, hfeedback]
    exact if_pos hfresh.1
  · rw [saysEnabled, hfeedback]
    rfl

/-! ## what is noted -/

/-- A snapshot of the shared state and when it was taken. -/
structure SharedSnapshot where
  nowNs : Time := 0
  shared : SharedDriverState := {}

/-- What is noted: the axes the dispatch has commands for, its latest snapshot, all snapshots
with the axes at the time, and the axes commands were sent to with the snapshot they went by. -/
structure DispatchNotes where
  axes : List AxisKey := []
  current : SharedSnapshot := {}
  snapshots : List (List AxisKey × SharedSnapshot) := []
  sent : List (AxisKey × SharedSnapshot) := []

/-- What is noted of an operation. -/
def watchDispatch (_ : HwCore) : (op : HwOp) → op.Ans → DispatchNotes → DispatchNotes
  | .lifecycle .clock, nowNs, n => { n with current := { n.current with nowNs } }
  | .lifecycle .shared, shared, n =>
      { n with
        current := { n.current with shared }
        snapshots := (n.axes, { n.current with shared }) :: n.snapshots }
  | .send _ _ device protocol motorId _, _, n =>
      { n with sent := (makeAxisKey device protocol motorId, n.current) :: n.sent }
  | _, _, n => n

/-- The axes of the prepared commands of the groups. -/
def commandAxes (groups : List CanDriverDeviceProtocolGroup)
    (prepared : List CanDriverPreparedCommand) : List AxisKey :=
  groups.flatMap fun group => group.jointIndices.filterMap fun index =>
    (prepared[index]?).map fun command =>
      makeAxisKey group.canDevice group.protocol command.motorId

theorem mem_commandAxes {groups : List CanDriverDeviceProtocolGroup}
    {prepared : List CanDriverPreparedCommand} {group : CanDriverDeviceProtocolGroup} {index : Nat}
    {command : CanDriverPreparedCommand} (hgroup : group ∈ groups)
    (hcommand : CommandOf group prepared index command) :
    makeAxisKey group.canDevice group.protocol command.motorId ∈ commandAxes groups prepared := by
  refine List.mem_flatMap.2 ⟨group, hgroup, List.mem_filterMap.2 ⟨index, hcommand.member, ?_⟩⟩
  rw [hcommand.command]
  rfl

/-- No snapshot says that an axis with a command is enabled without vouching for it. -/
def Trusted (config : WriteConfig) (n : DispatchNotes) : Prop :=
  ∀ e ∈ n.snapshots, ∀ key ∈ e.1, doubtful config e.2.shared e.2.nowNs key = true →
    saysEnabled e.2.shared key = false

/-- No command was sent to an axis whose enabled flag was doubtful. -/
def CommandsFounded (config : WriteConfig) (n : DispatchNotes) : Prop :=
  ∀ e ∈ n.sent, doubtful config e.2.shared e.2.nowNs e.1 = false

/-! ## the dispatch -/

/-- Every command went by a snapshot taken for it, which did not say that its axis is not
enabled. -/
def Sanctioned (config : WriteConfig) (n : DispatchNotes) : Prop :=
  ∀ e ∈ n.sent, (∃ axes, e.1 ∈ axes ∧ (axes, e.2) ∈ n.snapshots) ∧
    ∀ status, motionStatus config e.2.shared e.2.nowNs e.1 = some status → status.1 = true

/-- Sanctioned commands are founded if the snapshots can be trusted. -/
theorem Sanctioned.founded {config : WriteConfig} {n : DispatchNotes} (h : Sanctioned config n)
    (htrusted : Trusted config n) : CommandsFounded config n := by
  intro e he
  obtain ⟨⟨axes, hkey, hsnapshot⟩, hstatus⟩ := h e he
  by_contra hdoubtful
  have hdoubtful := Bool.eq_true_of_not_eq_false hdoubtful
  obtain ⟨status, hsome, henabled⟩ := motionStatus_of_doubtful hdoubtful
  have hsays := htrusted (axes, e.2) hsnapshot e.1 hkey hdoubtful
  rw [hstatus status hsome, hsays] at henabled
  cases henabled

/-- Every command has to be sanctioned when it is sent. -/
def sendSanctioned (config : WriteConfig) (s : HwCore × DispatchNotes) : HwOp → Prop
  | .send _ _ device protocol motorId _ =>
      (∃ axes, makeAxisKey device protocol motorId ∈ axes ∧ (axes, s.2.current) ∈ s.2.snapshots) ∧
        ∀ status, motionStatus config s.2.current.shared s.2.current.nowNs
          (makeAxisKey device protocol motorId) = some status → status.1 = true
  | _ => True

/-- **Step**: all that happens in a dispatch keeps the commands sanctioned. -/
theorem enabledRule (config : WriteConfig) (hrequire : config.safetyRequireEnabledForMotion = true)
    (groups : List CanDriverDeviceProtocolGroup) (prepared : List CanDriverPreparedCommand) :
    WatchRule (sendSanctioned config) watchDispatch config groups prepared
      (fun s => s.2.axes = commandAxes groups prepared)
      (fun _ shared nowNs s => s.2.axes = commandAxes groups prepared ∧
        s.2.current = ⟨nowNs, shared⟩ ∧ (s.2.axes, s.2.current) ∈ s.2.snapshots) where
  free s op hop := by
    cases op with
    | send index route device protocol motorId raw => exact absurd trivial hop
    | _ => trivial
  lost _ _ _ h := h
  recovered _ _ _ h _ _ := h
  enter _ _ s h _ nowNs shared := ⟨h, rfl, List.mem_cons_self⟩
  leave _ _ _ _ h := h.1
  incidental group shared nowNs s op r hop _ h := by
    cases op with
    | hw op =>
        cases op with
        | read => exact h
        | _ => exact hop.elim
    | hasProtocol | lockDevice | unlockDevice | hasFault | isEnabled => exact h
    | _ => exact hop.elim
  calm _ _ _ _ _ h _ := h
  again _ _ _ _ _ h _ := h
  stop _ _ _ _ _ _ _ h _ _ _ := h
  send group hgroup shared nowNs s index command h hcommand _ hstatus := by
    obtain ⟨haxes, hcurrent, hsnapshot⟩ := h
    refine ⟨⟨⟨s.2.axes, ?_, hsnapshot⟩, ?_⟩, fun r => ⟨haxes, hcurrent, hsnapshot⟩⟩
    · rw [haxes]
      exact mem_commandAxes hgroup hcommand
    · rw [hcurrent]
      exact hstatus hrequire

/-! ## drivers and dispatch together -/

/-- The threads of a device, what a dispatch works on, and what is left of the dispatch. -/
structure DriveWorld (ι : Type) where
  pool : BusPool ι
  core : HwCore
  dispatch : Option (Hardware Bool) := none
  notes : DispatchNotes := {}

/-- What happens next: a step on the device, a change of the joints and the gate between two
dispatches, the beginning of a dispatch, its next operation, or its end. -/
inductive DriveEvent (ι : Type) where
  | bus (e : BusEvent ι)
  | change
  | begin (groups : List CanDriverDeviceProtocolGroup) (prepared : List CanDriverPreparedCommand)
  | act (op : HwOp)
  | finish

/-- What the dispatch is told of the device: its time and its part of the shared state. -/
def Bus.Tells (deviceName : String) (b : Bus) : (op : HwOp) → op.Ans → Prop
  | .lifecycle .clock, nowNs => b.time ≤ nowNs
  | .lifecycle .shared, shared =>
      ∀ key : AxisKey, key.device = deviceName →
        shared.getAxisFeedback key = b.shared.getAxisFeedback key
  | _, _ => True

section

variable {ι : Type} [DecidableEq ι]

/-- One step of drivers and dispatch. -/
inductive DriveStep (cfg : DeviceManagerConfig) (deviceName : String) (config : WriteConfig) :
    DriveWorld ι → DriveEvent ι → DriveWorld ι → Prop
  | bus (w : DriveWorld ι) (e : BusEvent ι) (pool : BusPool ι)
      (hstep : BusStep cfg deviceName w.pool e pool) :
      DriveStep cfg deviceName config w (.bus e) { w with pool }
  | change (w : DriveWorld ι) (core : HwCore) (hidle : w.dispatch = none) :
      DriveStep cfg deviceName config w .change { w with core }
  | begin (w : DriveWorld ι) (groups : List CanDriverDeviceProtocolGroup)
      (prepared : List CanDriverPreparedCommand) (hidle : w.dispatch = none) :
      DriveStep cfg deviceName config w (.begin groups prepared)
        { w with
          dispatch := some (dispatchPreparedCommands config prepared false groups)
          notes := { w.notes with axes := commandAxes groups prepared } }
  | act (w : DriveWorld ι) (op : HwOp) (k : op.Ans → Hardware Bool) (r : op.Ans)
      (hnext : w.dispatch = some (.vis op k)) (hr : w.core.Admits op r)
      (htells : w.pool.shared.Tells deviceName op r) :
      DriveStep cfg deviceName config w (.act op)
        { w with
          core := w.core.after op
          dispatch := some (k r)
          notes := watchDispatch w.core op r w.notes }
  | finish (w : DriveWorld ι) (anyFault : Bool) (hnext : w.dispatch = some (.ret anyFault)) :
      DriveStep cfg deviceName config w .finish { w with dispatch := none }

/-- What was sent was sanctioned, and what is left of a dispatch keeps to that. -/
def DriveSound (config : WriteConfig) (w : DriveWorld ι) : Prop :=
  Sanctioned config w.notes ∧
    ∀ p, w.dispatch = some p → Prog.wp (watching (sendSanctioned config) watchDispatch) p
      (fun _ _ => True) (w.core, w.notes)

/-- An operation that is allowed keeps what was sent sanctioned. -/
theorem Sanctioned.after {config : WriteConfig} {c : HwCore} {n : DispatchNotes} {op : HwOp}
    (h : Sanctioned config n) (hop : sendSanctioned config (c, n) op) (r : op.Ans) :
    Sanctioned config (watchDispatch c op r n) := by
  cases op with
  | lifecycle op =>
      cases op with
      | shared =>
          intro e he
          obtain ⟨⟨axes, hkey, hsnapshot⟩, hstatus⟩ := h e he
          exact ⟨⟨axes, hkey, List.mem_cons_of_mem _ hsnapshot⟩, hstatus⟩
      | _ => exact h
  | send index route device protocol motorId raw =>
      intro e he
      rcases List.mem_cons.1 he with rfl | he
      · exact hop
      · exact h e he
  | _ => exact h

/-- **Step**: drivers and dispatch keep the world sound. -/
theorem driveSound_step {cfg : DeviceManagerConfig} {deviceName : String} {config : WriteConfig}
    (hrequire : config.safetyRequireEnabledForMotion = true) {w w' : DriveWorld ι} {e : DriveEvent ι}
    (h : DriveSound config w) (hs : DriveStep cfg deviceName config w e w') :
    DriveSound config w' := by
  cases hs with
  | bus e pool hstep => exact h
  | change core hidle =>
      refine ⟨h.1, fun p hp => ?_⟩
      rw [hidle] at hp
      cases hp
  | begin groups prepared hidle =>
      refine ⟨h.1, fun p hp => ?_⟩
      obtain rfl := Option.some.inj hp
      exact Prog.wp_mono ((enabledRule config hrequire groups prepared).wp_dispatch false groups
        (fun _ h => h) rfl) fun _ _ _ => trivial
  | act op k r hnext hr htells =>
      obtain ⟨hallowed, hrest⟩ := h.2 _ hnext
      refine ⟨h.1.after hallowed r, fun p hp => ?_⟩
      obtain rfl := Option.some.inj hp
      exact hrest r hr
  | finish anyFault hnext =>
      refine ⟨h.1, fun p hp => ?_⟩
      cases hp

/-- **Founded commands**: in every run of the drivers of a device and of dispatches that ask
for an enabled axis, no command is sent to an axis whose fresh feedback does not vouch for its
enabled flag, if no snapshot says of such an axis that it is enabled. -/
theorem commands_founded (cfg : DeviceManagerConfig) (deviceName : String) (config : WriteConfig)
    (hrequire : config.safetyRequireEnabledForMotion = true) (b : Bus) (core : HwCore)
    {w : DriveWorld ι}
    (hr : Reach (DriveStep cfg deviceName config) (fun _ _ => True)
      { pool := Pool.idle b, core } w) (htrusted : Trusted config w.notes) :
    CommandsFounded config w.notes := by
  have hsound : DriveSound config w :=
    Reach.invariant (I := DriveSound config)
      ⟨fun e he => absurd he List.not_mem_nil, fun p hp => by cases hp⟩
      (fun _ _ _ h _ hs => driveSound_step hrequire h hs) hr
  exact hsound.1.founded htrusted

/-! ## scripted runs -/

/-- The drivers go on by themselves. -/
theorem reach_bus {cfg : DeviceManagerConfig} {deviceName : String} {config : WriteConfig}
    {C : BusPool ι → BusEvent ι → Prop} {p₀ p : BusPool ι} (core : HwCore)
    (hr : Reach (BusStep cfg deviceName) C p₀ p) :
    Reach (DriveStep cfg deviceName config) (fun _ _ => True) { pool := p₀, core }
      { pool := p, core } := by
  induction hr with
  | refl => exact .refl
  | tail _ hs ih =>
      obtain ⟨e, -, hs⟩ := hs
      exact Reach.step ih trivial (.bus _ e _ hs)

/-- The hardware interface next to a device that waits. -/
def besideDevice (deviceName : String) (b : Bus) : Protocol hwSig (HwCore × DispatchNotes) where
  allow _ _ := True
  accepts s op r := s.1.Admits op r ∧ b.Tells deviceName op r
  next s op r := (s.1.after op, watchDispatch s.1 op r s.2)

/-- So does the dispatch. -/
theorem reach_dispatch {cfg : DeviceManagerConfig} {deviceName : String} {config : WriteConfig}
    {w₀ : DriveWorld ι} {pool : BusPool ι} {p : Hardware Bool} {s s' : HwCore × DispatchNotes}
    {anyFault : Bool} (hrun : Prog.Runs (besideDevice deviceName pool.shared) p s anyFault s')
    (hr : Reach (DriveStep cfg deviceName config) (fun _ _ => True) w₀
      { pool, core := s.1, dispatch := some p, notes := s.2 }) :
    Reach (DriveStep cfg deviceName config) (fun _ _ => True) w₀
      { pool, core := s'.1, dispatch := some (.ret anyFault), notes := s'.2 } := by
  induction hrun with
  | ret a s => exact hr
  | vis op k r s a s' hadmits hk ih =>
      exact ih (Reach.step hr trivial (.act _ op k r rfl hadmits.1 hadmits.2))

end

/-- What the dispatch is told of a device that waits; all else as at rest. -/
def deviceAnswer (b : Bus) (s : HwCore × DispatchNotes) : (op : HwOp) → Option op.Ans
  | .lifecycle .shared => some b.shared
  | .lifecycle .clock => some b.time
  | op => s.1.answer op

theorem accepts_of_deviceAnswer {deviceName : String} {b : Bus} {s : HwCore × DispatchNotes}
    {op : HwOp} {r : op.Ans} (h : deviceAnswer b s op = some r) :
    (besideDevice deviceName b).accepts s op r := by
  cases op with
  | lifecycle op =>
      cases op with
      | shared =>
          obtain rfl := Option.some.inj h
          exact ⟨trivial, fun _ _ => rfl⟩
      | clock =>
          obtain rfl := Option.some.inj h
          exact ⟨trivial, le_refl _⟩
      | _ => exact ⟨trivial, trivial⟩
  | hw op =>
      have h : s.1.answer (.hw op) = some r := h
      exact ⟨admits_of_answer_core h, trivial⟩
  | gate op =>
      have h : s.1.answer (.gate op) = some r := h
      exact ⟨admits_of_answer_core h, trivial⟩
  | _ => exact ⟨trivial, trivial⟩

/-! ## an axis that is switched off -/

/-- A device on which nothing has happened yet, at one millisecond. -/
def liftBus : BusPool Nat := Pool.idle (Bus.powerOn "can0" {} {} 1000000)

/-- PP motor 1 answers that it is enabled. -/
def enabledAnswer : Frame := dataFrame 1 6 #v[0x04, 0x10, 0, 0, 0, 1, 0, 0]

/-- It tells its position. -/
def liftPosition : Frame := dataFrame 1 6 #v[0x04, 0x07, 0, 0, 0, 13, 0, 0]

/-- The device comes up and the motor tells that it is enabled. -/
def liftEnabled : List (Pool.Move Nat BusCall) :=
  Pool.callFor 0 (.initDevice [(.PP, 1)]) 24 ++ Pool.callFor 0 (.eyouReceive enabledAnswer) 9

/-- The motor is switched off, and tells its position before it tells that it is off. -/
def liftDisabled : List (Pool.Move Nat BusCall) :=
  liftEnabled ++ Pool.callFor 0 (.eyou 1 .disable) 16 ++ Pool.callFor 0 (.eyouReceive liftPosition) 9

/-- The joint of the motor, with a command prepared. -/
def liftCore : HwCore where
  hw :=
    { joints := [{ name := "lift", canDevice := "can0", controlMode := "position", motorId := 1,
                   protocol := .PP }]
      commandValidBuffer := [true] }

/-- Its group. -/
def liftGroup : CanDriverDeviceProtocolGroup := ⟨"can0", .PP, [0]⟩

/-- Its command. -/
def liftCommand : CanDriverPreparedCommand := ⟨true, 1, .position, 0⟩

/-- The dispatch of the command after a script of the drivers. -/
def dispatchAfter (ms : List (Pool.Move Nat BusCall)) :
    Option (BusPool Nat × Bool × HwCore × DispatchNotes) :=
  (Pool.follow (BusCall.code {} "can0") (fun b _ => b.serve) liftBus ms).bind fun p =>
    ((dispatchPreparedCommands {} [liftCommand] false [liftGroup]).run (besideDevice "can0" p.shared)
      (deviceAnswer p.shared) (liftCore, { axes := commandAxes [liftGroup] [liftCommand] })).map
      fun e => (p, e)

/-- It is a run. -/
theorem exists_of_dispatchAfter (ms : List (Pool.Move Nat BusCall)) (test : DispatchNotes → Bool)
    (h : (dispatchAfter ms).any (fun e => test e.2.2.2) = true) :
    ∃ w : DriveWorld Nat, Reach (DriveStep {} "can0" {}) (fun _ _ => True)
      { pool := liftBus, core := liftCore } w ∧ test w.notes = true := by
  obtain ⟨e, hrun, htest⟩ := (Option.any_eq_true _ _).1 h
  obtain ⟨p, hfollow, hrun⟩ := Option.bind_eq_some_iff.1 hrun
  obtain ⟨⟨anyFault, s⟩, hdispatch, rfl⟩ := Option.map_eq_some_iff.1 hrun
  have hbus : Reach (BusStep {} "can0") (fun _ _ => True) liftBus p :=
    Pool.reach_of_follow (fun _ _ _ _ _ => serves_of_serve) (fun _ _ _ _ _ _ => trivial) .refl hfollow
  have hready : Reach (DriveStep {} "can0" {}) (fun _ _ => True) { pool := liftBus, core := liftCore }
      { pool := p, core := liftCore } := reach_bus liftCore hbus
  have hbegin := Reach.step hready trivial (.begin _ [liftGroup] [liftCommand] rfl)
  have hruns := Prog.runs_of_run (fun _ _ _ => accepts_of_deviceAnswer) hdispatch
  exact ⟨_, reach_dispatch hruns hbegin, htest⟩

/-- While the motor is enabled its command is sent, and founded. -/
theorem enabled_command_founded :
    ∃ w : DriveWorld Nat, w.notes.sent ≠ [] ∧ CommandsFounded {} w.notes := by
  obtain ⟨w, hr, htest⟩ := exists_of_dispatchAfter liftEnabled
    (fun n => !n.sent.isEmpty && n.snapshots.all fun e => e.1.all fun key =>
      !doubtful {} e.2.shared e.2.nowNs key || !saysEnabled e.2.shared key) (by decide +kernel)
  rw [Bool.and_eq_true] at htest
  refine ⟨w, by simpa using htest.1, commands_founded {} "can0" {} rfl _ _ hr
    fun e he key hkey hdoubtful => ?_⟩
  have hall := List.all_eq_true.1 (List.all_eq_true.1 htest.2 e he) key hkey
  rw [hdoubtful, Bool.not_true, Bool.false_or, Bool.not_eq_true'] at hall
  exact hall

/-- Once it is switched off, the next answer makes its feedback say `enabled` without vouching
for it, and the command is sent all the same. -/
theorem disabled_command_sent :
    ∃ w : DriveWorld Nat, Reach (DriveStep {} "can0" {}) (fun _ _ => True)
      { pool := liftBus, core := liftCore } w ∧ ¬ CommandsFounded {} w.notes := by
  obtain ⟨w, hr, htest⟩ := exists_of_dispatchAfter liftDisabled
    (fun n => n.sent.any fun e => doubtful {} e.2.shared e.2.nowNs e.1) (by decide +kernel)
  obtain ⟨e, he, hdoubtful⟩ := List.any_eq_true.1 htest
  refine ⟨w, hr, fun hfounded => ?_⟩
  rw [hfounded e he] at hdoubtful
  cases hdoubtful

end CanDriver
