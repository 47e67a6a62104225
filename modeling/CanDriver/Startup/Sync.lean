import CanDriver.AxisCommandSemantics
import CanDriver.DeviceManager
import CanDriver.Manager.Devices

/-!
# CanDriver.Startup.Sync

Aligning the joints of a device with its motors.

Before a device is enabled, `syncStartupPositionAndCommands` asks each of its joints for
feedback, waits until the record of every joint has what its mode needs, takes it over and
checks the positions against the limits.  A joint with a record that has it already is not
asked.  Other threads go on while it waits.
-/

namespace CanDriver

open Interact

def kStartupProbeSingleRequestTimeout : Time := ms 250

/-- The parameters of the startup sync, which `loadRuntimeParams` has checked to be finite, and
a bound on the rounds of each of its waits. -/
structure StartupParams where
  motorQueryHz : Double := .finite 0
  startupPositionSyncTimeoutSec : ℚ := 3
  startupPositionLimitToleranceRad : ℚ := 1 / 10000
  fuel : Nat

/-- How often the records are looked at in the end. -/
def StartupParams.maxPasses (params : StartupParams) : Nat :=
  max 1 ⌈params.startupPositionSyncTimeoutSec / (2 / 100)⌉.toNat

/-- The whole time there is to ask, in nanoseconds. -/
def StartupParams.timeout (params : StartupParams) : Time :=
  ⌊params.startupPositionSyncTimeoutSec * 1000000000⌋

/-! ## the joint and its record -/

/-- The axis of a joint. -/
def CanDriverJointConfig.axisKey (joint : CanDriverJointConfig) : AxisKey :=
  makeAxisKey joint.canDevice joint.protocol joint.motorId

/-- `startupFeedbackSatisfiesRequirement`. -/
def startupFeedbackSatisfiesRequirement (joint : CanDriverJointConfig)
    (feedback : AxisFeedbackState) : Bool :=
  if !feedback.feedbackSeen || decide (feedback.lastRxSteadyNs ≤ 0) then false
  else if controlModeUsesPositionSemantics joint.controlMode then feedback.positionValid
  else feedback.velocityValid || feedback.enabledValid || feedback.faultValid ||
    feedback.currentValid || feedback.positionValid

/-- The record of the joint, if it satisfies the requirement. -/
def CanDriverJointConfig.startupFeedback (joint : CanDriverJointConfig) (s : SharedDriverState) :
    Option AxisFeedbackState :=
  (s.getAxisFeedback joint.axisKey).filter (startupFeedbackSatisfiesRequirement joint)

/-- The joint with what a record says of it. -/
def CanDriverJointConfig.takeFeedback (joint : CanDriverJointConfig)
    (feedback : AxisFeedbackState) : CanDriverJointConfig :=
  { joint with
    pos :=
      if feedback.positionValid then
        rawPositionToJointPosition joint (.ofInt feedback.position)
      else .finite 0
    vel :=
      if feedback.velocityValid then
        (Double.ofInt feedback.velocity).mul joint.effectiveVelocityScale
      else .finite 0 }

/-- The joint with its command aligned to where it is. -/
def CanDriverJointConfig.alignCommand (joint : CanDriverJointConfig) : CanDriverJointConfig :=
  { joint with
    posCmd :=
      if controlModeUsesPositionSemantics joint.controlMode then joint.pos else joint.posCmd
    velCmd :=
      if controlModeUsesPositionSemantics joint.controlMode then joint.velCmd else .finite 0
    hasDirectPosCmd := false
    hasDirectVelCmd := false
    stopIssuedOnFault := false }

/-- The joint is outside its position limits. -/
def CanDriverJointConfig.outOfRange (joint : CanDriverJointConfig) (tolerance : ℚ) : Bool :=
  controlModeUsesPositionSemantics joint.controlMode && joint.hasLimits &&
    joint.limits.hasPositionLimits &&
    (joint.pos.lt (joint.limits.minPosition.sub (.finite tolerance)) ||
      (joint.limits.maxPosition.add (.finite tolerance)).lt joint.pos)

/-! ## asking -/

/-- `setDeviceRefreshRateHz`, for a manager whose own rate is that of `cfg`. -/
def setDeviceRefreshRateHz (cfg : DeviceManagerConfig) (hz : Double) : BusProg Unit := do
  let rate :=
    if Double.lt (.finite 0) (DeviceManager.normalizeRefreshRateHz hz) then
      DeviceManager.normalizeRefreshRateHz hz
    else cfg.refreshRateHz
  let slot ← Device.slot id
  if slot.protocols.contains .MT then Proto.onBus (MtCan.setRefreshRateHz rate)
  if slot.protocols.contains .PP then Proto.onBus (EyouCan.setRefreshRateHz rate)
  if slot.protocols.contains .DM then Proto.onBus (DamiaoCan.setRefreshRateHz rate)
  let _ ← Device.refresh fun r => { r with nextMtTick := 0, nextPpTick := 0, nextDmTick := 0 }
  pure ()

/-- `issueStartupProbeForJoint`, where the protocol of the joint may have an object. -/
def issueStartupProbeForJoint (joint : CanDriverJointConfig) (hasProtocol : Bool) :
    BusProg Bool :=
  if !hasProtocol then
    pure false
  else
    let position := controlModeUsesPositionSemantics joint.controlMode
    match joint.protocol with
    | .PP => Proto.onBus
        (EyouCan.issueRefreshQuery joint.motorId (if position then .position else .velocity))
    | .MT => do
        let _ ← Proto.onBus
          (MtCan.issueRefreshQuery joint.motorId (if position then .multiTurnAngle else .state))
        pure true
    | .DM => Proto.onBus (DamiaoCan.issueRefreshQuery joint.motorId .keepalive)
    | .ECB => pure false

/-- Wait for an answer, until the record satisfies the requirement or is at least newer than it
was; `false` when the rounds run out. -/
def awaitStartupAnswer (joint : CanDriverJointConfig) (lastRxBefore deadline : Time) :
    Nat → BusProg Bool
  | 0 => pure false
  | fuel + 1 => do
      let t ← Device.clock
      if t < deadline then
        let s ← Device.shared id
        match s.getAxisFeedback joint.axisKey with
        | none => awaitStartupAnswer joint lastRxBefore deadline fuel
        | some feedback =>
            if startupFeedbackSatisfiesRequirement joint feedback then pure true
            else if lastRxBefore < feedback.lastRxSteadyNs then pure true
            else awaitStartupAnswer joint lastRxBefore deadline fuel
      else
        pure true

/-- Ask for a joint until its record satisfies the requirement or the time is up. -/
def probeStartupJoint (joint : CanDriverJointConfig) (hasProtocol : Bool)
    (lastRxBefore startupDeadline : Time) : Nat → BusProg Bool
  | 0 => pure false
  | fuel + 1 => do
      let t ← Device.clock
      if t < startupDeadline then
        let s ← Device.shared id
        if (joint.startupFeedback s).isSome then
          pure true
        else
          let issued ← issueStartupProbeForJoint joint hasProtocol
          if issued then
            let t ← Device.clock
            let answered ← awaitStartupAnswer joint lastRxBefore
              (min startupDeadline (t + kStartupProbeSingleRequestTimeout)) fuel
            if answered then
              let s ← Device.shared id
              if (joint.startupFeedback s).isSome then pure true
              else probeStartupJoint joint hasProtocol lastRxBefore startupDeadline fuel
            else
              pure false
          else
            probeStartupJoint joint hasProtocol lastRxBefore startupDeadline fuel
      else
        pure true

/-- The loop over the joints of the device that asks for them. -/
def probeStartupJoints (startupDeadline : Time) (fuel : Nat) :
    List CanDriverJointConfig → BusProg Bool
  | [] => pure true
  | joint :: joints => do
      let slot ← Device.slot id
      let s ← Device.shared id
      let lastRxBefore := ((s.getAxisFeedback joint.axisKey).map fun f => f.lastRxSteadyNs).getD 0
      let probed ← probeStartupJoint joint (slot.protocols.contains joint.protocol) lastRxBefore
        startupDeadline fuel
      if probed then probeStartupJoints startupDeadline fuel joints else pure false

/-! ### what asking consists of -/

/-- The steps that make up the asking, apart from what the protocol objects do. -/
structure AllowsStartup (A : BusOp → Prop) : Prop where
  slot : A (.slot id)
  shared : A (.shared id)
  clock : A .clock
  refresh : ∀ f, A (.refresh f)
  mtRate : ∀ hz, (Proto.onBus (MtCan.setRefreshRateHz hz)).Stays A
  ppRate : ∀ hz, (Proto.onBus (EyouCan.setRefreshRateHz hz)).Stays A
  dmRate : ∀ hz, (Proto.onBus (DamiaoCan.setRefreshRateHz hz)).Stays A
  mtQuery : ∀ motorId query, (Proto.onBus (MtCan.issueRefreshQuery motorId query)).Stays A
  ppQuery : ∀ motorId query, (Proto.onBus (EyouCan.issueRefreshQuery motorId query)).Stays A
  dmQuery : ∀ motorId query, (Proto.onBus (DamiaoCan.issueRefreshQuery motorId query)).Stays A

namespace AllowsStartup

open Prog

variable {A : BusOp → Prop} (h : AllowsStartup A)

include h

theorem setRate (cfg : DeviceManagerConfig) (hz : Double) :
    (setDeviceRefreshRateHz cfg hz).Stays A := by
  have hreset : ∀ f, (Device.refresh f >>= fun _ => (pure () : BusProg Unit)).Stays A := fun f =>
    .vis (h.refresh f) fun _ => trivial
  refine .vis h.slot fun slot => .ite ((h.mtRate _).bind fun _ => ?_) ?_
  all_goals
    refine .ite ((h.ppRate _).bind fun _ => ?_) ?_
    all_goals exact .ite ((h.dmRate _).bind fun _ => hreset _) (hreset _)

theorem issueProbe (joint : CanDriverJointConfig) (hasProtocol : Bool) :
    (issueStartupProbeForJoint joint hasProtocol).Stays A := by
  refine .ite trivial ?_
  cases joint.protocol with
  | PP => exact h.ppQuery _ _
  | MT => exact (h.mtQuery _ _).bind fun _ => trivial
  | DM => exact h.dmQuery _ _
  | ECB => trivial

theorem await (joint : CanDriverJointConfig) (lastRxBefore deadline : Time) (fuel : Nat) :
    (awaitStartupAnswer joint lastRxBefore deadline fuel).Stays A := by
  induction fuel with
  | zero => trivial
  | succ fuel ih =>
      refine .vis h.clock fun t => .ite (.vis h.shared fun s => ?_) trivial
      dsimp only [Prog.bind]
      cases s.getAxisFeedback joint.axisKey with
      | none => exact ih
      | some feedback => exact .ite trivial (.ite trivial ih)

theorem probeJoint (joint : CanDriverJointConfig) (hasProtocol : Bool)
    (lastRxBefore startupDeadline : Time) (fuel : Nat) :
    (probeStartupJoint joint hasProtocol lastRxBefore startupDeadline fuel).Stays A := by
  induction fuel with
  | zero => trivial
  | succ fuel ih =>
      refine .vis h.clock fun t => .ite (.vis h.shared fun s => .ite trivial ?_) trivial
      refine (h.issueProbe _ _).bind fun issued => .ite (.vis h.clock fun t => ?_) ih
      refine (h.await _ _ _ _).bind fun answered => .ite (.vis h.shared fun s => ?_) trivial
      exact .ite trivial ih

theorem probe (startupDeadline : Time) (fuel : Nat) (joints : List CanDriverJointConfig) :
    (probeStartupJoints startupDeadline fuel joints).Stays A := by
  induction joints with
  | nil => trivial
  | cons joint joints ih =>
      exact .vis h.slot fun slot => .vis h.shared fun s => (h.probeJoint _ _ _ _ _).bind
        fun probed => .ite ih trivial

end AllowsStartup

/-! ## looking -/

/-- One pass over the records: the joints with what theirs say, those of other devices as they
are, if every record satisfies its requirement. -/
def validateStartupJoints (deviceFilter : String) :
    List CanDriverJointConfig → BusProg (Option (List CanDriverJointConfig))
  | [] => pure (some [])
  | joint :: joints =>
      if joint.canDevice ≠ deviceFilter then do
        let rest ← validateStartupJoints deviceFilter joints
        pure (rest.map fun rest => joint :: rest)
      else do
        let s ← Device.shared id
        let rest ← validateStartupJoints deviceFilter joints
        match joint.startupFeedback s with
        | none => pure none
        | some feedback => pure (rest.map fun rest => joint.takeFeedback feedback :: rest)

/-- The passes over the records, until one of them finds all that is needed. -/
def validateStartup (deviceFilter : String) (joints : List CanDriverJointConfig) :
    Nat → BusProg (Option (List CanDriverJointConfig))
  | 0 => pure none
  | passes + 1 => do
      let snapshots ← validateStartupJoints deviceFilter joints
      if snapshots.isSome then pure snapshots else validateStartup deviceFilter joints passes

/-- What the device's joints become in the end. -/
def alignStartupJoint (deviceFilter : String) (joint : CanDriverJointConfig) :
    CanDriverJointConfig :=
  if joint.canDevice ≠ deviceFilter then joint else joint.alignCommand

/-- `syncStartupPositionAndCommands`, for the device it is called for: its result and the
joints, or `none` when the rounds run out. -/
def syncStartupPositionAndCommands (cfg : DeviceManagerConfig) (params : StartupParams)
    (deviceFilter : String) (joints : List CanDriverJointConfig) :
    BusProg (Option (Bool × List CanDriverJointConfig)) := do
  setDeviceRefreshRateHz cfg (.finite 0)
  let targets := joints.filter fun joint => joint.canDevice = deviceFilter
  if targets.isEmpty then
    setDeviceRefreshRateHz cfg params.motorQueryHz
    pure (some (true, joints))
  else
    let t ← Device.clock
    let probed ← probeStartupJoints (t + params.timeout) params.fuel targets
    if probed then
      let snapshots ← validateStartup deviceFilter joints params.maxPasses
      setDeviceRefreshRateHz cfg params.motorQueryHz
      match snapshots with
      | none => pure (some (false, joints))
      | some joints =>
          let joints := joints.map (alignStartupJoint deviceFilter)
          let startupOutOfRange := joints.any fun joint => joint.canDevice = deviceFilter &&
            joint.outOfRange params.startupPositionLimitToleranceRad
          pure (some (!startupOutOfRange, joints))
    else
      pure none

/-! ### what looking consists of -/

section

open Prog

variable {A : BusOp → Prop}

theorem validateStartupJoints_stays (hshared : A (.shared id)) (deviceFilter : String)
    (joints : List CanDriverJointConfig) : (validateStartupJoints deviceFilter joints).Stays A := by
  induction joints with
  | nil => trivial
  | cons joint joints ih =>
      refine .ite (ih.bind fun rest => trivial) (.vis hshared fun s => ih.bind fun rest => ?_)
      cases joint.startupFeedback s with
      | none => trivial
      | some feedback => trivial

theorem validateStartup_stays (hshared : A (.shared id)) (deviceFilter : String)
    (joints : List CanDriverJointConfig) (passes : Nat) :
    (validateStartup deviceFilter joints passes).Stays A := by
  induction passes with
  | zero => trivial
  | succ passes ih =>
      exact (validateStartupJoints_stays hshared _ _).bind fun snapshots => .ite trivial ih

/-- **Frame**: the sync does what its steps and its queries do. -/
theorem AllowsStartup.stays (h : AllowsStartup A) (cfg : DeviceManagerConfig)
    (params : StartupParams) (deviceFilter : String) (joints : List CanDriverJointConfig) :
    (syncStartupPositionAndCommands cfg params deviceFilter joints).Stays A := by
  refine (h.setRate _ _).bind fun _ => .ite ((h.setRate _ _).bind fun _ => trivial) ?_
  refine .vis h.clock fun t => (h.probe _ _ _).bind fun probed => .ite ?_ trivial
  refine (validateStartup_stays h.shared _ _ _).bind fun snapshots => (h.setRate _ _).bind fun _ => ?_
  cases snapshots with
  | none => trivial
  | some joints => trivial

end

end CanDriver
