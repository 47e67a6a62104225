import CanDriver.SharedDriverState

/-!
# CanDriver.RefreshScheduler

What the refresh worker of a device asks its motors next.

Each protocol builds a plan for one motor: a list of queries of which the worker
sends the first that the protocol accepts.  PP queries have periods, and under
query pressure a budget with a cursor behind the last planned query; MT plans
depend on the cycle count alone; DM only keeps disabled or held motors alive.
The `lastDue` stamps are left out: they are written and never read.
-/

namespace CanDriver

/-- The query kinds of a PP motor (`PpRefreshQuery`). -/
inductive PpRefreshQuery where
  | position | velocity | mode | enable | fault | current
deriving DecidableEq, Repr

/-- The query kinds of an MT motor (`MtRefreshQuery`). -/
inductive MtRefreshQuery where
  | state | multiTurnAngle | error
deriving DecidableEq, Repr

/-- The query kinds of a DM motor (`DmRefreshQuery`). -/
inductive DmRefreshQuery where
  | keepalive
deriving DecidableEq, Repr

/-! ## PP -/

/-- `PpAxisRefreshSnapshot`. -/
structure PpAxisRefreshSnapshot where
  feedbackSeen : Bool := false
  enabled : Bool := false
  fault : Bool := false
  degraded : Bool := false
  desiredModeValid : Bool := false
  feedbackMode : MotorMode := .position
  desiredMode : MotorMode := .position
  intent : AxisIntent := .none
deriving DecidableEq, Repr

/-- `PpAxisRefreshScheduleState`. -/
structure PpAxisRefreshScheduleState where
  lastIssued : PpRefreshQuery → Time := fun _ => 0
  pressureCursor : Nat := 0

def kPpPressureBudgetPerCycle : Nat := 4
def kPpRefreshQueryCount : Nat := 6

/-- `NeedsPpPriorityLifecycleQueries`. -/
def needsPpPriorityLifecycleQueries (s : PpAxisRefreshSnapshot) : Bool :=
  !s.feedbackSeen || s.degraded || s.fault || !s.enabled ||
    s.intent = .enable || s.intent = .recover ||
    (s.desiredModeValid && s.feedbackMode != s.desiredMode)

/-- `PpRefreshQueryOrder`. -/
def ppRefreshQueryOrder : List PpRefreshQuery :=
  [.position, .velocity, .mode, .enable, .fault, .current]

/-- `PpRefreshQueryIndex`. -/
def ppRefreshQueryIndex : PpRefreshQuery → Nat
  | .position => 0
  | .velocity => 1
  | .mode => 2
  | .enable => 3
  | .fault => 4
  | .current => 5

/-- `PpRefreshPeriod`. -/
def ppRefreshPeriod (query : PpRefreshQuery) (snapshot : PpAxisRefreshSnapshot) : Time :=
  match query with
  | .position => ms 50
  | .velocity | .mode | .enable | .fault =>
      if needsPpPriorityLifecycleQueries snapshot then ms 50 else ms 100
  | .current => ms 100

/-- The test in front of the plan: the query has never been sent, or not for its
whole period. -/
def PpAxisRefreshScheduleState.due (state : PpAxisRefreshScheduleState) (now : Time)
    (snapshot : PpAxisRefreshSnapshot) (query : PpRefreshQuery) : Bool :=
  let lastIssued := state.lastIssued query
  !(lastIssued != 0 && lastIssued ≤ now && now - lastIssued < ppRefreshPeriod query snapshot)

/-- The order in which `BuildPpRefreshPlan` looks at the queries: under pressure it
starts at the cursor. -/
def PpAxisRefreshScheduleState.order (state : PpAxisRefreshScheduleState)
    (queryPressureActive : Bool) : List PpRefreshQuery :=
  if queryPressureActive then
    ppRefreshQueryOrder.rotateLeft (state.pressureCursor % kPpRefreshQueryCount)
  else
    ppRefreshQueryOrder

/-- `BuildPpRefreshPlan`. -/
def buildPpRefreshPlan (now : Time) (queryPressureActive : Bool)
    (snapshot : PpAxisRefreshSnapshot) (state : PpAxisRefreshScheduleState) :
    List PpRefreshQuery × PpAxisRefreshScheduleState :=
  let budget :=
    if queryPressureActive then min kPpPressureBudgetPerCycle kPpRefreshQueryCount
    else kPpRefreshQueryCount
  let plan := ((state.order queryPressureActive).filter (state.due now snapshot)).take budget
  match queryPressureActive, plan.getLast? with
  | true, some lastSelected =>
      (plan, { state with
        pressureCursor := (ppRefreshQueryIndex lastSelected + 1) % kPpRefreshQueryCount })
  | _, _ => (plan, state)

/-- `NotePpRefreshQueryIssued`. -/
def notePpRefreshQueryIssued (now : Time) (query : PpRefreshQuery)
    (state : PpAxisRefreshScheduleState) : PpAxisRefreshScheduleState :=
  { state with lastIssued := Function.update state.lastIssued query now }

/-! ## MT -/

/-- `BuildMtRefreshPlan`. -/
def buildMtRefreshPlan (cycle motorIndex : Nat) (queryPressureActive : Bool) :
    List MtRefreshQuery :=
  if queryPressureActive then
    if (cycle + motorIndex) % 2 = 0 then [.state, .error] else [.multiTurnAngle, .error]
  else
    [.state, .multiTurnAngle, .error]

/-! ## DM -/

/-- `DmAxisRefreshSnapshot`, as far as the plan reads it. -/
structure DmAxisRefreshSnapshot where
  feedbackSeen : Bool := false
  intent : AxisIntent := .none
deriving DecidableEq, Repr

/-- `NeedsDmKeepalive`. -/
def needsDmKeepalive (snapshot : DmAxisRefreshSnapshot) : Bool :=
  snapshot.intent != .none && snapshot.intent != .run

/-- `DmRefreshPeriod`. -/
def dmRefreshPeriod (snapshot : DmAxisRefreshSnapshot) : Time :=
  if !needsDmKeepalive snapshot then 0
  else if !snapshot.feedbackSeen || snapshot.intent = .enable || snapshot.intent = .recover then
    ms 50
  else
    ms 100

/-- `BuildDmRefreshPlan`. -/
def buildDmRefreshPlan (now : Time) (snapshot : DmAxisRefreshSnapshot) (lastIssued : Time) :
    List DmRefreshQuery :=
  let period := dmRefreshPeriod snapshot
  if period ≤ 0 then []
  else if lastIssued ≠ 0 ∧ lastIssued ≤ now ∧ now - lastIssued < period then []
  else [.keepalive]

/-! ## the worker of a device -/

/-- `DeviceRefreshRuntime::PendingRefresh`. -/
structure PendingRefresh where
  protocol : CanType := .PP
  motorId : MotorID := 0
  observedLastRxSteadyNs : Time := 0
  deadline : Time := 0
  active : Bool := false
deriving DecidableEq, Repr

/-- `DeviceManager::DeviceRefreshRuntime`: the schedule of one device. -/
structure DeviceRefreshRuntime where
  mtActive : Bool := false
  ppActive : Bool := false
  dmActive : Bool := false
  mtMotorIds : List MotorID := []
  ppMotorIds : List UInt8 := []
  dmMotorIds : List UInt8 := []
  ppScheduleStates : UInt8 → Option PpAxisRefreshScheduleState := fun _ => none
  dmScheduleStates : UInt8 → Option Time := fun _ => none
  refreshCycleCount : Nat := 0
  mtScheduleCycleCount : Nat := 0
  lastObservedTxBackpressure : Nat := 0
  queryPressureUntilCycle : Nat := 0
  nextMtTick : Time := 0
  nextPpTick : Time := 0
  nextDmTick : Time := 0
  nextEligibleIssueTime : Time := 0
  pendingRefresh : PendingRefresh := {}
  protocolRoundRobinCursor : Nat := 0
  mtMotorCursor : Nat := 0
  ppMotorCursor : Nat := 0
  dmMotorCursor : Nat := 0
  interFrameGap : Time := ms 1

namespace DeviceRefreshRuntime

/-- `ppScheduleStates[motorId]`: a missing entry is created. -/
def ppScheduleState (r : DeviceRefreshRuntime) (motorId : UInt8) : PpAxisRefreshScheduleState :=
  (r.ppScheduleStates motorId).getD {}

/-- `dmScheduleStates[motorId].lastIssued`. -/
def dmLastIssued (r : DeviceRefreshRuntime) (motorId : UInt8) : Time :=
  (r.dmScheduleStates motorId).getD 0

end DeviceRefreshRuntime

end CanDriver
