import CanDriver.Bus
import CanDriver.Lib.Polling

/-!
# CanDriver.DeviceManager

The life of one CAN device: bringing it up, the refresh worker that polls its
motors, shutting it down.

The refresh worker issues at most one query per tick.  A tick walks the
protocols from a round-robin cursor, the motors of a protocol from another, and
the plan of a motor in order, until one query is accepted.  Besides what the C++
does, the tick returns what it did: the PP motors it planned for and the query
it issued.  ECB devices, which have no transport here, are left out.
-/

namespace CanDriver

open Interact

def kQueryPressureHoldCycles : Nat := 20

/-- `clampRefreshSleep`. -/
def clampRefreshSleep (sleepFor : Time) : Time := max (ms 1) sleepFor

/-- `sharedAxisLastRxNs`. -/
def sharedAxisLastRxNs (s : SharedDriverState) (deviceName : String) (protocol : CanType)
    (motorId : MotorID) : Time :=
  match s.getAxisFeedback (makeAxisKey deviceName protocol motorId) with
  | some feedback => feedback.lastRxSteadyNs
  | none => 0

/-- `buildPpAxisRefreshSnapshot`, with the records of the axis that carries the
bare node id. -/
def buildPpAxisRefreshSnapshot (s : SharedDriverState) (deviceName : String) (motorId : UInt8) :
    PpAxisRefreshSnapshot :=
  let axisKey := makeAxisKey deviceName .PP (motorIdFromProtocolNodeId motorId)
  let snapshot : PpAxisRefreshSnapshot :=
    match s.getAxisFeedback axisKey with
    | none => {}
    | some feedback =>
        { feedbackSeen := feedback.feedbackSeen
          enabled := feedback.enabledValid && feedback.enabled
          fault := feedback.faultValid && feedback.fault
          degraded := feedback.degraded
          feedbackMode := if feedback.modeValid then feedback.mode else .position }
  let snapshot :=
    match s.getAxisCommand axisKey with
    | none => snapshot
    | some command =>
        { snapshot with
          desiredModeValid := command.desiredModeValid
          desiredMode := command.desiredMode }
  { snapshot with intent := s.getAxisIntent axisKey }

/-- `buildDmAxisRefreshSnapshot`. -/
def buildDmAxisRefreshSnapshot (s : SharedDriverState) (deviceName : String) (motorId : UInt8) :
    DmAxisRefreshSnapshot :=
  let axisKey := makeAxisKey deviceName .DM (motorIdFromProtocolNodeId motorId)
  { feedbackSeen := ((s.getAxisFeedback axisKey).map fun f => f.feedbackSeen).getD false
    intent := s.getAxisIntent axisKey }

/-! ## the refresh tick -/

/-- A query the refresh worker has sent. -/
inductive IssuedQuery where
  | mt (motorId : MotorID) (query : MtRefreshQuery)
  | pp (motorId : UInt8) (query : PpRefreshQuery)
  | dm (motorId : UInt8) (query : DmRefreshQuery)
deriving DecidableEq, Repr

/-- Which PP motor a plan is for, and whether it is made under query pressure. -/
structure PpScene where
  motorId : UInt8
  pressure : Bool
deriving DecidableEq, Repr

/-- The refresh worker plans for a PP motor: what was due, and what of it went out. -/
abbrev PpVisit := Round PpRefreshQuery PpScene

/-- What a tick did. -/
structure TickReport where
  ppVisits : List PpVisit := []
  issued : Option IssuedQuery := none
deriving DecidableEq, Repr

/-- The critical section that opens a tick: nothing is issued during the
inter-frame gap or while an answer is awaited; otherwise a cycle begins, under
query pressure or not. -/
def beginTick (deviceName : String) (now : Time) (feedback health : SharedDriverState)
    (r : DeviceRefreshRuntime) : Option Bool × DeviceRefreshRuntime :=
  let lastRx := sharedAxisLastRxNs feedback deviceName r.pendingRefresh.protocol
    r.pendingRefresh.motorId
  let answered := r.pendingRefresh.active &&
    (r.pendingRefresh.observedLastRxSteadyNs < lastRx || r.pendingRefresh.deadline ≤ now)
  let r := if answered then { r with pendingRefresh := { r.pendingRefresh with active := false } }
    else r
  if r.nextEligibleIssueTime ≠ 0 ∧ now < r.nextEligibleIssueTime then
    (none, r)
  else if r.pendingRefresh.active then
    (none, r)
  else
    let cycle := r.refreshCycleCount
    let r := { r with refreshCycleCount := cycle + 1 }
    let r := match health.getDeviceHealth deviceName with
      | none => r
      | some deviceHealth =>
          { r with
            queryPressureUntilCycle :=
              if r.lastObservedTxBackpressure < deviceHealth.txBackpressure then
                max r.queryPressureUntilCycle (cycle + kQueryPressureHoldCycles)
              else r.queryPressureUntilCycle
            lastObservedTxBackpressure := deviceHealth.txBackpressure }
    (some (decide (cycle < r.queryPressureUntilCycle)), r)

/-- Whether a protocol's next tick has come. -/
def tickDue (now nextTick : Time) : Bool := nextTick = 0 || nextTick ≤ now

/-- `(cursor + offset) % n` for `offset` from 0 to `n - 1`. -/
def visitOrder (cursor n : Nat) : List Nat :=
  (List.range n).map fun offset => (cursor + offset) % n

/-- The first query of a plan that is accepted. -/
def issueFirst (issue : κ → BusProg Bool) : List κ → BusProg (Option κ)
  | [] => pure none
  | query :: queries => do
      let issued ← issue query
      if issued then pure (some query) else issueFirst issue queries

theorem issueFirst_stays {A : BusOp → Prop} {issue : κ → BusProg Bool}
    (h : ∀ query, (issue query).Stays A) (queries : List κ) :
    (issueFirst issue queries).Stays A := by
  induction queries with
  | nil => trivial
  | cons query queries ih => exact (h query).bind fun issued => .ite trivial ih

/-- The critical section after an issued query, as far as the protocols agree:
`next` sets the protocol's own tick and cursors. -/
def noteIssued (deviceName : String) (protocol : CanType) (motorId : MotorID)
    (sleepFor answerTimeout : BusProg Time)
    (next : Time → DeviceRefreshRuntime → DeviceRefreshRuntime) : BusProg Unit := do
  let t₁ ← Device.clock
  let sleep ← sleepFor
  let t₂ ← Device.clock
  let shared ← Device.shared id
  let t₃ ← Device.clock
  let timeout ← answerTimeout
  let _ ← Device.refresh fun r =>
    next (t₁ + clampRefreshSleep sleep)
      { r with
        nextEligibleIssueTime := t₂ + r.interFrameGap
        pendingRefresh :=
          { protocol, motorId
            observedLastRxSteadyNs := sharedAxisLastRxNs shared deviceName protocol motorId
            deadline := t₃ + clampRefreshSleep timeout
            active := true } }
  pure ()

theorem noteIssued_stays {A : BusOp → Prop} {sleepFor answerTimeout : BusProg Time}
    {next : Time → DeviceRefreshRuntime → DeviceRefreshRuntime} (hclock : A .clock)
    (hshared : A (.shared id)) (hsleep : sleepFor.Stays A) (htimeout : answerTimeout.Stays A)
    (hnext : ∀ t (eligible : DeviceRefreshRuntime → Time) pending, A (.refresh fun r =>
      next t { r with nextEligibleIssueTime := eligible r, pendingRefresh := pending }))
    (deviceName : String) (protocol : CanType) (motorId : MotorID) :
    (noteIssued deviceName protocol motorId sleepFor answerTimeout next).Stays A :=
  .vis hclock fun _ => hsleep.bind fun _ => .vis hclock fun t₂ => .vis hshared fun _ =>
    .vis hclock fun _ => htimeout.bind fun _ => .vis (hnext _ (fun r => t₂ + r.interFrameGap) _)
      fun _ => trivial

/-- `MtCan::refreshSleepInterval` on the device. -/
def mtRefreshSleep : BusProg Time := do
  let mt ← Device.mt id
  pure (ms mt.refreshSleepInterval)

/-- `MtCan::readResponseTimeout` on the device. -/
def mtReadResponseTimeout : BusProg Time := do
  let mt ← Device.mt id
  pure mt.computeReadRequestTimeout

/-- `EyouCan::refreshSleepInterval` on the device. -/
def ppRefreshSleep : BusProg Time := do
  let eyou ← Device.eyou id
  pure (ms eyou.refreshSleepInterval)

/-- `DamiaoCan::refreshSleepInterval` on the device. -/
def dmRefreshSleep : BusProg Time := do
  let dm ← Device.dm id
  pure (ms dm.refreshSleepInterval)

/-! ### MT -/

/-- The loop over the MT motors, at the indices `visits`. -/
def tickMtMotors (deviceName : String) (pressure : Bool) (cycle : Nat) (motorIds : List MotorID) :
    List Nat → BusProg TickReport
  | [] => pure {}
  | index :: visits => do
      let motorId := motorIds.getD index 0
      let issued ← issueFirst (fun query => Proto.onBus (MtCan.issueRefreshQuery motorId query))
        (buildMtRefreshPlan cycle index pressure)
      match issued with
      | some query => do
          noteIssued deviceName .MT motorId mtRefreshSleep mtReadResponseTimeout
            fun nextTick r =>
              { r with
                mtMotorCursor := (index + 1) % motorIds.length
                nextMtTick := nextTick
                protocolRoundRobinCursor := 1 }
          pure { issued := some (.mt motorId query) }
      | none => tickMtMotors deviceName pressure cycle motorIds visits

/-- The MT branch of a tick. -/
def tickMt (deviceName : String) (now : Time) (pressure : Bool) : BusProg TickReport := do
  let active ← Device.refresh id
  if active.mtActive then
    let r ← Device.refresh fun r =>
      if tickDue now r.nextMtTick then
        { r with mtScheduleCycleCount := r.mtScheduleCycleCount + 1 }
      else r
    if tickDue now r.nextMtTick then
      tickMtMotors deviceName pressure r.mtScheduleCycleCount r.mtMotorIds
        (visitOrder r.mtMotorCursor r.mtMotorIds.length)
    else
      pure {}
  else
    pure {}

/-! ### PP -/

/-- The critical section that plans for one PP motor. -/
def planPp (now : Time) (pressure : Bool) (snapshot : PpAxisRefreshSnapshot) (motorId : UInt8)
    (r : DeviceRefreshRuntime) : DeviceRefreshRuntime :=
  { r with
    ppScheduleStates := put r.ppScheduleStates motorId
      (buildPpRefreshPlan now pressure snapshot (r.ppScheduleState motorId)).2 }

/-- The loop over the PP motors, at the indices `visits`. -/
def tickPpMotors (deviceName : String) (now : Time) (pressure : Bool) (motorIds : List UInt8) :
    List Nat → BusProg TickReport
  | [] => pure {}
  | index :: visits => do
      let motorId := motorIds.getD index 0
      let systemMotorId := motorIdFromProtocolNodeId motorId
      let shared ← Device.shared id
      let snapshot := buildPpAxisRefreshSnapshot shared deviceName motorId
      let r ← Device.refresh (planPp now pressure snapshot motorId)
      let plan := (buildPpRefreshPlan now pressure snapshot (r.ppScheduleState motorId)).1
      let issued ←
        issueFirst (fun query => Proto.onBus (EyouCan.issueRefreshQuery systemMotorId query)) plan
      let visit : PpVisit :=
        { time := now
          info := { motorId, pressure }
          due := ppRefreshQueryOrder.filter ((r.ppScheduleState motorId).due now snapshot)
          asked := issued }
      match issued with
      | some query => do
          noteIssued deviceName .PP systemMotorId ppRefreshSleep ppRefreshSleep
            fun nextTick r =>
              { r with
                ppScheduleStates := put r.ppScheduleStates motorId
                  (notePpRefreshQueryIssued now query (r.ppScheduleState motorId))
                ppMotorCursor := (index + 1) % motorIds.length
                nextPpTick := nextTick
                protocolRoundRobinCursor := 2 }
          pure { ppVisits := [visit], issued := some (.pp motorId query) }
      | none => do
          let report ← tickPpMotors deviceName now pressure motorIds visits
          pure { report with ppVisits := visit :: report.ppVisits }

/-- The PP branch of a tick. -/
def tickPp (deviceName : String) (now : Time) (pressure : Bool) : BusProg TickReport := do
  let active ← Device.refresh id
  if active.ppActive then
    let r ← Device.refresh id
    if tickDue now r.nextPpTick then
      tickPpMotors deviceName now pressure r.ppMotorIds
        (visitOrder r.ppMotorCursor r.ppMotorIds.length)
    else
      pure {}
  else
    pure {}

/-! ### DM -/

/-- The loop over the DM motors, at the indices `visits`. -/
def tickDmMotors (deviceName : String) (now : Time) (motorIds : List UInt8) :
    List Nat → BusProg TickReport
  | [] => pure {}
  | index :: visits => do
      let motorId := motorIds.getD index 0
      let systemMotorId := motorIdFromProtocolNodeId motorId
      let r ← Device.refresh fun r =>
        { r with dmScheduleStates := put r.dmScheduleStates motorId (r.dmLastIssued motorId) }
      let shared ← Device.shared id
      let issued ←
        issueFirst (fun query => Proto.onBus (DamiaoCan.issueRefreshQuery systemMotorId query))
          (buildDmRefreshPlan now (buildDmAxisRefreshSnapshot shared deviceName motorId)
            (r.dmLastIssued motorId))
      match issued with
      | some query => do
          noteIssued deviceName .DM systemMotorId dmRefreshSleep dmRefreshSleep
            fun nextTick r =>
              { r with
                dmScheduleStates := put r.dmScheduleStates motorId now
                dmMotorCursor := (index + 1) % motorIds.length
                nextDmTick := nextTick
                protocolRoundRobinCursor := 0 }
          pure { issued := some (.dm motorId query) }
      | none => tickDmMotors deviceName now motorIds visits

/-- The DM branch of a tick. -/
def tickDm (deviceName : String) (now : Time) : BusProg TickReport := do
  let active ← Device.refresh id
  if active.dmActive then
    let r ← Device.refresh id
    if tickDue now r.nextDmTick then
      tickDmMotors deviceName now r.dmMotorIds (visitOrder r.dmMotorCursor r.dmMotorIds.length)
    else
      pure {}
  else
    pure {}

/-! ### the worker -/

/-- One protocol's turn: `AttemptedProtocol`, as a number. -/
def tickProtocol (deviceName : String) (now : Time) (pressure : Bool) (selected : Nat) :
    BusProg TickReport :=
  if selected = 0 then tickMt deviceName now pressure
  else if selected = 1 then tickPp deviceName now pressure
  else tickDm deviceName now

/-- The loop over the protocols. -/
def tickProtocols (deviceName : String) (now : Time) (pressure : Bool) :
    List Nat → BusProg TickReport
  | [] => pure {}
  | selected :: rest => do
      let report ← tickProtocol deviceName now pressure selected
      if report.issued.isSome then
        pure report
      else
        let later ← tickProtocols deviceName now pressure rest
        pure { later with ppVisits := report.ppVisits ++ later.ppVisits }

/-- The critical sections that close a tick: an inactive protocol starts over. -/
def endTick (r : DeviceRefreshRuntime) : DeviceRefreshRuntime :=
  { r with
    nextMtTick := if r.mtActive then r.nextMtTick else 0
    nextPpTick := if r.ppActive then r.nextPpTick else 0
    nextDmTick := if r.dmActive then r.nextDmTick else 0 }

/-- One tick of the refresh worker. -/
def refreshTick (deviceName : String) : BusProg TickReport := do
  let now ← Device.clock
  let feedback ← Device.shared id
  let health ← Device.shared id
  let r ← Device.refresh fun r => (beginTick deviceName now feedback health r).2
  match (beginTick deviceName now feedback health r).1 with
  | none => pure {}
  | some pressure => do
      let report ← tickProtocols deviceName now pressure
        (visitOrder (r.protocolRoundRobinCursor % 3) 3)
      let _ ← Device.refresh endTick
      pure report

/-! ### what a tick consists of -/

/-- The steps that make up a tick, apart from what the queries do. -/
structure AllowsTick (A : BusOp → Prop) : Prop where
  refresh : ∀ f, A (.refresh f)
  shared : A (.shared id)
  clock : A .clock
  eyou : A (.eyou id)
  mt : A (.mt id)
  dm : A (.dm id)
  mtQuery : ∀ motorId query, (Proto.onBus (MtCan.issueRefreshQuery motorId query)).Stays A
  ppQuery : ∀ motorId query, (Proto.onBus (EyouCan.issueRefreshQuery motorId query)).Stays A
  dmQuery : ∀ motorId query, (Proto.onBus (DamiaoCan.issueRefreshQuery motorId query)).Stays A

namespace AllowsTick

variable {A : BusOp → Prop} (h : AllowsTick A)

include h

theorem note {sleepFor answerTimeout : BusProg Time} (hsleep : sleepFor.Stays A)
    (htimeout : answerTimeout.Stays A) (deviceName : String) (protocol : CanType)
    (motorId : MotorID) (next : Time → DeviceRefreshRuntime → DeviceRefreshRuntime) :
    (noteIssued deviceName protocol motorId sleepFor answerTimeout next).Stays A :=
  noteIssued_stays h.clock h.shared hsleep htimeout (fun _ _ _ => h.refresh _) _ _ _

theorem mtMotors (deviceName : String) (pressure : Bool) (cycle : Nat) (motorIds : List MotorID)
    (visits : List Nat) : (tickMtMotors deviceName pressure cycle motorIds visits).Stays A := by
  have hsleep : mtRefreshSleep.Stays A := .vis h.mt fun _ => trivial
  have htimeout : mtReadResponseTimeout.Stays A := .vis h.mt fun _ => trivial
  induction visits with
  | nil => trivial
  | cons index visits ih =>
      refine (issueFirst_stays (fun query => h.mtQuery _ query) _).bind fun issued => ?_
      cases issued with
      | none => exact ih
      | some query => exact (h.note hsleep htimeout _ _ _ _).bind fun _ => trivial

theorem ppMotors (deviceName : String) (now : Time) (pressure : Bool) (motorIds : List UInt8)
    (visits : List Nat) : (tickPpMotors deviceName now pressure motorIds visits).Stays A := by
  have hsleep : ppRefreshSleep.Stays A := .vis h.eyou fun _ => trivial
  induction visits with
  | nil => trivial
  | cons index visits ih =>
      refine .vis h.shared fun shared => .vis (h.refresh _) fun r =>
        (issueFirst_stays (fun query => h.ppQuery _ query) _).bind fun issued => ?_
      cases issued with
      | none => exact ih.bind fun _ => trivial
      | some query => exact (h.note hsleep hsleep _ _ _ _).bind fun _ => trivial

theorem dmMotors (deviceName : String) (now : Time) (motorIds : List UInt8) (visits : List Nat) :
    (tickDmMotors deviceName now motorIds visits).Stays A := by
  have hsleep : dmRefreshSleep.Stays A := .vis h.dm fun _ => trivial
  induction visits with
  | nil => trivial
  | cons index visits ih =>
      refine .vis (h.refresh _) fun r => .vis h.shared fun shared =>
        (issueFirst_stays (fun query => h.dmQuery _ query) _).bind fun issued => ?_
      cases issued with
      | none => exact ih
      | some query => exact (h.note hsleep hsleep _ _ _ _).bind fun _ => trivial

theorem protocols (deviceName : String) (now : Time) (pressure : Bool) (order : List Nat) :
    (tickProtocols deviceName now pressure order).Stays A := by
  have htick : ∀ selected, (tickProtocol deviceName now pressure selected).Stays A := by
    intro selected
    refine .ite ?_ (.ite ?_ ?_)
    · exact .vis (h.refresh _) fun _ => .ite (.vis (h.refresh _) fun _ =>
        .ite (h.mtMotors _ _ _ _ _) trivial) trivial
    · exact .vis (h.refresh _) fun _ => .ite (.vis (h.refresh _) fun _ =>
        .ite (h.ppMotors _ _ _ _ _) trivial) trivial
    · exact .vis (h.refresh _) fun _ => .ite (.vis (h.refresh _) fun _ =>
        .ite (h.dmMotors _ _ _ _) trivial) trivial
  induction order with
  | nil => trivial
  | cons selected order ih =>
      exact (htick selected).bind fun _ => .ite trivial (ih.bind fun _ => trivial)

/-- **Frame**: a tick does what its steps and its queries do. -/
theorem stays (deviceName : String) : (refreshTick deviceName).Stays A := by
  refine .vis h.clock fun t => .vis h.shared fun feedback => .vis h.shared fun health =>
    .vis (h.refresh _) fun r => ?_
  dsimp only [Prog.bind]
  cases (beginTick deviceName t feedback health r).1 with
  | none => trivial
  | some pressure =>
      exact (h.protocols _ _ _ _).bind fun _ => .vis (h.refresh _) fun _ => trivial

end AllowsTick

/-! ## bringing a device up and down -/

/-- What `DeviceManager` hands to new protocol objects. -/
structure DeviceManagerConfig where
  refreshRateHz : Double := .finite 0
  mtCommunicationTimeoutOnInitMs : UInt32 := 0
  ppFastWriteEnabled : Bool := false
  ppPositionDefaultVelocityRaw : Int32 := 0x2AAA
  ppCspDefaultVelocityRaw : Int32 := 0x2AAA
  refreshInterFrameGap : Time := ms 1

/-- `resetDeviceRuntimeLocked`. -/
def resetDeviceRuntime : BusProg Unit := do
  let _ ← Device.slot fun s => { s with protocols := [] }
  Device.stop

/-- `stopDeviceRefreshWorkerLocked`: the schedule goes with the worker. -/
def stopDeviceRefreshWorker : BusProg Unit := do
  let _ ← Device.refresh fun _ => {}
  pure ()

/-- `shutdownDeviceLocked`. -/
def shutdownDevice (deviceName : String) : BusProg Unit := do
  let _ ← Device.shared fun s => s.mutateDeviceHealth deviceName fun health =>
    { health with transportReady := false }
  stopDeviceRefreshWorker
  let _ ← Device.slot fun s => { s with transport := false }
  resetDeviceRuntime

/-- `initializeTransportLocked`. -/
def initializeTransport : BusProg Bool := do
  let ok ← Device.openTransport
  if ok then
    let _ ← Device.slot fun s => { s with transport := true }
    pure true
  else
    pure false

/-- The head of `initDevice`: a transport, a new one if there was one before. -/
def bringUpTransport (deviceName : String) : BusProg Bool := do
  let slot ← Device.slot id
  if slot.transport then
    stopDeviceRefreshWorker
    let _ ← Device.slot fun s => { s with transport := false }
    resetDeviceRuntime
    let ok ← initializeTransport
    if ok then
      pure true
    else
      shutdownDevice deviceName
      pure false
  else
    initializeTransport

/-- Make an object for a protocol that has motors and no object yet. -/
def ensureObject (type : CanType) (ids : List MotorID) (create : BusProg Unit) : BusProg Unit := do
  let slot ← Device.slot id
  if !ids.isEmpty && !slot.protocols.contains type then
    create
    let _ ← Device.slot fun s => { s with protocols := type :: s.protocols }
    pure ()
  else
    pure ()

/-- A new MT object. -/
def createMt (cfg : DeviceManagerConfig) (deviceName : String) : BusProg Unit := do
  let _ ← Device.mt fun _ => { deviceName }
  Proto.onBus (MtCan.setRefreshRateHz cfg.refreshRateHz)
  Proto.onBus (MtCan.setCommunicationTimeoutOnInit cfg.mtCommunicationTimeoutOnInitMs)

/-- A new PP object. -/
def createPp (cfg : DeviceManagerConfig) (deviceName : String) : BusProg Unit := do
  let _ ← Device.eyou fun _ => { deviceName }
  Proto.onBus (EyouCan.setRefreshRateHz cfg.refreshRateHz)
  Proto.onBus (EyouCan.setFastWriteEnabled cfg.ppFastWriteEnabled)
  Proto.onBus (EyouCan.setDefaultPositionVelocityRaw cfg.ppPositionDefaultVelocityRaw)
  Proto.onBus (EyouCan.setDefaultCspVelocityRaw cfg.ppCspDefaultVelocityRaw)

/-- A new DM object. -/
def createDm (cfg : DeviceManagerConfig) (deviceName : String) : BusProg Unit := do
  let _ ← Device.dm fun _ => { deviceName }
  Proto.onBus (DamiaoCan.setRefreshRateHz cfg.refreshRateHz)

/-- The motors of one protocol. -/
def idsOf (type : CanType) (motors : List (CanType × MotorID)) : List MotorID :=
  (motors.filter fun m => m.1 = type).map Prod.snd

/-- `normalizeMtSystemMotorIds`. -/
def normalizeMtSystemMotorIds (ids : List MotorID) : List MotorID :=
  ids.map fun id => motorIdFromMtProtocolNodeId (toMtProtocolNodeId id)

/-- The MT part of the schedule. -/
def scheduleMt (ids : List MotorID) (r : DeviceRefreshRuntime) : DeviceRefreshRuntime :=
  { r with
    mtActive := !ids.isEmpty
    mtMotorIds := normalizeMtSystemMotorIds ids
    mtScheduleCycleCount := 0
    nextMtTick := 0 }

/-- The PP part of the schedule. -/
def schedulePp (ids : List MotorID) (r : DeviceRefreshRuntime) : DeviceRefreshRuntime :=
  { r with
    ppActive := !ids.isEmpty
    ppMotorIds := ids.map toProtocolNodeId
    ppScheduleStates := fun _ => none
    nextPpTick := 0 }

/-- The DM part of the schedule. -/
def scheduleDm (ids : List MotorID) (r : DeviceRefreshRuntime) : DeviceRefreshRuntime :=
  { r with
    dmActive := !ids.isEmpty
    dmMotorIds := ids.map toProtocolNodeId
    dmScheduleStates := fun _ => none
    nextDmTick := 0 }

/-- Hand a protocol its motors, if it has any, and put them on the schedule. -/
def startPolling (ids : List MotorID) (load : BusProg Unit)
    (schedule : List MotorID → DeviceRefreshRuntime → DeviceRefreshRuntime) : BusProg Unit := do
  if ids.isEmpty then
    let _ ← Device.refresh (schedule ids)
    pure ()
  else
    load
    let _ ← Device.refresh (schedule ids)
    pure ()

/-- `initDevice`. -/
def initDevice (cfg : DeviceManagerConfig) (deviceName : String)
    (motors : List (CanType × MotorID)) : BusProg Bool := do
  let ok ← bringUpTransport deviceName
  if ok then
    Device.restart
    let _ ← Device.shared fun s =>
      motors.foldl (fun s m => s.registerAxis (makeAxisKey deviceName m.1 m.2)) s
    let _ ← Device.shared fun s => s.mutateDeviceHealth deviceName fun health =>
      { health with transportReady := true }
    let mtIds := idsOf .MT motors
    let ppIds := idsOf .PP motors
    let dmIds := idsOf .DM motors
    ensureObject .MT mtIds (createMt cfg deviceName)
    ensureObject .PP ppIds (createPp cfg deviceName)
    ensureObject .DM dmIds (createDm cfg deviceName)
    let _ ← Device.refresh fun r => { r with interFrameGap := cfg.refreshInterFrameGap }
    startPolling mtIds (Proto.onBus (MtCan.initializeMotorRefresh mtIds)) scheduleMt
    startPolling ppIds (Proto.onBus (EyouCan.initializeMotorRefresh ppIds)) schedulePp
    startPolling dmIds (Proto.onBus (DamiaoCan.initializeMotorRefresh dmIds)) scheduleDm
    pure true
  else
    pure false

/-! ### what bringing a device up consists of -/

section

variable {A : BusOp → Prop}

/-- The steps that make up `shutdownDevice`. -/
structure AllowsShutdown (A : BusOp → Prop) : Prop where
  slot : ∀ f, A (.slot f)
  shared : ∀ f, A (.shared f)
  stop : A .stop
  unschedule : A (.refresh fun _ => {})

theorem AllowsShutdown.stays (h : AllowsShutdown A) (deviceName : String) :
    (shutdownDevice deviceName).Stays A :=
  .vis (h.shared _) fun _ => .vis h.unschedule fun _ => .vis (h.slot _) fun _ =>
    .vis (h.slot _) fun _ => .vis h.stop fun _ => trivial

/-- The steps that make up `initDevice`, apart from what the protocol objects do. -/
structure AllowsInit (A : BusOp → Prop) : Prop extends AllowsShutdown A where
  openTransport : A .openTransport
  restart : A .restart
  gap : ∀ gap, A (.refresh fun r => { r with interFrameGap := gap })
  scheduleMt : ∀ ids, A (.refresh (scheduleMt ids))
  schedulePp : ∀ ids, A (.refresh (schedulePp ids))
  scheduleDm : ∀ ids, A (.refresh (scheduleDm ids))

theorem AllowsInit.bringUp (h : AllowsInit A) (deviceName : String) :
    (bringUpTransport deviceName).Stays A := by
  have hinit : initializeTransport.Stays A :=
    .vis h.openTransport fun ok => .ite (.vis (h.slot _) fun _ => trivial) trivial
  refine .vis (h.slot _) fun slot => .ite ?_ hinit
  refine .vis h.unschedule fun _ => .vis (h.slot _) fun _ => .vis (h.slot _) fun _ =>
    .vis h.stop fun _ => hinit.bind fun ok => .ite trivial ?_
  exact (h.toAllowsShutdown.stays deviceName).bind fun _ => trivial

theorem AllowsInit.ensure (h : AllowsInit A) {type : CanType} {ids : List MotorID}
    {create : BusProg Unit} (hcreate : create.Stays A) : (ensureObject type ids create).Stays A :=
  .vis (h.slot _) fun _ => .ite (hcreate.bind fun _ => .vis (h.slot _) fun _ => trivial) trivial

theorem startPolling_stays {ids : List MotorID} {load : BusProg Unit}
    {schedule : List MotorID → DeviceRefreshRuntime → DeviceRefreshRuntime}
    (hload : load.Stays A) (hschedule : A (.refresh (schedule ids))) :
    (startPolling ids load schedule).Stays A :=
  .ite (.vis hschedule fun _ => trivial) (hload.bind fun _ => .vis hschedule fun _ => trivial)

/-- **Frame**: bringing a device up does what its steps and its protocol objects do. -/
theorem AllowsInit.stays (h : AllowsInit A) {cfg : DeviceManagerConfig} {deviceName : String}
    {motors : List (CanType × MotorID)}
    (hmt : (createMt cfg deviceName).Stays A) (hpp : (createPp cfg deviceName).Stays A)
    (hdm : (createDm cfg deviceName).Stays A)
    (hmtLoad : (Proto.onBus (MtCan.initializeMotorRefresh (idsOf .MT motors))).Stays A)
    (hppLoad : (Proto.onBus (EyouCan.initializeMotorRefresh (idsOf .PP motors))).Stays A)
    (hdmLoad : (Proto.onBus (DamiaoCan.initializeMotorRefresh (idsOf .DM motors))).Stays A) :
    (initDevice cfg deviceName motors).Stays A := by
  refine (h.bringUp deviceName).bind fun ok => .ite ?_ trivial
  refine .vis h.restart fun _ => .vis (h.shared _) fun _ => .vis (h.shared _) fun _ => ?_
  refine (h.ensure hmt).bind fun _ => (h.ensure hpp).bind fun _ => (h.ensure hdm).bind fun _ => ?_
  refine .vis (h.gap _) fun _ => ?_
  refine (startPolling_stays hmtLoad (h.scheduleMt _)).bind fun _ => ?_
  refine (startPolling_stays hppLoad (h.schedulePp _)).bind fun _ => ?_
  exact (startPolling_stays hdmLoad (h.scheduleDm _)).bind fun _ => trivial

end

end CanDriver
