import CanDriver.Basic

/-!
# CanDriver.DeviceRuntime

The transmit dispatcher of one CAN device: four queues by category, a worker
that always serves the control queue first.

Control frames are coalesced: a new one takes the place of the queued one with
the same CAN id, whatever the two frames say.  A full control queue evicts its
oldest entry; the other queues reject what does not fit.
-/

namespace CanDriver

/-- `CanTxDispatcher::Category`. -/
inductive Category where
  | control | query | recover | config
deriving DecidableEq, Repr

/-- The call site of a submission (`Request::source`). -/
inductive TxSource where
  | eyouSendWriteCommand | eyouSendReadCommand | eyouPersistParameters
  | mtSetVelocity | mtSetPosition | mtDisable | mtStop
  | mtSetCommunicationTimeout | mtWriteAcceleration
  | mtRequestState | mtRequestError | mtRequestMultiTurnAngle
  | mtResetSystem | mtSetZeroPosition
  | dmSetVelocity | dmEnable | dmEnableNeutral | dmDisableNeutral | dmDisable | dmStop
  | dmResetFault | dmIssueRefreshQuery | dmSendRegisterWrite
deriving DecidableEq, Repr

/-- The text of a call site. -/
def TxSource.text : TxSource → String
  | eyouSendWriteCommand => "EyouCan::sendWriteCommand"
  | eyouSendReadCommand => "EyouCan::sendReadCommand"
  | eyouPersistParameters => "EyouCan::persistParameters"
  | mtSetVelocity => "MtCan::setVelocity"
  | mtSetPosition => "MtCan::setPosition"
  | mtDisable => "MtCan::Disable"
  | mtStop => "MtCan::Stop"
  | mtSetCommunicationTimeout => "MtCan::setCommunicationTimeout"
  | mtWriteAcceleration => "MtCan::writeAcceleration"
  | mtRequestState => "MtCan::requestState"
  | mtRequestError => "MtCan::requestError"
  | mtRequestMultiTurnAngle => "MtCan::requestMultiTurnAngle"
  | mtResetSystem => "MtCan::resetSystem"
  | mtSetZeroPosition => "MtCan::setZeroPosition"
  | dmSetVelocity => "DamiaoCan::setVelocity"
  | dmEnable => "DamiaoCan::Enable"
  | dmEnableNeutral => "DamiaoCan::EnableNeutral"
  | dmDisableNeutral => "DamiaoCan::DisableNeutral"
  | dmDisable => "DamiaoCan::Disable"
  | dmStop => "DamiaoCan::Stop"
  | dmResetFault => "DamiaoCan::ResetFault"
  | dmIssueRefreshQuery => "DamiaoCan::issueRefreshQuery"
  | dmSendRegisterWrite => "DamiaoCan::sendRegisterWrite"

/-- The protocol a call site belongs to. -/
def TxSource.protocol : TxSource → CanType
  | eyouSendWriteCommand | eyouSendReadCommand | eyouPersistParameters => .PP
  | mtSetVelocity | mtSetPosition | mtDisable | mtStop | mtSetCommunicationTimeout
  | mtWriteAcceleration | mtRequestState | mtRequestError | mtRequestMultiTurnAngle
  | mtResetSystem | mtSetZeroPosition => .MT
  | dmSetVelocity | dmEnable | dmEnableNeutral | dmDisableNeutral | dmDisable | dmStop
  | dmResetFault | dmIssueRefreshQuery | dmSendRegisterWrite => .DM

/-- `Request::completion`: the read whose tracking entry is to be told. -/
inductive Completion where
  | eyouRead (motorId subCommand : UInt8)
  | mtRead (motorId command : UInt8)
deriving DecidableEq, Repr

/-- `CanTxDispatcher::Request`. -/
structure Request where
  frame : Frame
  category : Category
  source : TxSource
  completion : Option Completion := none
deriving DecidableEq, Repr

/-- `DeviceRuntime::Options`, as far as the queues are concerned. -/
structure RuntimeOptions where
  maxControlQueueDepth : Nat := 256
  maxRecoverQueueDepth : Nat := 128
  maxConfigQueueDepth : Nat := 128
  maxQueryQueueDepth : Nat := 64
deriving DecidableEq, Repr

/-- The counters of a `DeviceRuntime`. -/
structure RuntimeCounters where
  submitted : Nat := 0
  sent : Nat := 0
  sendBackpressure : Nat := 0
  sendLinkDown : Nat := 0
  sendError : Nat := 0
  droppedControl : Nat := 0
  droppedRecover : Nat := 0
  droppedConfig : Nat := 0
  droppedQuery : Nat := 0
  evictedControl : Nat := 0
deriving DecidableEq, Repr

/-- `DeviceRuntime`.  `sending` is the request the worker has popped and not
accounted for yet. -/
structure DeviceRuntime where
  options : RuntimeOptions := {}
  controlQueue : List Request := []
  recoverQueue : List Request := []
  configQueue : List Request := []
  queryQueue : List Request := []
  stopRequested : Bool := false
  sending : Option Request := none
  counters : RuntimeCounters := {}
deriving DecidableEq, Repr

namespace DeviceRuntime

/-- `queueFor`. -/
def queueFor (rt : DeviceRuntime) : Category → List Request
  | .control => rt.controlQueue
  | .recover => rt.recoverQueue
  | .config => rt.configQueue
  | .query => rt.queryQueue

/-- `maxDepthFor`. -/
def maxDepthFor (rt : DeviceRuntime) : Category → Nat
  | .control => rt.options.maxControlQueueDepth
  | .recover => rt.options.maxRecoverQueueDepth
  | .config => rt.options.maxConfigQueueDepth
  | .query => rt.options.maxQueryQueueDepth

/-- Write a queue back. -/
def setQueue (rt : DeviceRuntime) (c : Category) (q : List Request) : DeviceRuntime :=
  match c with
  | .control => { rt with controlQueue := q }
  | .recover => { rt with recoverQueue := q }
  | .config => { rt with configQueue := q }
  | .query => { rt with queryQueue := q }

/-- Count a rejected request. -/
def noteDropped (rt : DeviceRuntime) (c : Category) : DeviceRuntime :=
  { rt with
    counters := match c with
      | .control => { rt.counters with droppedControl := rt.counters.droppedControl + 1 }
      | .recover => { rt.counters with droppedRecover := rt.counters.droppedRecover + 1 }
      | .config => { rt.counters with droppedConfig := rt.counters.droppedConfig + 1 }
      | .query => { rt.counters with droppedQuery := rt.counters.droppedQuery + 1 } }

/-- Count a discarded control frame. -/
def noteEvicted (rt : DeviceRuntime) : DeviceRuntime :=
  { rt with counters := { rt.counters with evictedControl := rt.counters.evictedControl + 1 } }

/-- Count an accepted request. -/
def noteSubmitted (rt : DeviceRuntime) : DeviceRuntime :=
  { rt with counters := { rt.counters with submitted := rt.counters.submitted + 1 } }

/-- The loop of `enqueueControlLocked`: put the request in the place of the first
queued one with the same CAN id. -/
def replaceById (r : Request) : List Request → Option (List Request)
  | [] => none
  | q :: qs =>
      if q.frame.id = r.frame.id then some (r :: qs)
      else (replaceById r qs).map fun qs' => q :: qs'

/-- `enqueueControlLocked`. -/
def enqueueControl (rt : DeviceRuntime) (r : Request) : DeviceRuntime :=
  match replaceById r rt.controlQueue with
  | some q => { rt.noteEvicted with controlQueue := q }
  | none =>
      if rt.options.maxControlQueueDepth ≤ rt.controlQueue.length then
        { rt.noteEvicted with controlQueue := rt.controlQueue.tail ++ [r] }
      else
        { rt with controlQueue := rt.controlQueue ++ [r] }

/-- `enqueueLocked`: whether the request was accepted, and the runtime after it. -/
def enqueue (rt : DeviceRuntime) (r : Request) : Bool × DeviceRuntime :=
  if rt.stopRequested then
    (false, rt.noteDropped r.category)
  else if r.category = .control then
    (true, (rt.enqueueControl r).noteSubmitted)
  else if rt.maxDepthFor r.category ≤ (rt.queueFor r.category).length then
    (false, rt.noteDropped r.category)
  else
    (true, (rt.setQueue r.category (rt.queueFor r.category ++ [r])).noteSubmitted)

/-- `popNextLocked`: control before recover before config before query. -/
def popNext (rt : DeviceRuntime) : Option (Request × DeviceRuntime) :=
  match rt.controlQueue, rt.recoverQueue, rt.configQueue, rt.queryQueue with
  | r :: q, _, _, _ => some (r, { rt with controlQueue := q })
  | [], r :: q, _, _ => some (r, { rt with recoverQueue := q })
  | [], [], r :: q, _ => some (r, { rt with configQueue := q })
  | [], [], [], r :: q => some (r, { rt with queryQueue := q })
  | [], [], [], [] => none

/-- `allQueuesEmptyLocked`, with nothing being sent: what `waitUntilIdleFor` waits for. -/
def idle (rt : DeviceRuntime) : Bool :=
  rt.controlQueue.isEmpty && rt.recoverQueue.isEmpty && rt.configQueue.isEmpty &&
    rt.queryQueue.isEmpty && rt.sending.isNone

/-- The worker takes the next request (`workerLoop`). -/
def startSend (rt : DeviceRuntime) : Option Request × DeviceRuntime :=
  match rt.popNext with
  | some (r, rt') => (some r, { rt' with sending := some r })
  | none => (none, rt)

/-- Account for the result of a send (`workerLoop`). -/
def noteSendResult (rt : DeviceRuntime) (result : SendResult) : DeviceRuntime :=
  { rt with
    sending := none
    counters := match result with
      | .ok => { rt.counters with sent := rt.counters.sent + 1 }
      | .backpressure =>
          { rt.counters with sendBackpressure := rt.counters.sendBackpressure + 1 }
      | .linkDown => { rt.counters with sendLinkDown := rt.counters.sendLinkDown + 1 }
      | .error => { rt.counters with sendError := rt.counters.sendError + 1 } }

/-- `shutdown`, up to the join: no more submissions; the worker still sends what is
queued, and only then ends. -/
def requestStop (rt : DeviceRuntime) : DeviceRuntime := { rt with stopRequested := true }

end DeviceRuntime

end CanDriver
