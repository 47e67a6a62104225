import CanDriver.AxisIdentity.Discipline

/-!
# CanDriver.Feedback.Discipline

What a call may do to what is known of the motors.

Calls that issue something locally leave the feedback records alone, except that
they count reads that time out, and add nothing to the cached states.  A receive
handler changes the cached state of one node, to what its frame makes of it, and
publishes a state it has seen so.  `reporting` states both as one protocol, with
what the thread has seen so far as ghost state.
-/

namespace CanDriver

open Interact Prog

/-! ## records nobody answered for -/

/-- The record of an axis, a fresh one if there is none yet. -/
def SharedDriverState.record (s : SharedDriverState) (key : AxisKey) : AxisFeedbackState :=
  (s.getAxisFeedback key).getD { key }

/-- What may happen to a record although the motor is silent: a read that times out is
counted. -/
structure Unheard (old new : AxisFeedbackState) : Prop where
  same : new = { old with
    key := new.key
    consecutiveTimeoutCount := new.consecutiveTimeoutCount
    degraded := new.degraded }
  counted : new.consecutiveTimeoutCount = 0 → old.consecutiveTimeoutCount = 0

theorem Unheard.refl (r : AxisFeedbackState) : Unheard r r := ⟨rfl, id⟩

theorem Unheard.trans {r₁ r₂ r₃ : AxisFeedbackState} (h₁ : Unheard r₁ r₂) (h₂ : Unheard r₂ r₃) :
    Unheard r₁ r₃ := by
  refine ⟨?_, fun h => h₁.counted (h₂.counted h)⟩
  rw [h₂.same, h₁.same]

/-- A change to the shared state that tells nothing new of any motor. -/
def Untold (f : SharedDriverState → SharedDriverState) : Prop :=
  ∀ s key, Unheard (s.record key) ((f s).record key)

theorem untold_id : Untold id := fun _ _ => .refl _

theorem Untold.comp {f g : SharedDriverState → SharedDriverState} (hf : Untold f) (hg : Untold g) :
    Untold fun s => g (f s) :=
  fun s key => (hf s key).trans (hg (f s) key)

theorem untold_of_eq {f : SharedDriverState → SharedDriverState}
    (h : ∀ s key, (f s).getAxisFeedback key = s.getAxisFeedback key) : Untold f := by
  intro s key
  rw [SharedDriverState.record, SharedDriverState.record, h]
  exact .refl _

theorem untold_touchAxis (k : AxisKey) : Untold fun s => s.touchAxis k := by
  intro s key
  by_cases h : key = k
  · subst h
    rw [SharedDriverState.record, SharedDriverState.record,
      SharedDriverState.getAxisFeedback_touchAxis_self]
    exact ⟨rfl, id⟩
  · rw [SharedDriverState.record, SharedDriverState.record,
      SharedDriverState.getAxisFeedback_touchAxis_of_ne h]
    exact .refl _

theorem untold_registerAxis (k : AxisKey) : Untold fun s => s.registerAxis k := untold_touchAxis k

theorem untold_mutateAxisCommand (k : AxisKey) (fn : AxisCommandState → AxisCommandState) :
    Untold fun s => s.mutateAxisCommand k fn := untold_touchAxis k

theorem untold_setAxisIntent (k : AxisKey) (intent : AxisIntent) :
    Untold fun s => s.setAxisIntent k intent := untold_touchAxis k

theorem untold_mutateDeviceHealth (device : String) (fn : DeviceHealthState → DeviceHealthState) :
    Untold fun s => s.mutateDeviceHealth device fn := untold_of_eq fun _ _ => rfl

theorem untold_registerAll (keys : List AxisKey) :
    Untold fun s => keys.foldl (fun s k => s.registerAxis k) s := by
  induction keys with
  | nil => exact untold_id
  | cons k keys ih => exact (untold_registerAxis k).comp ih

theorem untold_registerIds (deviceName : String) (type : CanType) (ids : List MotorID) :
    Untold fun s => ids.foldl (fun s m => s.registerAxis (makeAxisKey deviceName type m)) s := by
  have h := untold_registerAll (ids.map fun m => makeAxisKey deviceName type m)
  simpa only [List.foldl_map] using h

/-- Counting a timeout tells nothing new. -/
theorem untold_timeout (k : AxisKey) {timeouts : Nat} (h : timeouts ≠ 0)
    (degraded : Bool) : Untold fun s => s.mutateAxisFeedback k fun feedback =>
      { feedback with consecutiveTimeoutCount := timeouts, degraded } := by
  intro s key
  by_cases hk : key = k
  · subst hk
    rw [SharedDriverState.record, SharedDriverState.record,
      SharedDriverState.getAxisFeedback_mutateAxisFeedback_self]
    exact ⟨rfl, fun h' => absurd h' h⟩
  · rw [SharedDriverState.record, SharedDriverState.record,
      SharedDriverState.getAxisFeedback_mutateAxisFeedback_of_ne hk]
    exact .refl _

/-! ## objects -/

/-- The object belongs to the device, and every id on its map has the node it is kept
under. -/
structure Routed {P : Type} [NodeMap P] (deviceName : String) (s : P) : Prop where
  device : NodeMap.deviceName s = deviceName
  ids : ∀ n id, NodeMap.ids s n = some id →
    protocolNode (NodeMap.type P, id) = (NodeMap.type P, n)

/-- A PP object as `DeviceManager` makes it. -/
structure EyouCan.Sound (deviceName : String) (s : EyouCan) : Prop extends Routed deviceName s where
  controller : s.canController = true
  dispatcher : s.txDispatcher = true

/-- A cached state from which nothing was learned: what it says now it said before. -/
structure EyouMotorState.Forgets (old new : EyouMotorState) : Prop where
  position : new.positionReceived = true → old.positionReceived = true ∧ new.position = old.position
  enabled : new.enabled = true → old.enabled = true
  enabledReceived : new.enabledReceived = true →
    old.enabledReceived = true ∧ new.enabled = old.enabled
  modeReceived : new.modeReceived = true → old.modeReceived = true
  faultReceived : new.faultReceived = true → old.faultReceived = true ∧ new.fault = old.fault

/-- Likewise for MT, whose enable state is what was last asked for. -/
structure MtMotorState.Forgets (old new : MtMotorState) : Prop where
  position : new.positionReceived = true →
    old.positionReceived = true ∧ new.multiTurnAngle = old.multiTurnAngle

/-- An update that is made without an answer from a motor. -/
def EyouCan.LocalUpdate (deviceName : String) (f : EyouCan → EyouCan) : Prop :=
  ∀ s, Sound deviceName s → Sound deviceName (f s) ∧
    ∀ n, (s.motorState n).Forgets ((f s).motorState n)

def MtCan.LocalUpdate (deviceName : String) (f : MtCan → MtCan) : Prop :=
  ∀ s, Routed deviceName s → Routed deviceName (f s) ∧
    ∀ n, (s.motorState n).Forgets ((f s).motorState n)

def DamiaoCan.LocalUpdate (deviceName : String) (f : DamiaoCan → DamiaoCan) : Prop :=
  ∀ s, Routed deviceName s → Routed deviceName (f s)

/-- The operations that tell nothing new of any motor. -/
def LocalOp (deviceName : String) : BusOp → Prop
  | .eyou f => EyouCan.LocalUpdate deviceName f
  | .mt f => MtCan.LocalUpdate deviceName f
  | .dm f => DamiaoCan.LocalUpdate deviceName f
  | .shared f => Untold f
  | _ => True

/-! ## reports -/

/-- What the PP protocol publishes of a motor at time `t`. -/
def EyouCan.published (st : EyouMotorState) (t : Time) (feedback : AxisFeedbackState) :
    AxisFeedbackState :=
  SharedDriverState.recomputeAxisObserved
    { feedback with
      position := st.position.toInt
      velocity := st.actualVelocity.toInt
      current := st.current.toInt
      mode := st.mode
      positionValid := st.positionReceived
      velocityValid := st.velocityReceived
      currentValid := st.currentReceived
      modeValid := st.modeReceived
      enabled := st.enabled
      fault := st.fault
      enabledValid := st.enabledReceived
      faultValid := st.faultReceived
      feedbackSeen := true
      lastRxSteadyNs := t
      lastValidStateSteadyNs := t
      consecutiveTimeoutCount := 0 }

/-- What the MT protocol publishes. -/
def MtCan.published (st : MtMotorState) (t : Time) (feedback : AxisFeedbackState) :
    AxisFeedbackState :=
  SharedDriverState.recomputeAxisObserved
    { feedback with
      position := st.multiTurnAngle
      velocity := st.velocity.toInt
      current := Double.roundAway (st.current * 100)
      mode := st.mode
      positionValid := st.positionReceived
      velocityValid := st.velocityReceived
      currentValid := st.currentReceived
      modeValid := st.modeReceived
      enabled := st.enabled
      fault := st.error
      enabledValid := st.enabledReceived
      faultValid := st.faultReceived
      feedbackSeen := true
      lastRxSteadyNs := t
      lastValidStateSteadyNs := t
      consecutiveTimeoutCount := 0
      degraded := false }

/-- What the DM protocol publishes. -/
def DamiaoCan.published (st : DmMotorState) (t : Time) (feedback : AxisFeedbackState) :
    AxisFeedbackState :=
  SharedDriverState.recomputeAxisObserved
    { feedback with
      position := st.position
      velocity := st.velocity
      current := st.current
      mode := st.mode
      positionValid := st.positionReceived
      velocityValid := st.velocityReceived
      currentValid := st.currentReceived
      modeValid := st.modeReceived
      enabled := st.enabled
      fault := st.fault
      enabledValid := st.enabledReceived
      faultValid := st.faultReceived
      feedbackSeen := st.feedbackSeen
      lastRxSteadyNs := t
      lastValidStateSteadyNs := t
      consecutiveTimeoutCount := 0 }

/-- What an MT motor's cached state becomes when it is switched on or off. -/
def MtMotorState.switched (enabled : Bool) (st : MtMotorState) : MtMotorState :=
  { st with enabled, enabledReceived := true }

/-- The id filter of `MtCan::handleResponse`: the node a frame comes from. -/
def MtCan.responseNode (frame : Frame) : Option UInt8 :=
  if frame.isExtended || !MtRmd.isResponseCanId (frame.id &&& 0x7FF) || frame.dlc = 0 then none
  else some (MtRmd.responseNodeId (frame.id &&& 0x7FF))

/-- The id filter of `DamiaoCan::handleResponse`. -/
def DamiaoCan.responseNode (frame : Frame) : Option UInt8 :=
  if frame.id = kDamiaoMasterId ∧ 8 ≤ frame.dlc then some (frame.byte 0 &&& 0x0F) else none

/-- The node a call may report about: that of the frame it received, or the MT motor it
switches on or off. -/
def BusCall.tells : BusCall → Option (CanType × UInt8)
  | .eyouReceive frame => (EyouCan.responseNode frame).map fun n => (.PP, n)
  | .mtReceive frame => (MtCan.responseNode frame).map fun n => (.MT, n)
  | .dmReceive frame => (DamiaoCan.responseNode frame).map fun n => (.DM, n)
  | .mt id .enable => some (protocolNode (.MT, id))
  | .mt id .disable => some (protocolNode (.MT, id))
  | _ => none

/-- What a thread has seen in the call it serves: states of the objects, and times. -/
structure Notes where
  eyou : List EyouCan := []
  mt : List MtCan := []
  dm : List DamiaoCan := []
  times : List Time := []

/-- What a call may make of the record of node `n`, from what its thread has seen. -/
def BusCall.Reports (c : BusCall) (g : Notes) (n : UInt8) (old new : AxisFeedbackState) : Prop :=
  ∃ t ∈ g.times, match c with
    | .eyouReceive frame => frame.byte 0 = EyouCan.kReadResponse ∧ ∃ s ∈ g.eyou,
        new = EyouCan.published (EyouCan.decodeRead frame (s.motorState n)) t old
    | .mtReceive frame => ∃ s ∈ g.mt,
        new = MtCan.published (MtCan.decodeResponse frame (s.motorState n)) t old
    | .dmReceive frame => ∃ s ∈ g.dm,
        new = DamiaoCan.published (DamiaoCan.decodeFeedback frame (s.motorState n)) t old
    | .mt _ .enable => ∃ s ∈ g.mt, new = MtCan.published ((s.motorState n).switched true) t old
    | .mt _ .disable => ∃ s ∈ g.mt, new = MtCan.published ((s.motorState n).switched false) t old
    | _ => False

/-- What a call makes of a record it has nothing to report about: a receive handler leaves
it as it is, and the others may count a read that timed out. -/
def BusCall.Keeps (c : BusCall) (old new : AxisFeedbackState) : Prop :=
  match c with
  | .eyouReceive _ | .mtReceive _ | .dmReceive _ => new = old
  | _ => Unheard old new

theorem BusCall.Keeps.refl (c : BusCall) (r : AxisFeedbackState) : c.Keeps r r := by
  unfold BusCall.Keeps
  split
  all_goals first | rfl | exact .refl r

theorem BusCall.Keeps.unheard {c : BusCall} {old new : AxisFeedbackState} (h : c.Keeps old new) :
    Unheard old new := by
  unfold BusCall.Keeps at h
  split at h
  all_goals first | exact h | exact h ▸ .refl _

/-- What a call may make of the record of an axis. -/
def BusCall.Publishes (deviceName : String) (c : BusCall) (g : Notes) (key : AxisKey)
    (old new : AxisFeedbackState) : Prop :=
  c.Keeps old new ∨ key.device = deviceName ∧
    c.tells = some (protocolNode (key.protocol, key.motorId)) ∧
      c.Reports g (protocolNode (key.protocol, key.motorId)).2 { old with key } new

/-- What a call may make of the cached state of PP node `n`. -/
def BusCall.UpdatesEyou (deviceName : String) (c : BusCall) (f : EyouCan → EyouCan) : Prop :=
  ∀ s, EyouCan.Sound deviceName s → EyouCan.Sound deviceName (f s) ∧ ∀ n, match c with
    | .eyouReceive frame => (f s).motorState n = s.motorState n ∨
        EyouCan.responseNode frame = some n ∧ frame.byte 0 = EyouCan.kReadResponse ∧
          (f s).motorState n = EyouCan.decodeRead frame (s.motorState n)
    | .mtReceive _ | .dmReceive _ => (f s).motorState n = s.motorState n
    | _ => (s.motorState n).Forgets ((f s).motorState n)

/-- What a call may make of the cached state of MT node `n`. -/
def BusCall.UpdatesMt (deviceName : String) (c : BusCall) (f : MtCan → MtCan) : Prop :=
  ∀ s, Routed deviceName s → Routed deviceName (f s) ∧ ∀ n, match c with
    | .mtReceive frame => (f s).motorState n = s.motorState n ∨
        MtCan.responseNode frame = some n ∧
          (f s).motorState n = MtCan.decodeResponse frame (s.motorState n)
    | .eyouReceive _ | .dmReceive _ => (f s).motorState n = s.motorState n
    | _ => (s.motorState n).Forgets ((f s).motorState n)

/-- What a call may make of the cached state of DM node `n`. -/
def BusCall.UpdatesDm (deviceName : String) (c : BusCall) (f : DamiaoCan → DamiaoCan) : Prop :=
  ∀ s, Routed deviceName s → Routed deviceName (f s) ∧ ∀ n, match c with
    | .dmReceive frame => (f s).motorState n = s.motorState n ∨
        DamiaoCan.responseNode frame = some n ∧
          (f s).motorState n = DamiaoCan.decodeFeedback frame (s.motorState n)
    | .eyouReceive _ | .mtReceive _ => (f s).motorState n = s.motorState n
    | _ => True

/-- The discipline of a call. -/
def reporting (deviceName : String) (c : BusCall) : Protocol busSig Notes where
  allow g
    | .eyou f => c.UpdatesEyou deviceName f
    | .mt f => c.UpdatesMt deviceName f
    | .dm f => c.UpdatesDm deviceName f
    | .shared f => ∀ s key, c.Publishes deviceName g key (s.record key) ((f s).record key)
    | _ => True
  accepts _
    | .eyou _, s => EyouCan.Sound deviceName s
    | .mt _, s => Routed deviceName s
    | .dm _, s => Routed deviceName s
    | _, _ => True
  next g
    | .eyou _, s => { g with eyou := s :: g.eyou }
    | .mt _, s => { g with mt := s :: g.mt }
    | .dm _, s => { g with dm := s :: g.dm }
    | .clock, t => { g with times := t :: g.times }
    | _, _ => g

end CanDriver
