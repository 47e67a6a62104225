import CanDriver.DamiaoCan
import CanDriver.EyouCan
import CanDriver.MotorMaintenanceService
import CanDriver.MtCan

/-!
# CanDriver.Maintenance.ModeCalls

What the calls that a mode switch makes of a protocol make of the modes.

`CanType.modesAfter` says it for every protocol at once; for the CAN protocols the member
functions are shown to do just that.  The ECB protocol talks to its actuators through a library
and is only given here.
-/

namespace CanDriver

open Interact

/-! ## what a call makes of the modes -/

/-- The mode a protocol keeps for an axis, and the `desiredMode` of the shared state. -/
structure Modes where
  cached : MotorMode
  desired : MotorMode
deriving DecidableEq, Repr

namespace CanType

/-- Whether a protocol has a call at all: DM takes velocities only, MT no CSP positions. -/
def supports : CanType → ModeCall → Bool
  | .MT, .quickSetPosition _ => false
  | .DM, .setMode mode => decide (mode = .velocity)
  | .DM, .setPosition _ => false
  | .DM, .quickSetPosition _ => false
  | _, _ => true

/-- What a call makes of the modes that gets as far as noting them.  An ECB reads the mode of
the actuator back after `setMode`, and takes a CSP position for any other position. -/
def modesAfter (protocol : CanType) (readBack : Option MotorMode) (m : Modes) : ModeCall → Modes
  | .setMode mode =>
      match protocol with
      | .MT => ⟨mode, mode⟩
      | .PP => ⟨mode, mode⟩
      | .DM => ⟨.velocity, .velocity⟩
      | .ECB => ⟨readBack.getD mode, mode⟩
  | .setVelocity _ =>
      match protocol with
      | .MT => { m with desired := .velocity }
      | .PP => { m with desired := .velocity }
      | .DM => ⟨.velocity, .velocity⟩
      | .ECB => ⟨.velocity, .velocity⟩
  | .setPosition _ =>
      match protocol with
      | .MT => { m with desired := .position }
      | .PP => { m with desired := .position }
      | .DM => m
      | .ECB => ⟨.position, .position⟩
  | .quickSetPosition _ =>
      match protocol with
      | .MT => m
      | .PP => { m with desired := .csp }
      | .DM => m
      | .ECB => ⟨.position, .position⟩

/-- What a rejected call makes of them: nothing, unless it is a command of a CAN protocol whose
frame did not get through. -/
def modesRejected (protocol : CanType) (took : Bool) (m : Modes) (call : ModeCall) : Modes :=
  match call with
  | .setMode _ => m
  | _ => if took && decide (protocol ≠ .ECB) && protocol.supports call then
      protocol.modesAfter none m call else m

end CanType

namespace CanType

/-- What an answered call has made of the modes. -/
def modesAnswered (protocol : CanType) (accepted took : Bool) (m : Modes) (call : ModeCall) : Modes :=
  if accepted then protocol.modesAfter none m call else protocol.modesRejected took m call

end CanType

/-- The `desiredMode` of an axis; a missing record has the first mode. -/
def SharedDriverState.desiredMode (s : SharedDriverState) (key : AxisKey) : MotorMode :=
  ((s.getAxisCommand key).getD { key }).desiredMode

namespace SharedDriverState

variable (s : SharedDriverState) (key : AxisKey)

theorem desiredMode_mutateAxisCommand {fn : AxisCommandState → AxisCommandState} {mode : MotorMode}
    (hfn : ∀ command, (fn command).desiredMode = mode) :
    (s.mutateAxisCommand key fn).desiredMode key = mode := by
  simp [desiredMode, getAxisCommand, mutateAxisCommand, hfn]

@[simp] theorem desiredMode_registerAxis : (s.registerAxis key).desiredMode key = s.desiredMode key := by
  simp [desiredMode, getAxisCommand, registerAxis, touchAxis]

@[simp] theorem desiredMode_setAxisIntent (intent : AxisIntent) :
    (s.setAxisIntent key intent).desiredMode key = s.desiredMode key := by
  simp [desiredMode, getAxisCommand, setAxisIntent, touchAxis]

end SharedDriverState

/-! ## MT -/

namespace MtCan

/-- The calls of a mode switch. -/
def modeCall (id : MotorID) : ModeCall → Proto MtCan Bool
  | .setMode mode => setMode id mode
  | .setPosition position => setPosition id position
  | .setVelocity velocity => setVelocity id velocity
  | .quickSetPosition position => quickSetPosition id position

/-- The modes of an axis. -/
def modes (id : MotorID) (p : Port MtCan) : Modes :=
  ⟨(p.proto.motorState (toMtProtocolNodeId id)).mode,
    p.shared.desiredMode (makeAxisKey p.proto.deviceName .MT id)⟩

theorem exec_publish {p : Port MtCan} (hp : p.proto.publishes = true) (motorId : UInt8)
    (f : AxisKey → SharedDriverState → SharedDriverState) :
    (publish motorId f).exec p =
      ((), { p with shared := f (p.proto.axisKey motorId) p.shared }) := by
  simp [publish, hp]

/-- A submission changes neither the object nor the shared state. -/
theorem exec_submitTx (p : Port MtCan) (frame : Frame) (category : Category) (source : TxSource) :
    ((submitTx frame category source).exec p).2.proto = p.proto ∧
      ((submitTx frame category source).exec p).2.shared = p.shared := by
  cases h : p.proto.txDispatcher with
  | false => simp [submitTx, h]
  | true => simp [submitTx, h]

/-- A submission leaves the modes. -/
theorem modes_submitTx (id : MotorID) (p : Port MtCan) (frame : Frame) (category : Category)
    (source : TxSource) : modes id ((submitTx frame category source).exec p).2 = modes id p := by
  rw [modes, modes, (exec_submitTx p frame category source).1,
    (exec_submitTx p frame category source).2]

/-- A command that is noted is the mode wanted. -/
theorem modes_syncSharedCommand {id : MotorID} {p : Port MtCan} (hp : p.proto.publishes = true)
    (hid : p.proto.resolveSystemMotorId (toMtProtocolNodeId id) = id) (position velocity : Int32)
    (mode : MotorMode) :
    modes id ((syncSharedCommand (toMtProtocolNodeId id) position velocity mode true).exec p).2 =
      { modes id p with desired := mode } := by
  simp [syncSharedCommand, exec_publish hp, modes, axisKey, hid,
    SharedDriverState.desiredMode_mutateAxisCommand]

theorem modes_syncSharedModeSelection {id : MotorID} {p : Port MtCan}
    (hp : p.proto.publishes = true)
    (hid : p.proto.resolveSystemMotorId (toMtProtocolNodeId id) = id) (mode : MotorMode) :
    modes id ((syncSharedModeSelection (toMtProtocolNodeId id) mode).exec p).2 =
      { modes id p with desired := mode } := by
  simp [syncSharedModeSelection, exec_publish hp, modes, axisKey, hid,
    SharedDriverState.desiredMode_mutateAxisCommand]

/-- **MT**: a call does to the modes what the table says. -/
theorem modeCall_modes (id : MotorID) (call : ModeCall) (p : Port MtCan)
    (hp : p.proto.publishes = true) :
    ∃ took, modes id ((modeCall id call).exec p).2 =
      CanType.MT.modesAnswered ((modeCall id call).exec p).1 took (modes id p) call := by
  have hid : ∀ f, ((p.proto.remember id).setMotorState (toMtProtocolNodeId id)
      f).resolveSystemMotorId (toMtProtocolNodeId id) = id := by
    intro f
    simp [setMotorState, remember, resolveSystemMotorId]
  have hmodes : ∀ f, modes id { p with
      proto := (p.proto.remember id).setMotorState (toMtProtocolNodeId id) f } =
        { modes id p with cached := (f (p.proto.motorState (toMtProtocolNodeId id))).mode } := by
    intro f
    simp [modes, setMotorState, remember, motorState]
  cases call with
  | setMode mode =>
      refine ⟨true, ?_⟩
      rw [modeCall, setMode]
      simp only [rememberSystemMotorId, Proto.exec_bind, Proto.exec_modify, Proto.exec_pure]
      rw [modes_syncSharedModeSelection, hmodes]
      · rfl
      · exact hp
      · rw [hid]
  | setPosition position =>
      refine ⟨p.proto.canController, ?_⟩
      rw [modeCall, setPosition, withController]
      cases hc : p.proto.canController with
      | false => simp [hc, CanType.modesAnswered, CanType.modesRejected]
      | true =>
          simp only [rememberSystemMotorId, Proto.exec_bind, Proto.exec_modify, Proto.exec_gets,
            Proto.exec_access, id_eq, hc, ↓reduceIte]
          rw [modes_submitTx, modes_syncSharedCommand, hmodes]
          · simp [CanType.modesAnswered, CanType.modesRejected, CanType.modesAfter, CanType.supports,
              modes]
          · exact hp
          · rw [hid]
  | setVelocity velocity =>
      refine ⟨p.proto.canController, ?_⟩
      rw [modeCall, setVelocity, withController]
      cases hc : p.proto.canController with
      | false => simp [hc, CanType.modesAnswered, CanType.modesRejected]
      | true =>
          simp only [rememberSystemMotorId, Proto.exec_bind, Proto.exec_modify, Proto.exec_gets,
            Proto.exec_pure, id_eq, hc, ↓reduceIte]
          rw [modes_submitTx, modes_syncSharedCommand, hmodes]
          · rfl
          · exact hp
          · rw [hid]
  | quickSetPosition position => exact ⟨false, rfl⟩

end MtCan

/-! ## PP -/

namespace EyouCan

/-- The calls of a mode switch. -/
def modeCall (id : MotorID) : ModeCall → Proto EyouCan Bool
  | .setMode mode => setMode id mode
  | .setPosition position => setPosition id position
  | .setVelocity velocity => setVelocity id velocity
  | .quickSetPosition position => quickSetPosition id position

/-- The modes of an axis. -/
def modes (id : MotorID) (p : Port EyouCan) : Modes :=
  ⟨(p.proto.motorState (toProtocolNodeId id)).mode,
    p.shared.desiredMode (makeAxisKey p.proto.deviceName .PP id)⟩

theorem exec_publish {p : Port EyouCan} (hp : p.proto.publishes = true) (motorId : UInt8)
    (f : AxisKey → SharedDriverState → SharedDriverState) :
    (publish motorId f).exec p =
      ((), { p with shared := f (p.proto.axisKey motorId) p.shared }) := by
  simp [publish, hp]

theorem exec_registerManagedMotorId {p : Port EyouCan} (hp : p.proto.publishes = true)
    (id : MotorID) :
    (registerManagedMotorId id).exec p =
      ((), { p with
             proto := p.proto.remember id
             shared := p.shared.registerAxis (makeAxisKey p.proto.deviceName .PP id) }) := by
  have hp : (p.proto.remember id).publishes = true := hp
  simp only [registerManagedMotorId, Proto.exec_bind, Proto.exec_modify, Proto.exec_gets, id_eq, hp,
    ↓reduceIte, Proto.exec_modifyShared]
  rfl

/-- The state of a motor is changed in something other than its mode. -/
theorem modes_setMotorState (id : MotorID) (p : Port EyouCan) (motorId : UInt8)
    {f : EyouMotorState → EyouMotorState}
    (hf : (f (p.proto.motorState motorId)).mode = (p.proto.motorState motorId).mode) :
    modes id { p with proto := p.proto.setMotorState motorId f } = modes id p := by
  by_cases hid : toProtocolNodeId id = motorId
  · subst hid
    simp only [modes, setMotorState, motorState, put_self, Option.getD_some] at hf ⊢
    rw [hf]
  · simp only [modes, setMotorState, motorState, put_of_ne _ _ hid]

theorem modes_sendWriteCommand (id : MotorID) (p : Port EyouCan) (motorId subCommand : UInt8)
    (value : UInt32) (payloadBytes : Nat) (commandType : UInt8) :
    modes id ((sendWriteCommand motorId subCommand value payloadBytes commandType).exec p).2 =
      modes id p := by
  cases hc : p.proto.canController with
  | false => simp [sendWriteCommand, hc]
  | true =>
      cases ht : p.proto.txDispatcher with
      | false => simp [sendWriteCommand, submitTx, hc, ht]
      | true =>
          simp only [sendWriteCommand, submitTx, Proto.exec_bind, Proto.exec_gets, id_eq, hc, ht,
            ↓reduceIte, Proto.exec_submit, Proto.exec_pure, Proto.exec_modify]
          split
          · rfl
          · split
            · rfl
            · rfl

theorem modes_sendMaybeFast (id : MotorID) (p : Port EyouCan) (motorId subCommand : UInt8)
    (value : UInt32) : modes id ((sendMaybeFast motorId subCommand value).exec p).2 = modes id p := by
  rw [sendMaybeFast, Proto.exec_bind, Proto.exec_gets]
  split
  · rw [Proto.exec_bind, modes_sendWriteCommand, modes_sendWriteCommand]
  · rw [modes_sendWriteCommand]

/-- The velocity of a move is noted without touching the mode. -/
theorem modes_ensurePositionVelocityConfigured (id : MotorID) (p : Port EyouCan) (motorId : UInt8)
    (velocityRaw : Int32) (forceWrite : Bool) :
    modes id ((ensurePositionVelocityConfigured motorId velocityRaw forceWrite).exec p).2 =
      modes id p := by
  rw [ensurePositionVelocityConfigured]
  split
  · rfl
  · rw [Proto.exec_bind, Proto.exec_access]
    have hnoted : modes id
        { p with proto := (notePositionVelocity motorId velocityRaw forceWrite p.proto).2 } =
          modes id p := by
      rw [notePositionVelocity]
      split
      · dsimp only
        rw [modes_setMotorState]
        rfl
      · dsimp only
        rw [modes_setMotorState]
        rfl
    split
    · rw [Proto.exec_bind, Proto.exec_pure, modes_sendMaybeFast, hnoted]
    · exact hnoted

theorem modes_syncSharedCommand {id : MotorID} {p : Port EyouCan} (hp : p.proto.publishes = true)
    (hid : p.proto.resolveSystemMotorId (toProtocolNodeId id) = id) (position velocity : Int32)
    (mode : MotorMode) :
    modes id ((syncSharedCommand (toProtocolNodeId id) position velocity mode true).exec p).2 =
      { modes id p with desired := mode } := by
  simp [syncSharedCommand, exec_publish hp, modes, axisKey, hid,
    SharedDriverState.desiredMode_mutateAxisCommand]

theorem modes_syncSharedModeSelection {id : MotorID} {p : Port EyouCan}
    (hp : p.proto.publishes = true)
    (hid : p.proto.resolveSystemMotorId (toProtocolNodeId id) = id) (mode : MotorMode) :
    modes id ((syncSharedModeSelection (toProtocolNodeId id) mode).exec p).2 =
      { modes id p with desired := mode } := by
  simp [syncSharedModeSelection, exec_publish hp, modes, axisKey, hid,
    SharedDriverState.desiredMode_mutateAxisCommand]

/-- A move whose velocity is noted, and sent if it can be, leaves the modes. -/
theorem modes_sendConfigured (id : MotorID) (p : Port EyouCan) (motorId : UInt8)
    (velocityRaw : Int32) (forceWrite : Bool) {send : Proto EyouCan Unit}
    (hsend : ∀ p, modes id (send.exec p).2 = modes id p) :
    modes id ((ensurePositionVelocityConfigured motorId velocityRaw forceWrite >>= fun configured =>
      if configured then send >>= fun _ => pure true else pure false).exec p).2 = modes id p := by
  have hnoted := modes_ensurePositionVelocityConfigured id p motorId velocityRaw forceWrite
  rw [Proto.exec_bind]
  split
  · rw [Proto.exec_bind, Proto.exec_pure, hsend, hnoted]
  · exact hnoted

/-- **PP**: a call does to the modes what the table says. -/
theorem modeCall_modes (id : MotorID) (call : ModeCall) (p : Port EyouCan)
    (hp : p.proto.publishes = true) :
    ∃ took, modes id ((modeCall id call).exec p).2 =
      CanType.PP.modesAnswered ((modeCall id call).exec p).1 took (modes id p) call := by
  have hid : ∀ f, ((p.proto.remember id).setMotorState (toProtocolNodeId id)
      f).resolveSystemMotorId (toProtocolNodeId id) = id := by
    intro f
    simp [setMotorState, remember, resolveSystemMotorId]
  have hmodes : ∀ f, modes id { p with
      proto := (p.proto.remember id).setMotorState (toProtocolNodeId id) f
      shared := p.shared.registerAxis (makeAxisKey p.proto.deviceName .PP id) } =
        { modes id p with cached := (f (p.proto.motorState (toProtocolNodeId id))).mode } := by
    intro f
    simp [modes, setMotorState, remember, motorState]
  refine ⟨p.proto.canController, ?_⟩
  cases call with
  | setMode mode =>
      rw [modeCall, setMode, withController]
      cases hc : p.proto.canController with
      | false => simp [hc, CanType.modesAnswered, CanType.modesRejected]
      | true =>
          simp only [Proto.exec_bind, exec_registerManagedMotorId hp, Proto.exec_modify,
            Proto.exec_gets, Proto.exec_pure, id_eq, hc, ↓reduceIte]
          rw [modes_sendWriteCommand, modes_syncSharedModeSelection, hmodes]
          · rfl
          · exact hp
          · rw [hid]
  | setPosition position =>
      rw [modeCall, setPosition, withController]
      cases hc : p.proto.canController with
      | false => simp [hc, CanType.modesAnswered, CanType.modesRejected]
      | true =>
          have hanswered : ∀ accepted, CanType.PP.modesAnswered accepted true (modes id p)
              (.setPosition position) = { modes id p with desired := .position } := by
            intro accepted
            cases accepted with
            | false => rfl
            | true => rfl
          rw [hanswered, Proto.exec_bind, Proto.exec_gets, id_eq, hc, if_pos rfl]
          dsimp only
          rw [Proto.exec_bind, exec_registerManagedMotorId hp]
          dsimp only
          rw [Proto.exec_bind, Proto.exec_modify]
          dsimp only
          rw [Proto.exec_bind, Proto.exec_bind, Proto.exec_gets, modes_sendConfigured,
            modes_syncSharedCommand, hmodes]
          · rfl
          · exact hp
          · rw [hid]
          · exact fun p => modes_sendMaybeFast id p _ _ _
  | setVelocity velocity =>
      rw [modeCall, setVelocity, withController]
      cases hc : p.proto.canController with
      | false => simp [hc, CanType.modesAnswered, CanType.modesRejected]
      | true =>
          simp only [Proto.exec_bind, exec_registerManagedMotorId hp, Proto.exec_modify,
            Proto.exec_gets, Proto.exec_pure, id_eq, hc, ↓reduceIte]
          rw [modes_sendMaybeFast, modes_syncSharedCommand, hmodes]
          · rfl
          · exact hp
          · rw [hid]
  | quickSetPosition position =>
      rw [modeCall, quickSetPosition, withController]
      cases hc : p.proto.canController with
      | false => simp [hc, CanType.modesAnswered, CanType.modesRejected]
      | true =>
          have hanswered : ∀ accepted, CanType.PP.modesAnswered accepted true (modes id p)
              (.quickSetPosition position) = { modes id p with desired := .csp } := by
            intro accepted
            cases accepted with
            | false => rfl
            | true => rfl
          rw [hanswered, Proto.exec_bind, Proto.exec_gets, id_eq, hc, if_pos rfl]
          dsimp only
          rw [Proto.exec_bind, exec_registerManagedMotorId hp]
          dsimp only
          rw [Proto.exec_bind, Proto.exec_modify]
          dsimp only
          rw [Proto.exec_bind, Proto.exec_bind, Proto.exec_gets, modes_sendConfigured,
            modes_syncSharedCommand, hmodes]
          · rfl
          · exact hp
          · rw [hid]
          · exact fun p => modes_sendWriteCommand id p _ _ _ _ _

end EyouCan

/-! ## DM -/

namespace DamiaoCan

/-- The calls of a mode switch. -/
def modeCall (id : MotorID) : ModeCall → Proto DamiaoCan Bool
  | .setMode mode => setMode id mode
  | .setPosition position => setPosition id position
  | .setVelocity velocity => setVelocity id velocity
  | .quickSetPosition position => quickSetPosition id position

/-- The modes of an axis while a call of it runs: other threads may do anything in between that
leaves the modes alone. -/
def modesProtocol (device : String) (axisId : MotorID) : Protocol (portSig DamiaoCan) Modes where
  allow _ _ := True
  accepts
    | m, .proto _, s => s.deviceName = device ∧ s.publishes = true ∧
        s.resolveSystemMotorId (toProtocolNodeId axisId) = axisId ∧
        (s.motorState (toProtocolNodeId axisId)).mode = m.cached
    | m, .shared _, s => s.desiredMode (makeAxisKey device .DM axisId) = m.desired
    | _, .submit _, _ => True
    | _, .clock, _ => True
  next
    | m, .proto f, s => { m with cached := ((f s).motorState (toProtocolNodeId axisId)).mode }
    | m, .shared f, s => { m with desired := (f s).desiredMode (makeAxisKey device .DM axisId) }
    | m, .submit _, _ => m
    | m, .clock, _ => m

variable {device : String} {axisId : MotorID} {m : Modes}

open Prog

theorem wp_publish {f : AxisKey → SharedDriverState → SharedDriverState} (mode : MotorMode)
    (hf : ∀ s, s.desiredMode (makeAxisKey device .DM axisId) = m.desired →
      (f (makeAxisKey device .DM axisId) s).desiredMode (makeAxisKey device .DM axisId) = mode) :
    (publish (toProtocolNodeId axisId) f).wp (modesProtocol device axisId)
      (fun _ m' => m' = { m with desired := mode }) m := by
  rw [publish, wp_bind]
  refine ⟨trivial, fun s ⟨hdevice, hpublishes, hresolves, hcached⟩ => ?_⟩
  rw [wp_ret, id_eq, hpublishes, if_pos rfl, axisKey, hdevice, hresolves]
  refine ⟨trivial, fun shared hshared => ?_⟩
  dsimp only [modesProtocol]
  rw [wp_ret, hf shared hshared, id_eq, hcached]

theorem wp_registerManagedMotorId :
    (registerManagedMotorId axisId).wp (modesProtocol device axisId) (fun _ m' => m' = m) m := by
  rw [registerManagedMotorId, wp_bind]
  refine ⟨trivial, fun s ⟨hdevice, hpublishes, hresolves, hcached⟩ => ?_⟩
  rw [wp_ret, wp_bind]
  refine ⟨trivial, fun s' ⟨hdevice', hpublishes', hresolves', hcached'⟩ => ?_⟩
  have hkept : ((s.remember axisId).motorState (toProtocolNodeId axisId)).mode = m.cached := hcached
  rw [wp_ret, id_eq, hpublishes', if_pos rfl]
  refine ⟨trivial, fun shared hshared => ?_⟩
  dsimp only [modesProtocol] at hcached' hshared ⊢
  rw [wp_ret, id_eq, hdevice', SharedDriverState.desiredMode_registerAxis, hshared, hcached', hkept]

theorem wp_submitTx (frame : Frame) (category : Category) (source : TxSource) :
    (submitTx frame category source).wp (modesProtocol device axisId) (fun _ m' => m' = m) m := by
  rw [submitTx, wp_bind]
  refine ⟨trivial, fun s ⟨_, _, _, hcached⟩ => ?_⟩
  have hm : (modesProtocol device axisId).next m (.proto id) s = m := by
    dsimp only [modesProtocol]
    rw [id_eq, hcached]
  rw [wp_ret, hm, wp_ite]
  split
  · exact ⟨trivial, fun _ _ => rfl⟩
  · rfl

/-- The pending acknowledgements are not the modes. -/
theorem wp_writeRegisterAndWaitForAck (motorId registerId : UInt8) (value : UInt32) :
    (writeRegisterAndWaitForAck motorId registerId value).wp (modesProtocol device axisId)
      (fun _ m' => m' = m) m := by
  have hkept : ∀ (f : DamiaoCan → DamiaoCan) (s : DamiaoCan),
      (modesProtocol device axisId).accepts m (.proto f) s → (f s).motorStates = s.motorStates →
        (modesProtocol device axisId).next m (.proto f) s = m := by
    intro f s ⟨_, _, _, hcached⟩ hstates
    dsimp only [modesProtocol]
    rw [motorState, hstates, ← motorState, hcached]
  rw [writeRegisterAndWaitForAck, wp_bind]
  refine ⟨trivial, fun s hs => ?_⟩
  rw [wp_ret, hkept _ _ hs rfl, wp_ite]
  split
  · rw [wp_bind]
    refine ⟨trivial, fun s hs => ?_⟩
    rw [wp_ret, hkept _ _ hs rfl, wp_bind]
    refine wp_mono (wp_submitTx _ _ _) fun accepted m' hm' => ?_
    subst hm'
    rw [wp_ite]
    split
    · refine ⟨trivial, fun s hs => ?_⟩
      exact hkept _ _ hs rfl
    · rfl
  · rfl

/-- Velocity mode is the only one there is: it is wanted once it is configured anew. -/
theorem wp_ensureVelocityModeConfigured (hcached : m.cached = .velocity) :
    (ensureVelocityModeConfigured (toProtocolNodeId axisId)).wp (modesProtocol device axisId)
      (fun configured m' => m'.cached = .velocity ∧ (configured = false → m' = m)) m := by
  rw [ensureVelocityModeConfigured, wp_bind]
  refine ⟨trivial, fun s ⟨_, _, _, hmode⟩ => ?_⟩
  have hm : (modesProtocol device axisId).next m (.proto id) s = m := by
    dsimp only [modesProtocol]
    rw [id_eq, hmode]
  rw [wp_ret, hm, wp_ite]
  split
  · exact ⟨hcached, fun h => absurd h (by simp)⟩
  · rw [wp_bind]
    refine wp_mono (wp_writeRegisterAndWaitForAck _ _ _) fun acked m' hm' => ?_
    subst hm'
    rw [wp_ite]
    split
    · rw [wp_bind]
      refine ⟨trivial, fun s _ => ?_⟩
      rw [wp_ret, wp_bind]
      refine wp_mono (wp_publish .velocity fun shared _ =>
        SharedDriverState.desiredMode_mutateAxisCommand _ _ fun _ => rfl) fun _ m' hm' => ?_
      subst hm'
      refine ⟨?_, fun h => absurd h (by simp)⟩
      dsimp only [modesProtocol]
      simp [setMotorState, motorState]
    · exact ⟨hcached, fun _ => rfl⟩

theorem wp_syncSharedCommand {velocity : Int32} :
    (syncSharedCommand (toProtocolNodeId axisId) velocity true).wp (modesProtocol device axisId)
      (fun _ m' => m' = { m with desired := .velocity }) m := by
  rw [syncSharedCommand, wp_bind]
  refine ⟨trivial, fun nowNs _ => ?_⟩
  rw [wp_ret]
  exact wp_publish _ fun shared _ =>
    SharedDriverState.desiredMode_mutateAxisCommand _ _ fun _ => rfl

theorem wp_syncSharedIntent {intent : AxisIntent} :
    (syncSharedIntent (toProtocolNodeId axisId) intent).wp (modesProtocol device axisId)
      (fun _ m' => m' = m) m :=
  wp_mono (wp_publish m.desired fun _ hshared =>
    (SharedDriverState.desiredMode_setAxisIntent _ _ _).trans hshared) fun _ _ hm' => hm'

/-- **DM**: a call does to the modes what the table says. -/
theorem modeCall_modes (call : ModeCall) (hcached : m.cached = .velocity) :
    (modeCall axisId call).wp (modesProtocol device axisId)
      (fun accepted m' => ∃ took, m' = CanType.DM.modesAnswered accepted took m call) m := by
  cases call with
  | setMode mode =>
      rw [modeCall, setMode, wp_ite]
      split
      · next hvelocity =>
        subst hvelocity
        rw [wp_bind]
        refine wp_mono wp_registerManagedMotorId fun _ m' hm' => ?_
        subst hm'
        rw [wp_bind]
        refine wp_mono (wp_ensureVelocityModeConfigured hcached) fun configured m₁ h => ?_
        obtain ⟨hvelocity, hkept⟩ := h
        rw [wp_ite]
        split
        · rw [wp_bind]
          refine wp_mono (wp_publish .velocity fun shared _ =>
            SharedDriverState.desiredMode_mutateAxisCommand _ _ fun _ => rfl) fun _ m' hm' => ?_
          subst hm'
          refine ⟨true, ?_⟩
          rw [hvelocity]
          rfl
        · next hnot =>
          refine ⟨false, ?_⟩
          rw [hkept (Bool.eq_false_iff.2 hnot)]
          rfl
      · exact ⟨false, rfl⟩
  | setPosition position => exact ⟨false, rfl⟩
  | quickSetPosition position => exact ⟨false, rfl⟩
  | setVelocity velocity =>
      rw [modeCall, setVelocity, wp_bind]
      refine wp_mono wp_registerManagedMotorId fun _ m' hm' => ?_
      subst hm'
      rw [wp_bind]
      refine wp_mono (wp_ensureVelocityModeConfigured hcached) fun configured m₁ h => ?_
      obtain ⟨hvelocity, hkept⟩ := h
      rw [wp_ite]
      split
      · rw [wp_bind]
        refine ⟨trivial, fun s _ => ?_⟩
        rw [wp_ret, wp_bind]
        refine wp_mono wp_syncSharedCommand fun _ m₂ hm₂ => ?_
        rw [wp_bind]
        refine wp_mono wp_syncSharedIntent fun _ m₃ hm₃ => ?_
        refine wp_mono (wp_submitTx _ _ _) fun accepted m₄ hm₄ => ?_
        have hmodes : m₄ = ⟨.velocity, .velocity⟩ := by
          rw [hm₄, hm₃, hm₂]
          dsimp only [modesProtocol]
          simp [setMotorState, motorState]
        rw [hmodes]
        refine ⟨true, ?_⟩
        cases accepted with
        | false => rfl
        | true => rfl
      · next hnot =>
        refine ⟨false, ?_⟩
        rw [hkept (Bool.eq_false_iff.2 hnot)]
        rfl

end DamiaoCan

end CanDriver
