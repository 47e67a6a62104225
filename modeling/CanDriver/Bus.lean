import CanDriver.DamiaoCan
import CanDriver.EyouCan
import CanDriver.MtCan

/-!
# CanDriver.Bus

One CAN device: the protocol objects that share it, the records they publish
into, their transmit dispatcher with its worker, and the refresh schedule.

Everything that happens on a device is a program over `BusOp`, one critical
section at a time.  What the transport answers and how much time passes is left
open; `busProtocol` says what may be answered and where it leads, and serves both
programs that run alone (`Prog.Runs`) and the threads of `CanDriver.BusCall`.
-/

namespace CanDriver

open Interact

/-- What `DeviceManager` keeps about a device: whether it has a transport, and the
protocols it has objects for. -/
structure DeviceSlot where
  transport : Bool := false
  protocols : List CanType := []
deriving DecidableEq, Repr

/-- A device, with its protocol objects, the shared state and the dispatcher. -/
structure Bus where
  slot : DeviceSlot
  eyou : EyouCan
  mt : MtCan
  dm : DamiaoCan
  shared : SharedDriverState
  runtime : DeviceRuntime
  refresh : DeviceRefreshRuntime
  time : Time

/-- The atomic steps on a device. -/
inductive BusOp where
  | slot (f : DeviceSlot → DeviceSlot)
  | openTransport
  | restart
  | eyou (f : EyouCan → EyouCan)
  | mt (f : MtCan → MtCan)
  | dm (f : DamiaoCan → DamiaoCan)
  | shared (f : SharedDriverState → SharedDriverState)
  | refresh (f : DeviceRefreshRuntime → DeviceRefreshRuntime)
  | clock
  | enqueue (r : Request)
  | stop
  | pop
  | transmit (frame : Frame)
  | account (result : SendResult)

/-- A critical section answers the state it found, `openTransport` whether the
transport came up, `enqueue` whether the request was accepted, `pop` what the
worker has to send. -/
@[reducible] def BusOp.Ans : BusOp → Type
  | .slot _ => DeviceSlot
  | .openTransport => Bool
  | .restart => Unit
  | .eyou _ => EyouCan
  | .mt _ => MtCan
  | .dm _ => DamiaoCan
  | .shared _ => SharedDriverState
  | .refresh _ => DeviceRefreshRuntime
  | .clock => Time
  | .enqueue _ => Bool
  | .stop => Unit
  | .pop => Option Request
  | .transmit _ => SendResult
  | .account _ => Unit

/-- The interface of a device. -/
abbrev busSig : Sig := ⟨BusOp, BusOp.Ans⟩

/-- A program on a device. -/
abbrev BusProg (α : Type) := Prog busSig α

namespace Device

def slot (f : DeviceSlot → DeviceSlot) : BusProg DeviceSlot :=
  Prog.vis (S := busSig) (.slot f) .ret
def eyou (f : EyouCan → EyouCan) : BusProg EyouCan := Prog.vis (S := busSig) (.eyou f) .ret
def mt (f : MtCan → MtCan) : BusProg MtCan := Prog.vis (S := busSig) (.mt f) .ret
def dm (f : DamiaoCan → DamiaoCan) : BusProg DamiaoCan := Prog.vis (S := busSig) (.dm f) .ret
def shared (f : SharedDriverState → SharedDriverState) : BusProg SharedDriverState :=
  Prog.vis (S := busSig) (.shared f) .ret
def refresh (f : DeviceRefreshRuntime → DeviceRefreshRuntime) : BusProg DeviceRefreshRuntime :=
  Prog.vis (S := busSig) (.refresh f) .ret
def enqueue (r : Request) : BusProg Bool := Prog.vis (S := busSig) (.enqueue r) .ret
def transmit (frame : Frame) : BusProg SendResult := Prog.vis (S := busSig) (.transmit frame) .ret
def account (result : SendResult) : BusProg Unit := Prog.vis (S := busSig) (.account result) .ret
def clock : BusProg Time := Prog.vis (S := busSig) .clock .ret
def openTransport : BusProg Bool := Prog.vis (S := busSig) .openTransport .ret
def restart : BusProg Unit := Prog.vis (S := busSig) .restart .ret
def stop : BusProg Unit := Prog.vis (S := busSig) .stop .ret
def pop : BusProg (Option Request) := Prog.vis (S := busSig) .pop .ret

end Device

/-! ## serving the operations -/

/-- What a device may answer.  There is one worker, so nothing is taken from the
queues while a request is being sent; a new dispatcher has to wait for the worker
of the old one, which ends when everything is sent. -/
def Bus.admits (b : Bus) : (op : BusOp) → op.Ans → Prop
  | .slot _, r => r = b.slot
  | .openTransport, _ => True
  | .restart, _ => b.runtime.idle = true
  | .eyou _, r => r = b.eyou
  | .mt _, r => r = b.mt
  | .dm _, r => r = b.dm
  | .shared _, r => r = b.shared
  | .refresh _, r => r = b.refresh
  | .clock, r => b.time ≤ r
  | .enqueue q, r => r = (b.runtime.enqueue q).1
  | .stop, _ => True
  | .pop, r => b.runtime.sending = none ∧ r = b.runtime.startSend.1
  | .transmit _, _ => True
  | .account _, _ => True

/-- The device after an operation. -/
def Bus.after (b : Bus) : (op : BusOp) → op.Ans → Bus
  | .slot f, _ => { b with slot := f b.slot }
  | .openTransport, _ => b
  | .restart, _ => { b with runtime := { options := b.runtime.options } }
  | .eyou f, _ => { b with eyou := f b.eyou }
  | .mt f, _ => { b with mt := f b.mt }
  | .dm f, _ => { b with dm := f b.dm }
  | .shared f, _ => { b with shared := f b.shared }
  | .refresh f, _ => { b with refresh := f b.refresh }
  | .clock, t => { b with time := t }
  | .enqueue q, _ => { b with runtime := (b.runtime.enqueue q).2 }
  | .stop, _ => { b with runtime := b.runtime.requestStop }
  | .pop, _ => { b with runtime := b.runtime.startSend.2 }
  | .transmit _, _ => b
  | .account result, _ => { b with runtime := b.runtime.noteSendResult result }

/-- A device when the node starts: no transport, no protocol objects. -/
def Bus.powerOn (deviceName : String) (shared : SharedDriverState) (options : RuntimeOptions)
    (time : Time) : Bus :=
  { slot := {}, eyou := { deviceName }, mt := { deviceName }, dm := { deviceName }, shared,
    runtime := { options }, refresh := {}, time }

/-- A device somebody works on alone. -/
abbrev busProtocol : Protocol busSig Bus where
  allow _ _ := True
  accepts := Bus.admits
  next := Bus.after

/-! ### the rule of each operation -/

namespace Device

variable {b : Bus}

@[simp] theorem wp_slot {f : DeviceSlot → DeviceSlot} {Q : DeviceSlot → Bus → Prop} :
    (Device.slot f).wp busProtocol Q b ↔ Q b.slot { b with slot := f b.slot } := by
  simp [slot, Bus.admits, Bus.after]

@[simp] theorem wp_shared {f : SharedDriverState → SharedDriverState}
    {Q : SharedDriverState → Bus → Prop} :
    (Device.shared f).wp busProtocol Q b ↔ Q b.shared { b with shared := f b.shared } := by
  simp [shared, Bus.admits, Bus.after]

@[simp] theorem wp_refresh {f : DeviceRefreshRuntime → DeviceRefreshRuntime}
    {Q : DeviceRefreshRuntime → Bus → Prop} :
    (Device.refresh f).wp busProtocol Q b ↔
      Q b.refresh { b with refresh := f b.refresh } := by
  simp [refresh, Bus.admits, Bus.after]

@[simp] theorem wp_clock {Q : Time → Bus → Prop} :
    Device.clock.wp busProtocol Q b ↔ ∀ t, b.time ≤ t → Q t { b with time := t } := by
  simp [clock, Bus.admits, Bus.after]

@[simp] theorem wp_enqueue {r : Request} {Q : Bool → Bus → Prop} :
    (Device.enqueue r).wp busProtocol Q b ↔
      Q (b.runtime.enqueue r).1 { b with runtime := (b.runtime.enqueue r).2 } := by
  simp [enqueue, Bus.admits, Bus.after]

@[simp] theorem wp_mt {f : MtCan → MtCan} {Q : MtCan → Bus → Prop} :
    (Device.mt f).wp busProtocol Q b ↔ Q b.mt { b with mt := f b.mt } := by
  simp [mt, Bus.admits, Bus.after]

@[simp] theorem wp_eyou {f : EyouCan → EyouCan} {Q : EyouCan → Bus → Prop} :
    (Device.eyou f).wp busProtocol Q b ↔ Q b.eyou { b with eyou := f b.eyou } := by
  simp [eyou, Bus.admits, Bus.after]

@[simp] theorem wp_dm {f : DamiaoCan → DamiaoCan} {Q : DamiaoCan → Bus → Prop} :
    (Device.dm f).wp busProtocol Q b ↔ Q b.dm { b with dm := f b.dm } := by
  simp [dm, Bus.admits, Bus.after]

end Device

/-- The answer of a device whose transport takes every frame and whose clock
stands still. -/
def Bus.answer (b : Bus) : (op : BusOp) → Option op.Ans
  | .slot _ => some b.slot
  | .openTransport => some true
  | .restart => if b.runtime.idle then some () else none
  | .eyou _ => some b.eyou
  | .mt _ => some b.mt
  | .dm _ => some b.dm
  | .shared _ => some b.shared
  | .refresh _ => some b.refresh
  | .clock => some b.time
  | .enqueue q => some (b.runtime.enqueue q).1
  | .stop => some ()
  | .pop => if b.runtime.sending = none then some b.runtime.startSend.1 else none
  | .transmit _ => some .ok
  | .account _ => some ()

theorem admits_of_answer {b : Bus} {op : BusOp} {r : op.Ans} (h : b.answer op = some r) :
    b.admits op r := by
  cases op with
  | pop =>
      by_cases hs : b.runtime.sending = none
      · simp only [Bus.answer, if_pos hs, Option.some.injEq] at h
        exact ⟨hs, h.symm⟩
      · simp [Bus.answer, hs] at h
  | clock =>
      simp only [Bus.answer, Option.some.injEq] at h
      exact le_of_eq h
  | restart =>
      by_cases hi : b.runtime.idle = true
      · exact hi
      · simp [Bus.answer, hi] at h
  | openTransport | stop | transmit | account => trivial
  | _ =>
      simp only [Bus.answer, Option.some.injEq] at h
      exact h.symm

/-! ## the dispatcher -/

/-- Run the completion of a request. -/
def Completion.run (c : Completion) (attemptedSend : Bool) (result : SendResult)
    (eventTime : Time) : BusProg Unit :=
  match c with
  | .eyouRead motorId subCommand => do
      let _ ← Device.eyou
        (EyouCan.onReadDispatchResult motorId subCommand attemptedSend result eventTime)
      pure ()
  | .mtRead motorId command => do
      let _ ← Device.mt
        (MtCan.onReadDispatchResult motorId command attemptedSend result eventTime)
      pure ()

namespace DeviceRuntime

/-- `completeDropped`. -/
def completeDropped (r : Request) : BusProg Unit :=
  match r.completion with
  | some c => do
      let t ← Device.clock
      c.run false .error t
  | none => pure ()

/-- `submit`. -/
def submit (r : Request) : BusProg Unit := do
  let accepted ← Device.enqueue r
  if accepted then pure () else completeDropped r

/-- What a submission does to the device: the request is taken or dropped. -/
theorem submit_stays {A : BusOp → Prop} {r : Request} (henqueue : A (.enqueue r))
    (hclock : A .clock)
    (hdropped : ∀ c, r.completion = some c → ∀ t, (c.run false .error t).Stays A) :
    (submit r).Stays A := by
  refine .bind ⟨henqueue, fun _ _ => trivial⟩ fun accepted => .ite trivial ?_
  unfold completeDropped
  split
  · rename_i c hc
    exact .vis hclock fun t => hdropped c hc t
  · trivial

/-- What `noteSharedSendResult` writes into the record of the device. -/
def noteHealth (result : SendResult) (now : Time) (h : DeviceHealthState) : DeviceHealthState :=
  match result with
  | .ok => h
  | .backpressure => { h with txBackpressure := h.txBackpressure + 1 }
  | .linkDown =>
      { h with
        txLinkUnavailable := h.txLinkUnavailable + 1
        transportReady := false
        lastTxLinkUnavailableSteadyNs := now }
  | .error => { h with txError := h.txError + 1 }

/-- `noteSharedSendResult`. -/
def noteSharedSendResult (deviceName : String) (result : SendResult) : BusProg Unit :=
  if result = .ok ∨ deviceName = "" then
    pure ()
  else do
    let t ← Device.clock
    let _ ← Device.shared fun s => s.mutateDeviceHealth deviceName (noteHealth result t)
    pure ()

/-- One round of `workerLoop`.  Both of its loops take the control queue first,
so what the inner one takes is what `popNextLocked` would. -/
def workerStep (deviceName : String) : BusProg Unit := do
  let next ← Device.pop
  match next with
  | none => pure ()
  | some r => do
      let sendTime ← Device.clock
      let result ← Device.transmit r.frame
      match r.completion with
      | some c => c.run true result sendTime
      | none => pure ()
      noteSharedSendResult deviceName result
      Device.account result

/-- What the worker does: it takes a request, sends it, completes it, and accounts for the
result. -/
theorem workerStep_stays {A : BusOp → Prop} (hpop : A .pop) (hclock : A .clock)
    (htransmit : ∀ frame, A (.transmit frame)) (haccount : ∀ result, A (.account result))
    (hhealth : ∀ deviceName fn, A (.shared fun s => s.mutateDeviceHealth deviceName fn))
    (hcompletion : ∀ c sent result t, (Completion.run c sent result t).Stays A)
    (deviceName : String) : (workerStep deviceName).Stays A := by
  have hend : ∀ result, (noteSharedSendResult deviceName result >>= fun _ =>
      Device.account result).Stays A := fun result =>
    .bind (.ite trivial (.vis hclock fun _ => .vis (hhealth _ _) fun _ => trivial)) fun _ =>
      .vis (haccount _) fun _ => trivial
  refine .vis hpop fun next => ?_
  cases next with
  | none => trivial
  | some r =>
      refine .vis hclock fun t => .vis (htransmit _) fun result => ?_
      dsimp only [Prog.bind]
      cases r.completion with
      | none => exact hend result
      | some c => exact (hcompletion c _ _ t).bind fun _ => hend result

end DeviceRuntime

/-! ## protocol programs on a device -/

/-- A protocol object of the device: where it lives, and how a program gets at it. -/
class BusObject (P : Type) where
  get : Bus → P
  set : Bus → P → Bus
  own : (P → P) → BusProg P
  get_set : ∀ (b : Bus) (s : P), get (set b s) = s
  set_get : ∀ b : Bus, set b (get b) = b
  wp_own : ∀ (f : P → P) (Q : P → Bus → Prop) (b : Bus),
    (own f).wp busProtocol Q b ↔ Q (get b) (set b (f (get b)))

instance : BusObject EyouCan where
  get b := b.eyou
  set b s := { b with eyou := s }
  own f := Device.eyou f
  get_set _ _ := rfl
  set_get _ := rfl
  wp_own _ _ _ := by simp

instance : BusObject MtCan where
  get b := b.mt
  set b s := { b with mt := s }
  own f := Device.mt f
  get_set _ _ := rfl
  set_get _ := rfl
  wp_own _ _ _ := by simp

instance : BusObject DamiaoCan where
  get b := b.dm
  set b s := { b with dm := s }
  own f := Device.dm f
  get_set _ _ := rfl
  set_get _ := rfl
  wp_own _ _ _ := by simp

/-- An operation of a protocol on the device. -/
def PortOp.onBus {P : Type} [BusObject P] :
    (op : (portSig P).Op) → BusProg ((portSig P).Ans op)
  | .proto f => BusObject.own f
  | .shared f => (Device.shared f)
  | .submit r => DeviceRuntime.submit r
  | .clock => Device.clock

/-- A protocol program on the device. -/
def Proto.onBus {P : Type} [BusObject P] (p : Proto P α) : BusProg α := p.interp PortOp.onBus

namespace Proto

open Prog BusObject

variable {P : Type} [BusObject P]

@[simp] theorem onBus_ret (a : α) : Proto.onBus (ret a : Proto P α) = ret a := rfl

@[simp] theorem onBus_bind (p : Proto P α) (f : α → Proto P β) :
    (p >>= f).onBus = p.onBus >>= fun a => (f a).onBus :=
  interp_bind _ p f

theorem onBus_ite (c : Prop) [Decidable c] (p q : Proto P α) :
    Proto.onBus (if c then p else q) = if c then p.onBus else q.onBus := by
  split <;> rfl

/-! ### what the operations of a protocol do to the device -/

@[simp] theorem wp_onBus_access {f : P → α × P} {Q : α → Bus → Prop} {b : Bus} :
    (access f).onBus.wp busProtocol Q b ↔ Q (f (get b)).1 (set b (f (get b)).2) := by
  simp [access, Proto.onBus, PortOp.onBus, wp_bind, wp_own]

@[simp] theorem wp_onBus_modify {f : P → P} {Q : Unit → Bus → Prop} {b : Bus} :
    (modify f).onBus.wp busProtocol Q b ↔ Q () (set b (f (get b))) := by
  simp [modify, Proto.onBus, PortOp.onBus, wp_bind, wp_own]

@[simp] theorem wp_onBus_gets {f : P → α} {Q : α → Bus → Prop} {b : Bus} :
    (gets f).onBus.wp busProtocol Q b ↔ Q (f (get b)) b := by
  simp [gets, Proto.onBus, PortOp.onBus, wp_bind, wp_own, set_get]

@[simp] theorem wp_onBus_modifyShared {f : SharedDriverState → SharedDriverState}
    {Q : Unit → Bus → Prop} {b : Bus} :
    (Proto.onBus (modifyShared f : Proto P Unit)).wp busProtocol Q b ↔
      Q () { b with shared := f b.shared } := by
  simp [modifyShared, Proto.onBus, PortOp.onBus, wp_bind]

@[simp] theorem wp_onBus_now {Q : Time → Bus → Prop} {b : Bus} :
    (Proto.onBus (now : Proto P Time)).wp busProtocol Q b ↔ ∀ t, b.time ≤ t → Q t { b with time := t } := by
  simp [now, Proto.onBus, PortOp.onBus, wp_bind]

@[simp] theorem wp_onBus_submit {r : Request} {Q : Unit → Bus → Prop} {b : Bus} :
    (Proto.onBus (submit r : Proto P Unit)).wp busProtocol Q b ↔
      (DeviceRuntime.submit r).wp busProtocol Q b := by
  simp [submit, Proto.onBus, PortOp.onBus, wp_bind]

end Proto

end CanDriver
