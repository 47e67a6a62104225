import CanDriver.InnfosEcbProtocol
import CanDriver.Lib.History
import Mathlib.Tactic.Linarith

/-!
# CanDriver.Ecb.Endpoints

How the ECB protocol comes by the endpoint of a motor, and what it says to actuators on the way.

`EcbWorld` is the protocol object with all it works on, and a log of what was said to actuators.
`Seeks` is all that the search for an endpoint can do: it asks whether the actuator of the motor
is online and reconnects it, at the address that was resolved first, and it keeps to the cooldown
of recoveries.  `wp_ensureEndpointReady` says that it does no more, and that an endpoint that is
ready has just answered.
-/

namespace CanDriver

open Interact InnfosEcbProtocol

/-! ## what is said to actuators -/

/-- A call of an actuator, with its answer. -/
structure ActuatorEvent where
  time : Time
  id : UInt8
  ip : String
  call : ActuatorCall
  answer : call.Ans

namespace ActuatorEvent

/-- What an observer of one actuator notices. -/
def of (id : UInt8) (f : ActuatorEvent → Option α) (ev : ActuatorEvent) : Option α :=
  if ev.id = id then f ev else none

/-- Where the actuator was called, and whether it is known to be there; a reconnect leaves
that open. -/
def contact : ActuatorEvent → Option (String × Bool)
  | ⟨_, _, ip, .isOnline, online⟩ => some (ip, online)
  | ⟨_, _, ip, .reconnect, _⟩ => some (ip, false)
  | _ => none

/-- The mode of the motor that an event tells: one that was activated or reported. -/
def mode : ActuatorEvent → Option MotorMode
  | ⟨_, _, _, .activateActuatorMode mode, _⟩ => sdkModeToMotorMode mode
  | ⟨_, _, _, .getActuatorMode, mode⟩ => sdkModeToMotorMode mode
  | _ => none

/-- Whether an event is a reconnect. -/
def isReconnect : ActuatorEvent → Bool
  | ⟨_, _, _, .reconnect, _⟩ => true
  | _ => false

theorem of_self {id : UInt8} {f : ActuatorEvent → Option α} {ev : ActuatorEvent} (h : ev.id = id) :
    of id f ev = f ev := if_pos h

theorem of_ne {id : UInt8} {f : ActuatorEvent → Option α} {ev : ActuatorEvent} (h : ev.id ≠ id) :
    of id f ev = none := if_neg h

end ActuatorEvent

/-! ## the world of a protocol object -/

/-- The protocol object, the shared driver state, the time that has passed at least, and what
was said to actuators. -/
structure EcbWorld where
  ecb : InnfosEcbProtocol
  shared : SharedDriverState := {}
  time : Time := 0
  log : List ActuatorEvent := []

namespace EcbWorld

/-- What is stored is found again, and time does not run back; the rest is answered at will. -/
def Admits (w : EcbWorld) : (op : EcbOp) → op.Ans → Prop
  | .members _, s => s = w.ecb
  | .shared _, s => s = w.shared
  | .clock, now => w.time ≤ now
  | _, _ => True

/-- The world after a call of the actuator of an endpoint. -/
def said (w : EcbWorld) (endpoint : MotorEndpoint) (call : ActuatorCall) (answer : call.Ans) :
    EcbWorld :=
  { w with log := w.log ++ [⟨w.time, endpoint.actuatorId, endpoint.ipAddress, call, answer⟩] }

/-- The world after an operation. -/
def after (w : EcbWorld) : (op : EcbOp) → op.Ans → EcbWorld
  | .members f, _ => { w with ecb := f w.ecb }
  | .shared f, _ => { w with shared := f w.shared }
  | .clock, now => { w with time := now }
  | .sleep duration, _ => { w with time := w.time + duration }
  | .actuator id ip call, answer => { w with log := w.log ++ [⟨w.time, id, ip, call, answer⟩] }
  | _, _ => w

/-- What was said to actuators since an earlier world. -/
def since (w' w : EcbWorld) : List ActuatorEvent := w'.log.drop w.log.length

@[simp] theorem since_self (w : EcbWorld) : w.since w = [] := by simp [since]

theorem log_of_since {w w' : EcbWorld} (h : w.log <+: w'.log) : w'.log = w.log ++ w'.since w := by
  obtain ⟨events, h⟩ := h
  simp [since, ← h]

theorem since_trans {w w₁ w₂ : EcbWorld} (h₁ : w.log <+: w₁.log) (h₂ : w₁.log <+: w₂.log) :
    w₂.since w = w₁.since w ++ w₂.since w₁ := by
  obtain ⟨events, h₁⟩ := h₁
  obtain ⟨events', h₂⟩ := h₂
  simp [since, ← h₂, ← h₁]

/-- One more call. -/
theorem since_said {w w' : EcbWorld} (h : w.log <+: w'.log) (endpoint : MotorEndpoint)
    (call : ActuatorCall) (answer : call.Ans) :
    (w'.said endpoint call answer).since w = w'.since w ++
      [⟨w'.time, endpoint.actuatorId, endpoint.ipAddress, call, answer⟩] := by
  rw [since_trans h (List.prefix_append _ _)]
  simp [since, said]

end EcbWorld

/-- The protocol object in its world. -/
def ecbWorld : Protocol ecbSig EcbWorld where
  allow _ _ := True
  accepts := EcbWorld.Admits
  next := EcbWorld.after

section

open Prog

variable {w : EcbWorld}

theorem wp_askEcb {op : EcbOp} {Q : op.Ans → EcbWorld → Prop} :
    (askEcb op).wp ecbWorld Q w ↔ ∀ r, w.Admits op r → Q r (w.after op r) :=
  ⟨fun h => h.2, fun h => ⟨trivial, h⟩⟩

@[simp] theorem wp_members {Q : InnfosEcbProtocol → EcbWorld → Prop} :
    members.wp ecbWorld Q w ↔ Q w.ecb w := by
  rw [members, wp_askEcb]
  exact ⟨fun h => h w.ecb rfl, fun h r hr => hr ▸ h⟩

@[simp] theorem wp_modify {f : InnfosEcbProtocol → InnfosEcbProtocol}
    {Q : Unit → EcbWorld → Prop} :
    (modify f).wp ecbWorld Q w ↔ Q () { w with ecb := f w.ecb } := by
  rw [InnfosEcbProtocol.modify, wp_bind, wp_askEcb]
  exact ⟨fun h => h w.ecb rfl, fun h r _ => h⟩

@[simp] theorem wp_modifyShared {f : SharedDriverState → SharedDriverState}
    {Q : Unit → EcbWorld → Prop} :
    (modifyShared f).wp ecbWorld Q w ↔ Q () { w with shared := f w.shared } := by
  rw [modifyShared, wp_bind, wp_askEcb]
  exact ⟨fun h => h w.shared rfl, fun h r _ => h⟩

@[simp] theorem wp_now {Q : Time → EcbWorld → Prop} :
    now.wp ecbWorld Q w ↔ ∀ time, w.time ≤ time → Q time { w with time } :=
  wp_askEcb

@[simp] theorem wp_sleep {milliseconds : Int} {Q : Unit → EcbWorld → Prop} :
    (sleep milliseconds).wp ecbWorld Q w ↔ Q () { w with time := w.time + ms milliseconds } := by
  rw [sleep, wp_askEcb]
  exact ⟨fun h => h () trivial, fun h _ _ => h⟩

@[simp] theorem wp_processEvents {Q : Unit → EcbWorld → Prop} :
    processEvents.wp ecbWorld Q w ↔ Q () w := by
  rw [processEvents, wp_askEcb]
  exact ⟨fun h => h () trivial, fun h _ _ => h⟩

@[simp] theorem wp_lookupActuators {Q : List UnifiedID → EcbWorld → Prop} :
    lookupActuators.wp ecbWorld Q w ↔ ∀ ids, Q ids w := by
  rw [lookupActuators, wp_askEcb]
  exact ⟨fun h ids => h ids trivial, fun h ids _ => h ids⟩

theorem wp_ask {endpoint : MotorEndpoint} {call : ActuatorCall}
    {Q : call.Ans → EcbWorld → Prop} :
    (InnfosEcbProtocol.ask endpoint call).wp ecbWorld Q w ↔
      ∀ answer, Q answer (w.said endpoint call answer) := by
  rw [InnfosEcbProtocol.ask, wp_askEcb]
  exact ⟨fun h answer => h answer trivial, fun h answer _ => h answer⟩

@[simp] theorem wp_isOnline {endpoint : MotorEndpoint} {Q : Bool → EcbWorld → Prop} :
    (isOnline endpoint).wp ecbWorld Q w ↔
      ∀ online : Bool, Q online (w.said endpoint .isOnline online) :=
  wp_ask

@[simp] theorem wp_tell {endpoint : MotorEndpoint} {call : ActuatorCall}
    {Q : Unit → EcbWorld → Prop} :
    (tell endpoint call).wp ecbWorld Q w ↔ ∀ answer, Q () (w.said endpoint call answer) := by
  rw [InnfosEcbProtocol.tell, wp_bind, wp_ask]
  exact Iff.rfl

/-- A controller is there in the end if the answer says so. -/
theorem wp_ensureController {Q : Bool → EcbWorld → Prop}
    (h : ∀ c, (w.ecb.controller = true → c = true) →
      Q c { w with ecb := { w.ecb with controller := c } }) :
    ensureController.wp ecbWorld Q w := by
  simp only [ensureController, wp_bind, wp_members]
  split
  · next hc =>
    have hw := h true fun _ => rfl
    rw [show ({ w.ecb with controller := true } : InnfosEcbProtocol) = w.ecb by rw [← hc]] at hw
    exact hw
  · next hc =>
    rw [wp_bind, initController, wp_askEcb]
    intro c _
    rw [wp_bind, wp_modify]
    exact h c fun hc' => absurd hc' hc

end

/-! ## seeking an endpoint -/

/-- The endpoint is one of the motor: its actuator has the id of the motor. -/
def MotorEndpoint.Fits (endpoint : MotorEndpoint) (motorId : UInt16) : Prop :=
  ¬ 255 < motorId ∧ endpoint.actuatorId = motorId.toUInt8

/-- When the next recovery of a motor may begin, seen from a point in time. -/
def due (t₀ : Time) (motorId : UInt16) (s : InnfosEcbProtocol) : Time :=
  max t₀ ((s.nextRecoveryTry motorId).getD t₀)

/-- How often an actuator was reconnected. -/
def reconnects (events : List ActuatorEvent) : Nat := events.countP ActuatorEvent.isReconnect

/-- What the search for the endpoint of a motor has done since `w`; `credit` reconnects are
still covered by the last recovery that was allowed.  Pacing binds once there is an endpoint. -/
structure Seeks (credit : Nat) (motorId : UInt16) (w w' : EcbWorld) : Prop where
  time : w.time ≤ w'.time
  shared : w'.shared = w.shared
  frame : w'.ecb =
    { w.ecb with
      controller := w'.ecb.controller
      endpoints := w'.ecb.endpoints
      nextRecoveryTry := w'.ecb.nextRecoveryTry }
  others : ∀ m, m ≠ motorId → w'.ecb.endpoints m = w.ecb.endpoints m ∧
    w'.ecb.nextRecoveryTry m = w.ecb.nextRecoveryTry m
  fits : ∀ e, w'.ecb.endpoints motorId = some e → e.resolved = true → e.Fits motorId
  soon : ∀ t, w'.ecb.nextRecoveryTry motorId = some t → t ≤ w'.time + ms kRecoveryCooldownMs
  log : w.log <+: w'.log
  checks : ∀ ev ∈ w'.since w, ev.contact ≠ none ∧ ¬ 255 < motorId ∧ ev.id = motorId.toUInt8
  kept : ∀ e, w.ecb.endpoints motorId = some e → e.resolved = true →
    w'.ecb.endpoints motorId = some e ∧ ∀ ev ∈ w'.since w, ev.ip = e.ipAddress
  paced : ∀ e t₀, w.ecb.endpoints motorId = some e → e.resolved = true → t₀ ≤ w.time →
    ms kRecoveryCooldownMs * (reconnects (w'.since w) + credit) ≤
      2 * (due t₀ motorId w'.ecb - due t₀ motorId w.ecb)

/-- The search stands at a resolved endpoint. -/
structure SeeksAt (credit : Nat) (motorId : UInt16) (endpoint : MotorEndpoint) (w w' : EcbWorld) :
    Prop extends Seeks credit motorId w w' where
  found : w'.ecb.endpoints motorId = some endpoint
  resolved : endpoint.resolved = true
  controller : w'.ecb.controller = true

/-- A motor is reached: its endpoint has answered since `w`. -/
structure Reached (motorId : UInt16) (endpoint : MotorEndpoint) (w w' : EcbWorld) : Prop where
  found : w'.ecb.endpoints motorId = some endpoint
  resolved : endpoint.resolved = true
  controller : w'.ecb.controller = true
  answered : latest (ActuatorEvent.of endpoint.actuatorId ActuatorEvent.contact) (w'.since w) =
    some (endpoint.ipAddress, true)

section

variable {credit : Nat} {m : UInt16} {e : MotorEndpoint} {w w₁ : EcbWorld}

/-! ### its steps -/

theorem Seeks.refl (hfits : ∀ e, w.ecb.endpoints m = some e → e.resolved = true → e.Fits m)
    (hsoon : ∀ t, w.ecb.nextRecoveryTry m = some t → t ≤ w.time + ms kRecoveryCooldownMs) :
    Seeks 0 m w w where
  time := Int.le_refl _
  shared := rfl
  frame := rfl
  others _ _ := ⟨rfl, rfl⟩
  fits := hfits
  soon := hsoon
  log := List.prefix_refl _
  checks := by simp
  kept e he _ := ⟨he, by simp⟩
  paced := by simp [reconnects]

/-- A controller changes nothing. -/
theorem Seeks.withController (h : Seeks credit m w w₁) (c : Bool) :
    Seeks credit m w { w₁ with ecb := { w₁.ecb with controller := c } } :=
  { h with frame := by rw [h.frame] }

/-- Time passes. -/
theorem Seeks.wait (h : Seeks credit m w w₁) (ht : w₁.time ≤ t) :
    Seeks credit m w { w₁ with time := t } :=
  { h with
    time := Int.le_trans h.time ht
    soon := fun t' ht' => Int.le_trans (h.soon t' ht') (Int.add_le_add_right ht _) }

/-- What was allowed need not be done. -/
theorem Seeks.forgo (h : Seeks credit m w w₁) : Seeks 0 m w w₁ :=
  { h with
    paced := fun e t₀ he hr ht => by
      have hpaced := h.paced e t₀ he hr ht
      have hms : 0 ≤ ms kRecoveryCooldownMs * (credit : Int) :=
        Int.mul_nonneg (by decide) (Int.natCast_nonneg _)
      push_cast
      linarith }

/-- Before there is an endpoint, pacing does not bind. -/
theorem Seeks.unbound (h : Seeks credit m w w₁)
    (hw : ∀ e, w.ecb.endpoints m = some e → e.resolved = false) (credit' : Nat) :
    Seeks credit' m w w₁ :=
  { h with paced := fun e _ he hr _ => by simp [hw e he] at hr }

/-- The world after a call of the actuator, as far as the search is concerned. -/
theorem SeeksAt.said {call : ActuatorCall} {answer : call.Ans} (h : SeeksAt credit m e w w₁)
    {credit' : Nat}
    (hcontact : ActuatorEvent.contact ⟨w₁.time, e.actuatorId, e.ipAddress, call, answer⟩ ≠ none)
    (hcredit : (if ActuatorEvent.isReconnect ⟨w₁.time, e.actuatorId, e.ipAddress, call, answer⟩
      then 1 else 0) + credit' ≤ credit) :
    SeeksAt credit' m e w (w₁.said e call answer) := by
  have hsince := EcbWorld.since_said h.log e call answer
  have hfits := h.fits e h.found h.resolved
  refine
    { h with
      log := h.log.trans (List.prefix_append _ _)
      checks := ?_
      kept := ?_
      paced := ?_ }
  · intro ev hev
    rw [hsince, List.mem_append, List.mem_singleton] at hev
    obtain hev | rfl := hev
    · exact h.checks ev hev
    · exact ⟨hcontact, hfits.1, hfits.2⟩
  · intro e₀ he₀ hr₀
    obtain ⟨hkept, hips⟩ := h.kept e₀ he₀ hr₀
    refine ⟨hkept, fun ev hev => ?_⟩
    rw [hsince, List.mem_append, List.mem_singleton] at hev
    obtain hev | rfl := hev
    · exact hips ev hev
    · obtain rfl : e = e₀ := Option.some.inj (h.found.symm.trans hkept)
      rfl
  · intro e₀ t₀ he₀ hr₀ ht₀
    have hpaced := h.paced e₀ t₀ he₀ hr₀ ht₀
    have hcount : reconnects ((w₁.said e call answer).since w) + credit' ≤
        reconnects (w₁.since w) + credit := by
      rw [hsince, reconnects, List.countP_append, List.countP_singleton]
      unfold reconnects
      omega
    have hms : ms kRecoveryCooldownMs *
          ((reconnects ((w₁.said e call answer).since w) + credit' : Nat) : Int) ≤
        ms kRecoveryCooldownMs * ((reconnects (w₁.since w) + credit : Nat) : Int) :=
      Int.mul_le_mul_of_nonneg_left (Int.ofNat_le.2 hcount) (by decide)
    push_cast at hms
    exact Int.le_trans hms hpaced

/-- The actuator is asked whether it is online. -/
theorem SeeksAt.asked (h : SeeksAt credit m e w w₁) (online : Bool) :
    SeeksAt credit m e w (w₁.said e .isOnline online) :=
  h.said (by simp [ActuatorEvent.contact]) (by simp [ActuatorEvent.isReconnect])

/-- One of the reconnects that were allowed. -/
theorem SeeksAt.reconnected (h : SeeksAt (credit + 1) m e w w₁) :
    SeeksAt credit m e w (w₁.said e .reconnect ()) :=
  h.said (by simp [ActuatorEvent.contact]) (by simp [ActuatorEvent.isReconnect, Nat.add_comm])

theorem SeeksAt.wait (h : SeeksAt credit m e w w₁) (ht : w₁.time ≤ t) :
    SeeksAt credit m e w { w₁ with time := t } :=
  { h with toSeeks := h.toSeeks.wait ht }

theorem SeeksAt.forgo (h : SeeksAt credit m e w w₁) : SeeksAt 0 m e w w₁ :=
  { h with toSeeks := h.toSeeks.forgo }

/-- **Cooldown**: a recovery that is allowed comes late enough to cover its reconnects. -/
theorem SeeksAt.allowed (h : SeeksAt 0 m e w w₁)
    (hdue : ∀ t, w₁.ecb.nextRecoveryTry m = some t → t ≤ w₁.time) :
    SeeksAt kReconnectRetryCount m e w
      { w₁ with
        ecb :=
          { w₁.ecb with
            nextRecoveryTry :=
              put w₁.ecb.nextRecoveryTry m (w₁.time + ms kRecoveryCooldownMs) } } :=
  { h with
    frame := by rw [h.frame]
    others := fun m' hne => ⟨(h.others m' hne).1, (put_of_ne _ _ hne).trans (h.others m' hne).2⟩
    soon := by
      intro t ht
      obtain rfl : w₁.time + ms kRecoveryCooldownMs = t := by simpa using ht
      exact Int.le_refl _
    paced := fun e₀ t₀ he₀ hr₀ ht₀ => by
      have hpaced := h.paced e₀ t₀ he₀ hr₀ ht₀
      have hbefore : due t₀ m w₁.ecb ≤ w₁.time := by
        refine Int.max_le.2 ⟨Int.le_trans ht₀ h.time, ?_⟩
        cases hnext : w₁.ecb.nextRecoveryTry m with
        | none => exact Int.le_trans ht₀ h.time
        | some t => exact hdue t hnext
      have hafter : w₁.time + ms kRecoveryCooldownMs ≤
          due t₀ m { w₁.ecb with
            nextRecoveryTry :=
              put w₁.ecb.nextRecoveryTry m (w₁.time + ms kRecoveryCooldownMs) } := by
        simp [due]
      have hsince : EcbWorld.since { w₁ with ecb := { w₁.ecb with
          nextRecoveryTry := put w₁.ecb.nextRecoveryTry m (w₁.time + ms kRecoveryCooldownMs) } } w =
          w₁.since w := rfl
      rw [hsince]
      simp only [kReconnectRetryCount, Nat.cast_ofNat, Nat.cast_zero, add_zero] at hpaced ⊢
      linarith }

/-- The endpoint of a motor that had none is settled. -/
theorem Seeks.settle (h : Seeks 0 m w w₁) (hc : w₁.ecb.controller = true)
    (hw : ∀ e, w.ecb.endpoints m = some e → e.resolved = false) (hfits : e.Fits m)
    (hr : e.resolved = true) :
    SeeksAt kReconnectRetryCount m e w
      { w₁ with ecb := { w₁.ecb with endpoints := put w₁.ecb.endpoints m e } } where
  toSeeks :=
    { h with
      frame := by rw [h.frame]
      others := fun m' hne => ⟨(put_of_ne _ _ hne).trans (h.others m' hne).1, (h.others m' hne).2⟩
      fits := by
        intro e' he' _
        obtain rfl : e = e' := by simpa using he'
        exact hfits
      kept := fun e₀ he₀ hr₀ => by simp [hw e₀ he₀] at hr₀
      paced := fun e₀ _ he₀ hr₀ _ => by simp [hw e₀ he₀] at hr₀ }
  found := by simp
  resolved := hr
  controller := hc

/-- An actuator that says it is online is reached. -/
theorem SeeksAt.reached (h : SeeksAt credit m e w w₁) :
    Reached m e w (w₁.said e .isOnline true) where
  found := h.found
  resolved := h.resolved
  controller := h.controller
  answered := by
    rw [EcbWorld.since_said h.log, latest_concat]
    simp [ActuatorEvent.of, ActuatorEvent.contact]

/-! ### the functions it is made of -/

/-- The last question of a search. -/
theorem SeeksAt.wp_asked (h : SeeksAt credit m e w w₁) :
    (isOnline e).wp ecbWorld
      (fun online w' => SeeksAt 0 m e w w' ∧ (online = true → Reached m e w w')) w₁ := by
  rw [wp_isOnline]
  intro online
  refine ⟨(h.asked online).forgo, fun honline => ?_⟩
  rw [honline]
  exact h.reached

theorem SeeksAt.wp_reconnectAttempts (attempts : Nat) (h : SeeksAt attempts m e w w₁) :
    (reconnectAttempts e attempts).wp ecbWorld (fun _ w' => SeeksAt 0 m e w w') w₁ := by
  induction attempts generalizing w₁ with
  | zero => exact h
  | succ attempts ih =>
      simp only [reconnectAttempts, Prog.wp_bind, wp_tell, wp_processEvents, wp_sleep,
        wp_isOnline]
      intro _ online
      have hasked := (h.reconnected.wait (t := w₁.time + ms kReconnectRetrySleepMs)
        (Int.le_add_of_nonneg_right (by decide))).asked online
      rw [Prog.wp_ite]
      split
      · exact hasked.forgo
      · exact ih hasked

theorem SeeksAt.wp_reconnectEndpoint (h : SeeksAt kReconnectRetryCount m e w w₁) :
    (reconnectEndpoint m).wp ecbWorld (fun _ w' => SeeksAt 0 m e w w') w₁ := by
  simp only [reconnectEndpoint, Prog.wp_bind, wp_members, h.found, if_pos h.resolved,
    ensureController, if_pos h.controller]
  exact h.wp_reconnectAttempts kReconnectRetryCount

theorem SeeksAt.wp_canAttemptRecovery (h : SeeksAt 0 m e w w₁) :
    (canAttemptRecovery m).wp ecbWorld
      (fun allowed w' => SeeksAt (if allowed then kReconnectRetryCount else 0) m e w w') w₁ := by
  simp only [canAttemptRecovery, Prog.wp_bind, wp_now, wp_members]
  intro time htime
  have hwait := h.wait htime
  rw [Prog.wp_ite]
  split
  · exact hwait
  · next hdue =>
    rw [Prog.wp_bind, wp_modify]
    refine hwait.allowed fun t ht => ?_
    have ht : w₁.ecb.nextRecoveryTry m = some t := ht
    simp only [ht, Option.any_some, decide_eq_true_eq, not_lt] at hdue
    exact hdue

/-- Noting an endpoint of a motor that had none. -/
theorem Seeks.wp_tryEndpoint (h : Seeks 0 m w w₁) (hc : w₁.ecb.controller = true)
    (hw : ∀ e, w.ecb.endpoints m = some e → e.resolved = false) (hfits : e.Fits m)
    (hr : e.resolved = true) :
    (tryEndpoint m e).wp ecbWorld
      (fun online w' => SeeksAt 0 m e w w' ∧ (online = true → Reached m e w w')) w₁ := by
  simp only [tryEndpoint, Prog.wp_bind, wp_modify, wp_isOnline]
  intro online
  have hsettled := h.settle hc hw hfits hr
  rw [Prog.wp_ite]
  split
  · next honline =>
    rw [honline]
    exact ⟨(hsettled.asked true).forgo, fun _ => hsettled.reached⟩
  · rw [Prog.wp_bind]
    exact Prog.wp_mono (hsettled.asked online).wp_reconnectEndpoint fun _ _ hw => hw.wp_asked

theorem Seeks.wp_tryEndpointIf (h : Seeks 0 m w w₁) (hc : w₁.ecb.controller = true)
    (hw : ∀ e, w.ecb.endpoints m = some e → e.resolved = false)
    (he : c = true → e.Fits m ∧ e.resolved = true) :
    (tryEndpointIf c m e).wp ecbWorld
      (fun _ w' => Seeks 0 m w w' ∧ w'.ecb.controller = true) w₁ := by
  rw [tryEndpointIf, Prog.wp_ite]
  split
  · next hcond =>
    refine Prog.wp_mono (h.wp_tryEndpoint hc hw (he hcond).1 (he hcond).2) fun _ _ hw => ?_
    exact ⟨hw.1.toSeeks, hw.1.controller⟩
  · exact ⟨h, hc⟩

/-- What is discovered is an endpoint of the motor. -/
theorem fits_discover {routeAuto : Bool} {routeIp : String} {attempt : Nat} (hm : ¬ 255 < m)
    (ids : List UnifiedID) {found : MotorEndpoint} (h : found.resolved = true → found.Fits m)
    (hr : (discover m routeAuto routeIp attempt ids found).resolved = true) :
    (discover m routeAuto routeIp attempt ids found).Fits m := by
  induction ids generalizing found with
  | nil => exact h hr
  | cons u ids ih =>
      rw [discover] at hr ⊢
      by_cases hid : u.actuatorID ≠ m.toUInt8
      · rw [if_pos hid] at hr ⊢
        exact ih h hr
      · rw [if_neg hid] at hr ⊢
        have hat : (endpointAt u.actuatorID u.ipAddress).Fits m := ⟨hm, Decidable.not_not.1 hid⟩
        by_cases hip : routeIp ≠ "" ∧ u.ipAddress ≠ routeIp
        · rw [if_pos hip] at hr ⊢
          refine ih (fun hr' => ?_) hr
          split
          · exact hat
          · next hlast =>
            rw [if_neg hlast] at hr'
            exact h hr'
        · rw [if_neg hip] at hr ⊢
          exact hat

theorem Seeks.wp_resolveAttempts (routeAuto : Bool) (routeIp : String) (attempts : List Nat)
    (hm : ¬ 255 < m) (h : Seeks 0 m w w₁) (hc : w₁.ecb.controller = true)
    (hw : ∀ e, w.ecb.endpoints m = some e → e.resolved = false) :
    (resolveAttempts m routeAuto routeIp attempts).wp ecbWorld
      (fun _ w' => Seeks 0 m w w' ∧ w'.ecb.controller = true) w₁ := by
  induction attempts generalizing w₁ with
  | nil => exact ⟨h, hc⟩
  | cons attempt attempts ih =>
      rw [resolveAttempts, Prog.wp_bind]
      refine Prog.wp_mono (h.wp_tryEndpointIf hc hw fun _ => ⟨⟨hm, rfl⟩, rfl⟩) fun fixed w₂ h₂ => ?_
      rw [Prog.wp_ite]
      split
      · exact h₂
      · simp only [Prog.wp_bind, wp_lookupActuators]
        intro ids
        refine Prog.wp_mono (h₂.1.wp_tryEndpointIf h₂.2 hw fun hr => ⟨?_, hr⟩) fun found w₃ h₃ => ?_
        · exact fits_discover hm ids (fun h => absurd h Bool.false_ne_true) hr
        rw [Prog.wp_ite]
        split
        · exact h₃
        · rw [Prog.wp_bind, wp_sleep]
          exact ih (h₃.1.wait (Int.le_add_of_nonneg_right (by decide))) h₃.2

/-- Resolving the endpoint of a motor. -/
theorem Seeks.wp_resolveEndpoint (h : Seeks 0 m w w₁)
    (hc : w₁.ecb.controller = true) :
    (resolveEndpoint m).wp ecbWorld
      (fun _ w' => Seeks 0 m w w' ∧ w'.ecb.controller = true) w₁ := by
  simp only [resolveEndpoint, Prog.wp_bind, wp_members]
  rw [Prog.wp_ite]
  split
  · exact ⟨h, hc⟩
  · next hunresolved =>
    have hun : ∀ e, w.ecb.endpoints m = some e → e.resolved = false := by
      intro e he
      by_contra hr
      have hr : e.resolved = true := Bool.not_eq_false _ ▸ hr
      have hkept := (h.kept e he hr).1
      exact hunresolved (by simp [hkept, hr])
    simp only [ensureController, Prog.wp_bind, wp_members, if_pos hc, Prog.pure_eq, Prog.wp_ret,
      Bool.not_true, Bool.false_eq_true, if_false]
    rw [Prog.wp_ite]
    split
    · exact ⟨h, hc⟩
    · next hm =>
      rw [Prog.wp_bind, wp_members]
      exact Seeks.wp_resolveAttempts _ _ _ hm h hc hun

/-- The search is over: if it was successful, the actuator has just said that it is online. -/
def Sought (m : UInt16) (w : EcbWorld) (ready : Bool) (w' : EcbWorld) : Prop :=
  Seeks 0 m w w' ∧ (ready = true → ∃ e, Reached m e w w')

theorem SeeksAt.sought (h : SeeksAt 0 m e w w₁) (hr : ready = true → Reached m e w w₁) :
    Sought m w ready w₁ :=
  ⟨h.toSeeks, fun hready => ⟨e, hr hready⟩⟩

theorem Seeks.wp_recheckEndpoint (h : Seeks 0 m w w₁) (hc : w₁.ecb.controller = true) :
    (recheckEndpoint m).wp ecbWorld (Sought m w) w₁ := by
  rw [recheckEndpoint, Prog.wp_bind, wp_members]
  cases he : w₁.ecb.endpoints m with
  | none => exact ⟨h, fun hready => absurd hready Bool.false_ne_true⟩
  | some e =>
      dsimp only
      rw [Prog.wp_ite]
      split
      · next hr =>
        have hat : SeeksAt 0 m e w w₁ := { h with found := he, resolved := hr, controller := hc }
        rw [Prog.wp_bind, wp_isOnline]
        intro online
        rw [Prog.wp_ite]
        split
        · next honline =>
          rw [honline]
          exact (hat.asked true).sought fun _ => hat.reached
        · rw [Prog.wp_bind]
          refine Prog.wp_mono (hat.asked online).wp_canAttemptRecovery fun allowed w₂ h₂ => ?_
          rw [Prog.wp_ite]
          split
          · next hallowed =>
            rw [if_pos hallowed] at h₂
            rw [Prog.wp_bind]
            refine Prog.wp_mono h₂.wp_reconnectEndpoint fun _ w₃ h₃ => ?_
            exact Prog.wp_mono h₃.wp_asked fun _ _ hw => hw.1.sought hw.2
          · next hallowed =>
            rw [if_neg hallowed] at h₂
            exact h₂.sought fun hready => absurd hready Bool.false_ne_true
      · exact ⟨h, fun hready => absurd hready Bool.false_ne_true⟩

theorem Seeks.wp_resolveAndRecheck (h : Seeks 0 m w w₁) (hc : w₁.ecb.controller = true) :
    (resolveAndRecheck m).wp ecbWorld (Sought m w) w₁ := by
  rw [resolveAndRecheck, Prog.wp_bind]
  refine Prog.wp_mono (h.wp_resolveEndpoint hc) fun resolved w₂ h₂ => ?_
  rw [Prog.wp_ite]
  split
  · exact h₂.1.wp_recheckEndpoint h₂.2
  · exact ⟨h₂.1, fun hready => absurd hready Bool.false_ne_true⟩

/-- **The search**: it says nothing to other actuators, moves no settled endpoint, keeps to
the cooldown, and is successful only if the actuator has just said that it is online. -/
theorem wp_ensureEndpointReady
    (hfits : ∀ e, w.ecb.endpoints m = some e → e.resolved = true → e.Fits m)
    (hsoon : ∀ t, w.ecb.nextRecoveryTry m = some t → t ≤ w.time + ms kRecoveryCooldownMs) :
    (ensureEndpointReady m).wp ecbWorld (Sought m w) w := by
  rw [ensureEndpointReady, Prog.wp_bind]
  refine wp_ensureController fun c _ => ?_
  have h := (Seeks.refl hfits hsoon).withController c
  rw [Prog.wp_ite]
  split
  · exact ⟨h, fun hready => absurd hready Bool.false_ne_true⟩
  · next hready =>
    have hc : c = true := by simpa using hready
    rw [Prog.wp_bind, wp_members]
    cases he : Option.filter MotorEndpoint.resolved (w.ecb.endpoints m) with
    | none => exact h.wp_resolveAndRecheck hc
    | some e =>
        obtain ⟨he, hr⟩ := Option.filter_eq_some_iff.1 he
        have hat : SeeksAt 0 m e w _ := { h with found := he, resolved := hr, controller := hc }
        dsimp only
        rw [Prog.wp_bind, wp_isOnline]
        intro online
        rw [Prog.wp_ite]
        split
        · next honline =>
          rw [honline]
          exact (hat.asked true).sought fun _ => hat.reached
        · rw [Prog.wp_bind]
          refine Prog.wp_mono (hat.asked online).wp_canAttemptRecovery fun allowed w₂ h₂ => ?_
          rw [Prog.wp_ite]
          split
          · next hallowed =>
            have hno : allowed = false := by simpa using hallowed
            rw [hno] at h₂
            exact h₂.sought fun hready => absurd hready Bool.false_ne_true
          · next hallowed =>
            have hyes : allowed = true := by simpa using hallowed
            rw [hyes] at h₂
            rw [Prog.wp_bind]
            refine Prog.wp_mono h₂.wp_reconnectEndpoint fun _ w₃ h₃ => ?_
            rw [Prog.wp_bind]
            refine Prog.wp_mono h₃.wp_asked fun online w₄ h₄ => ?_
            rw [Prog.wp_ite]
            split
            · next honline => exact h₄.1.sought fun _ => h₄.2 honline
            · exact h₄.1.wp_resolveAndRecheck h₄.1.controller

end

end CanDriver
