import CanDriver.AxisIdentity.Records
import CanDriver.Ecb.Calls
import CanDriver.Lib.Pool

/-!
# CanDriver.Ecb.Run

Runs of an ECB protocol object: its critical sections in any order, among calls of others on the
shared driver state.

`EcbWorld.reaches` is a run from a new protocol object on; whatever the actuators answer, and
whenever.  `Follows m` is what a run does to one motor, and a preorder.  From these two:

* the address of a motor is settled once and for all, and its actuator is called there only;
* within every section, orders come after the answer that the actuator is online;
* reconnects of a settled endpoint keep to the cooldown, however many sections ask for them;
* a target is sent to an actuator in the mode of the target;
* getters and published feedback tell the last complete reading, and nothing else.
-/

namespace CanDriver

open Interact InnfosEcbProtocol

/-! ## runs -/

/-- What happens while a protocol object is in use. -/
inductive EcbAction where
  | serve (c : Section)
  | elsewhere (call : RecordCall)
  | wait

namespace EcbWorld

/-- One action; a section is served under the mutex of the protocol object. -/
inductive Step : EcbWorld → EcbAction → EcbWorld → Prop where
  | serve {w w' c a} (h : Prog.Runs ecbWorld (Section.code c) w a w') : Step w (.serve c) w'
  | elsewhere {w call} : Step w (.elsewhere call) { w with shared := call.run w.shared }
  | wait {w time} (h : w.time ≤ time) : Step w .wait { w with time }

/-- Nobody else writes the feedback of the motors of this protocol object. -/
def Apart (w : EcbWorld) : EcbAction → Prop
  | .elsewhere (.mutateAxisFeedback key _) => ∀ m, key ≠ w.ecb.axisKey m
  | _ => True

/-- The states a run leads to. -/
def Reaches : EcbWorld → EcbWorld → Prop := Reach Step Apart

/-- A new protocol object. -/
def start (deviceSpec : String) (sharedState : Bool) (deviceName : String)
    (shared : SharedDriverState) (time : Time) : EcbWorld :=
  { ecb := ofSpec deviceSpec sharedState deviceName, shared, time }

/-- A state of some run of some protocol object. -/
def Reachable (w : EcbWorld) : Prop :=
  ∃ deviceSpec sharedState deviceName shared time,
    (start deviceSpec sharedState deviceName shared time).Reaches w

theorem Reachable.trans {w w' : EcbWorld} (h : w.Reachable) (h' : w.Reaches w') : w'.Reachable := by
  obtain ⟨deviceSpec, sharedState, deviceName, shared, time, h⟩ := h
  exact ⟨deviceSpec, sharedState, deviceName, shared, time, Relation.ReflTransGen.trans h h'⟩

/-- What is called of one actuator. -/
def callsOf (w' w : EcbWorld) (m : UInt16) : List ActuatorEvent :=
  (w'.since w).filter fun ev => ev.id = m.toUInt8

theorem mem_callsOf {w w' : EcbWorld} {m : UInt16} {ev : ActuatorEvent} :
    ev ∈ w'.callsOf w m ↔ ev ∈ w'.since w ∧ ev.id = m.toUInt8 := by
  simp [callsOf]

theorem callsOf_trans {w w₁ w₂ : EcbWorld} (h₁ : w.log <+: w₁.log) (h₂ : w₁.log <+: w₂.log)
    (m : UInt16) : w₂.callsOf w m = w₁.callsOf w m ++ w₂.callsOf w₁ m := by
  rw [callsOf, since_trans h₁ h₂, List.filter_append, callsOf, callsOf]

end EcbWorld

open EcbWorld

/-- What happened to one motor: a settled address stays, its actuator is called there only,
reconnects keep to the cooldown, and its feedback changes by readings only. -/
structure Follows (m : UInt16) (w w' : EcbWorld) : Prop where
  time : w.time ≤ w'.time
  identity : w'.ecb.deviceName = w.ecb.deviceName ∧ w'.ecb.sharedState = w.ecb.sharedState
  log : w.log <+: w'.log
  kept : ∀ e, w.ecb.endpoints m = some e → e.resolved = true →
    (∃ e', w'.ecb.endpoints m = some e' ∧ e.SameAddress e') ∧
      ∀ ev ∈ w'.callsOf w m, ev.ip = e.ipAddress
  paced : ∀ e t₀, w.ecb.endpoints m = some e → e.resolved = true → t₀ ≤ w.time →
    ms kRecoveryCooldownMs * reconnects (w'.callsOf w m) ≤
      2 * (due t₀ m w'.ecb - due t₀ m w.ecb)
  silent : (∀ ev ∈ w'.callsOf w m, ev.readMode = none) →
    w'.shared.feedbackOr (w.ecb.axisKey m) = w.shared.feedbackOr (w.ecb.axisKey m)

section

variable {m : UInt16} {e : MotorEndpoint} {w w₁ w₂ : EcbWorld}

theorem Follows.trans (h : Follows m w w₁) (h' : Follows m w₁ w₂) : Follows m w w₂ := by
  have hcalls := callsOf_trans h.log h'.log m
  refine ⟨Int.le_trans h.time h'.time, ⟨h'.identity.1.trans h.identity.1,
    h'.identity.2.trans h.identity.2⟩, h.log.trans h'.log, ?_, ?_, ?_⟩
  · intro e he hr
    obtain ⟨⟨e₁, he₁, hsame₁⟩, hips⟩ := h.kept e he hr
    obtain ⟨⟨e₂, he₂, hsame₂⟩, hips₂⟩ := h'.kept e₁ he₁ (hsame₁.2.2.trans hr)
    refine ⟨⟨e₂, he₂, hsame₁.trans hsame₂⟩, fun ev hev => ?_⟩
    rw [hcalls, List.mem_append] at hev
    exact hev.elim (hips ev) fun hev => (hips₂ ev hev).trans hsame₁.2.1
  · intro e t₀ he hr ht₀
    obtain ⟨⟨e₁, he₁, hsame₁⟩, _⟩ := h.kept e he hr
    have hpaced := h.paced e t₀ he hr ht₀
    have hpaced' := h'.paced e₁ t₀ he₁ (hsame₁.2.2.trans hr) (Int.le_trans ht₀ h.time)
    rw [hcalls, reconnects, List.countP_append]
    unfold reconnects at hpaced hpaced'
    push_cast
    linarith
  · intro hall
    rw [hcalls] at hall
    have hkey : w₁.ecb.axisKey m = w.ecb.axisKey m := axisKey_of_identity h.identity.1 m
    have hlater := h'.silent fun ev hev => hall ev (List.mem_append_right _ hev)
    rw [hkey] at hlater
    exact hlater.trans (h.silent fun ev hev => hall ev (List.mem_append_left _ hev))

/-- Without a call of an actuator, and without a change of its feedback, nothing happened. -/
theorem Follows.quiet (m : UInt16) (w : EcbWorld) {shared : SharedDriverState} {time : Time}
    (ht : w.time ≤ time)
    (hshared : shared.feedbackOr (w.ecb.axisKey m) = w.shared.feedbackOr (w.ecb.axisKey m)) :
    Follows m w { w with shared, time } where
  time := ht
  identity := ⟨rfl, rfl⟩
  log := List.prefix_refl _
  kept e he _ := ⟨⟨e, he, .refl e⟩, by simp [callsOf, since]⟩
  paced := by simp [callsOf, since, reconnects]
  silent _ := hshared

/-- A section follows every motor, also those it is not about. -/
theorem Serves.follows {m' : UInt16} (h : Serves m' w w₁)
    (hfits : ∀ e, w.ecb.endpoints m = some e → e.resolved = true → e.Fits m) :
    Follows m w w₁ := by
  have hkey : ∀ key, key = w.ecb.axisKey m →
      (∀ ev ∈ w₁.callsOf w m, ev.readMode = none) →
      w₁.shared.feedbackOr key = w.shared.feedbackOr key := by
    rintro key rfl hall
    apply h.silent
    by_cases hm : m = m'
    · subst hm
      exact .inr fun ev hev => hall ev (mem_callsOf.2 ⟨hev, (h.own ev hev).2⟩)
    · exact .inl (axisKey_ne _ hm)
  refine ⟨h.time, h.identity, h.log, ?_, ?_, hkey _ rfl⟩
  · intro e he hr
    by_cases hm : m = m'
    · subst hm
      exact (h.kept e he hr).imp_right fun hips ev hev => hips ev (mem_callsOf.1 hev).1
    · refine ⟨⟨e, (h.others m hm).1.trans he, .refl e⟩, fun ev hev => ?_⟩
      obtain ⟨hev, hid⟩ := mem_callsOf.1 hev
      obtain ⟨hm', hid'⟩ := h.own ev hev
      exact absurd (toUInt8_inj (hfits e he hr).1 hm' (hid.symm.trans hid')) hm
  · intro e t₀ he hr ht₀
    by_cases hm : m = m'
    · subst hm
      have hall : w₁.callsOf w m = w₁.since w :=
        List.filter_eq_self.2 fun ev hev => by simp [(h.own ev hev).2]
      rw [hall]
      exact h.paced e t₀ he hr ht₀
    · have hnone : w₁.callsOf w m = [] := by
        refine List.filter_eq_nil_iff.2 fun ev hev => ?_
        obtain ⟨hm', hid'⟩ := h.own ev hev
        simp only [decide_eq_true_eq]
        exact fun hid => hm (toUInt8_inj (hfits e he hr).1 hm' (hid.symm.trans hid'))
      rw [hnone, due, due, (h.others m hm).2]
      simp [reconnects]

/-- An operation that does not mutate the feedback of an axis leaves it as it is. -/
theorem feedbackOr_run {call : RecordCall} {key : AxisKey} {s : SharedDriverState}
    (h : ∀ key' fn, call = .mutateAxisFeedback key' fn → key' ≠ key) :
    (call.run s).feedbackOr key = s.feedbackOr key := by
  cases call with
  | registerAxis key' => exact SharedDriverState.feedbackOr_registerAxis
  | mutateAxisFeedback key' fn =>
      exact SharedDriverState.feedbackOr_mutateAxisFeedback_of_ne (h key' fn rfl).symm
  | mutateAxisCommand key' fn => exact SharedDriverState.feedbackOr_mutateAxisCommand
  | setAxisIntent key' intent => exact SharedDriverState.feedbackOr_setAxisIntent

/-- **Step**: every action keeps the invariant, and follows every motor. -/
theorem EcbWorld.Sound.step (h : w.Sound) {action : EcbAction} (hapart : w.Apart action)
    (hs : Step w action w₁) : w₁.Sound ∧ ∀ m, Follows m w w₁ := by
  cases hs with
  | serve hruns =>
      have hsession := hruns.of_wp (wp_section h _)
      exact ⟨hsession.sound, fun m => hsession.toServes.follows (h.fits m)⟩
  | @elsewhere call =>
      have hshared : ∀ m, (call.run w.shared).feedbackOr (w.ecb.axisKey m) =
          w.shared.feedbackOr (w.ecb.axisKey m) := by
        refine fun m => feedbackOr_run ?_
        rintro key' fn rfl
        exact hapart m
      exact ⟨h.wait (Int.le_refl _) hshared, fun m => .quiet m w (Int.le_refl _) (hshared m)⟩
  | wait ht => exact ⟨h.wait ht fun _ => rfl, fun m => .quiet m w ht rfl⟩

/-- **Run**: what one action does, any number of them does. -/
theorem EcbWorld.Sound.reaches (h : w.Sound) (hr : w.Reaches w₁) :
    w₁.Sound ∧ ∀ m, Follows m w w₁ := by
  refine Reach.invariant (I := fun w₁ => w₁.Sound ∧ ∀ m, Follows m w w₁)
    ⟨h, fun m => .quiet m w (Int.le_refl _) rfl⟩ ?_ hr
  rintro s action s' ⟨hsound, hfollows⟩ hapart hs
  obtain ⟨hsound', hfollows'⟩ := hsound.step hapart hs
  exact ⟨hsound', fun m => (hfollows m).trans (hfollows' m)⟩

/-- A new protocol object has noted nothing. -/
theorem sound_start (deviceSpec : String) (sharedState : Bool) (deviceName : String)
    (shared : SharedDriverState) (time : Time) :
    (start deviceSpec sharedState deviceName shared time).Sound := by
  have hempty : ∃ name auto ip, ofSpec deviceSpec sharedState deviceName =
      { sharedState, deviceName := name, defaultAutoDiscovery := auto, defaultIp := ip } := by
    rw [ofSpec]
    split
    · exact ⟨_, false, "", rfl⟩
    · split
      · exact ⟨_, true, "", rfl⟩
      · exact ⟨_, false, _, rfl⟩
  obtain ⟨name, auto, ip, hempty⟩ := hempty
  rw [start, hempty]
  refine ⟨?_, ?_, ?_, audited_nil, fun m _ => rfl, fun m => ?_, ?_⟩
  · exact fun m e he => absurd he (by simp)
  · exact fun m t ht => absurd ht (by simp)
  · exact fun m profile hp => absurd hp (by simp)
  · split <;> rfl
  · exact fun m cache _ hc => absurd hc (by simp)

theorem EcbWorld.Reachable.sound (h : w.Reachable) : w.Sound := by
  obtain ⟨deviceSpec, sharedState, deviceName, shared, time, hr⟩ := h
  exact ((sound_start deviceSpec sharedState deviceName shared time).reaches hr).1

/-! ## scripted runs -/

/-- A reading for scripts. -/
def calmReading : ActuatorReading where
  posRev := .finite 2
  velRpm := .finite 3
  curAmp := .finite (1 / 2)
  enabled := true
  errorCode := 0
  mode := .profileVel

/-- What an actuator answers that may be online. -/
def ActuatorCall.answerFrom (online : Bool) (r : ActuatorReading) : (call : ActuatorCall) → call.Ans
  | .isOnline => online
  | .reconnect => ()
  | .getPosition => r.posRev
  | .getVelocity => r.velRpm
  | .getCurrent => r.curAmp
  | .isEnable => r.enabled
  | .getErrorCode => r.errorCode
  | .getActuatorMode => r.mode
  | .activateActuatorMode _ => ()
  | .setVelocity _ => ()
  | .setPosition _ => ()
  | .setProfileVelocityAcceleration _ => ()
  | .setProfileVelocityDeceleration _ => ()
  | .setProfilePositionAcceleration _ => ()
  | .setProfilePositionDeceleration _ => ()
  | .setProfilePositionMaxVelocity _ => ()
  | .setMinimumPosition _ => ()
  | .setMaximumPosition _ => ()
  | .enablePositionLimit _ => ()
  | .setPositionOffset _ => ()
  | .enableActuator => true
  | .disableActuator => true
  | .clearError => ()

/-- One that finds the actuator of motor 5. -/
def scripted (online : Bool) (w : EcbWorld) : (op : EcbOp) → Option op.Ans
  | .members _ => some w.ecb
  | .shared _ => some w.shared
  | .clock => some (w.time + ms 10)
  | .sleep _ => some ()
  | .initController => some true
  | .processEvents => some ()
  | .lookupActuators => some [⟨5, "192.168.1.30"⟩]
  | .actuator _ _ call => some (call.answerFrom online calmReading)

theorem admits_scripted {online : Bool} (w : EcbWorld) (op : EcbOp) (r : op.Ans)
    (h : scripted online w op = some r) : w.Admits op r := by
  cases op with
  | members f => exact (Option.some.inj h).symm
  | shared f => exact (Option.some.inj h).symm
  | clock =>
      obtain rfl := Option.some.inj h
      exact Int.le_add_of_nonneg_right (by decide)
  | _ => trivial

/-- Sections one after the other, each with an actuator that is online or not. -/
def EcbWorld.serveAll (w : EcbWorld) : List (Bool × Section) → Option EcbWorld
  | [] => some w
  | (online, c) :: rest =>
      ((Section.code c).run ecbWorld (scripted online) w).bind fun r => r.2.serveAll rest

theorem reaches_of_serveAll {sections : List (Bool × Section)}
    (h : w.serveAll sections = some w₁) : w.Reaches w₁ := by
  induction sections generalizing w with
  | nil => exact Option.some.inj h ▸ .refl
  | cons s rest ih =>
      obtain ⟨⟨a, w'⟩, hrun, hrest⟩ := Option.bind_eq_some_iff.1 h
      have hstep : Step w (.serve s.2) w' := .serve (Prog.runs_of_run admits_scripted hrun)
      exact Relation.ReflTransGen.head ⟨.serve s.2, trivial, hstep⟩ (ih hrest)

/-- A script, and another one after it. -/
theorem exists_of_serveAll (w : EcbWorld) (sections sections' : List (Bool × Section))
    {p : EcbWorld → EcbWorld → Bool}
    (h : ((w.serveAll sections).any fun w₁ => (w₁.serveAll sections').any (p w₁)) = true) :
    ∃ w₁ w₂, w.Reaches w₁ ∧ w₁.Reaches w₂ ∧ p w₁ w₂ = true := by
  simp only [Option.any_eq_true] at h
  obtain ⟨w₁, hw₁, w₂, hw₂, hp⟩ := h
  exact ⟨w₁, w₂, reaches_of_serveAll hw₁, reaches_of_serveAll hw₂, hp⟩

/-- A single program. -/
theorem exists_of_run {q : Ecb α} {p : α → EcbWorld → Bool}
    (h : ((q.run ecbWorld (scripted true) w).any fun r => p r.1 r.2) = true) :
    ∃ a w', Prog.Runs ecbWorld q w a w' ∧ p a w' = true := by
  simp only [Option.any_eq_true] at h
  obtain ⟨⟨a, w'⟩, hrun, hp⟩ := h
  exact ⟨a, w', Prog.runs_of_run admits_scripted hrun, hp⟩

/-- The protocol object scripts begin with. -/
def freshWorld : EcbWorld := start "ecb://auto" true "ecb0" {} 0

theorem reachable_of_reaches (h : freshWorld.Reaches w) : w.Reachable :=
  ⟨"ecb://auto", true, "ecb0", {}, 0, h⟩

end

/-! ## what every run keeps -/

section

variable {m : UInt16} {e : MotorEndpoint} {w w' : EcbWorld}

/-- **Settled addresses**: once the endpoint of a motor is resolved it stays where it is, whatever
is routed or discovered later, and the actuator is called there only; it has the id of the motor. -/
theorem endpoint_settled (h : w.Reachable) (hr : w.Reaches w')
    (he : w.ecb.endpoints m = some e) (hres : e.resolved = true) :
    e.Fits m ∧ (∃ e', w'.ecb.endpoints m = some e' ∧ e.SameAddress e') ∧
      ∀ ev ∈ w'.callsOf w m, ev.ip = e.ipAddress := by
  have hsound := h.sound
  obtain ⟨_, hfollows⟩ := hsound.reaches hr
  exact ⟨hsound.fits m e he hres, (hfollows m).kept e he hres⟩

theorem endpoint_settled_rerouted :
    ∃ w w' : EcbWorld, w.Reaches w' ∧ w.ecb.endpoints 5 = some ⟨5, "192.168.1.30", true, false⟩ ∧
      w'.callsOf w 5 ≠ [] ∧ ∀ ev ∈ w'.callsOf w 5, ev.ip = "192.168.1.30" := by
  obtain ⟨w, w', hw, hw', hp⟩ := exists_of_serveAll freshWorld
    [(true, .setVelocity 5 100)]
    [(true, .configureMotorRouting 5 "10.0.0.9" false), (true, .setPosition 5 20000)]
    (p := fun w w' => decide (w.ecb.endpoints 5 = some ⟨5, "192.168.1.30", true, false⟩ ∧
      (w'.callsOf w 5).length = 6)) (by decide +kernel)
  obtain ⟨he, hcalls⟩ := of_decide_eq_true hp
  refine ⟨w, w', hw', he, fun hnone => by simp [hnone] at hcalls, ?_⟩
  exact (endpoint_settled (reachable_of_reaches hw) hw' he rfl).2.2

/-- **Asked first**: a section speaks only with the actuator of its motor, and whatever it orders
or reads comes after the answer, in the same section and the last word on it, that the actuator
is online at this address. -/
theorem orders_asked_first {c : Section} {a : Unit} (h : w.Reachable)
    (hs : Prog.Runs ecbWorld c.code w a w') :
    (∀ ev ∈ w'.since w, ¬ 255 < c.motor ∧ ev.id = c.motor.toUInt8) ∧
      Audited ActuatorEvent.Asked (w'.since w) := by
  have hsession := hs.of_wp (wp_section h.sound c)
  exact ⟨hsession.own, hsession.asked⟩

theorem orders_asked_first_velocity :
    ∃ w w' a, Prog.Runs ecbWorld (Section.setVelocity 5 100).code w a w' ∧
      (w'.since w).length = 6 ∧ Audited ActuatorEvent.Asked (w'.since w) := by
  obtain ⟨a, w', hruns, hp⟩ := exists_of_run (q := (Section.setVelocity 5 100).code)
    (w := freshWorld) (p := fun _ w' => decide ((w'.since freshWorld).length = 6))
    (by decide +kernel)
  exact ⟨freshWorld, w', a, hruns, of_decide_eq_true hp,
    (orders_asked_first (reachable_of_reaches .refl) hruns).2⟩

/-- **Cooldown**: however many sections ask for an actuator that does not answer, and in whatever
order, it is reconnected at most twice in each cooldown, and twice more. -/
theorem recovery_paced (h : w.Reachable) (hr : w.Reaches w')
    (he : w.ecb.endpoints m = some e) (hres : e.resolved = true) :
    ms kRecoveryCooldownMs * reconnects (w'.callsOf w m) ≤
      2 * (w'.time - w.time + ms kRecoveryCooldownMs) := by
  obtain ⟨hsound', hfollows⟩ := h.sound.reaches hr
  have hpaced := (hfollows m).paced e w.time he hres (Int.le_refl _)
  have hbefore : w.time ≤ due w.time m w.ecb := Int.le_max_left _ _
  have hafter : due w.time m w'.ecb ≤ w'.time + ms kRecoveryCooldownMs := by
    have hnow : w.time ≤ w'.time + ms kRecoveryCooldownMs :=
      Int.le_trans (hfollows m).time (Int.le_add_of_nonneg_right (by decide))
    rw [due, Int.max_le]
    refine ⟨hnow, ?_⟩
    cases hnext : w'.ecb.nextRecoveryTry m with
    | none => exact hnow
    | some t => exact hsound'.soon m t hnext
  linarith

theorem recovery_paced_unplugged :
    ∃ w w' : EcbWorld, w.Reaches w' ∧ reconnects (w'.callsOf w 5) = 2 ∧
      ms kRecoveryCooldownMs * reconnects (w'.callsOf w 5) ≤
        2 * (w'.time - w.time + ms kRecoveryCooldownMs) := by
  obtain ⟨w, w', hw, hw', hp⟩ := exists_of_serveAll freshWorld
    [(true, .setVelocity 5 100)]
    [(false, .setVelocity 5 100), (false, .setPosition 5 20000)]
    (p := fun w w' => decide (w.ecb.endpoints 5 = some ⟨5, "192.168.1.30", true, false⟩ ∧
      reconnects (w'.callsOf w 5) = 2)) (by decide +kernel)
  obtain ⟨he, hcalls⟩ := of_decide_eq_true hp
  exact ⟨w, w', hw', hcalls, recovery_paced (reachable_of_reaches hw) hw' he rfl⟩

/-- **Targets**: a velocity or position is sent only to an actuator that was put into the mode of
the target, or reported it, and was not known in the other mode since; and no number is sent
that is not finite. -/
theorem targets_in_mode (h : w.Reachable) : Audited ActuatorEvent.Proper w.log :=
  h.sound.audited

theorem targets_in_mode_switched :
    ∃ w, freshWorld.Reaches w ∧ (w.log.filter fun ev => (ev.call.needs).isSome).length = 3 ∧
      Audited ActuatorEvent.Proper w.log := by
  obtain ⟨w, w', hw, hw', hp⟩ := exists_of_serveAll freshWorld
    [(true, .setPosition 5 20000), (true, .refresh 5)]
    [(true, .setPosition 5 100), (true, .setVelocity 5 100)]
    (p := fun _ w' => decide ((w'.log.filter fun ev => (ev.call.needs).isSome).length = 3))
    (by decide +kernel)
  have hreach : freshWorld.Reaches w' := Relation.ReflTransGen.trans hw hw'
  exact ⟨w', hreach, of_decide_eq_true hp, targets_in_mode (reachable_of_reaches hreach)⟩

/-- A getter answers the last reading in the end, and with one there it asks for nothing. -/
theorem getCached_tells {f : MotorCache → α} {absent a : α} (h : w.Sound)
    (hs : Prog.Runs ecbWorld (getCached f absent m) w a w') :
    (a = (w'.reading m).elim absent fun r => f r.cache) ∧
      ((w.reading m).isSome = true → w' = w) := by
  refine ⟨(hs.of_wp (Session.refl h m).wp_getCached).2, fun hknown => ?_⟩
  obtain ⟨r, hr⟩ := Option.isSome_iff_exists.1 hknown
  have hsame : (getCached f absent m).wp ecbWorld (fun _ w' => w' = w) w := by
    rw [getCached, Prog.wp_bind, wp_members, h.filter_caches, h.caches_eq, hr]
    exact rfl
  exact hs.of_wp hsame

/-- **Getters**: what a getter answers is the last complete reading of the motor, its own if it
had to take one; and with a reading there, it changes nothing and asks the actuator nothing. -/
theorem getters_tell_reading (h : w.Reachable) :
    (∀ a w', Prog.Runs ecbWorld (getPosition m) w a w' →
      (a = (w'.reading m).elim 0 fun r => r.cache.positionRaw) ∧
        ((w.reading m).isSome = true → w' = w)) ∧
    (∀ a w', Prog.Runs ecbWorld (getCurrent m) w a w' →
      (a = (w'.reading m).elim 0 fun r => r.cache.currentRaw) ∧
        ((w.reading m).isSome = true → w' = w)) ∧
    (∀ a w', Prog.Runs ecbWorld (getVelocity m) w a w' →
      (a = (w'.reading m).elim 0 fun r => r.cache.velocityRaw) ∧
        ((w.reading m).isSome = true → w' = w)) ∧
    (∀ a w', Prog.Runs ecbWorld (hasFault m) w a w' →
      (a = (w'.reading m).elim false fun r => r.cache.fault) ∧
        ((w.reading m).isSome = true → w' = w)) :=
  ⟨fun _ _ hs => getCached_tells h.sound hs, fun _ _ hs => getCached_tells h.sound hs,
    fun _ _ hs => getCached_tells h.sound hs, fun _ _ hs => getCached_tells h.sound hs⟩

theorem getters_tell_reading_position :
    ∃ w' a, Prog.Runs ecbWorld (getPosition 5) freshWorld a w' ∧ a = 20000 ∧
      (a = (w'.reading 5).elim 0 fun r => r.cache.positionRaw) ∧
      ((freshWorld.reading 5).isSome = true → w' = freshWorld) := by
  obtain ⟨a, w', hruns, hp⟩ := exists_of_run (q := getPosition 5) (w := freshWorld)
    (p := fun a _ => decide (a = 20000)) (by decide +kernel)
  exact ⟨w', a, hruns, of_decide_eq_true hp,
    (getters_tell_reading (reachable_of_reaches .refl)).1 a w' hruns⟩

/-- **Published feedback**: in every state of a run, the record of a motor in the shared driver
state shows its last complete reading. -/
theorem published_tells_reading {r : ActuatorReading} (h : w.Reachable)
    (hp : w.ecb.publishes = true) (hr : w.reading m = some r) :
    r.cache.ShownBy (w.shared.feedbackOr (w.ecb.axisKey m)) := by
  have hcache : w.ecb.caches m = some r.cache := by rw [h.sound.caches_eq, hr, Option.map_some]
  exact h.sound.published m r.cache hp hcache

theorem published_tells_reading_calm :
    ∃ w r, freshWorld.Reaches w ∧ w.reading 5 = some r ∧ r.cache.positionRaw = 20000 ∧
      r.cache.ShownBy (w.shared.feedbackOr (w.ecb.axisKey 5)) := by
  obtain ⟨w, w', hw, hw', hp⟩ := exists_of_serveAll freshWorld
    [(true, .refresh 5)] [(true, .disable 5), (false, .enable 5)]
    (p := fun _ w' => w'.ecb.publishes &&
      (w'.reading 5).any fun r : ActuatorReading => decide (r.cache.positionRaw = 20000))
    (by decide +kernel)
  simp only [Bool.and_eq_true, Option.any_eq_true] at hp
  obtain ⟨hpublishes, r, hr, hposition⟩ := hp
  have hreach : freshWorld.Reaches w' := Relation.ReflTransGen.trans hw hw'
  exact ⟨w', r, hreach, hr, of_decide_eq_true hposition,
    published_tells_reading (reachable_of_reaches hreach) hpublishes hr⟩

/-- **Ageing**: as long as no reading of a motor is completed, its feedback record stays as it
was, its times of reception with it, whatever is asked or ordered of any motor. -/
theorem feedback_ages (h : w.Reachable) (hr : w.Reaches w')
    (hquiet : ∀ ev ∈ w'.callsOf w m, ev.readMode = none) :
    w'.shared.feedbackOr (w.ecb.axisKey m) = w.shared.feedbackOr (w.ecb.axisKey m) :=
  ((h.sound.reaches hr).2 m).silent hquiet

theorem feedback_ages_unplugged :
    ∃ w w' : EcbWorld, w.Reaches w' ∧ w'.callsOf w 5 ≠ [] ∧
      w'.shared.feedbackOr (w.ecb.axisKey 5) = w.shared.feedbackOr (w.ecb.axisKey 5) := by
  obtain ⟨w, w', hw, hw', hp⟩ := exists_of_serveAll freshWorld
    [(true, .refresh 5)]
    [(false, .refresh 5), (true, .setVelocity 5 100), (true, .refresh 6)]
    (p := fun w w' => decide ((w'.callsOf w 5).length = 9 ∧
      ∀ ev ∈ w'.callsOf w 5, ev.readMode = none)) (by decide +kernel)
  obtain ⟨hcalls, hquiet⟩ := of_decide_eq_true hp
  exact ⟨w, w', hw', fun hnone => by simp [hnone] at hcalls,
    feedback_ages (reachable_of_reaches hw) hw' hquiet⟩

end

end CanDriver
