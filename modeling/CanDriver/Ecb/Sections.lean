import CanDriver.Ecb.Endpoints

/-!
# CanDriver.Ecb.Sections

What a critical section of the ECB protocol may do.

`EcbWorld.Sound` is the invariant: what was said to actuators was proper when it was said, the
noted modes and the caches are what the log tells, and so is the published feedback.  `Serves`
is what a section about one motor does to everything else: nothing.

* `ActuatorEvent.Proper` — orders go to an actuator that is online, targets to one in their mode;
* `Session.sought` — the search for an endpoint leaves the section in contact, or at its end;
* `Busy.said`, `Busy.activated` — in contact, orders and changes of mode go through.
-/

namespace CanDriver

open Interact InnfosEcbProtocol

/-! ## proper events -/

/-- The number a call carries. -/
def ActuatorCall.value : ActuatorCall → Option Double
  | .setVelocity x => some x
  | .setPosition x => some x
  | .setMinimumPosition x => some x
  | .setMaximumPosition x => some x
  | .setPositionOffset x => some x
  | .setProfileVelocityAcceleration x => some x
  | .setProfileVelocityDeceleration x => some x
  | .setProfilePositionAcceleration x => some x
  | .setProfilePositionDeceleration x => some x
  | .setProfilePositionMaxVelocity x => some x
  | _ => none

/-- Whether a call neither asks for anything nor changes the mode. -/
def ActuatorCall.isOrder : ActuatorCall → Bool
  | .isOnline => false
  | .reconnect => false
  | .getPosition => false
  | .getVelocity => false
  | .getCurrent => false
  | .isEnable => false
  | .getErrorCode => false
  | .getActuatorMode => false
  | .activateActuatorMode _ => false
  | _ => true

/-- The mode a call needs: that of its target. -/
def ActuatorCall.needs : ActuatorCall → Option MotorMode
  | .setVelocity _ => some .velocity
  | .setPosition _ => some .position
  | _ => none

namespace ActuatorEvent

/-- A reading, as far as one event tells. -/
def readPosition : ActuatorEvent → Option Double
  | ⟨_, _, _, .getPosition, x⟩ => some x
  | _ => none

/-- Likewise the velocity. -/
def readVelocity : ActuatorEvent → Option Double
  | ⟨_, _, _, .getVelocity, x⟩ => some x
  | _ => none

/-- Likewise the current. -/
def readCurrent : ActuatorEvent → Option Double
  | ⟨_, _, _, .getCurrent, x⟩ => some x
  | _ => none

/-- Likewise whether it is enabled. -/
def readEnabled : ActuatorEvent → Option Bool
  | ⟨_, _, _, .isEnable, x⟩ => some x
  | _ => none

/-- Likewise the error code. -/
def readErrorCode : ActuatorEvent → Option UInt32
  | ⟨_, _, _, .getErrorCode, x⟩ => some x
  | _ => none

/-- Likewise the mode, which completes a reading. -/
def readMode : ActuatorEvent → Option ActuatorMode
  | ⟨_, _, _, .getActuatorMode, x⟩ => some x
  | _ => none

/-- An event is asked for: an order or a reading is preceded by the answer that the actuator is
online at this address. -/
def Asked (before : List ActuatorEvent) (ev : ActuatorEvent) : Prop :=
  ev.contact = none → latest (of ev.id contact) before = some (ev.ip, true)

/-- An event is proper after what was logged before it: a target is preceded by its mode, and
numbers are finite. -/
structure Proper (before : List ActuatorEvent) (ev : ActuatorEvent) : Prop where
  mode : ∀ mode, ev.call.needs = some mode → latest (of ev.id ActuatorEvent.mode) before = some mode
  finite : ∀ x, ev.call.value = some x → x.isFinite = true

/-- A question for contact is always proper. -/
theorem Proper.of_contact {ev : ActuatorEvent} (h : ev.contact ≠ none)
    (before : List ActuatorEvent) : Proper before ev := by
  obtain ⟨time, id, ip, call, answer⟩ := ev
  refine ⟨?_, ?_⟩
  · intro mode hmode
    cases call <;> first | exact absurd rfl h | simp [ActuatorCall.needs] at hmode
  · intro x hx
    cases call <;> first | exact absurd rfl h | simp [ActuatorCall.value] at hx

/-- An event that tells neither a mode nor a part of a reading. -/
structure Blank (ev : ActuatorEvent) : Prop where
  mode : ev.mode = none
  position : ev.readPosition = none
  velocity : ev.readVelocity = none
  current : ev.readCurrent = none
  enabled : ev.readEnabled = none
  errorCode : ev.readErrorCode = none
  readMode : ev.readMode = none

/-- A question for contact tells nothing else. -/
theorem Blank.of_contact {ev : ActuatorEvent} (h : ev.contact ≠ none) : ev.Blank := by
  obtain ⟨time, id, ip, call, answer⟩ := ev
  cases call <;> first | exact absurd rfl h | exact ⟨rfl, rfl, rfl, rfl, rfl, rfl, rfl⟩

/-- An order tells nothing of the actuator. -/
theorem blank_of_isOrder (ev : ActuatorEvent) (h : ev.call.isOrder = true) :
    ev.contact = none ∧ ev.Blank := by
  obtain ⟨time, id, ip, call, answer⟩ := ev
  cases call <;> first
    | exact absurd h Bool.false_ne_true
    | exact ⟨rfl, rfl, rfl, rfl, rfl, rfl, rfl, rfl⟩

theorem of_eq_none {id : UInt8} {f : ActuatorEvent → Option α} {ev : ActuatorEvent}
    (h : f ev = none) : of id f ev = none := by
  rw [of, h, ite_self]

end ActuatorEvent

/-- The last complete reading of an actuator. -/
structure ActuatorReading where
  posRev : Double
  velRpm : Double
  curAmp : Double
  enabled : Bool
  errorCode : UInt32
  mode : ActuatorMode

/-- What `updateCacheLocked` makes of a reading. -/
def ActuatorReading.cache (r : ActuatorReading) : MotorCache :=
  cacheOf r.posRev r.velRpm r.curAmp r.enabled r.errorCode r.mode

open ActuatorEvent in
/-- The last reading of an actuator, which its mode completes. -/
def lastReading (id : UInt8) (log : List ActuatorEvent) : Option ActuatorReading := do
  let posRev ← latest (of id readPosition) log
  let velRpm ← latest (of id readVelocity) log
  let curAmp ← latest (of id readCurrent) log
  let enabled ← latest (of id readEnabled) log
  let errorCode ← latest (of id readErrorCode) log
  let mode ← latest (of id readMode) log
  some { posRev, velRpm, curAmp, enabled, errorCode, mode }

/-! ## the invariant -/

/-- All numbers of a profile are finite. -/
structure MotionProfile.Finite (profile : MotionProfile) : Prop where
  positionMax : profile.positionMaxRpm.isFinite = true
  positionAcceleration : profile.positionAccelerationRpmS.isFinite = true
  positionDeceleration : profile.positionDecelerationRpmS.isFinite = true
  velocityAcceleration : profile.velocityAccelerationRpmS.isFinite = true
  velocityDeceleration : profile.velocityDecelerationRpmS.isFinite = true

/-- A feedback record shows what the cache holds. -/
structure MotorCache.ShownBy (cache : MotorCache) (feedback : AxisFeedbackState) : Prop where
  position : feedback.position = cache.positionRaw
  velocity : feedback.velocity = cache.velocityRaw.toInt
  current : feedback.current = cache.currentRaw.toInt
  mode : cache.modeValid = true → feedback.modeValid = true ∧ feedback.mode = cache.mode
  enabled : feedback.enabled = cache.enabled
  fault : feedback.fault = cache.fault
  valid : feedback.positionValid = true ∧ feedback.velocityValid = true ∧
    feedback.currentValid = true ∧ feedback.enabledValid = true ∧ feedback.faultValid = true ∧
    feedback.feedbackSeen = true ∧ feedback.degraded = false

/-- The mode of the actuator that serves a noted mode, as it reports itself. -/
def servedMode (mode : MotorMode) : Option MotorMode := sdkModeToMotorMode (sdkMode mode)

/-- The invariant of a protocol object in its world. -/
structure EcbWorld.Sound (w : EcbWorld) : Prop where
  fits : ∀ m e, w.ecb.endpoints m = some e → e.resolved = true → e.Fits m
  soon : ∀ m t, w.ecb.nextRecoveryTry m = some t → t ≤ w.time + ms kRecoveryCooldownMs
  profiles : ∀ m profile, w.ecb.motionProfiles m = some profile → profile.Finite
  audited : Audited ActuatorEvent.Proper w.log
  modes : ∀ m, ¬ 255 < m → latest (ActuatorEvent.of m.toUInt8 ActuatorEvent.mode) w.log =
    (w.ecb.modeCache m).bind servedMode
  caches : ∀ m, w.ecb.caches m =
    if 255 < m then none else (lastReading m.toUInt8 w.log).map ActuatorReading.cache
  published : ∀ m cache, w.ecb.publishes = true → w.ecb.caches m = some cache →
    cache.ShownBy (w.shared.feedbackOr (w.ecb.axisKey m))

/-- Two endpoints at one address. -/
def MotorEndpoint.SameAddress (e e' : MotorEndpoint) : Prop :=
  e'.actuatorId = e.actuatorId ∧ e'.ipAddress = e.ipAddress ∧ e'.resolved = e.resolved

/-- What was done since `w` served one motor: others were not spoken of, its own actuator was
called at its address, reconnects kept to the cooldown, and feedback changed by readings only. -/
structure Serves (m : UInt16) (w w' : EcbWorld) : Prop where
  time : w.time ≤ w'.time
  identity : w'.ecb.deviceName = w.ecb.deviceName ∧ w'.ecb.sharedState = w.ecb.sharedState
  others : ∀ m', m' ≠ m → w'.ecb.endpoints m' = w.ecb.endpoints m' ∧
    w'.ecb.nextRecoveryTry m' = w.ecb.nextRecoveryTry m'
  log : w.log <+: w'.log
  own : ∀ ev ∈ w'.since w, ¬ 255 < m ∧ ev.id = m.toUInt8
  kept : ∀ e, w.ecb.endpoints m = some e → e.resolved = true →
    (∃ e', w'.ecb.endpoints m = some e' ∧ e.SameAddress e') ∧
      ∀ ev ∈ w'.since w, ev.ip = e.ipAddress
  paced : ∀ e t₀, w.ecb.endpoints m = some e → e.resolved = true → t₀ ≤ w.time →
    ms kRecoveryCooldownMs * reconnects (w'.since w) ≤
      2 * (due t₀ m w'.ecb - due t₀ m w.ecb)
  silent : ∀ key, (key ≠ w.ecb.axisKey m ∨ ∀ ev ∈ w'.since w, ev.readMode = none) →
    w'.shared.feedbackOr key = w.shared.feedbackOr key

section

variable {m : UInt16} {e e' : MotorEndpoint} {w w₁ w₂ : EcbWorld}

/-! ### addresses and keys -/

theorem MotorEndpoint.SameAddress.refl (e : MotorEndpoint) : e.SameAddress e := ⟨rfl, rfl, rfl⟩

theorem MotorEndpoint.SameAddress.trans {e'' : MotorEndpoint} (h : e.SameAddress e')
    (h' : e'.SameAddress e'') : e.SameAddress e'' :=
  ⟨h'.1.trans h.1, h'.2.1.trans h.2.1, h'.2.2.trans h.2.2⟩

/-- Ids that fit an actuator are told apart by it. -/
theorem toUInt8_inj {m m' : UInt16} (hm : ¬ 255 < m) (hm' : ¬ 255 < m')
    (h : m.toUInt8 = m'.toUInt8) : m = m' := by
  have hle : m.toNat ≤ 255 := UInt16.le_iff_toNat_le.1 (UInt16.not_lt.1 hm)
  have hle' : m'.toNat ≤ 255 := UInt16.le_iff_toNat_le.1 (UInt16.not_lt.1 hm')
  have hnat := congrArg UInt8.toNat h
  simp only [UInt16.toNat_toUInt8] at hnat
  apply UInt16.toNat_inj.1
  omega

theorem axisKey_of_identity (h : w₁.ecb.deviceName = w.ecb.deviceName) (m : UInt16) :
    w₁.ecb.axisKey m = w.ecb.axisKey m := by
  simp [InnfosEcbProtocol.axisKey, h]

/-! ### feedback records -/

namespace SharedDriverState

variable {s : SharedDriverState} {key key' : AxisKey}

@[simp] theorem feedbackOr_touchAxis : (s.touchAxis key).feedbackOr key' = s.feedbackOr key' := by
  by_cases h : key' = key
  · simp [feedbackOr, h]
  · simp [feedbackOr, h]

@[simp] theorem feedbackOr_registerAxis :
    (s.registerAxis key).feedbackOr key' = s.feedbackOr key' :=
  feedbackOr_touchAxis

@[simp] theorem feedbackOr_mutateAxisCommand {fn : AxisCommandState → AxisCommandState} :
    (s.mutateAxisCommand key fn).feedbackOr key' = s.feedbackOr key' :=
  feedbackOr_touchAxis

@[simp] theorem feedbackOr_setAxisIntent {intent : AxisIntent} :
    (s.setAxisIntent key intent).feedbackOr key' = s.feedbackOr key' :=
  feedbackOr_touchAxis

theorem feedbackOr_mutateAxisFeedback_of_ne {fn : AxisFeedbackState → AxisFeedbackState}
    (h : key' ≠ key) : (s.mutateAxisFeedback key fn).feedbackOr key' = s.feedbackOr key' := by
  simp [feedbackOr, h]

theorem feedbackOr_mutateAxisFeedback_self {fn : AxisFeedbackState → AxisFeedbackState} :
    (s.mutateAxisFeedback key fn).feedbackOr key =
      { recomputeAxisObserved (fn (s.feedbackOr key)) with key } := by
  simp [feedbackOr]

end SharedDriverState

/-- What is published shows the cache. -/
theorem shownBy_published {s : SharedDriverState} {key : AxisKey} (cache : MotorCache)
    (nowNs : Time) :
    cache.ShownBy
      ((s.mutateAxisFeedback key (publishedFeedback cache nowNs)).feedbackOr key) := by
  rw [SharedDriverState.feedbackOr_mutateAxisFeedback_self]
  refine ⟨rfl, rfl, rfl, fun hmode => ?_, rfl, rfl, rfl, rfl, rfl, rfl, rfl, rfl, rfl⟩
  simp [SharedDriverState.recomputeAxisObserved, publishedFeedback, hmode]

/-! ### serving a motor -/

theorem Serves.refl (m : UInt16) (w : EcbWorld) : Serves m w w where
  time := Int.le_refl _
  identity := ⟨rfl, rfl⟩
  others _ _ := ⟨rfl, rfl⟩
  log := List.prefix_refl _
  own := by simp
  kept e he _ := ⟨⟨e, he, .refl e⟩, by simp⟩
  paced := by simp [reconnects]
  silent _ _ := rfl

theorem Serves.trans (h : Serves m w w₁) (h' : Serves m w₁ w₂) : Serves m w w₂ := by
  have hsince := EcbWorld.since_trans h.log h'.log
  refine ⟨Int.le_trans h.time h'.time, ⟨h'.identity.1.trans h.identity.1,
    h'.identity.2.trans h.identity.2⟩, ?_, h.log.trans h'.log, ?_, ?_, ?_, ?_⟩
  · intro m' hne
    exact ⟨(h'.others m' hne).1.trans (h.others m' hne).1,
      (h'.others m' hne).2.trans (h.others m' hne).2⟩
  · intro ev hev
    rw [hsince, List.mem_append] at hev
    exact hev.elim (h.own ev) (h'.own ev)
  · intro e he hr
    obtain ⟨⟨e₁, he₁, hsame₁⟩, hips⟩ := h.kept e he hr
    have hr₁ : e₁.resolved = true := hsame₁.2.2.trans hr
    obtain ⟨⟨e₂, he₂, hsame₂⟩, hips₂⟩ := h'.kept e₁ he₁ hr₁
    refine ⟨⟨e₂, he₂, hsame₁.trans hsame₂⟩, fun ev hev => ?_⟩
    rw [hsince, List.mem_append] at hev
    exact hev.elim (hips ev) fun hev => (hips₂ ev hev).trans hsame₁.2.1
  · intro e t₀ he hr ht₀
    obtain ⟨⟨e₁, he₁, hsame₁⟩, _⟩ := h.kept e he hr
    have hpaced := h.paced e t₀ he hr ht₀
    have hpaced' := h'.paced e₁ t₀ he₁ (hsame₁.2.2.trans hr) (Int.le_trans ht₀ h.time)
    rw [hsince, reconnects, List.countP_append]
    unfold reconnects at hpaced hpaced'
    push_cast
    linarith
  · intro key hkey
    rw [h'.silent key ?_, h.silent key ?_]
    · refine hkey.imp_right fun hall ev hev => hall ev ?_
      rw [hsince]
      exact List.mem_append_left _ hev
    · rw [axisKey_of_identity h.identity.1]
      refine hkey.imp_right fun hall ev hev => hall ev ?_
      rw [hsince]
      exact List.mem_append_right _ hev

/-- A search serves its motor. -/
theorem Seeks.serves (h : Seeks 0 m w w₁) : Serves m w w₁ where
  time := h.time
  identity := by rw [h.frame]; exact ⟨rfl, rfl⟩
  others := h.others
  log := h.log
  own ev hev := (h.checks ev hev).2
  kept e he hr := ⟨⟨e, (h.kept e he hr).1, .refl e⟩, (h.kept e he hr).2⟩
  paced e t₀ he hr ht₀ := by simpa using h.paced e t₀ he hr ht₀
  silent _ _ := by rw [h.shared]

/-! ### keeping the invariant -/

/-- What tells no reading leaves the last one. -/
theorem lastReading_append {id : UInt8} {log events : List ActuatorEvent}
    (h : ∀ ev ∈ events, ev.Blank) : lastReading id (log ++ events) = lastReading id log := by
  simp only [lastReading,
    latest_append_of_silent fun ev hev => ActuatorEvent.of_eq_none (h ev hev).position,
    latest_append_of_silent fun ev hev => ActuatorEvent.of_eq_none (h ev hev).velocity,
    latest_append_of_silent fun ev hev => ActuatorEvent.of_eq_none (h ev hev).current,
    latest_append_of_silent fun ev hev => ActuatorEvent.of_eq_none (h ev hev).enabled,
    latest_append_of_silent fun ev hev => ActuatorEvent.of_eq_none (h ev hev).errorCode,
    latest_append_of_silent fun ev hev => ActuatorEvent.of_eq_none (h ev hev).readMode]

/-- A search keeps the invariant. -/
theorem EcbWorld.Sound.sought (hw : w.Sound) (h : Seeks 0 m w w₁) : w₁.Sound := by
  have hlog := EcbWorld.log_of_since h.log
  have hblank : ∀ ev ∈ w₁.since w, ev.Blank := fun ev hev => .of_contact (h.checks ev hev).1
  refine ⟨?_, ?_, ?_, ?_, ?_, ?_, ?_⟩
  · intro m' e he hr
    by_cases hm : m' = m
    · subst hm
      exact h.fits e he hr
    · exact hw.fits m' e ((h.others m' hm).1 ▸ he) hr
  · intro m' t ht
    by_cases hm : m' = m
    · subst hm
      exact h.soon t ht
    · exact Int.le_trans (hw.soon m' t ((h.others m' hm).2 ▸ ht)) (Int.add_le_add_right h.time _)
  · rw [h.frame]
    exact hw.profiles
  · rw [hlog]
    exact hw.audited.append fun ev hev pre => .of_contact (h.checks ev hev).1 pre
  · intro m' hm'
    rw [hlog, latest_append_of_silent fun ev hev => ActuatorEvent.of_eq_none (hblank ev hev).mode,
      h.frame]
    exact hw.modes m' hm'
  · intro m'
    rw [hlog, lastReading_append hblank, h.frame]
    exact hw.caches m'
  · rw [h.shared, h.frame]
    exact hw.published

/-- Time passes, and records of others change. -/
theorem EcbWorld.Sound.wait (hw : w.Sound) (ht : w.time ≤ t) {shared : SharedDriverState}
    (hshared : ∀ m, shared.feedbackOr (w.ecb.axisKey m) = w.shared.feedbackOr (w.ecb.axisKey m)) :
    EcbWorld.Sound { w with shared, time := t } :=
  { hw with
    soon := fun m t' ht' => Int.le_trans (hw.soon m t' ht') (Int.add_le_add_right ht _)
    published := fun m cache hp hc => (hshared m).symm ▸ hw.published m cache hp hc }

theorem Serves.wait (m : UInt16) (w : EcbWorld) (ht : w.time ≤ t) {shared : SharedDriverState}
    (hshared : ∀ key, shared.feedbackOr key = w.shared.feedbackOr key) :
    Serves m w { w with shared, time := t } :=
  { Serves.refl m w with
    time := ht
    silent := fun key _ => hshared key }

/-! ### a section at work -/

/-- What a section about a motor has done since `w`. -/
structure Session (m : UInt16) (w w' : EcbWorld) : Prop extends Serves m w w' where
  sound : w'.Sound
  asked : Audited ActuatorEvent.Asked (w'.since w)

/-- The actuator at an address has answered since `w`. -/
def Contact (m : UInt16) (e : MotorEndpoint) (w w' : EcbWorld) : Prop :=
  ∃ e', Reached m e' w w' ∧ e.SameAddress e'

/-- A section that has reached its actuator. -/
structure Busy (m : UInt16) (e : MotorEndpoint) (w w' : EcbWorld) : Prop
    extends Session m w w' where
  contact : Contact m e w w'

theorem Session.refl (h : w.Sound) (m : UInt16) : Session m w w :=
  ⟨.refl m w, h, by rw [EcbWorld.since_self]; exact audited_nil⟩

theorem Session.sought {ready : Bool} (h : Session m w w₁) (hs : Sought m w₁ ready w₂) :
    Session m w w₂ ∧ (ready = true → ∃ e, w₂.ecb.endpoints m = some e ∧ Busy m e w w₂) := by
  have hsince := EcbWorld.since_trans h.log hs.1.log
  have hnext : Session m w w₂ :=
    { toServes := h.toServes.trans hs.1.serves
      sound := h.sound.sought hs.1
      asked := by
        rw [hsince]
        exact h.asked.append fun ev hev pre hnone => absurd hnone (hs.1.checks ev hev).1 }
  refine ⟨hnext, fun hready => ?_⟩
  obtain ⟨e, he⟩ := hs.2 hready
  have hreached : Reached m e w w₂ :=
    { he with answered := by rw [hsince, latest_append, he.answered, Option.some_or] }
  exact ⟨e, he.found, { hnext with contact := ⟨e, hreached, .refl e⟩ }⟩

theorem Session.wp_ensureEndpointReady (h : Session m w w₁) :
    (ensureEndpointReady m).wp ecbWorld (fun ready w₂ => Session m w w₂ ∧
      (ready = true → ∃ e, w₂.ecb.endpoints m = some e ∧ Busy m e w w₂)) w₁ :=
  Prog.wp_mono (CanDriver.wp_ensureEndpointReady (h.sound.fits m) (h.sound.soon m))
    fun _ _ hs => h.sought hs

/-- Contact is not lost by what is no question for it. -/
theorem Contact.said {call : ActuatorCall} {answer : call.Ans} (h : Contact m e w w₁)
    (hlog : w.log <+: w₁.log)
    (hcall : ActuatorEvent.contact ⟨w₁.time, e.actuatorId, e.ipAddress, call, answer⟩ = none) :
    Contact m e w (w₁.said e call answer) := by
  obtain ⟨e', he', hsame⟩ := h
  refine ⟨e', ⟨he'.found, he'.resolved, he'.controller, ?_⟩, hsame⟩
  rw [EcbWorld.since_said hlog, latest_concat, ActuatorEvent.of_eq_none hcall, Option.none_or]
  exact he'.answered

/-- What is said in contact was asked for. -/
theorem Contact.asked (h : Contact m e w w₁) (call : ActuatorCall) (answer : call.Ans) :
    ActuatorEvent.Asked (w₁.since w) ⟨w₁.time, e.actuatorId, e.ipAddress, call, answer⟩ := by
  obtain ⟨e', he', hid, hip, _⟩ := h
  intro _
  rw [← hid, ← hip]
  exact he'.answered

/-- What is said to the actuator in contact serves the motor. -/
theorem Contact.serves {call : ActuatorCall} {answer : call.Ans} (h : Contact m e w w₁)
    (hfits : ∀ e, w₁.ecb.endpoints m = some e → e.resolved = true → e.Fits m)
    (hcall : ActuatorEvent.contact ⟨w₁.time, e.actuatorId, e.ipAddress, call, answer⟩ = none) :
    Serves m w₁ (w₁.said e call answer) := by
  obtain ⟨e', he', hid, hip, _⟩ := h
  have hsince : (w₁.said e call answer).since w₁ =
      [⟨w₁.time, e.actuatorId, e.ipAddress, call, answer⟩] := by
    simp [EcbWorld.since, EcbWorld.said]
  have hfits := hfits e' he'.found he'.resolved
  have hnone : reconnects ((w₁.said e call answer).since w₁) = 0 := by
    rw [hsince, reconnects, List.countP_singleton]
    cases call <;> first | rfl | simp [ActuatorEvent.contact] at hcall
  refine
    { Serves.refl m w₁ with
      log := List.prefix_append _ _
      own := ?_
      kept := ?_
      paced := ?_
      silent := fun _ _ => rfl }
  · rw [hsince]
    intro ev hev
    obtain rfl := List.mem_singleton.1 hev
    exact ⟨hfits.1, hid ▸ hfits.2⟩
  · intro e₀ he₀ _
    refine ⟨⟨e₀, he₀, .refl e₀⟩, ?_⟩
    rw [hsince]
    intro ev hev
    obtain rfl := List.mem_singleton.1 hev
    obtain rfl : e' = e₀ := Option.some.inj (he'.found.symm.trans he₀)
    exact hip.symm
  · intro e₀ t₀ _ _ _
    rw [hnone]
    simp [EcbWorld.said]

/-- **Order**: an order in contact that is no change of mode goes through. -/
theorem Busy.said (h : Busy m e w w₁) (call : ActuatorCall) (horder : call.isOrder = true)
    (hmode : ∀ mode, call.needs = some mode → (w₁.ecb.modeCache m).bind servedMode = some mode)
    (hvalue : ∀ x, call.value = some x → x.isFinite = true) (answer : call.Ans) :
    Busy m e w (w₁.said e call answer) := by
  have hsound := h.sound
  obtain ⟨e', he', hid, hip, hres⟩ := id h.contact
  have hfits := hsound.fits m e' he'.found he'.resolved
  have hproper : ActuatorEvent.Proper w₁.log
      ⟨w₁.time, e.actuatorId, e.ipAddress, call, answer⟩ := by
    refine ⟨fun mode hneeds => ?_, hvalue⟩
    rw [← hid, hfits.2, hsound.modes m hfits.1, hmode mode hneeds]
  obtain ⟨hcall, hblank⟩ := ActuatorEvent.blank_of_isOrder
    ⟨w₁.time, e.actuatorId, e.ipAddress, call, answer⟩ horder
  have hblank : ∀ ev ∈ [(⟨w₁.time, e.actuatorId, e.ipAddress, call, answer⟩ : ActuatorEvent)],
      ev.Blank := fun ev hev => List.mem_singleton.1 hev ▸ hblank
  refine
    { toServes := h.toServes.trans (h.contact.serves (hsound.fits m) hcall)
      contact := h.contact.said h.log hcall
      asked := by
        rw [EcbWorld.since_said h.log, audited_concat]
        exact ⟨h.asked, h.contact.asked call answer⟩
      sound :=
        { hsound with
          audited := audited_concat.2 ⟨hsound.audited, hproper⟩
          modes := ?_
          caches := ?_ } }
  · intro m' hm'
    rw [EcbWorld.said,
      latest_append_of_silent fun ev hev => ActuatorEvent.of_eq_none (hblank ev hev).mode]
    exact hsound.modes m' hm'
  · intro m'
    rw [EcbWorld.said, lastReading_append hblank]
    exact hsound.caches m'

theorem Busy.wp_order {call : ActuatorCall} {Q : Unit → EcbWorld → Prop} (h : Busy m e w w₁)
    (horder : call.isOrder = true)
    (hmode : ∀ mode, call.needs = some mode → (w₁.ecb.modeCache m).bind servedMode = some mode)
    (hvalue : ∀ x, call.value = some x → x.isFinite = true)
    (hQ : ∀ answer, Busy m e w (w₁.said e call answer) → Q () (w₁.said e call answer)) :
    (tell e call).wp ecbWorld Q w₁ :=
  wp_tell.2 fun answer => hQ answer (h.said call horder hmode hvalue answer)

/-- The endpoint may be spoken of by what the map has of it. -/
theorem Busy.at (h : Busy m e w w₁) (hsame : e.SameAddress e') : Busy m e' w w₁ := by
  obtain ⟨e₁, he₁, hsame₁⟩ := h.contact
  exact { h with
    contact := ⟨e₁, he₁, hsame₁.1.trans hsame.1.symm, hsame₁.2.1.trans hsame.2.1.symm,
      hsame₁.2.2.trans hsame.2.2.symm⟩ }

/-! ### what else is done in a section -/

theorem Session.wait (h : Session m w w₁) (ht : w₁.time ≤ t) {shared : SharedDriverState}
    (hshared : ∀ key, shared.feedbackOr key = w₁.shared.feedbackOr key) :
    Session m w { w₁ with shared, time := t } :=
  ⟨h.toServes.trans (.wait m w₁ ht hshared), h.sound.wait ht fun _ => hshared _, h.asked⟩

theorem Session.wp_syncSharedCommand (h : Session m w w₁) (position velocity : Int)
    (mode : MotorMode) (valid : Bool) :
    (syncSharedCommand m position velocity mode valid).wp ecbWorld (fun _ => Session m w) w₁ := by
  rw [syncSharedCommand, Prog.wp_bind, wp_members, Prog.wp_ite]
  split
  · simp only [Prog.wp_bind, wp_now, wp_modifyShared]
    exact fun time htime => h.wait htime fun _ => SharedDriverState.feedbackOr_mutateAxisCommand
  · exact h

theorem Session.wp_syncSharedIntent (h : Session m w w₁) (intent : AxisIntent) :
    (syncSharedIntent m intent).wp ecbWorld (fun _ => Session m w) w₁ := by
  rw [syncSharedIntent, Prog.wp_bind, wp_members, Prog.wp_ite]
  split
  · rw [wp_modifyShared]
    exact h.wait (Int.le_refl _) fun _ => SharedDriverState.feedbackOr_setAxisIntent
  · exact h

/-- Whether the motor is enabled may be noted in its endpoint. -/
theorem Busy.noteEnabled (h : Busy m e w w₁) (enabled : Bool) :
    Busy m e w { w₁ with
      ecb :=
        { w₁.ecb with
          endpoints :=
            put w₁.ecb.endpoints m { (w₁.ecb.endpoints m).getD {} with enabled } } } := by
  have hsound := h.sound
  obtain ⟨e', he', hsame⟩ := id h.contact
  rw [he'.found, Option.getD_some]
  refine
    { asked := h.asked
      toServes := h.toServes.trans
        { Serves.refl m w₁ with
          others := fun m' hne => ⟨put_of_ne _ _ hne, rfl⟩
          kept := ?_ }
      sound := { hsound with fits := ?_ }
      contact :=
        ⟨{ e' with enabled }, ⟨by simp, he'.resolved, he'.controller, he'.answered⟩, hsame⟩ }
  · intro e₀ he₀ _
    obtain rfl : e' = e₀ := Option.some.inj (he'.found.symm.trans he₀)
    exact ⟨⟨{ e' with enabled }, by simp, rfl, rfl, rfl⟩, by simp [EcbWorld.since]⟩
  · intro m' e₀ he₀ hr
    by_cases hm : m' = m
    · subst hm
      obtain rfl : { e' with enabled } = e₀ := by simpa using he₀
      exact hsound.fits m' e' he'.found he'.resolved
    · exact hsound.fits m' e₀ ((put_of_ne _ _ hm).symm.trans he₀) hr

/-- The world with a mode noted. -/
def EcbWorld.noted (w : EcbWorld) (m : UInt16) (mode : MotorMode) : EcbWorld :=
  { w with ecb := { w.ecb with modeCache := put w.ecb.modeCache m mode } }

theorem EcbWorld.noted_of_known {mode : MotorMode} (h : w.ecb.modeCache m = some mode) :
    w.noted m mode = w := by
  have hput : put w.ecb.modeCache m mode = w.ecb.modeCache := by
    rw [put, ← h, Function.update_eq_self]
  rw [noted, hput]

/-- **Activation**: a mode is activated and noted. -/
theorem Busy.activated (h : Busy m e w w₁) (mode : MotorMode) (answer : Unit) :
    Busy m e w ((w₁.said e (.activateActuatorMode (sdkMode mode)) answer).noted m mode) := by
  have hsound := h.sound
  obtain ⟨e', he', hid, hip, hres⟩ := id h.contact
  have hfits := hsound.fits m e' he'.found he'.resolved
  have hcall : ActuatorEvent.contact ⟨w₁.time, e.actuatorId, e.ipAddress,
    .activateActuatorMode (sdkMode mode), answer⟩ = none := rfl
  have hproper : ActuatorEvent.Proper w₁.log ⟨w₁.time, e.actuatorId, e.ipAddress,
      .activateActuatorMode (sdkMode mode), answer⟩ :=
    ⟨fun mode hneeds => by simp [ActuatorCall.needs] at hneeds,
      fun x hx => by simp [ActuatorCall.value] at hx⟩
  have hsaid : Serves m w₁ (w₁.said e (.activateActuatorMode (sdkMode mode)) answer) :=
    h.contact.serves (hsound.fits m) hcall
  have hserves := h.toServes.trans hsaid
  obtain ⟨e₁, he₁, hsame₁⟩ := h.contact.said h.log hcall
  have hasked : Audited ActuatorEvent.Asked
      ((w₁.said e (.activateActuatorMode (sdkMode mode)) answer).since w) := by
    rw [EcbWorld.since_said h.log, audited_concat]
    exact ⟨h.asked, h.contact.asked (.activateActuatorMode (sdkMode mode)) answer⟩
  refine
    { toServes := { hserves with }
      asked := hasked
      contact := ⟨e₁, ⟨he₁.found, he₁.resolved, he₁.controller, he₁.answered⟩, hsame₁⟩
      sound :=
        { hsound with
          audited := audited_concat.2 ⟨hsound.audited, hproper⟩
          modes := ?_
          caches := ?_ } }
  · intro m' hm'
    simp only [EcbWorld.noted, EcbWorld.said, latest_concat]
    by_cases hm : m' = m
    · subst hm
      rw [ActuatorEvent.of_self (hid.symm.trans hfits.2), put_self, Option.bind_some]
      cases mode <;> rfl
    · have hne : e.actuatorId ≠ m'.toUInt8 := by
        rw [← hid, hfits.2]
        exact fun heq => hm (toUInt8_inj hfits.1 hm' heq).symm
      rw [ActuatorEvent.of_ne hne, Option.none_or, put_of_ne _ _ hm]
      exact hsound.modes m' hm'
  · intro m'
    have hlast : lastReading m'.toUInt8 (w₁.log ++ [⟨w₁.time, e.actuatorId, e.ipAddress,
        .activateActuatorMode (sdkMode mode), answer⟩]) = lastReading m'.toUInt8 w₁.log := by
      simp [lastReading, ActuatorEvent.of, ActuatorEvent.readPosition, ActuatorEvent.readVelocity,
        ActuatorEvent.readCurrent, ActuatorEvent.readEnabled, ActuatorEvent.readErrorCode,
        ActuatorEvent.readMode]
    rw [EcbWorld.noted, EcbWorld.said, hlast]
    exact hsound.caches m'

end

end CanDriver
