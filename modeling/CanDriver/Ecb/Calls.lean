import CanDriver.Ecb.Sections

/-!
# CanDriver.Ecb.Calls

Every critical section of the ECB protocol keeps the invariant, and serves one motor.

* `Busy.wp_enterMode` — after it, the mode a target needs is noted;
* `Session.wp_updateCache` — a reading goes into the cache and is published at once;
* `Session.wp_withEndpoint` — a command works on an actuator that has just answered, or not at all;
* `wp_section` — one lemma for all sections.
-/

namespace CanDriver

open Interact InnfosEcbProtocol

section

variable {m : UInt16} {e : MotorEndpoint} {w w₁ : EcbWorld}

/-! ## modes and profiles -/

/-- A profile in use has finite numbers only. -/
theorem EcbWorld.Sound.motionProfile (h : w.Sound) (m : UInt16) :
    (w.ecb.motionProfile m).Finite := by
  rw [InnfosEcbProtocol.motionProfile]
  cases hp : w.ecb.motionProfiles m with
  | none => exact ⟨rfl, rfl, rfl, rfl, rfl⟩
  | some profile => exact h.profiles m profile hp

/-- A section in contact that is about to note a mode; its members are still `s`. -/
structure Noting (m : UInt16) (e : MotorEndpoint) (mode : MotorMode) (w : EcbWorld)
    (s : InnfosEcbProtocol) (w' : EcbWorld) : Prop where
  busy : Busy m e w (w'.noted m mode)
  ecb : w'.ecb = s

/-- A value of the profile. -/
theorem Noting.wp_profile {mode : MotorMode} {s : InnfosEcbProtocol} {call : ActuatorCall}
    {Q : Unit → EcbWorld → Prop} (h : Noting m e mode w s w₁) (horder : call.isOrder = true)
    (hneeds : call.needs = none) (hvalue : ∀ x, call.value = some x → x.isFinite = true)
    (hQ : ∀ w', Noting m e mode w s w' → Q () w') : (tell e call).wp ecbWorld Q w₁ := by
  rw [wp_tell]
  intro answer
  have hsaid := h.busy.said call horder (fun mode hmode => by simp [hneeds] at hmode) hvalue answer
  exact hQ _ ⟨hsaid, h.ecb⟩

/-- The profile of the mode. -/
theorem Noting.wp_applyProfileForMode {mode : MotorMode} {s : InnfosEcbProtocol}
    (h : Noting m e mode w s w₁) :
    (applyProfileForMode m mode).wp ecbWorld (fun _ w' => Noting m e mode w s w') w₁ := by
  obtain ⟨e', he', hsame⟩ := id h.busy.contact
  have hfound : w₁.ecb.endpoints m = some e' := he'.found
  have hcontroller : w₁.ecb.controller = true := he'.controller
  have hprofile : (w₁.ecb.motionProfile m).Finite := h.busy.sound.motionProfile m
  have hat : Noting m e' mode w s w₁ := ⟨h.busy.at hsame, h.ecb⟩
  have hback : ∀ w', Noting m e' mode w s w' → Noting m e mode w s w' := fun w' hw' =>
    ⟨hw'.busy.at ⟨hsame.1.symm, hsame.2.1.symm, hsame.2.2.symm⟩, hw'.ecb⟩
  simp only [applyProfileForMode, Prog.wp_bind, wp_members, hfound, Option.filter_some,
    he'.resolved, hcontroller, Bool.and_self, if_true]
  rw [Prog.wp_ite]
  split
  · rw [Prog.wp_bind]
    refine hat.wp_profile rfl rfl (fun x hx => ?_) fun w₂ hw₂ => ?_
    · exact Option.some.inj hx ▸ hprofile.velocityAcceleration
    refine hw₂.wp_profile rfl rfl (fun x hx => ?_) fun w₃ hw₃ => hback w₃ hw₃
    exact Option.some.inj hx ▸ hprofile.velocityDeceleration
  · simp only [Prog.wp_bind]
    refine hat.wp_profile rfl rfl (fun x hx => ?_) fun w₂ hw₂ => ?_
    · exact Option.some.inj hx ▸ hprofile.positionAcceleration
    refine hw₂.wp_profile rfl rfl (fun x hx => ?_) fun w₃ hw₃ => ?_
    · exact Option.some.inj hx ▸ hprofile.positionDeceleration
    refine hw₃.wp_profile rfl rfl (fun x hx => ?_) fun w₄ hw₄ => hback w₄ hw₄
    exact Option.some.inj hx ▸ hprofile.positionMax

/-- **Activation**: a mode is activated with its profile, and is about to be noted. -/
theorem Busy.wp_activate {mode : MotorMode} {Q : Unit → EcbWorld → Prop} (h : Busy m e w w₁)
    (hQ : ∀ w', Noting m e mode w w₁.ecb w' → Q () w') :
    (tell e (.activateActuatorMode (sdkMode mode)) >>= fun _ => applyProfileForMode m mode).wp
      ecbWorld Q w₁ := by
  rw [Prog.wp_bind, wp_tell]
  intro answer
  have hnoting : Noting m e mode w w₁.ecb
      (w₁.said e (.activateActuatorMode (sdkMode mode)) answer) :=
    ⟨h.activated mode answer, rfl⟩
  exact Prog.wp_mono hnoting.wp_applyProfileForMode fun _ w' hw' => hQ w' hw'

theorem Busy.wp_enterMode (h : Busy m e w w₁) (mode : MotorMode) :
    (enterMode m e mode).wp ecbWorld
      (fun _ w' => Busy m e w w' ∧ w'.ecb.modeCache m = some mode) w₁ := by
  rw [enterMode, Prog.wp_bind, wp_members, Prog.wp_ite]
  split
  · next hknown => exact ⟨h, hknown⟩
  · rw [← Prog.bind_assoc, Prog.wp_bind]
    refine h.wp_activate fun w' hw' => ?_
    rw [noteMode, wp_modify]
    exact ⟨hw'.busy, put_self _ _ _⟩

theorem Busy.wp_reactivateMode (h : Busy m e w w₁) :
    (reactivateMode m e).wp ecbWorld (fun _ w' => Busy m e w w') w₁ := by
  rw [reactivateMode, Prog.wp_bind, wp_members]
  cases hmode : w₁.ecb.modeCache m with
  | none => exact h
  | some mode =>
      dsimp only
      rw [← Prog.bind_assoc, Prog.wp_bind]
      refine h.wp_activate fun w' hw' => ?_
      rw [wp_processEvents]
      have hknown : w'.ecb.modeCache m = some mode := hw'.ecb ▸ hmode
      exact EcbWorld.noted_of_known hknown ▸ hw'.busy

/-! ## reading an actuator -/

/-- The world after the six questions of a reading. -/
def EcbWorld.read (w : EcbWorld) (e : MotorEndpoint) (r : ActuatorReading) : EcbWorld :=
  (((((w.said e .getPosition r.posRev).said e .getVelocity r.velRpm).said e .getCurrent
    r.curAmp).said e .isEnable r.enabled).said e .getErrorCode r.errorCode).said e .getActuatorMode
    r.mode

/-- A section in contact that is reading; its members are still `s`. -/
structure Enquiring (m : UInt16) (e : MotorEndpoint) (w : EcbWorld) (s : InnfosEcbProtocol)
    (w' : EcbWorld) : Prop where
  serves : Serves m w w'
  contact : Contact m e w w'
  audited : Audited ActuatorEvent.Proper w'.log
  asked : Audited ActuatorEvent.Asked (w'.since w)
  ecb : w'.ecb = s

/-- One question. -/
theorem Enquiring.said {s : InnfosEcbProtocol} (h : Enquiring m e w s w₁)
    (hfits : ∀ e, s.endpoints m = some e → e.resolved = true → e.Fits m) (call : ActuatorCall)
    (answer : call.Ans) (hneeds : call.needs = none) (hvalue : call.value = none)
    (hcall : ActuatorEvent.contact ⟨w₁.time, e.actuatorId, e.ipAddress, call, answer⟩ = none) :
    Enquiring m e w s (w₁.said e call answer) where
  serves := h.serves.trans (h.contact.serves (h.ecb ▸ hfits) hcall)
  contact := h.contact.said h.serves.log hcall
  audited :=
    audited_concat.2 ⟨h.audited, fun mode hmode => by simp [hneeds] at hmode,
      fun x hx => by simp [hvalue] at hx⟩
  asked := by
    rw [EcbWorld.since_said h.serves.log, audited_concat]
    exact ⟨h.asked, h.contact.asked call answer⟩
  ecb := h.ecb

/-- What is asked for in a reading is proper, and tells of one actuator only. -/
theorem Busy.read (h : Busy m e w w₁) (r : ActuatorReading) :
    Enquiring m e w w₁.ecb (w₁.read e r) := by
  have hfits := h.sound.fits m
  have h₀ : Enquiring m e w w₁.ecb w₁ := ⟨h.toServes, h.contact, h.sound.audited, h.asked, rfl⟩
  have h₁ := h₀.said hfits .getPosition r.posRev rfl rfl rfl
  have h₂ := h₁.said hfits .getVelocity r.velRpm rfl rfl rfl
  have h₃ := h₂.said hfits .getCurrent r.curAmp rfl rfl rfl
  have h₄ := h₃.said hfits .isEnable r.enabled rfl rfl rfl
  have h₅ := h₄.said hfits .getErrorCode r.errorCode rfl rfl rfl
  exact h₅.said hfits .getActuatorMode r.mode rfl rfl rfl

/-- What an observer has noticed after one more call. -/
theorem latest_said {id : UInt8} {f : ActuatorEvent → Option α} (w : EcbWorld) (e : MotorEndpoint)
    (call : ActuatorCall) (answer : call.Ans) :
    latest (ActuatorEvent.of id f) (w.said e call answer).log =
      (if e.actuatorId = id then f ⟨w.time, e.actuatorId, e.ipAddress, call, answer⟩ else none).or
        (latest (ActuatorEvent.of id f) w.log) := by
  rw [EcbWorld.said, latest_concat, ActuatorEvent.of]

/-- The reading is the last one of its actuator. -/
theorem lastReading_read_self (w : EcbWorld) (e : MotorEndpoint) (r : ActuatorReading) :
    lastReading e.actuatorId (w.read e r).log = some r := by
  simp [lastReading, EcbWorld.read, latest_said, ActuatorEvent.readPosition,
    ActuatorEvent.readVelocity, ActuatorEvent.readCurrent, ActuatorEvent.readEnabled,
    ActuatorEvent.readErrorCode, ActuatorEvent.readMode]

/-- It is none of another one. -/
theorem lastReading_read_of_ne {id : UInt8} (w : EcbWorld) (r : ActuatorReading)
    (h : e.actuatorId ≠ id) :
    lastReading id (w.read e r).log = lastReading id w.log := by
  simp [lastReading, EcbWorld.read, latest_said, h]

/-- The mode it reports counts if it is one of the motor's. -/
theorem latest_mode_read (id : UInt8) (w : EcbWorld) (e : MotorEndpoint) (r : ActuatorReading) :
    latest (ActuatorEvent.of id ActuatorEvent.mode) (w.read e r).log =
      (if e.actuatorId = id then sdkModeToMotorMode r.mode else none).or
        (latest (ActuatorEvent.of id ActuatorEvent.mode) w.log) := by
  simp [EcbWorld.read, latest_said, ActuatorEvent.mode]

/-- The world after a reading is stored, and published at a time. -/
def EcbWorld.stored (w : EcbWorld) (m : UInt16) (e : MotorEndpoint) (r : ActuatorReading)
    (shared : SharedDriverState) (time : Time) : EcbWorld :=
  { w.read e r with ecb := storeCache m r.cache w.ecb, shared, time }

theorem axisKey_ne (s : InnfosEcbProtocol) {m' : UInt16} (h : m' ≠ m) :
    s.axisKey m' ≠ s.axisKey m :=
  fun heq => h (congrArg AxisKey.motorId heq)

/-- A reading that is stored serves its motor. -/
theorem Busy.serves_stored (h : Busy m e w w₁) (r : ActuatorReading) {t : Time} (ht : w₁.time ≤ t)
    (shared : SharedDriverState)
    (hshared : ∀ key, key ≠ w₁.ecb.axisKey m → shared.feedbackOr key = w₁.shared.feedbackOr key) :
    Serves m w (w₁.stored m e r shared t) := by
  have hserves := (h.read r).serves
  refine
    { hserves with
      time := Int.le_trans hserves.time ht
      others := fun m' hne => ⟨(put_of_ne _ _ hne).trans (hserves.others m' hne).1,
        (hserves.others m' hne).2⟩
      kept := ?_
      silent := ?_ }
  · intro e₀ he₀ hr₀
    obtain ⟨⟨e₁, he₁, hsame⟩, hips⟩ := hserves.kept e₀ he₀ hr₀
    refine ⟨⟨{ e₁ with enabled := r.cache.enabled }, ?_, hsame⟩, hips⟩
    have he₁ : w₁.ecb.endpoints m = some e₁ := he₁
    simp [EcbWorld.stored, storeCache, he₁]
  · intro key hkey
    obtain hne | hall := hkey
    · have hidentity : w₁.ecb.axisKey m = w.ecb.axisKey m :=
        axisKey_of_identity h.identity.1 m
      exact (hshared key (hidentity ▸ hne)).trans (hserves.silent key (.inl hne))
    · -- the reading itself is an event that tells a mode
      have hmem : (⟨w₁.time, e.actuatorId, e.ipAddress, .getActuatorMode, r.mode⟩ : ActuatorEvent) ∈
          (w₁.read e r).since w := by
        have hlog : w₁.log <+: (w₁.read e r).log := ⟨_, by simp [EcbWorld.read, EcbWorld.said]; rfl⟩
        rw [EcbWorld.since_trans h.log hlog]
        simp [EcbWorld.since, EcbWorld.read, EcbWorld.said]
      exact absurd (hall _ hmem) (by simp [ActuatorEvent.readMode])

/-- A reading that is stored and published keeps the invariant. -/
theorem Busy.sound_stored (h : Busy m e w w₁) (r : ActuatorReading) {t : Time} (ht : w₁.time ≤ t)
    (shared : SharedDriverState)
    (hshared : ∀ key, key ≠ w₁.ecb.axisKey m → shared.feedbackOr key = w₁.shared.feedbackOr key)
    (hshown : w₁.ecb.publishes = true → r.cache.ShownBy (shared.feedbackOr (w₁.ecb.axisKey m))) :
    (w₁.stored m e r shared t).Sound := by
  have hsound := h.sound
  have haudited := (h.read r).audited
  obtain ⟨e', he', hid, -, -⟩ := id h.contact
  have hfits := hsound.fits m e' he'.found he'.resolved
  have hidm : e.actuatorId = m.toUInt8 := hid.symm.trans hfits.2
  have hother : ∀ m', ¬ 255 < m' → m' ≠ m → e.actuatorId ≠ m'.toUInt8 := fun m' hm' hne heq =>
    hne (toUInt8_inj hfits.1 hm' (hidm.symm.trans heq)).symm
  refine ⟨?_, ?_, hsound.profiles, haudited, ?_, ?_, ?_⟩
  · intro m' e₀ he₀ hr
    by_cases hm : m' = m
    · subst hm
      have he₀ : { e' with enabled := r.cache.enabled } = e₀ := by
        simpa [EcbWorld.stored, storeCache, he'.found] using he₀
      exact he₀ ▸ hfits
    · exact hsound.fits m' e₀ ((put_of_ne _ _ hm).symm.trans he₀) hr
  · exact fun m' t' ht' => Int.le_trans (hsound.soon m' t' ht') (Int.add_le_add_right ht _)
  · intro m' hm'
    have hlatest := latest_mode_read m'.toUInt8 w₁ e r
    have hmodes := hsound.modes m' hm'
    show latest _ (w₁.read e r).log =
      ((storeCache m r.cache w₁.ecb).modeCache m').bind servedMode
    rw [hlatest, hmodes]
    by_cases hm : m' = m
    · subst hm
      rw [if_pos hidm]
      cases hmode : sdkModeToMotorMode r.mode with
      | none => simp [storeCache, ActuatorReading.cache, cacheOf, hmode]
      | some mode =>
          have hserved : servedMode mode = some mode := by
            cases hr : r.mode <;> simp [hr, sdkModeToMotorMode] at hmode <;> subst hmode <;> rfl
          simp [storeCache, ActuatorReading.cache, cacheOf, hmode, hserved]
    · rw [if_neg (hother m' hm' hm), Option.none_or]
      by_cases hvalid : r.cache.modeValid = true
      · simp [storeCache, hvalid, put_of_ne _ _ hm]
      · simp [storeCache, hvalid]
  · intro m'
    have hcaches := hsound.caches m'
    show (storeCache m r.cache w₁.ecb).caches m' =
      if 255 < m' then none
        else (lastReading m'.toUInt8 (w₁.read e r).log).map ActuatorReading.cache
    by_cases hm : m' = m
    · subst hm
      rw [if_neg hfits.1, ← hidm, lastReading_read_self]
      simp [storeCache]
    · have hput : (storeCache m r.cache w₁.ecb).caches m' = w₁.ecb.caches m' := put_of_ne _ _ hm
      rw [hput, hcaches]
      by_cases hm' : 255 < m'
      · rw [if_pos hm', if_pos hm']
      · rw [if_neg hm', if_neg hm', lastReading_read_of_ne w₁ r (hother m' hm' hm)]
  · intro m' cache hp hc
    show cache.ShownBy (shared.feedbackOr (w₁.ecb.axisKey m'))
    by_cases hm : m' = m
    · subst hm
      obtain rfl : r.cache = cache := by simpa [EcbWorld.stored, storeCache] using hc
      exact hshown hp
    · rw [hshared _ (axisKey_ne _ hm)]
      exact hsound.published m' cache hp ((put_of_ne _ _ hm).symm.trans hc)

/-- A reading that is stored and published ends the section well. -/
theorem Busy.stored (h : Busy m e w w₁) (r : ActuatorReading) {t : Time} (ht : w₁.time ≤ t)
    (shared : SharedDriverState)
    (hshared : ∀ key, key ≠ w₁.ecb.axisKey m → shared.feedbackOr key = w₁.shared.feedbackOr key)
    (hshown : w₁.ecb.publishes = true → r.cache.ShownBy (shared.feedbackOr (w₁.ecb.axisKey m))) :
    Session m w (w₁.stored m e r shared t) where
  toServes := h.serves_stored r ht shared hshared
  sound := h.sound_stored r ht shared hshared hshown
  asked := (h.read r).asked

/-- **Reading**: the cache is updated only from a complete reading, and published at once. -/
theorem Session.wp_updateCache (h : Session m w w₁) :
    (updateCache m).wp ecbWorld
      (fun updated w' => Session m w w' ∧
        if updated then (w'.ecb.caches m).isSome = true else w'.ecb.caches = w₁.ecb.caches) w₁ := by
  rw [updateCache, Prog.wp_ite]
  split
  · exact ⟨h, rfl⟩
  · rw [Prog.wp_bind]
    refine Prog.wp_mono (CanDriver.wp_ensureEndpointReady (h.sound.fits m) (h.sound.soon m))
      fun ready w₂ hs => ?_
    obtain ⟨hsession, hready⟩ := h.sought hs
    rw [Prog.wp_ite]
    split
    · refine ⟨hsession, ?_⟩
      rw [if_neg Bool.false_ne_true, hs.1.frame]
    · next hr =>
      obtain ⟨e, he, hbusy⟩ := hready (by simpa using hr)
      rw [Prog.wp_bind, wp_members, he, Option.getD_some, Prog.wp_bind]
      refine wp_ask.2 fun posRev => ?_
      rw [Prog.wp_bind]
      refine wp_ask.2 fun velRpm => ?_
      rw [Prog.wp_bind]
      refine wp_ask.2 fun curAmp => ?_
      rw [Prog.wp_bind]
      refine wp_ask.2 fun enabled => ?_
      rw [Prog.wp_bind]
      refine wp_ask.2 fun errorCode => ?_
      rw [Prog.wp_bind]
      refine wp_ask.2 fun mode => ?_
      have hstored := fun shared t (ht : w₂.time ≤ t) hother hshown =>
        hbusy.stored ⟨posRev, velRpm, curAmp, enabled, errorCode, mode⟩ ht shared hother hshown
      rw [Prog.wp_bind, wp_modify, Prog.wp_bind, syncSharedFeedback, Prog.wp_bind, wp_members,
        Prog.wp_ite]
      split
      · rw [Prog.wp_bind, wp_now]
        intro time htime
        rw [wp_modifyShared]
        have hnext := hstored
          (w₂.shared.mutateAxisFeedback (w₂.ecb.axisKey m)
            (publishedFeedback (cacheOf posRev velRpm curAmp enabled errorCode mode) time))
          time htime
          (fun key hne => SharedDriverState.feedbackOr_mutateAxisFeedback_of_ne hne)
          fun _ => shownBy_published _ _
        exact ⟨hnext, by simp [storeCache]⟩
      · next hp =>
        have hp : w₂.ecb.publishes = false := by
          simpa [cacheOf, publishes, storeCache, EcbWorld.said] using hp
        have hnext := hstored w₂.shared w₂.time (Int.le_refl _) (fun _ _ => rfl)
          fun hpub => absurd (hp.symm.trans hpub) Bool.false_ne_true
        exact ⟨hnext, by simp [storeCache]⟩

/-! ## the commands -/

/-- A section that goes on with an update of the cache. -/
theorem Session.wp_updateThen {f : Bool → Ecb α} (h : Session m w w₁)
    (hf : ∀ updated w', Session m w w' → (f updated).wp ecbWorld (fun _ => Session m w) w') :
    (updateCache m >>= f).wp ecbWorld (fun _ => Session m w) w₁ := by
  rw [Prog.wp_bind]
  exact Prog.wp_mono h.wp_updateCache fun updated w' hw' => hf updated w' hw'.1

/-- **Command**: it works on an actuator that has just answered, or not at all. -/
theorem Session.wp_withEndpoint {body : MotorEndpoint → Ecb Bool} (h : Session m w w₁)
    (hbody : ∀ e w', Busy m e w w' → (body e).wp ecbWorld (fun _ => Session m w) w') :
    (withEndpoint m body).wp ecbWorld (fun _ => Session m w) w₁ := by
  rw [withEndpoint, Prog.wp_ite]
  split
  · exact h
  · rw [Prog.wp_bind]
    refine Prog.wp_mono h.wp_ensureEndpointReady fun ready w₂ h₂ => ?_
    rw [Prog.wp_ite]
    split
    · next hready =>
      obtain ⟨e, he, hbusy⟩ := h₂.2 hready
      rw [Prog.wp_bind, wp_members, he, Option.getD_some]
      exact hbody e w₂ hbusy
    · exact h₂.1

theorem Session.wp_setMode (h : Session m w w₁) (mode : MotorMode) :
    (setMode m mode).wp ecbWorld (fun _ => Session m w) w₁ := by
  refine h.wp_withEndpoint fun e w₂ hbusy => ?_
  rw [← Prog.bind_assoc, Prog.wp_bind]
  refine hbusy.wp_activate fun w₃ h₃ => ?_
  rw [Prog.wp_bind, wp_processEvents, Prog.wp_bind, noteMode, wp_modify, Prog.wp_bind]
  refine Prog.wp_mono (h₃.busy.toSession.wp_syncSharedCommand 0 0 mode false) fun _ w₄ h₄ => ?_
  exact h₄.wp_updateThen fun _ _ hw => hw

/-- What is common to the two targets: their mode is entered, then they are sent. -/
theorem Busy.wp_target {mode : MotorMode} (h : Busy m e w w₁) (call : ActuatorCall)
    (horder : call.isOrder = true) (hneeds : call.needs = some mode)
    (hserved : servedMode mode = some mode) (hvalue : ∀ x, call.value = some x → x.isFinite = true)
    (position velocity : Int) :
    (do
      enterMode m e mode
      tell e call
      processEvents
      syncSharedCommand m position velocity mode true
      syncSharedIntent m .run
      pure true : Ecb Bool).wp ecbWorld (fun _ => Session m w) w₁ := by
  rw [Prog.wp_bind]
  refine Prog.wp_mono (h.wp_enterMode mode) fun _ w₂ h₂ => ?_
  rw [Prog.wp_bind]
  refine h₂.1.wp_order horder (fun mode' hmode => ?_) hvalue fun answer h₃ => ?_
  · obtain rfl : mode = mode' := Option.some.inj (hneeds.symm.trans hmode)
    rw [h₂.2, Option.bind_some, hserved]
  rw [Prog.wp_bind, wp_processEvents, Prog.wp_bind]
  refine Prog.wp_mono (h₃.toSession.wp_syncSharedCommand position velocity mode true)
    fun _ w₄ h₄ => ?_
  rw [Prog.wp_bind]
  exact Prog.wp_mono (h₄.wp_syncSharedIntent .run) fun _ _ hw => hw

theorem Session.wp_setVelocity (h : Session m w w₁) (velocity : Int32) :
    (setVelocity m velocity).wp ecbWorld (fun _ => Session m w) w₁ :=
  h.wp_withEndpoint fun _ _ hbusy =>
    hbusy.wp_target (.setVelocity _) rfl rfl rfl (fun _ hx => Option.some.inj hx ▸ rfl) _ _

theorem Session.wp_setPosition (h : Session m w w₁) (position : Int32) :
    (setPosition m position).wp ecbWorld (fun _ => Session m w) w₁ :=
  h.wp_withEndpoint fun _ _ hbusy =>
    hbusy.wp_target (.setPosition _) rfl rfl rfl (fun _ hx => Option.some.inj hx ▸ rfl) _ _

theorem Session.wp_enable (h : Session m w w₁) :
    (enable m).wp ecbWorld (fun _ => Session m w) w₁ := by
  refine h.wp_withEndpoint fun e w₂ hbusy => ?_
  rw [Prog.wp_bind]
  refine wp_ask.2 fun enabled => ?_
  have hsaid := hbusy.said .enableActuator rfl (by simp [ActuatorCall.needs])
    (by simp [ActuatorCall.value]) enabled
  rw [Prog.wp_bind, InnfosEcbProtocol.noteEnabled, wp_modify, Prog.wp_bind, wp_processEvents,
    Prog.wp_bind]
  have hnoted := hsaid.noteEnabled enabled
  have hreactivated : (onlyIf enabled (reactivateMode m e)).wp ecbWorld
      (fun _ => Session m w) { w₂.said e .enableActuator enabled with
        ecb :=
          { w₂.ecb with
            endpoints :=
              put w₂.ecb.endpoints m { (w₂.ecb.endpoints m).getD {} with enabled } } } := by
    rw [onlyIf, Prog.wp_ite]
    split
    · exact Prog.wp_mono hnoted.wp_reactivateMode fun _ _ hw => hw.toSession
    · exact hnoted.toSession
  refine Prog.wp_mono hreactivated fun _ w₃ h₃ => ?_
  rw [Prog.wp_bind]
  refine Prog.wp_mono (h₃.wp_syncSharedIntent .enable) fun _ w₄ h₄ => ?_
  refine h₄.wp_updateThen fun _ w₅ h₅ => ?_
  rw [Prog.wp_bind, wp_members]
  exact h₅

theorem Session.wp_disable (h : Session m w w₁) :
    (disable m).wp ecbWorld (fun _ => Session m w) w₁ := by
  refine h.wp_withEndpoint fun e w₂ hbusy => ?_
  rw [Prog.wp_bind]
  refine wp_ask.2 fun ok => ?_
  have hsaid := hbusy.said .disableActuator rfl (by simp [ActuatorCall.needs])
    (by simp [ActuatorCall.value]) ok
  rw [Prog.wp_bind, wp_processEvents, Prog.wp_bind]
  have hnoted : (onlyIf ok (noteEnabled m false)).wp ecbWorld (fun _ => Session m w)
      (w₂.said e .disableActuator ok) := by
    rw [onlyIf, Prog.wp_ite]
    split
    · rw [InnfosEcbProtocol.noteEnabled, wp_modify]
      exact (hsaid.noteEnabled false).toSession
    · exact hsaid.toSession
  refine Prog.wp_mono hnoted fun _ w₃ h₃ => ?_
  rw [Prog.wp_bind]
  refine Prog.wp_mono (h₃.wp_syncSharedIntent .disable) fun _ w₄ h₄ => ?_
  exact h₄.wp_updateThen fun _ _ hw => hw

theorem Session.wp_resetFault (h : Session m w w₁) :
    (resetFault m).wp ecbWorld (fun _ => Session m w) w₁ := by
  refine h.wp_withEndpoint fun e w₂ hbusy => ?_
  rw [Prog.wp_bind]
  refine hbusy.wp_order rfl (by simp [ActuatorCall.needs]) (by simp [ActuatorCall.value])
    fun answer h₃ => ?_
  rw [Prog.wp_bind, wp_processEvents, Prog.wp_bind]
  refine Prog.wp_mono (h₃.toSession.wp_syncSharedIntent .recover) fun _ w₄ h₄ => ?_
  refine h₄.wp_updateThen fun _ w₅ h₅ => ?_
  rw [Prog.wp_bind, wp_members]
  exact h₅

theorem Session.wp_configurePositionLimits (h : Session m w w₁) (low high : Int32) (on : Bool) :
    (configurePositionLimits m low high on).wp ecbWorld (fun _ => Session m w) w₁ := by
  refine h.wp_withEndpoint fun e w₂ hbusy => ?_
  rw [Prog.wp_bind]
  refine hbusy.wp_order rfl (by simp [ActuatorCall.needs]) (fun x hx => ?_) fun _ h₃ => ?_
  · exact Option.some.inj hx ▸ rfl
  rw [Prog.wp_bind]
  refine h₃.wp_order rfl (by simp [ActuatorCall.needs]) (fun x hx => ?_) fun _ h₄ => ?_
  · exact Option.some.inj hx ▸ rfl
  rw [Prog.wp_bind]
  exact h₄.wp_order rfl (by simp [ActuatorCall.needs]) (by simp [ActuatorCall.value])
    fun _ h₅ => h₅.toSession

theorem Session.wp_setPositionOffset (h : Session m w w₁) (offset : Int32) :
    (setPositionOffset m offset).wp ecbWorld (fun _ => Session m w) w₁ := by
  refine h.wp_withEndpoint fun e w₂ hbusy => ?_
  rw [Prog.wp_bind]
  refine hbusy.wp_order rfl (by simp [ActuatorCall.needs]) (fun x hx => ?_) fun _ h₃ => h₃.toSession
  exact Option.some.inj hx ▸ rfl

/-! ## the getters -/

/-- What the last reading of a motor was. -/
def EcbWorld.reading (w : EcbWorld) (m : UInt16) : Option ActuatorReading :=
  if 255 < m then none else lastReading m.toUInt8 w.log

theorem EcbWorld.Sound.caches_eq (h : w.Sound) (m : UInt16) :
    w.ecb.caches m = (w.reading m).map ActuatorReading.cache := by
  rw [h.caches, reading]
  split <;> rfl

/-- A cache that is there is valid. -/
theorem EcbWorld.Sound.filter_caches (h : w.Sound) (m : UInt16) :
    (w.ecb.caches m).filter MotorCache.valid = w.ecb.caches m := by
  rw [h.caches_eq]
  cases w.reading m <;> rfl

/-- **Answer**: a getter answers what the last reading of the motor was, in the end. -/
theorem Session.wp_getCached {f : MotorCache → α} {absent : α} (h : Session m w w₁) :
    (getCached f absent m).wp ecbWorld (fun r w' => Session m w w' ∧
      r = (w'.reading m).elim absent fun reading => f reading.cache) w₁ := by
  rw [getCached, Prog.wp_bind, wp_members, h.sound.filter_caches]
  have hanswer : ∀ w' : EcbWorld, w'.Sound → ∀ cache, w'.ecb.caches m = some cache →
      f cache = (w'.reading m).elim absent fun reading => f reading.cache := by
    intro w' hw' cache hc
    rw [hw'.caches_eq] at hc
    obtain ⟨reading, hreading, rfl⟩ := Option.map_eq_some_iff.1 hc
    rw [hreading, Option.elim_some]
  cases hc : w₁.ecb.caches m with
  | some cache => exact ⟨h, hanswer w₁ h.sound cache hc⟩
  | none =>
      dsimp only
      rw [Prog.wp_bind]
      refine Prog.wp_mono h.wp_updateCache fun updated w₂ h₂ => ?_
      rw [Prog.wp_ite]
      split
      · next hupdated =>
        rw [Prog.wp_bind, wp_members]
        rw [if_pos hupdated] at h₂
        obtain ⟨cache, hcache⟩ := Option.isSome_iff_exists.1 h₂.2
        rw [hcache, Option.getD_some]
        exact ⟨h₂.1, hanswer w₂ h₂.1.sound cache hcache⟩
      · next hupdated =>
        rw [if_neg hupdated] at h₂
        have hnone : w₂.reading m = none := by
          have hmap := h₂.1.sound.caches_eq m
          rw [h₂.2, hc] at hmap
          exact Option.map_eq_none_iff.1 hmap.symm
        exact ⟨h₂.1, by rw [hnone]; rfl⟩

theorem Session.wp_isEnabled (h : Session m w w₁) :
    (isEnabled m).wp ecbWorld (fun _ => Session m w) w₁ := by
  rw [isEnabled, Prog.wp_bind, wp_members]
  cases (w₁.ecb.caches m).filter MotorCache.valid <;> exact h

/-! ## all sections -/

/-- The motor a section is about; configuration is about none. -/
def InnfosEcbProtocol.Section.motor : Section → UInt16
  | .setMode id _ => id
  | .setVelocity id _ => id
  | .setPosition id _ => id
  | .enable id => id
  | .disable id => id
  | .resetFault id => id
  | .getPosition id => id
  | .getCurrent id => id
  | .getVelocity id => id
  | .isEnabled id => id
  | .hasFault id => id
  | .configurePositionLimits id _ _ _ => id
  | .setPositionOffset id _ => id
  | .refresh id => id
  | .publishHold id => id
  | _ => 0

/-- Members that no search and no reading is concerned with. -/
theorem Session.configured (h : w.Sound) (m : UInt16) {s : InnfosEcbProtocol}
    (hs : s = { w.ecb with
      controller := s.controller
      routes := s.routes
      motionProfiles := s.motionProfiles
      refreshIds := s.refreshIds
      refreshIntervalMs := s.refreshIntervalMs
      refreshRunning := s.refreshRunning })
    (hprofiles : ∀ m profile, s.motionProfiles m = some profile → profile.Finite) :
    Session m w { w with ecb := s } := by
  have hserves : Serves m w { w with ecb := s } := by
    rw [hs]
    exact { Serves.refl m w with }
  have hsound : EcbWorld.Sound { w with ecb := s } := by
    rw [hs]
    exact { h with profiles := hprofiles }
  exact ⟨hserves, hsound, by simp [EcbWorld.since, audited_nil]⟩

theorem clampToFinite_finite (value : Double) {fallback : Double} (h : fallback.isFinite = true) :
    (clampToFinite value fallback).isFinite = true := by
  rw [clampToFinite]
  split
  · assumption
  · exact h

/-- What is configured is finite. -/
theorem finiteProfile_finite (profile : MotionProfile) : (finiteProfile profile).Finite :=
  ⟨clampToFinite_finite _ rfl, clampToFinite_finite _ rfl, clampToFinite_finite _ rfl,
    clampToFinite_finite _ rfl, clampToFinite_finite _ rfl⟩

theorem wp_discard {p : Ecb α} {Q : EcbWorld → Prop} (h : p.wp ecbWorld (fun _ => Q) w) :
    (discard p).wp ecbWorld (fun _ => Q) w := by
  have hbind : (p >>= fun _ => (pure () : Ecb Unit)).wp ecbWorld (fun _ => Q) w := by
    rw [Prog.wp_bind]
    exact h
  exact hbind

/-- **Section**: it keeps the invariant, and serves one motor. -/
theorem wp_section (h : w.Sound) (c : Section) :
    c.code.wp ecbWorld (fun _ => Session c.motor w) w := by
  have hstart := Session.refl h
  cases c with
  | setMode id mode => exact wp_discard ((hstart id).wp_setMode mode)
  | setVelocity id velocity => exact wp_discard ((hstart id).wp_setVelocity velocity)
  | setPosition id position => exact wp_discard ((hstart id).wp_setPosition position)
  | enable id => exact wp_discard (hstart id).wp_enable
  | disable id => exact wp_discard (hstart id).wp_disable
  | resetFault id => exact wp_discard (hstart id).wp_resetFault
  | getPosition id =>
      exact wp_discard (Prog.wp_mono (hstart id).wp_getCached fun _ _ hw => hw.1)
  | getCurrent id =>
      exact wp_discard (Prog.wp_mono (hstart id).wp_getCached fun _ _ hw => hw.1)
  | getVelocity id =>
      exact wp_discard (Prog.wp_mono (hstart id).wp_getCached fun _ _ hw => hw.1)
  | isEnabled id => exact wp_discard (hstart id).wp_isEnabled
  | hasFault id =>
      exact wp_discard (Prog.wp_mono (hstart id).wp_getCached fun _ _ hw => hw.1)
  | configurePositionLimits id low high on =>
      exact wp_discard ((hstart id).wp_configurePositionLimits low high on)
  | setPositionOffset id offset => exact wp_discard ((hstart id).wp_setPositionOffset offset)
  | initializeMotorRefresh ids =>
      rw [Section.code, initializeMotorRefresh, Prog.wp_bind, wp_modify, Prog.wp_ite]
      split
      · rw [stopRefreshThread, wp_modify]
        exact Session.configured h 0 rfl h.profiles
      · rw [wp_modify]
        exact Session.configured h 0 rfl h.profiles
  | configureMotorRouting id ipAddress autoDiscovery =>
      rw [Section.code, configureMotorRouting, wp_modify]
      exact Session.configured h 0 rfl h.profiles
  | configureMotionProfile id profile =>
      rw [Section.code, configureMotionProfile, wp_modify]
      refine Session.configured h 0 rfl fun m profile' hprofile => ?_
      by_cases hm : m = id
      · subst hm
        obtain rfl : finiteProfile profile = profile' := by simpa using hprofile
        exact finiteProfile_finite profile
      · exact h.profiles m profile' ((put_of_ne _ _ hm).symm.trans hprofile)
  | setRefreshRateHz hz =>
      rw [Section.code, setRefreshRateHz, wp_modify]
      exact Session.configured h 0 rfl h.profiles
  | refreshRound =>
      refine wp_discard ?_
      rw [refreshRound, Prog.wp_bind, wp_members, Prog.wp_bind]
      refine wp_ensureController fun c _ => ?_
      have hcontroller :=
        Session.configured h 0 (s := { w.ecb with controller := c }) rfl h.profiles
      rw [Prog.wp_ite]
      split
      · rw [Prog.wp_bind, wp_processEvents]
        exact hcontroller
      · exact hcontroller
  | refresh id =>
      exact wp_discard (Prog.wp_mono (hstart id).wp_updateCache fun _ _ hw => hw.1)
  | stopRefreshThread =>
      rw [Section.code, stopRefreshThread, wp_modify]
      exact Session.configured h 0 rfl h.profiles
  | publishHold id => exact (hstart id).wp_syncSharedIntent .hold

end

end CanDriver
