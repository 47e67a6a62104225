import CanDriver.Cycle.Alignment

/-!
# CanDriver.Cycle.Bounds

How far a prepared command may lead.

Clamping, step limit and clamping again leave a target within the limits of the joint and
within a step of where it is; conversion and rounding move it by half a raw count at most.
-/

namespace CanDriver

open Interact

/-! ## limits -/

namespace CanDriverJointConfig

/-- The bounds of the targets of a joint: of its velocities or of its positions. -/
def bounds (joint : CanDriverJointConfig) : Option (Double × Double) :=
  if !joint.hasLimits then none
  else if joint.usesVelocity then
    if joint.limits.hasVelocityLimits then some (joint.limits.maxVelocity.neg, joint.limits.maxVelocity)
    else none
  else if joint.limits.hasPositionLimits then some (joint.limits.minPosition, joint.limits.maxPosition)
  else none

/-- The configured limits are well formed. -/
def limitsWellFormed (joint : CanDriverJointConfig) : Bool :=
  joint.limits.minPosition.le joint.limits.maxPosition &&
    (Double.finite 0).le joint.limits.maxVelocity

/-- A value is within the bounds, up to a margin. -/
def Inside (joint : CanDriverJointConfig) (margin value : ℚ) : Prop :=
  ∀ lower upper, joint.bounds = some (lower, upper) →
    lower.le (.finite (value + margin)) = true ∧ (Double.finite (value - margin)).le upper = true

/-- The target a raw value stands for. -/
def decode (joint : CanDriverJointConfig) (raw : Int32) : Double :=
  if joint.usesVelocity then (Double.ofInt raw.toInt).mul joint.scale
  else rawPositionToJointPosition joint (Double.ofInt raw.toInt)

/-- The raw value of a target before it is rounded. -/
def unrounded (joint : CanDriverJointConfig) (target : Double) : Double :=
  (if joint.usesVelocity then target else joint.toRawPositionCommand target).div joint.scale

end CanDriverJointConfig

namespace Double

theorem lt_eq_false_of_le {x y : Double} (h : x.le y = true) : y.lt x = false := by
  cases x with
  | finite a =>
      cases y with
      | finite b =>
          simp only [le, decide_eq_true_eq] at h
          simp [lt, h]
      | inf negative => cases negative <;> simp_all [le, lt]
      | nan => simp [le] at h
  | inf negative =>
      cases y with
      | finite b => cases negative <;> simp_all [le, lt]
      | inf other => cases negative <;> cases other <;> simp_all [le, lt]
      | nan => cases negative <;> simp [le] at h
  | nan => simp [le] at h

theorem le_trans {x y z : Double} (hxy : x.le y = true) (hyz : y.le z = true) : x.le z = true := by
  obtain a | ⟨_ | _⟩ | _ := x <;> obtain b | ⟨_ | _⟩ | _ := y <;>
    obtain c | ⟨_ | _⟩ | _ := z <;> simp_all [le]
  exact hxy.trans hyz

/-- A number that is not above a bound is below it, unless the bound is not a number. -/
theorem le_of_lt_eq_false {q : ℚ} {upper : Double} (hnan : upper ≠ .nan)
    (h : upper.lt (.finite q) = false) : (Double.finite q).le upper = true := by
  cases upper with
  | finite u =>
      simp only [lt, decide_eq_false_iff_not, not_lt] at h
      simp [le, h]
  | inf negative =>
      cases negative
      · rfl
      · simp [lt] at h
  | nan => exact absurd rfl hnan

theorem ge_of_lt_eq_false {q : ℚ} {lower : Double} (hnan : lower ≠ .nan)
    (h : (Double.finite q).lt lower = false) : lower.le (.finite q) = true := by
  cases lower with
  | finite l =>
      simp only [lt, decide_eq_false_iff_not, not_lt] at h
      simp [le, h]
  | inf negative =>
      cases negative
      · simp [lt] at h
      · rfl
  | nan => exact absurd rfl hnan

end Double

variable {joint : CanDriverJointConfig}

/-- Well-formed bounds are in order, and numbers. -/
theorem bounds_ordered (hformed : joint.limitsWellFormed = true) {lower upper : Double}
    (h : joint.bounds = some (lower, upper)) : upper.lt lower = false ∧ lower ≠ .nan ∧ upper ≠ .nan := by
  rw [CanDriverJointConfig.limitsWellFormed, Bool.and_eq_true] at hformed
  obtain ⟨hposition, hvelocity⟩ := hformed
  have hnan : ∀ x y : Double, x.le y = true → x ≠ .nan ∧ y ≠ .nan := by
    intro x y hle
    constructor
    · rintro rfl
      simp [Double.le] at hle
    · rintro rfl
      cases x with
      | inf negative => cases negative <;> simp [Double.le] at hle
      | _ => simp [Double.le] at hle
  rw [CanDriverJointConfig.bounds] at h
  split at h
  · cases h
  · split at h
    · split at h
      · obtain ⟨rfl, rfl⟩ := Prod.mk.inj (Option.some.inj h)
        obtain ⟨-, hmax⟩ := hnan _ _ hvelocity
        cases hm : joint.limits.maxVelocity with
        | finite m =>
            rw [hm] at hvelocity
            simp only [Double.le, decide_eq_true_eq] at hvelocity
            simp [Double.neg, Double.lt, hvelocity]
        | inf negative =>
            rw [hm] at hvelocity
            cases negative
            · simp [Double.neg, Double.lt]
            · simp [Double.le] at hvelocity
        | nan => exact absurd hm hmax
      · cases h
    · split at h
      · obtain ⟨rfl, rfl⟩ := Prod.mk.inj (Option.some.inj h)
        exact ⟨Double.lt_eq_false_of_le hposition, hnan _ _ hposition⟩
      · cases h

/-- A number is clamped to the bounds, if there are any. -/
theorem clampWithJointLimits_bounds {lower upper : Double} (h : joint.bounds = some (lower, upper))
    (q : ℚ) : clampWithJointLimits joint (.finite q) = (Double.finite q).clamp lower upper := by
  rw [CanDriverJointConfig.bounds] at h
  rw [clampWithJointLimits]
  cases hhas : joint.hasLimits with
  | false => simp [hhas] at h
  | true =>
      cases hvelocity : joint.usesVelocity with
      | true =>
          cases hlimits : joint.limits.hasVelocityLimits with
          | false => simp [hhas, hvelocity, hlimits] at h
          | true =>
              simp only [hhas, hvelocity, hlimits, Bool.not_true, Bool.false_eq_true, ↓reduceIte,
                Option.some.injEq, Prod.mk.injEq] at h
              simp [Double.isFinite, ← h.1, ← h.2]
      | false =>
          cases hlimits : joint.limits.hasPositionLimits with
          | false => simp [hhas, hvelocity, hlimits] at h
          | true =>
              simp only [hhas, hvelocity, hlimits, Bool.not_true, Bool.false_eq_true, ↓reduceIte,
                Option.some.injEq, Prod.mk.injEq] at h
              simp [Double.isFinite, ← h.1, ← h.2]

theorem clampWithJointLimits_none (h : joint.bounds = none) (value : Double) :
    clampWithJointLimits joint value = value := by
  rw [CanDriverJointConfig.bounds] at h
  rw [clampWithJointLimits]
  cases hhas : joint.hasLimits with
  | false => rfl
  | true =>
      cases hvelocity : joint.usesVelocity with
      | true =>
          cases hlimits : joint.limits.hasVelocityLimits with
          | false => simp
          | true => simp [hhas, hvelocity, hlimits] at h
      | false =>
          cases hlimits : joint.limits.hasPositionLimits with
          | false => simp
          | true => simp [hhas, hvelocity, hlimits] at h

theorem clampWithJointLimits_of_not_finite {value : Double} (h : value.isFinite = false) :
    clampWithJointLimits joint value = value := by
  rw [clampWithJointLimits, h]
  simp

/-- A clamped number is within the bounds. -/
theorem inside_clampWithJointLimits (hformed : joint.limitsWellFormed = true) {value : Double}
    {q : ℚ} (h : clampWithJointLimits joint value = .finite q) : joint.Inside 0 q := by
  intro lower upper hbounds
  obtain ⟨hordered, hlower, hupper⟩ := bounds_ordered hformed hbounds
  have hvalue : ∃ v, value = .finite v := by
    cases value with
    | finite v => exact ⟨v, rfl⟩
    | inf | nan =>
        rw [clampWithJointLimits_of_not_finite rfl] at h
        cases h
  obtain ⟨v, rfl⟩ := hvalue
  rw [clampWithJointLimits_bounds hbounds] at h
  obtain ⟨hge, hle⟩ := clamp_within hordered h
  rw [add_zero, sub_zero]
  exact ⟨Double.ge_of_lt_eq_false hlower hge, Double.le_of_lt_eq_false hupper hle⟩

/-- Clamping a number does not lead past a number that is within the bounds. -/
theorem clampWithJointLimits_towards {p : ℚ} (hp : joint.Inside 0 p) (l : ℚ) :
    ∃ c, clampWithJointLimits joint (.finite l) = .finite c ∧
      (c = l ∨ l ≤ c ∧ c ≤ p ∨ p ≤ c ∧ c ≤ l) := by
  cases hbounds : joint.bounds with
  | none => exact ⟨l, clampWithJointLimits_none hbounds _, .inl rfl⟩
  | some b =>
      obtain ⟨lower, upper⟩ := b
      obtain ⟨hlower, hupper⟩ := hp lower upper hbounds
      rw [add_zero] at hlower
      rw [sub_zero] at hupper
      rw [clampWithJointLimits_bounds hbounds]
      exact clamp_towards (Double.lt_eq_false_of_le hlower) (Double.lt_eq_false_of_le hupper)

/-- It leads no farther away from it. -/
theorem clampWithJointLimits_nearer {p : ℚ} (hp : joint.Inside 0 p) (l : ℚ) :
    ∃ c, clampWithJointLimits joint (.finite l) = .finite c ∧ |c - p| ≤ |l - p| := by
  obtain ⟨c, hc, hbetween⟩ := clampWithJointLimits_towards hp l
  refine ⟨c, hc, ?_⟩
  rcases hbetween with rfl | ⟨hlc, hcp⟩ | ⟨hpc, hcl⟩
  · exact le_refl _
  · rw [abs_of_nonpos (by linarith), abs_of_nonpos (by linarith)]
    linarith
  · rw [abs_of_nonneg (by linarith), abs_of_nonneg (by linarith)]
    linarith

/-! ## the step limit -/

/-- A limited command is a clamped one. -/
theorem limitPositionStep_eq (config : WriteConfig) (joint : CanDriverJointConfig) (value : Double) :
    ∃ value', limitPositionStep config joint (clampWithJointLimits joint value) =
      clampWithJointLimits joint value' := by
  rw [limitPositionStep]
  split
  · exact ⟨_, rfl⟩
  · exact ⟨value, rfl⟩

/-- The step of a position command is limited. -/
theorem limitPositionStep_near (config : WriteConfig) {joint : CanDriverJointConfig} {p q : ℚ}
    {value : Double} (hposition : joint.usesVelocity = false) (hpos : joint.pos = .finite p)
    (hstep : (Double.finite 0).lt config.maxPositionStepRad = true) (hp : joint.Inside 0 p)
    (h : limitPositionStep config joint value = .finite q) :
    (Double.finite |q - p|).le config.maxPositionStepRad = true := by
  have hvalue : ∃ v, value = .finite v := by
    cases value with
    | finite v => exact ⟨v, rfl⟩
    | inf | nan => simp [limitPositionStep, Double.isFinite] at h
  obtain ⟨v, rfl⟩ := hvalue
  have hfinite : (Double.finite v).isFinite = true := rfl
  have hposfinite : (Double.finite p).isFinite = true := rfl
  rw [limitPositionStep, hposition, hstep, hpos, hfinite, hposfinite] at h
  simp only [Bool.not_false, Bool.and_self, ↓reduceIte] at h
  cases hm : config.maxPositionStepRad with
  | inf negative =>
      rw [hm] at hstep
      cases negative
      · rfl
      · simp [Double.lt] at hstep
  | nan =>
      rw [hm] at hstep
      simp [Double.lt] at hstep
  | finite m =>
      rw [hm] at h hstep
      simp only [Double.lt, decide_eq_true_eq] at hstep
      simp only [Double.le, decide_eq_true_eq]
      by_cases hfar : m < |v - p|
      · by_cases hneg : v - p < 0
        · simp only [Double.sub, Double.neg, Double.add, Double.abs, Double.lt, Double.isNegative,
            ← sub_eq_add_neg, hfar, hneg, decide_true, ↓reduceIte] at h
          obtain ⟨c, hc, hnear⟩ := clampWithJointLimits_nearer hp (p - m)
          obtain rfl : q = c := Double.finite.inj (h.symm.trans hc)
          have hback : |p - m - p| = m := by
            rw [sub_sub_cancel_left, abs_neg, abs_of_pos hstep]
          exact hnear.trans hback.le
        · simp only [Double.sub, Double.neg, Double.add, Double.abs, Double.lt, Double.isNegative,
            ← sub_eq_add_neg, hfar, hneg, decide_true, decide_false, Bool.false_eq_true,
            ↓reduceIte] at h
          obtain ⟨c, hc, hnear⟩ := clampWithJointLimits_nearer hp (p + m)
          obtain rfl : q = c := Double.finite.inj (h.symm.trans hc)
          have hback : |p + m - p| = m := by
            rw [add_sub_cancel_left, abs_of_pos hstep]
          exact hnear.trans hback.le
      · simp only [Double.sub, Double.neg, Double.add, Double.abs, Double.lt,
          ← sub_eq_add_neg, hfar, decide_false, Bool.false_eq_true, ↓reduceIte] at h
        obtain ⟨c, hc, hnear⟩ := clampWithJointLimits_nearer hp v
        obtain rfl : q = c := Double.finite.inj (h.symm.trans hc)
        exact hnear.trans (not_lt.1 hfar)

/-! ## raw values -/

theorem finite_of_sub {x y : Double} (h : (x.sub y).isFinite = true) :
    ∃ a b, x = .finite a ∧ y = .finite b := by
  cases x with
  | finite a =>
      cases y with
      | finite b => exact ⟨a, b, rfl, rfl⟩
      | inf | nan => cases h
  | inf negative =>
      cases y with
      | inf other => cases negative <;> cases other <;> cases h
      | finite | nan => cases h
  | nan => cases y <;> cases h

/-- A raw value is made of numbers only, and stands for its target up to half a count. -/
theorem decode_rawCommand {target : Double} {raw : Int32} (h : rawCommand joint target = some raw)
    {u : ℚ} (hu : joint.unrounded target = .finite u) (hlower : -2147483648 ≤ u)
    (hupper : u ≤ 2147483647) : ∃ q s t, target = .finite q ∧ joint.scale = .finite s ∧
      joint.decode raw = .finite t ∧ |t - q| ≤ |s| / 2 := by
  rw [rawCommand, scaleAndClampToInt32] at h
  obtain ⟨hguard, h⟩ := Option.ite_none_left_eq_some.1 h
  simp only [Bool.or_eq_true, Bool.not_eq_true', not_or, Bool.not_eq_false, Bool.not_eq_true] at hguard
  obtain ⟨⟨hfinite, hscale⟩, hzero⟩ := hguard
  have hquotient : clampQuotient u = u := by
    rw [clampQuotient, min_eq_right hupper, max_eq_right hlower]
  have hclamped : raw = clampToInt32 (.finite u) := by
    rw [CanDriverJointConfig.unrounded] at hu
    rw [hu] at h
    simpa [Double.isFinite] using h.symm
  have hnear := clampToInt32_near u
  rw [hquotient, ← hclamped] at hnear
  cases hs : joint.scale with
  | inf | nan =>
      rw [hs] at hscale
      cases hscale
  | finite s =>
      rw [hs] at hzero
      have hs0 : s ≠ 0 := by simpa [Double.isZero] using hzero
      have hmove : |(raw.toInt : ℚ) * s - u * s| ≤ |s| / 2 := by
        rw [← sub_mul, abs_mul]
        have hpos := abs_nonneg s
        nlinarith [hnear, hpos]
      cases hvelocity : joint.usesVelocity with
      | true =>
          rw [hvelocity, if_pos rfl] at hfinite
          cases htarget : target with
          | inf | nan =>
              rw [htarget] at hfinite
              cases hfinite
          | finite q =>
              have hq : q / s = u := by
                simpa [CanDriverJointConfig.unrounded, hvelocity, htarget, hs, Double.div, hs0] using hu
              have hback : q = u * s := by rw [← hq, div_mul_cancel₀ _ hs0]
              refine ⟨q, s, raw.toInt * s, rfl, rfl, ?_, hback ▸ hmove⟩
              rw [CanDriverJointConfig.decode, hvelocity, hs]
              rfl
      | false =>
          have heffective : effectivePositionScale joint = .finite s := by
            rw [← hs, CanDriverJointConfig.scale, hvelocity]
            rfl
          rw [hvelocity, if_neg Bool.false_ne_true, CanDriverJointConfig.toRawPositionCommand] at hfinite
          obtain ⟨q, z, rfl, hz⟩ := finite_of_sub hfinite
          have hq : (q - z) / s = u := by
            simpa [CanDriverJointConfig.unrounded, hvelocity, CanDriverJointConfig.toRawPositionCommand,
              hz, hs, Double.sub, Double.neg, Double.add, ← sub_eq_add_neg, Double.div, hs0] using hu
          have hback : q = u * s + z := by rw [← hq, div_mul_cancel₀ _ hs0, sub_add_cancel]
          refine ⟨q, s, raw.toInt * s + z, rfl, rfl, ?_, ?_⟩
          · rw [CanDriverJointConfig.decode, hvelocity, rawPositionToJointPosition, heffective, hz]
            rfl
          · rw [hback, add_sub_add_right_eq_sub]
            exact hmove

/-! ## prepared commands -/

/-- The first loop drops an old direct command at most. -/
theorem scannedJoints_cases (config : WriteConfig) (now : Time) {joints : List CanDriverJointConfig}
    {index : Nat} {joint : CanDriverJointConfig} (h : joints[index]? = some joint) :
    (scannedJoints config now joints).2[index]? = some joint ∨
      usesDirectCommand config now joint = false ∧
      (scannedJoints config now joints).2[index]? = some joint.clearDirectCommand := by
  rw [scannedJoints]
  split
  · exact .inl h
  · next hbypass =>
    induction joints generalizing index with
    | nil => simp at h
    | cons first joints ih =>
        rw [scanDirectCommands]
        cases index with
        | zero =>
            obtain rfl : first = joint := by simpa using h
            split
            · exact .inl rfl
            · split
              · exact .inl rfl
              · next hold =>
                refine .inr ⟨?_, rfl⟩
                rw [usesDirectCommand, Bool.eq_false_of_not_eq_true hbypass,
                  Bool.eq_false_of_not_eq_true hold]
                simp
        | succ index =>
            have h' : joints[index]? = some joint := by simpa using h
            split
            · exact ih h'
            · split
              · exact .inl h
              · exact ih h'

/-- The command the joint is moved by. -/
def selectedInput (config : WriteConfig) (now : Time) (joint : CanDriverJointConfig) : Double :=
  if usesDirectCommand config now joint then joint.directCommandValue else joint.fallbackCommandValue

/-- The command a joint is moved by, clamped and limited. -/
def limitedInput (config : WriteConfig) (now : Time) (joint : CanDriverJointConfig) : Double :=
  limitPositionStep config joint (clampWithJointLimits joint (selectedInput config now joint))

theorem usesDirectCommand_clearDirectCommand (config : WriteConfig) (now : Time)
    (joint : CanDriverJointConfig) : usesDirectCommand config now joint.clearDirectCommand = false := by
  have hnone : joint.clearDirectCommand.hasDirectCommand = false := by
    rw [CanDriverJointConfig.clearDirectCommand]
    split
    · next hvelocity => exact if_pos hvelocity
    · next hposition => exact if_neg hposition
  rw [usesDirectCommand, hnone, Bool.false_and]

/-- Dropping a direct command changes nothing about the other one. -/
theorem fallback_clearDirectCommand (config : WriteConfig) (joint : CanDriverJointConfig) :
    rawCommand joint.clearDirectCommand (limitPositionStep config joint.clearDirectCommand
      (clampWithJointLimits joint.clearDirectCommand joint.clearDirectCommand.fallbackCommandValue)) =
      rawCommand joint (limitPositionStep config joint
        (clampWithJointLimits joint joint.fallbackCommandValue)) := by
  rw [CanDriverJointConfig.clearDirectCommand]
  split
  · rfl
  · rfl

/-- A valid command is the raw value of the clamped and limited input. -/
theorem rawCommand_of_valid {config : WriteConfig} {now : Time} {present : Bool}
    (hvalid : (preparedCommand (prepareJoint config now present joint).1
      (prepareJoint config now present joint).2).valid = true) :
    rawCommand joint (limitPositionStep config joint
      (clampWithJointLimits joint (selectedInput config now joint))) =
      some (preparedCommand (prepareJoint config now present joint).1
        (prepareJoint config now present joint).2).raw := by
  obtain ⟨raw, hraw⟩ := Option.isSome_iff_exists.1 hvalid
  have hsome := hraw
  rw [prepareJoint] at hsome
  obtain ⟨value, hvalue, hcommand⟩ := Option.bind_eq_some_iff.1 hsome
  rw [commandValue] at hvalue
  obtain ⟨-, hvalue⟩ := Option.ite_none_left_eq_some.1 hvalue
  obtain ⟨-, hvalue⟩ := Option.ite_none_left_eq_some.1 hvalue
  obtain rfl := Option.some.inj hvalue
  rw [selectedInput, hcommand, preparedCommand, hraw]
  rfl

/-- What is prepared for a joint: a raw value of the clamped and limited input. -/
theorem preparedCommands_valid (config : WriteConfig) (now : Time) {hw : CanDriverHW} {index : Nat}
    {joint : CanDriverJointConfig} {prepared : CanDriverPreparedCommand}
    (hjoint : hw.joints[index]? = some joint)
    (hprepared : (preparedCommands config now hw)[index]? = some prepared)
    (hvalid : prepared.valid = true) :
    rawCommand joint (limitedInput config now joint) = some prepared.raw := by
  rw [preparedCommands, prepareJoints, List.map_map, List.getElem?_map] at hprepared
  obtain ⟨scanned, hscanned, rfl⟩ := Option.map_eq_some_iff.1 hprepared
  have hraw := rawCommand_of_valid hvalid
  obtain hsame | ⟨hunused, hcleared⟩ := scannedJoints_cases config now hjoint
  · obtain rfl : joint = scanned := Option.some.inj (hsame.symm.trans hscanned)
    exact hraw
  · obtain rfl : joint.clearDirectCommand = scanned := Option.some.inj (hcleared.symm.trans hscanned)
    rw [limitedInput, selectedInput, hunused, if_neg Bool.false_ne_true,
      ← fallback_clearDirectCommand config joint]
    rw [selectedInput, usesDirectCommand_clearDirectCommand, if_neg Bool.false_ne_true] at hraw
    exact hraw

/-- Only a number is made a command. -/
theorem selectedInput_isFinite {config : WriteConfig} {now : Time} {raw : Int32}
    (h : rawCommand joint (limitedInput config now joint) = some raw) :
    (selectedInput config now joint).isFinite = true := by
  by_contra hinput
  have hinput := Bool.eq_false_of_not_eq_true hinput
  have hlimited : limitedInput config now joint = selectedInput config now joint := by
    rw [limitedInput, clampWithJointLimits_of_not_finite hinput, limitPositionStep, hinput]
    simp
  rw [hlimited, rawCommand, scaleAndClampToInt32] at h
  obtain ⟨hguard, -⟩ := Option.ite_none_left_eq_some.1 h
  simp only [Bool.or_eq_true, Bool.not_eq_true', not_or, Bool.not_eq_false] at hguard
  obtain ⟨⟨hfinite, -⟩, -⟩ := hguard
  cases hvelocity : joint.usesVelocity with
  | true =>
      rw [hvelocity, if_pos rfl, hinput] at hfinite
      cases hfinite
  | false =>
      rw [hvelocity, if_neg Bool.false_ne_true, CanDriverJointConfig.toRawPositionCommand] at hfinite
      obtain ⟨q, z, hq, -⟩ := finite_of_sub hfinite
      rw [hq] at hinput
      cases hinput

/-- A value within the bounds stays there, up to how far it is moved. -/
theorem Inside.near {q t margin : ℚ} (h : joint.Inside 0 q) (hnear : |t - q| ≤ margin) :
    joint.Inside margin t := by
  intro lower upper hbounds
  obtain ⟨hlower, hupper⟩ := h lower upper hbounds
  rw [add_zero] at hlower
  rw [sub_zero] at hupper
  obtain ⟨hge, hle⟩ := abs_le.1 hnear
  have hup : (Double.finite q).le (.finite (t + margin)) = true := by
    simp only [Double.le, decide_eq_true_eq]
    linarith
  have hdown : (Double.finite (t - margin)).le (.finite q) = true := by
    simp only [Double.le, decide_eq_true_eq]
    linarith
  exact ⟨Double.le_trans hlower hup, Double.le_trans hdown hupper⟩

/-- A prepared command stays within the limits of its joint and within a step of where it is,
up to half a raw count, and is made of a number. -/
theorem prepared_within_bounds (config : WriteConfig) (now : Time) {hw : CanDriverHW} {index : Nat}
    {joint : CanDriverJointConfig} {prepared : CanDriverPreparedCommand}
    (hjoint : hw.joints[index]? = some joint)
    (hprepared : (preparedCommands config now hw)[index]? = some prepared)
    (hvalid : prepared.valid = true) :
    (selectedInput config now joint).isFinite = true ∧
      ∀ u, joint.unrounded (limitedInput config now joint) = .finite u → -2147483648 ≤ u →
        u ≤ 2147483647 → ∃ s t, joint.scale = .finite s ∧ joint.decode prepared.raw = .finite t ∧
          (joint.limitsWellFormed = true → joint.Inside (|s| / 2) t) ∧
          ∀ p, joint.usesVelocity = false → joint.pos = .finite p → joint.Inside 0 p →
            (Double.finite 0).lt config.maxPositionStepRad = true →
            (Double.finite (|t - p| - |s| / 2)).le config.maxPositionStepRad = true := by
  have hraw := preparedCommands_valid config now hjoint hprepared hvalid
  refine ⟨selectedInput_isFinite hraw, fun u hu hlower hupper => ?_⟩
  obtain ⟨q, s, t, hq, hs, ht, hnear⟩ := decode_rawCommand hraw hu hlower hupper
  refine ⟨s, t, hs, ht, fun hformed => ?_, fun p hposition hpos hp hstep => ?_⟩
  · obtain ⟨value, hvalue⟩ := limitPositionStep_eq config joint (selectedInput config now joint)
    exact Inside.near (inside_clampWithJointLimits hformed (hvalue.symm.trans hq)) hnear
  · have hwithin := limitPositionStep_near config hposition hpos hstep hp hq
    have hshort : (Double.finite (|t - p| - |s| / 2)).le (.finite |q - p|) = true := by
      simp only [Double.le, decide_eq_true_eq]
      have htriangle : |t - p| ≤ |t - q| + |q - p| := abs_sub_le t q p
      linarith
    exact Double.le_trans hshort hwithin

/-- An arm at its upper limit that is sent beyond it. -/
def boundedArm : CanDriverJointConfig where
  name := "arm"
  canDevice := "can0"
  controlMode := "position"
  positionScale := .finite (1 / 1000)
  directionSign := .finite (-1)
  zeroOffsetRad := .finite (1 / 3000)
  pos := .finite 1
  posCmd := .finite 2
  limits :=
    { hasPositionLimits := true
      minPosition := .finite (-1)
      maxPosition := .finite 1 }
  hasLimits := true

/-- It is sent to a third of a raw count above its limit, not farther. -/
theorem boundedArm_within_bounds :
    ∃ s t, boundedArm.scale = .finite s ∧ boundedArm.decode (-1000) = .finite t ∧
      (boundedArm.limitsWellFormed = true → boundedArm.Inside (|s| / 2) t) ∧
      ∀ p, boundedArm.usesVelocity = false → boundedArm.pos = .finite p → boundedArm.Inside 0 p →
        (Double.finite 0).lt (.finite (1 / 10)) = true →
        (Double.finite (|t - p| - |s| / 2)).le (.finite (1 / 10)) = true :=
  (prepared_within_bounds { maxPositionStepRad := .finite (1 / 10) } 0
    (show ({ joints := [boundedArm] } : CanDriverHW).joints[0]? = some boundedArm from rfl)
    (show _ = some (CanDriverPreparedCommand.mk true 0x141 .position (-1000)) by decide +kernel)
    rfl).2 (-2999 / 3) (by decide +kernel) (by norm_num) (by norm_num)

end CanDriver
