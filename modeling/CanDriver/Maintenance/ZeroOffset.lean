import CanDriver.Maintenance.SetZero

/-!
# CanDriver.Maintenance.ZeroOffset

What a request for a zero makes of the position of the joint.

The drive reports its shaft position shifted by the offset register, and the joint adds its
own zero offset.  A request that fails has to leave the two as they were; one that takes the
current position for the zero has to leave a joint that stands at zero.
-/

namespace CanDriver

open Interact MotorMaintenanceService CanDriverHW

/-! ## the position of a joint -/

/-- The position of the joint of a motor at a shaft position, in raw counts. -/
def CanDriverHW.positionAt (hw : CanDriverHW) (register : Int32) (motorId : MotorID)
    (shaft : Int) : Option Double :=
  (hw.lookupJointByMotorId motorId).map fun joint =>
    rawPositionToJointPosition joint (Double.ofInt (shaft + register.toInt))

/-- Every shaft position gives the same joint position, and the same offsets are in the file. -/
structure SameMapping (hw : CanDriverHW) (register : Int32) (motorId : MotorID)
    (w : MaintenanceWorld) : Prop where
  position : ∀ shaft, w.hw.positionAt w.register motorId shaft = hw.positionAt register motorId shaft
  file : w.hw.offsetFile = hw.offsetFile

theorem CanDriverHW.positionAt_congr {hw hw' : CanDriverHW} (hjoints : hw'.joints = hw.joints)
    (register : Int32) (motorId : MotorID) (shaft : Int) :
    hw'.positionAt register motorId shaft = hw.positionAt register motorId shaft := by
  rw [positionAt, positionAt, lookupJointByMotorId, lookupJointByMotorId,
    matchedJoint_congr hjoints]

/-! ## rounding to a register value -/

theorem scaleAndClampToInt32_eq_some {cmdValue scale : Double} {raw : Int32}
    (h : scaleAndClampToInt32 cmdValue scale = some raw) :
    ∃ v s : ℚ, cmdValue = .finite v ∧ scale = .finite s ∧ s ≠ 0 ∧
      raw = clampToInt32 (.finite (v / s)) := by
  rw [scaleAndClampToInt32] at h
  cases cmdValue with
  | inf _ => simp [Double.isFinite] at h
  | nan => simp [Double.isFinite] at h
  | finite v =>
      cases scale with
      | inf _ => simp [Double.isFinite] at h
      | nan => simp [Double.isFinite] at h
      | finite s =>
          by_cases hs : s = 0
          · simp [Double.isFinite, Double.isZero, hs] at h
          · simp only [Double.isFinite, Double.isZero, hs, Double.div, decide_false,
              Bool.not_true, Bool.or_self, Bool.false_eq_true, ↓reduceIte, Option.some.injEq] at h
            exact ⟨v, s, rfl, rfl, hs, h.symm⟩

/-- A value is rounded to `n` within half a count, of the two halves the one away from zero. -/
theorem Double.roundAway_eq_iff (x : ℚ) (n : Int) :
    roundAway x = n ↔ |x - n| < 1 / 2 ∨ x = n - 1 / 2 ∧ 0 < n ∨ x = n + 1 / 2 ∧ n < 0 := by
  have hpos : 0 < n ↔ (1 : ℚ) ≤ n := by
    rw [← Int.add_one_le_iff, zero_add]
    exact_mod_cast Iff.rfl
  have hneg : n < 0 ↔ (n : ℚ) ≤ -1 := by
    rw [← Int.le_sub_one_iff, zero_sub]
    exact_mod_cast Iff.rfl
  rw [roundAway, abs_lt, hpos, hneg]
  by_cases hx : 0 ≤ x
  · rw [if_pos hx, Int.floor_eq_iff]
    constructor
    · rintro ⟨hle, hlt⟩
      rcases eq_or_lt_of_le hle with heq | hlt'
      · have hone : (0 : ℚ) < n := by linarith
        exact Or.inr (Or.inl ⟨by linarith, hpos.1 (by exact_mod_cast hone)⟩)
      · exact Or.inl ⟨by linarith, by linarith⟩
    · rintro (⟨hlower, hupper⟩ | ⟨heq, _⟩ | ⟨heq, hn⟩)
      · exact ⟨by linarith, by linarith⟩
      · exact ⟨by linarith, by linarith⟩
      · exact absurd hx (by linarith)
  · rw [if_neg hx, Int.ceil_eq_iff]
    constructor
    · rintro ⟨hlt, hle⟩
      rcases eq_or_lt_of_le hle with heq | hlt'
      · have hone : (n : ℚ) < 0 := by linarith
        exact Or.inr (Or.inr ⟨by linarith, hneg.1 (by exact_mod_cast hone)⟩)
      · exact Or.inl ⟨by linarith, by linarith⟩
    · rintro (⟨hlower, hupper⟩ | ⟨heq, hn⟩ | ⟨heq, _⟩)
      · exact ⟨by linarith, by linarith⟩
      · exact absurd (show 0 ≤ x by linarith) hx
      · exact ⟨by linarith, by linarith⟩

/-- A quotient beyond an end of the range is clamped to it. -/
theorem clampQuotient_cases (u : ℚ) :
    clampQuotient u = u ∨ 2147483647 < u ∧ clampQuotient u = 2147483647 ∨
      u < -2147483648 ∧ clampQuotient u = -2147483648 := by
  rw [clampQuotient]
  rcases le_or_gt u 2147483647 with hupper | hupper
  · rw [min_eq_right hupper]
    rcases le_or_gt (-2147483648) u with hlower | hlower
    · exact Or.inl (max_eq_right hlower)
    · exact Or.inr (Or.inr ⟨hlower, max_eq_left hlower.le⟩)
  · rw [min_eq_left hupper.le]
    exact Or.inr (Or.inl ⟨hupper, max_eq_right (by norm_num)⟩)

/-- A distance by which a value may be off and still be taken for `n`: less than half a count,
half a count towards zero, or any distance beyond the end of the range. -/
def RoundsTo (n : Int) (distance : ℚ) : Prop :=
  -2147483648 ≤ n ∧ n ≤ 2147483647 ∧
    (|distance| < 1 / 2 ∨ distance = 1 / 2 ∧ 0 < n ∨ distance = -(1 / 2) ∧ n < 0 ∨
      n = 2147483647 ∧ distance ≤ 0 ∨ n = -2147483648 ∧ 0 ≤ distance)

theorem clampToInt32_eq_iff (n : Int) (distance : ℚ) :
    (clampToInt32 (.finite (n - distance))).toInt = n ↔ RoundsTo n distance := by
  obtain ⟨htoInt, hlower, hupper⟩ := toInt_clampToInt32 (n - distance)
  have hwhole : ∀ m : Int, Double.roundAway (m : ℚ) = m := by
    intro m
    rw [Double.roundAway_eq_iff, sub_self, abs_zero]
    exact Or.inl (by norm_num)
  rw [htoInt, RoundsTo]
  rcases clampQuotient_cases (n - distance) with hin | ⟨hover, hclamped⟩ | ⟨hunder, hclamped⟩
  · -- not clamped: only the rounding counts
    have hle : (n : ℚ) - distance ≤ 2147483647 := by
      rw [← hin]
      exact max_le (by norm_num) (min_le_left _ _)
    have hge : -2147483648 ≤ (n : ℚ) - distance := by
      rw [← hin]
      exact le_max_left _ _
    have hround := Double.roundAway_eq_iff (n - distance) n
    rw [sub_sub_cancel_left, abs_neg] at hround
    rw [hin] at hlower hupper ⊢
    constructor
    · intro heq
      rw [heq] at hlower hupper
      refine ⟨hlower, hupper, ?_⟩
      rcases hround.1 heq with hnear | ⟨hhalf, hn⟩ | ⟨hhalf, hn⟩
      · exact Or.inl hnear
      · exact Or.inr (Or.inl ⟨by linarith, hn⟩)
      · exact Or.inr (Or.inr (Or.inl ⟨by linarith, hn⟩))
    · rintro ⟨-, -, hnear | ⟨hhalf, hn⟩ | ⟨hhalf, hn⟩ | ⟨hmax, hd⟩ | ⟨hmin, hd⟩⟩
      · exact hround.2 (Or.inl hnear)
      · exact hround.2 (Or.inr (Or.inl ⟨by linarith, hn⟩))
      · exact hround.2 (Or.inr (Or.inr ⟨by linarith, hn⟩))
      · have hzero : distance = 0 := by
          rw [hmax] at hle
          push_cast at hle
          linarith
        exact hround.2 (Or.inl (by rw [hzero, abs_zero]; norm_num))
      · have hzero : distance = 0 := by
          rw [hmin] at hge
          push_cast at hge
          linarith
        exact hround.2 (Or.inl (by rw [hzero, abs_zero]; norm_num))
  · have hmax : Double.roundAway (clampQuotient (n - distance)) = 2147483647 := by
      rw [hclamped]
      exact_mod_cast hwhole 2147483647
    rw [hmax]
    constructor
    · intro heq
      rw [← heq] at hover ⊢
      push_cast at hover
      exact ⟨by norm_num, le_rfl, Or.inr (Or.inr (Or.inr (Or.inl ⟨rfl, by linarith⟩)))⟩
    · rintro ⟨-, hle, hcases⟩
      by_contra hne
      have hn : (n : ℚ) ≤ 2147483646 := by
        have hn : n ≤ 2147483646 := by omega
        exact_mod_cast hn
      rw [abs_lt] at hcases
      rcases hcases with hnear | ⟨hhalf, -⟩ | ⟨hhalf, -⟩ | ⟨hmax, -⟩ | ⟨hmin, hd⟩
      · linarith
      · linarith
      · linarith
      · exact hne hmax.symm
      · linarith
  · have hmin : Double.roundAway (clampQuotient (n - distance)) = -2147483648 := by
      rw [hclamped]
      exact_mod_cast hwhole (-2147483648)
    rw [hmin]
    constructor
    · intro heq
      rw [← heq] at hunder ⊢
      push_cast at hunder
      exact ⟨le_rfl, by norm_num, Or.inr (Or.inr (Or.inr (Or.inr ⟨rfl, by linarith⟩)))⟩
    · rintro ⟨hge, -, hcases⟩
      by_contra hne
      have hn : -2147483647 ≤ (n : ℚ) := by
        have hn : -2147483647 ≤ n := by omega
        exact_mod_cast hn
      rw [abs_lt] at hcases
      rcases hcases with hnear | ⟨hhalf, -⟩ | ⟨hhalf, -⟩ | ⟨hmax, hd⟩ | ⟨hmin, -⟩
      · linarith
      · linarith
      · linarith
      · linarith
      · exact hne hmin.symm

/-- An offset that is a whole number of counts is converted back to it. -/
theorem scaleAndClampToInt32_mul (register : Int32) {s : ℚ} (hs : s ≠ 0) :
    scaleAndClampToInt32 ((Double.ofInt register.toInt).mul (.finite s)) (.finite s) =
      some register := by
  have hback : clampToInt32 (.finite register.toInt) = register := by
    have hexact := (clampToInt32_eq_iff register.toInt 0).2
      ⟨register.le_toInt, Int.lt_add_one_iff.1 register.toInt_lt, Or.inl (by norm_num)⟩
    rw [sub_zero] at hexact
    exact Int32.toInt_inj.1 hexact
  simp [scaleAndClampToInt32, Double.ofInt, Double.mul, Double.isFinite, Double.isZero, Double.div,
    hs, hback]

/-! ## requests that fail -/

namespace MaintenanceEnv

variable (env : MaintenanceEnv) (hw : CanDriverHW) (register : Int32) (persistToMotor : Bool)
  (request : SetZeroRequest)

/-- What a request returns, and what it leaves. -/
def setZero : SetZeroResult × MaintenanceWorld :=
  (setZeroByMotorId persistToMotor request).eval env.handle { hw, register }

/-- The offset of the drive is read, and so is the one a failing write is taken back to. -/
def readsRegister : Bool := env.hasProtocol 1 && env.readable

/-- A compensating write, if one is issued, succeeds. -/
def CompensationSucceeds : Prop :=
  (env.zeroWrite hw register request).isSome = true → env.attempt persistToMotor 0 = .rejected →
    env.attempt persistToMotor 1 = .ok

/-- A write that fails is taken back to what was there: a rejected one to an offset that was
read, or that is kept for the motor and stands for the same raw value; one that throws, or
whose offset the joints then cannot take, is not taken back at all, so it must not have changed
anything.  The position of a joint whose own offset is not finite does not depend on it. -/
def TakesBack : Prop :=
  ∀ zw, env.zeroWrite hw register request = some zw →
    zw.target.zeroOffsetRad.isFinite = false ∨
    match env.attempt persistToMotor 0 with
    | .rejected => env.readsRegister = true ∨
        scaleAndClampToInt32 ((hw.getZeroOffset zw.target.motorId).getD (.finite 0))
          (effectivePositionScale zw.target) = some register
    | .thrown => env.write 0 = .ok ∨ env.took 0 = true → zw.rawOffset = register
    | .ok => hw.ppLocalZeroOffsetPersistenceEnabled = true → env.writable = false →
        zw.rawOffset = register

variable {env hw register persistToMotor request}

/-- What a write is about that a request gets to. -/
theorem zeroWrite_spec {zw : ZeroWrite} (h : env.zeroWrite hw register request = some zw) :
    hw.lookupJointByMotorId request.motorId = some zw.target ∧
    zw.result.appliedZeroOffsetRad = resolvedZeroOffset request zw.result.currentPositionRad
      (env.previousZeroOffset hw register true zw.target) ∧
    scaleAndClampToInt32 zw.result.appliedZeroOffsetRad (effectivePositionScale zw.target) =
      some zw.rawOffset ∧
    scaleAndClampToInt32 (env.previousZeroOffset hw register true zw.target)
      (effectivePositionScale zw.target) = some zw.previousRawOffset ∧
    (request.useCurrentPositionAsZero = true →
      ∃ feedback, env.fresh 0 = some feedback ∧ feedback.positionValid = true ∧
        zw.result.currentPositionRad =
          rawPositionToJointPosition zw.target (Double.ofInt feedback.position)) := by
  rw [zeroWrite, Option.ite_none_right_eq_some] at h
  obtain ⟨happly, h⟩ := h
  obtain ⟨resolved, hresolved, h⟩ := Option.bind_eq_some_iff.1 h
  obtain ⟨raw, hraw, rfl⟩ := Option.map_eq_some_iff.1 h
  rw [resolvedZero, Option.ite_none_right_eq_some] at hresolved
  obtain ⟨target, hlookup, hresolved⟩ := Option.bind_eq_some_iff.1 hresolved.2
  rw [Option.ite_none_right_eq_some] at hresolved
  obtain ⟨reported, hreported, hresolved⟩ := Option.bind_eq_some_iff.1 hresolved.2
  rw [Option.ite_none_left_eq_some, happly] at hresolved
  obtain ⟨hfresh, hresolved⟩ := hresolved
  rw [← Option.some.inj hresolved] at hraw ⊢
  rw [rawOffsets, Option.ite_none_right_eq_some] at hraw
  obtain ⟨rawOffset, hnew, hraw⟩ := Option.bind_eq_some_iff.1 hraw.2
  obtain ⟨previousRawOffset, hold, rfl⟩ := Option.map_eq_some_iff.1 hraw
  refine ⟨hlookup, rfl, hnew, hold, fun hauto => ?_⟩
  rw [reportedPosition, Option.ite_none_right_eq_some] at hreported
  have hreported := hreported.2
  cases hfeedback : (env.fresh 0).filter AxisFeedbackState.positionValid with
  | none =>
      rw [hfeedback] at hreported
      rw [← Option.some.inj hreported, hauto] at hfresh
      exact absurd rfl hfresh
  | some feedback =>
      rw [hfeedback] at hreported
      obtain ⟨hsome, hvalid⟩ := Option.filter_eq_some_iff.1 hfeedback
      rw [← Option.some.inj hreported]
      exact ⟨feedback, hsome, hvalid, rfl⟩

/-- A register that is read is what counts as the previous offset. -/
theorem previousRawOffset_eq_iff {zw : ZeroWrite}
    (h : env.zeroWrite hw register request = some zw) :
    zw.previousRawOffset = register ↔ env.readsRegister = true ∨
      scaleAndClampToInt32 ((hw.getZeroOffset zw.target.motorId).getD (.finite 0))
        (effectivePositionScale zw.target) = some register := by
  obtain ⟨-, -, -, hold, -⟩ := zeroWrite_spec h
  obtain ⟨v, s, -, hscale, hs, -⟩ := scaleAndClampToInt32_eq_some hold
  have hread := scaleAndClampToInt32_mul register hs
  rw [← hscale] at hread
  rw [previousZeroOffset, Bool.true_and, ← readsRegister] at hold
  cases hreads : env.readsRegister with
  | true =>
      rw [hreads, if_pos rfl, hread] at hold
      simp [Option.some.inj hold]
  | false =>
      rw [hreads, if_neg Bool.false_ne_true] at hold
      rw [hold]
      simp

/-- The mapping stays if the register does, and only then if the position depends on it. -/
theorem sameMapping_iff {w : MaintenanceWorld} {target : CanDriverJointConfig} {s : ℚ}
    (hlookup : hw.lookupJointByMotorId request.motorId = some target)
    (hscale : effectivePositionScale target = .finite s) (hs : s ≠ 0) (hkept : w.hw.KeepsJoints hw) :
    SameMapping hw register request.motorId w ↔
      target.zeroOffsetRad.isFinite = false ∨ w.register = register := by
  have hposition : ∀ r shaft, hw.positionAt r request.motorId shaft =
      some ((Double.finite ((shaft + r.toInt : Int) * s)).add target.zeroOffsetRad) := by
    intro r shaft
    rw [CanDriverHW.positionAt, hlookup, Option.map_some, rawPositionToJointPosition, hscale,
      Double.ofInt, Double.mul]
  constructor
  · intro hsame
    have hzero := hsame.position 0
    rw [positionAt_congr hkept.joints, hposition, hposition] at hzero
    cases hoffset : target.zeroOffsetRad with
    | inf _ => exact Or.inl rfl
    | nan => exact Or.inl rfl
    | finite z =>
        rw [hoffset, Double.add, Double.add] at hzero
        have hequal := add_right_cancel (Double.finite.inj (Option.some.inj hzero))
        have hregister := mul_right_cancel₀ hs hequal
        rw [zero_add, zero_add, Int.cast_inj] at hregister
        exact Or.inr (Int32.toInt_inj.1 hregister)
  · intro hcases
    refine ⟨fun shaft => ?_, hkept.file⟩
    rw [positionAt_congr hkept.joints]
    rcases hcases with hinfinite | hregister
    · rw [hposition, hposition]
      cases hoffset : target.zeroOffsetRad with
      | inf _ => rw [Double.add, Double.add]
      | nan => simp only [Double.add]
      | finite z =>
          rw [hoffset, Double.isFinite] at hinfinite
          exact absurd hinfinite.symm Bool.false_ne_true
    · rw [hregister]

/-- A write that succeeds has been acknowledged. -/
theorem write_of_attempt {n : Nat} (h : env.attempt persistToMotor n = .ok) : env.write n = .ok := by
  rw [attempt] at h
  split at h
  · next hwrite => exact hwrite.1
  · exact h

/-- The register is taken back: a rejected write to an offset that was read, or that is kept for
the motor and stands for the same raw value; any other write that fails must not have changed it. -/
def WriteTakenBack (env : MaintenanceEnv) (hw : CanDriverHW) (register : Int32)
    (persistToMotor : Bool) (zw : ZeroWrite) : Prop :=
  match env.attempt persistToMotor 0 with
  | .rejected => env.readsRegister = true ∨
      scaleAndClampToInt32 ((hw.getZeroOffset zw.target.motorId).getD (.finite 0))
        (effectivePositionScale zw.target) = some register
  | .thrown => env.write 0 = .ok ∨ env.took 0 = true → zw.rawOffset = register
  | .ok => hw.ppLocalZeroOffsetPersistenceEnabled = true → env.writable = false →
      zw.rawOffset = register

/-- A request that fails after its write leaves the register as it was exactly if the write is
taken back. -/
theorem register_kept_iff {result : SetZeroResult} {w : MaintenanceWorld} {zw : ZeroWrite}
    (hended : env.Ended hw register persistToMotor request result w)
    (hcompensates : env.CompensationSucceeds hw register persistToMotor request)
    (hzw : env.zeroWrite hw register request = some zw) :
    (result.success = false → w.register = register) ↔
      WriteTakenBack env hw register persistToMotor zw := by
  obtain ⟨hregister, hrejected, hcommitted⟩ := hended.written zw hzw
  rw [WriteTakenBack]
  cases hattempt : env.attempt persistToMotor 0 with
  | rejected =>
      have hsecond := write_of_attempt (hcompensates (by rw [hzw]; rfl) hattempt)
      rw [registerAfter, if_pos hattempt, writeRegister, if_pos (Or.inl hsecond)] at hregister
      rw [hregister, previousRawOffset_eq_iff hzw]
      simp [hrejected (by simp [hattempt])]
  | thrown =>
      rw [registerAfter, if_neg (by simp [hattempt]), writeRegister] at hregister
      rw [hregister]
      simp [hrejected (by simp [hattempt])]
  | ok =>
      have hcommit : result.success =
          (hw.commitZero request.motorId zw.result.appliedZeroOffsetRad
            zw.result.previousZeroOffsetRad request.applyToMotor env.writable).1 :=
        congrArg Prod.fst (hcommitted hattempt)
      have hfailed := commitZero_failed_iff (zeroWrite_spec hzw).1 zw.result.appliedZeroOffsetRad
        zw.result.previousZeroOffsetRad request.applyToMotor env.writable
      rw [← hcommit] at hfailed
      rw [registerAfter, if_neg (by simp [hattempt]), writeRegister,
        if_pos (Or.inl (write_of_attempt hattempt))] at hregister
      rw [hfailed, hregister]
      dsimp only
      tauto

/-- **Failure**: a request for a zero that fails, and whose compensating writes succeed, leaves the
joint where it was at every shaft position exactly if what failed has been taken back. -/
theorem failed_zero_keeps_mapping_iff
    (hcompensates : env.CompensationSucceeds hw register persistToMotor request) :
    ((env.setZero hw register persistToMotor request).1.success = false →
      SameMapping hw register request.motorId
        (env.setZero hw register persistToMotor request).2) ↔
    env.TakesBack hw register persistToMotor request := by
  obtain ⟨result, w, heval, hended⟩ := env.eval_setZero hw register persistToMotor request
  rw [setZero, heval, TakesBack]
  dsimp only
  cases hzw : env.zeroWrite hw register request with
  | none =>
      have hregister := (hended.unwritten hzw).1
      constructor
      · intro _ zw hsome
        exact absurd hsome (Option.some_ne_none zw).symm
      · intro _ hfailed
        have hkept := hended.kept hfailed
        refine ⟨fun shaft => ?_, hkept.file⟩
        rw [hregister, positionAt_congr hkept.joints]
  | some zw =>
      obtain ⟨hlookup, -, hnew, -, -⟩ := zeroWrite_spec hzw
      obtain ⟨v, s, -, hscale, hs, -⟩ := scaleAndClampToInt32_eq_some hnew
      have hregister := register_kept_iff hended hcompensates hzw
      have hmapping : (result.success = false → SameMapping hw register request.motorId w) ↔
          (result.success = false →
            zw.target.zeroOffsetRad.isFinite = false ∨ w.register = register) :=
        imp_congr_right fun hfailed => sameMapping_iff hlookup hscale hs (hended.kept hfailed)
      have hforall : ∀ P : ZeroWrite → Prop,
          (∀ zw', some zw = some zw' → P zw') ↔ P zw := by
        intro P
        simp only [Option.some.injEq, forall_eq']
      rw [hmapping, hforall]
      change _ ↔ zw.target.zeroOffsetRad.isFinite = false ∨
        WriteTakenBack env hw register persistToMotor zw
      rw [← hregister]
      tauto

end MaintenanceEnv

/-! ### an arm -/

/-- A PP arm with an offset of its own, in counts of one radian. -/
def armWithOffset (zeroOffsetRad : Double) : CanDriverHW where
  joints := [{ name := "arm", canDevice := "can0", controlMode := "position", motorId := 1
               protocol := .PP, zeroOffsetRad }]
  commandValidBuffer := [false]
  ppLocalZeroOffsetPersistenceEnabled := true

/-- Feedback of an arm that says it is disabled, at a raw position. -/
def armFeedback (position : Int) : AxisFeedbackState where
  key := { device := "can0", protocol := .PP, motorId := 1 }
  position
  positionValid := true
  enabledValid := true

/-- A drive whose register holds 5 and cannot be read, and that rejects the new offset. -/
def rejectingDrive : MaintenanceEnv where
  fresh := fun _ => some (armFeedback 5)
  readable := false
  write := fun n => if n = 0 then .rejected else .ok
  took := fun _ => false

/-- The rejected offset is taken back to the kept one, which is not what the drive had. -/
theorem rejected_zero_moves_joint :
    rejectingDrive.CompensationSucceeds (armWithOffset (.finite 0)) 5 false
      { motorId := 1, applyToMotor := true } ∧
    (rejectingDrive.setZero (armWithOffset (.finite 0)) 5 false
      { motorId := 1, applyToMotor := true }).1.success = false ∧
    ¬ SameMapping (armWithOffset (.finite 0)) 5 1
      (rejectingDrive.setZero (armWithOffset (.finite 0)) 5 false
        { motorId := 1, applyToMotor := true }).2 := by
  refine ⟨fun _ _ => rfl, by decide +kernel, fun hsame => ?_⟩
  have hmoved := hsame.position 0
  revert hmoved
  decide +kernel

/-- A register that is read is taken back to what it was. -/
theorem read_register_keeps_joint :
    SameMapping (armWithOffset (.finite 0)) 5 1
      ({ rejectingDrive with readable := true }.setZero (armWithOffset (.finite 0)) 5 false
        { motorId := 1, applyToMotor := true }).2 := by
  have hcompensates : { rejectingDrive with readable := true }.CompensationSucceeds
      (armWithOffset (.finite 0)) 5 false { motorId := 1, applyToMotor := true } :=
    fun _ _ => rfl
  refine (MaintenanceEnv.failed_zero_keeps_mapping_iff hcompensates).2 ?_ (by decide +kernel)
  intro zw _
  exact Or.inr (Or.inl rfl)

namespace MaintenanceEnv

variable {env : MaintenanceEnv} {hw : CanDriverHW} {register : Int32} {persistToMotor : Bool}
  {request : SetZeroRequest}

/-! ## requests that take the current position for the zero -/

variable (env hw register persistToMotor request)

/-- A joint stands at zero at a shaft position, up to half a raw count. -/
def StandsAtZero (w : MaintenanceWorld) (motorId : MotorID) (shaft : Int) : Prop :=
  ∃ joint s q, w.hw.lookupJointByMotorId motorId = some joint ∧
    effectivePositionScale joint = .finite s ∧
    w.hw.positionAt w.register motorId shaft = some (.finite q) ∧ |q| ≤ |s| / 2

/-- The feedback a request starts from is that of a shaft position. -/
def ReportsShaft (shaft : Int) : Prop :=
  ∀ feedback, env.fresh 0 = some feedback → feedback.positionValid = true →
    feedback.position = shaft + register.toInt

/-- The offsets of the drive and of the joint, less the one that is taken for the previous one,
are as good as nothing, wherever a request gets through its write and its commit.  This
difference is the joint's own offset if the register is read. -/
def OffsetsCancel (shaft : Int) : Prop :=
  ∀ zw, env.zeroWrite hw register request = some zw → env.attempt persistToMotor 0 = .ok →
    (hw.ppLocalZeroOffsetPersistenceEnabled = true → env.writable = true) →
    ∀ s z previous : ℚ, effectivePositionScale zw.target = .finite s →
      zw.target.zeroOffsetRad = .finite z →
      env.previousZeroOffset hw register true zw.target = .finite previous →
      RoundsTo (-shaft) ((register.toInt * s + z - previous) / s)

variable {env hw register persistToMotor request}

/-- The raw value of the new offset, with everything it is computed from. -/
theorem autoZero_rawOffset {zw : ZeroWrite} {shaft : Int}
    (h : env.zeroWrite hw register request = some zw)
    (hauto : request.useCurrentPositionAsZero = true) (hreports : env.ReportsShaft register shaft) :
    ∃ s z previous : ℚ, s ≠ 0 ∧ effectivePositionScale zw.target = .finite s ∧
      zw.target.zeroOffsetRad = .finite z ∧
      env.previousZeroOffset hw register true zw.target = .finite previous ∧
      (zw.rawOffset.toInt = -shaft ↔
        RoundsTo (-shaft) ((register.toInt * s + z - previous) / s)) := by
  obtain ⟨-, happlied, hnew, hold, hfeedback⟩ := zeroWrite_spec h
  obtain ⟨feedback, hfresh, hvalid, hcurrent⟩ := hfeedback hauto
  obtain ⟨v, s, hv, hscale, hs, hraw⟩ := scaleAndClampToInt32_eq_some hnew
  obtain ⟨previous, s', hprevious, -, -, -⟩ := scaleAndClampToInt32_eq_some hold
  rw [resolvedZeroOffset, if_pos hauto, hcurrent, rawPositionToJointPosition, hscale, hprevious,
    hreports feedback hfresh hvalid, Double.ofInt, Double.mul] at happlied
  cases hz : zw.target.zeroOffsetRad with
  | inf _ =>
      rw [hv, hz] at happlied
      exact absurd happlied (by simp [Double.sub, Double.add, Double.neg])
  | nan =>
      rw [hv, hz] at happlied
      exact absurd happlied (by simp [Double.sub, Double.add, Double.neg])
  | finite z =>
      refine ⟨s, z, previous, hs, hscale, rfl, hprevious, ?_⟩
      rw [hv, hz, Double.sub, Double.add, Double.neg, Double.add, Double.neg] at happlied
      have hquotient : v / s = (-shaft : Int) - (register.toInt * s + z - previous) / s := by
        rw [Double.finite.inj happlied]
        push_cast
        field_simp
        ring
      rw [hraw, hquotient]
      exact clampToInt32_eq_iff _ _

/-- A joint without an offset of its own stands at zero exactly if the register takes the shaft
position back. -/
theorem standsAtZero_iff {w : MaintenanceWorld} {target : CanDriverJointConfig} {s : ℚ}
    {motorId : MotorID} (shaft : Int)
    (hlookup : w.hw.lookupJointByMotorId motorId = some (target.withZero (.finite 0)))
    (hscale : effectivePositionScale target = .finite s) (hs : s ≠ 0) :
    StandsAtZero w motorId shaft ↔ w.register.toInt = -shaft := by
  have hscale' : effectivePositionScale (target.withZero (.finite 0)) = .finite s := hscale
  have hposition : w.hw.positionAt w.register motorId shaft =
      some (.finite ((shaft + w.register.toInt : Int) * s)) := by
    rw [CanDriverHW.positionAt, hlookup, Option.map_some, rawPositionToJointPosition, hscale',
      Double.ofInt, Double.mul, CanDriverJointConfig.withZero, Double.add, add_zero]
  have hpositive : 0 < |s| := abs_pos.2 hs
  constructor
  · rintro ⟨joint, s', q, hfound, hs', hq, hnear⟩
    rw [hlookup] at hfound
    rw [← Option.some.inj hfound, hscale'] at hs'
    rw [hposition] at hq
    rw [← Double.finite.inj (Option.some.inj hq), ← Double.finite.inj hs', abs_mul] at hnear
    by_contra hne
    have hone : (1 : ℚ) ≤ |((shaft + w.register.toInt : Int) : ℚ)| := by
      have hone : 1 ≤ |shaft + w.register.toInt| := Int.one_le_abs (by omega)
      exact_mod_cast hone
    have hfar : |s| ≤ |((shaft + w.register.toInt : Int) : ℚ)| * |s| :=
      le_mul_of_one_le_left hpositive.le hone
    linarith
  · intro hregister
    refine ⟨_, s, _, hlookup, hscale', hposition, ?_⟩
    rw [hregister, add_neg_cancel, Int.cast_zero, zero_mul, abs_zero]
    exact (half_pos hpositive).le

/-- **Auto-zero**: a request that takes the current position for the zero and succeeds leaves a joint
that stands at zero, exactly if the offsets it starts from cancel. -/
theorem auto_zero_iff {shaft : Int} (hauto : request.useCurrentPositionAsZero = true)
    (happly : request.applyToMotor = true) (hreports : env.ReportsShaft register shaft) :
    ((env.setZero hw register persistToMotor request).1.success = true →
      StandsAtZero (env.setZero hw register persistToMotor request).2 request.motorId shaft) ↔
    env.OffsetsCancel hw register persistToMotor request shaft := by
  obtain ⟨result, w, heval, hended⟩ := env.eval_setZero hw register persistToMotor request
  rw [setZero, heval, OffsetsCancel]
  dsimp only
  cases hzw : env.zeroWrite hw register request with
  | none =>
      constructor
      · intro _ zw hsome
        exact absurd hsome (Option.some_ne_none zw).symm
      · intro _ hsuccess
        rw [(hended.unwritten hzw).2 hsuccess] at happly
        exact absurd happly Bool.false_ne_true
  | some zw =>
      have hlookup := (zeroWrite_spec hzw).1
      obtain ⟨hregister, hrejected, hcommitted⟩ := hended.written zw hzw
      obtain ⟨s, z, previous, hs, hscale, hz, hprevious, hrounds⟩ :=
        autoZero_rawOffset hzw hauto hreports
      by_cases hattempt : env.attempt persistToMotor 0 = .ok
      · have hcommit := hcommitted hattempt
        have hfailed := commitZero_failed_iff hlookup zw.result.appliedZeroOffsetRad
          zw.result.previousZeroOffsetRad request.applyToMotor env.writable
        rw [← hcommit] at hfailed
        rw [registerAfter, if_neg (by simp [hattempt]), writeRegister,
          if_pos (Or.inl (write_of_attempt hattempt))] at hregister
        have hdone : result.success = true ↔
            (hw.ppLocalZeroOffsetPersistenceEnabled = true → env.writable = true) := by
          rw [← Bool.not_eq_false, hfailed, not_and, Bool.not_eq_false]
        have hstands : result.success = true → (StandsAtZero w request.motorId shaft ↔
            RoundsTo (-shaft) ((register.toInt * s + z - previous) / s)) := by
          intro hsuccess
          rw [hsuccess] at hcommit
          have hfound := lookup_commitZero hlookup (congrArg Prod.fst hcommit).symm
          rw [← congrArg Prod.snd hcommit, happly, if_pos rfl] at hfound
          rw [standsAtZero_iff shaft hfound hscale hs, hregister]
          exact hrounds
        constructor
        · intro hzero zw' hsome _ hwritable s' z' previous' hs' hz' hprevious'
          rw [← Option.some.inj hsome] at hs' hz' hprevious'
          obtain rfl := Double.finite.inj (hscale.symm.trans hs')
          obtain rfl := Double.finite.inj (hz.symm.trans hz')
          obtain rfl := Double.finite.inj (hprevious.symm.trans hprevious')
          have hsuccess := hdone.2 hwritable
          exact (hstands hsuccess).1 (hzero hsuccess)
        · intro hcancel hsuccess
          exact (hstands hsuccess).2
            (hcancel zw rfl hattempt (hdone.1 hsuccess) s z previous hscale hz hprevious)
      · constructor
        · intro _ zw' _ hok
          exact absurd hok hattempt
        · intro _ hsuccess
          rw [hrejected hattempt] at hsuccess
          exact absurd hsuccess Bool.false_ne_true

end MaintenanceEnv

/-- A drive that takes every offset, with the arm at raw position 0. -/
def obedientDrive : MaintenanceEnv where
  fresh := fun _ => some (armFeedback 0)

/-- The arm, which is at its own offset, asks for its position to be the zero. -/
def autoZeroRequest : SetZeroRequest where
  motorId := 1
  useCurrentPositionAsZero := true
  applyToMotor := true

/-- The arm is off by its own offset of one radian. -/
theorem auto_zero_leaves_offset :
    obedientDrive.ReportsShaft 0 0 ∧
    (obedientDrive.setZero (armWithOffset (.finite 1)) 0 false autoZeroRequest).1.success = true ∧
    ¬ MaintenanceEnv.StandsAtZero
      (obedientDrive.setZero (armWithOffset (.finite 1)) 0 false autoZeroRequest).2 1 0 := by
  refine ⟨fun feedback hfeedback _ => ?_, by decide +kernel, ?_⟩
  · rw [← Option.some.inj hfeedback]
    rfl
  · rintro ⟨joint, s, q, hlookup, hscale, hposition, hnear⟩
    have hfound : (obedientDrive.setZero (armWithOffset (.finite 1)) 0 false
        autoZeroRequest).2.hw.lookupJointByMotorId 1 =
        (armWithOffset (.finite 0)).lookupJointByMotorId 1 := by decide +kernel
    have hone : (armWithOffset (.finite 0)).lookupJointByMotorId 1 =
        (armWithOffset (.finite 0)).joints.head? := by decide +kernel
    rw [hfound, hone] at hlookup
    rw [← Option.some.inj hlookup] at hscale
    have hcount : effectivePositionScale
        ((armWithOffset (.finite 0)).joints.head (by simp [armWithOffset])) = .finite 1 := by
      decide +kernel
    have hat : (obedientDrive.setZero (armWithOffset (.finite 1)) 0 false
        autoZeroRequest).2.hw.positionAt (obedientDrive.setZero (armWithOffset (.finite 1)) 0 false
        autoZeroRequest).2.register 1 0 = some (.finite (-1)) := by decide +kernel
    rw [hat] at hposition
    rw [← Double.finite.inj (Option.some.inj hposition),
      ← Double.finite.inj (hcount.symm.trans hscale)] at hnear
    norm_num at hnear

/-- Without an offset of its own the arm stands at zero. -/
theorem auto_zero_without_offset :
    MaintenanceEnv.StandsAtZero
      (obedientDrive.setZero (armWithOffset (.finite 0)) 0 false autoZeroRequest).2 1 0 := by
  refine (MaintenanceEnv.auto_zero_iff rfl rfl ?_).2 ?_ (by decide +kernel)
  · intro feedback hfeedback _
    rw [← Option.some.inj hfeedback]
    rfl
  · intro zw hzw _ _ s z previous _ hz hprevious
    have hall : (obedientDrive.zeroWrite (armWithOffset (.finite 0)) 0 autoZeroRequest).all
        (fun zw => decide (zw.target.zeroOffsetRad = .finite 0 ∧ obedientDrive.previousZeroOffset
          (armWithOffset (.finite 0)) 0 true zw.target = .finite 0)) = true := by decide +kernel
    rw [hzw, Option.all_some, decide_eq_true_eq] at hall
    rw [← Double.finite.inj (hall.1.symm.trans hz),
      ← Double.finite.inj (hall.2.symm.trans hprevious)]
    refine ⟨by norm_num, by norm_num, Or.inl ?_⟩
    rw [Int32.toInt_zero]
    norm_num

end CanDriver
