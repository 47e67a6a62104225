import CanDriver.CanDriverHW

/-!
# CanDriver.AxisCommandSemantics

What a control mode makes of a joint: which of its commands counts, which feedback it is
compared with, how it is scaled, and which call carries it to the motor.
-/

namespace CanDriver

/-! ## safe commands -/

/-- `safe_command::clampToInt32`. -/
def clampToInt32 : Double → Int32
  | .finite q =>
      Int32.ofInt (Double.roundAway (max (-2147483648) (min 2147483647 q)))
  | _ => 0

/-- `safe_command::scaleAndClampToInt32`: `none` when the input is refused. -/
def scaleAndClampToInt32 (cmdValue scale : Double) : Option Int32 :=
  if !cmdValue.isFinite || !scale.isFinite || scale.isZero then none
  else
    let raw := cmdValue.div scale
    if raw.isFinite then some (clampToInt32 raw) else none

/-! ### rounding -/

theorem Double.roundAway_near (q : ℚ) : |(roundAway q : ℚ) - q| ≤ 1 / 2 := by
  rw [roundAway, abs_le]
  split
  · have hle := Int.floor_le (q + 1 / 2)
    have hlt := Int.lt_floor_add_one (q + 1 / 2)
    constructor <;> linarith
  · have hle := Int.le_ceil (q - 1 / 2)
    have hlt := Int.ceil_lt_add_one (q - 1 / 2)
    constructor <;> linarith

/-- Rounding stays between whole bounds. -/
theorem Double.roundAway_mem {q : ℚ} {a b : Int} (ha : (a : ℚ) ≤ q) (hb : q ≤ b) :
    a ≤ roundAway q ∧ roundAway q ≤ b := by
  have hnear := abs_le.1 (roundAway_near q)
  constructor
  · have hlt : (a : ℚ) < (roundAway q + 1 : Int) := by
      push_cast
      linarith
    exact Int.lt_add_one_iff.1 (Int.cast_lt.1 hlt)
  · have hlt : (roundAway q : ℚ) < (b + 1 : Int) := by
      push_cast
      linarith
    exact Int.lt_add_one_iff.1 (Int.cast_lt.1 hlt)

/-- What a quotient is clamped to. -/
def clampQuotient (u : ℚ) : ℚ := max (-2147483648) (min 2147483647 u)

/-- What is clamped is rounded to something that fits. -/
theorem toInt_clampToInt32 (u : ℚ) :
    (clampToInt32 (.finite u)).toInt = Double.roundAway (clampQuotient u) ∧
      -2147483648 ≤ Double.roundAway (clampQuotient u) ∧
      Double.roundAway (clampQuotient u) ≤ 2147483647 := by
  have hlower : ((-2147483648 : Int) : ℚ) ≤ clampQuotient u := by
    push_cast
    exact le_max_left _ _
  have hupper : clampQuotient u ≤ ((2147483647 : Int) : ℚ) := by
    push_cast
    exact max_le (by norm_num) (min_le_left _ _)
  obtain ⟨hle, hge⟩ := Double.roundAway_mem hlower hupper
  exact ⟨Int32.toInt_ofInt_of_le hle (Int.lt_of_le_of_lt hge (by decide)), hle, hge⟩

theorem clampToInt32_near (u : ℚ) :
    |((clampToInt32 (.finite u)).toInt : ℚ) - clampQuotient u| ≤ 1 / 2 := by
  rw [(toInt_clampToInt32 u).1]
  exact Double.roundAway_near _

/-- A quotient that is clamped to something small is not clamped. -/
theorem clampQuotient_eq {u : ℚ} (h : |clampQuotient u| < 2147483647) : clampQuotient u = u := by
  obtain ⟨hlower, hupper⟩ := abs_lt.1 h
  rw [clampQuotient] at hlower hupper ⊢
  have hmin : min 2147483647 u = u := by
    refine min_eq_right (le_of_lt ?_)
    by_contra hle
    rw [min_eq_left (not_lt.1 hle)] at hupper
    norm_num at hupper
  rw [hmin] at hlower ⊢
  refine max_eq_right (le_of_lt ?_)
  by_contra hle
  rw [max_eq_left (not_lt.1 hle)] at hlower
  norm_num at hlower

/-! ## control modes -/

/-- `PreparedCommandRoute`. -/
inductive PreparedCommandRoute where
  | position | velocity | csp
deriving DecidableEq, Repr

/-- `controlModeDispatchRoute`. -/
def controlModeDispatchRoute : AxisControlMode → PreparedCommandRoute
  | .velocity => .velocity
  | .csp => .csp
  | _ => .position

namespace CanDriverJointConfig

variable (joint : CanDriverJointConfig)

/-- The mode its `control_mode` stands for. -/
def mode : AxisControlMode := axisControlModeFromString joint.controlMode

/-- Whether the commands of the joint are velocities. -/
def usesVelocity : Bool := controlModeUsesVelocitySemantics joint.controlMode

/-- `controlModeHasDirectCommand`. -/
def hasDirectCommand : Bool :=
  if joint.usesVelocity then joint.hasDirectVelCmd else joint.hasDirectPosCmd

/-- `controlModeLastDirectCommandTime`. -/
def lastDirectCommandTime : Time :=
  if joint.usesVelocity then joint.lastDirectVelTime else joint.lastDirectPosTime

/-- `controlModeDirectCommandValue`. -/
def directCommandValue : Double :=
  if joint.usesVelocity then joint.directVelCmd else joint.directPosCmd

/-- `controlModeFallbackCommandValue`. -/
def fallbackCommandValue : Double := if joint.usesVelocity then joint.velCmd else joint.posCmd

/-- `controlModeSelectedCommandValue`. -/
def selectedCommandValue : Double :=
  if joint.hasDirectCommand then joint.directCommandValue else joint.fallbackCommandValue

/-- `controlModeActualFeedbackValue`. -/
def actualFeedbackValue : Double := if joint.usesVelocity then joint.vel else joint.pos

/-- `effectiveVelocityScale`. -/
def effectiveVelocityScale : Double := joint.velocityScale.mul joint.directionSign

/-- `jointPositionToRawPositionCommand`. -/
def toRawPositionCommand (jointPosition : Double) : Double :=
  jointPosition.sub joint.zeroOffsetRad

/-- `controlModeScale`. -/
def scale : Double :=
  if joint.usesVelocity then joint.effectiveVelocityScale else effectivePositionScale joint

/-- `controlModeAlignmentTolerance`. -/
def alignmentTolerance : Double := joint.scale.abs.max (.finite (1 / 10 ^ 9))

/-- The comparison both alignment checks make. -/
def alignedWith (target : Double) : Bool :=
  target.isFinite && joint.actualFeedbackValue.isFinite &&
    (target.sub joint.actualFeedbackValue).abs.le joint.alignmentTolerance

/-- `controlModeTargetNearActual`. -/
def targetNearActual : Bool := joint.alignedWith joint.selectedCommandValue

/-- `clearDirectCommandForControlMode`. -/
def clearDirectCommand : CanDriverJointConfig :=
  if joint.usesVelocity then { joint with hasDirectVelCmd := false }
  else { joint with hasDirectPosCmd := false }

/-- Drop the direct commands and stay where the joint is. -/
def holdCommand : CanDriverJointConfig :=
  let joint := { joint with hasDirectPosCmd := false, hasDirectVelCmd := false }
  if joint.usesVelocity then { joint with velCmd := .finite 0 } else { joint with posCmd := joint.pos }

end CanDriverJointConfig

end CanDriver
