import CanDriver.Basic

/-!
# CanDriver.SharedDriverState

The per-axis records that every protocol publishes into and every consumer
reads from.

Records are keyed by the text `axisMapKey` makes of device, protocol and system
motor id.  Every mutation goes through `touchAxis`, which creates the missing
records of the axis first.  The member functions take the map as it is under
the lock and return it as it is when the lock is released.
-/

namespace CanDriver

/-- `kDefaultFeedbackDegradedTimeoutThreshold`. -/
def kDefaultFeedbackDegradedTimeoutThreshold : Nat := 3

/-- `SharedDriverState::AxisKey`. -/
structure AxisKey where
  device : String
  protocol : CanType
  motorId : UInt16
deriving DecidableEq, Repr

/-- `SharedDriverState::AxisFeedbackState`. -/
structure AxisFeedbackState where
  key : AxisKey
  position : Int := 0
  velocity : Int := 0
  current : Int := 0
  mode : MotorMode := .position
  positionValid : Bool := false
  velocityValid : Bool := false
  currentValid : Bool := false
  modeValid : Bool := false
  enabled : Bool := false
  fault : Bool := false
  enabledValid : Bool := false
  faultValid : Bool := false
  feedbackSeen : Bool := false
  degraded : Bool := false
  lastRxSteadyNs : Time := 0
  lastValidStateSteadyNs : Time := 0
  consecutiveTimeoutCount : Nat := 0
deriving DecidableEq, Repr

/-- `SharedDriverState::AxisCommandState`. -/
structure AxisCommandState where
  key : AxisKey
  targetPosition : Int := 0
  targetVelocity : Int := 0
  targetCurrent : Int := 0
  desiredMode : MotorMode := .position
  desiredModeValid : Bool := false
  valid : Bool := false
  lastCommandSteadyNs : Time := 0
deriving DecidableEq, Repr

/-- `SharedDriverState::DeviceHealthState`. -/
structure DeviceHealthState where
  device : String
  transportReady : Bool := false
  txBackpressure : Nat := 0
  txLinkUnavailable : Nat := 0
  txError : Nat := 0
  rxError : Nat := 0
  lastTxLinkUnavailableSteadyNs : Time := 0
  lastRxSteadyNs : Time := 0
deriving DecidableEq, Repr

/-- `SharedDriverState`. -/
structure SharedDriverState where
  axisFeedback : String → Option AxisFeedbackState := fun _ => none
  axisCommands : String → Option AxisCommandState := fun _ => none
  axisIntents : String → Option AxisIntent := fun _ => none
  deviceHealth : String → Option DeviceHealthState := fun _ => none

/-- `MakeAxisKey`: the system motor id is the identity of an axis. -/
def makeAxisKey (device : String) (protocol : CanType) (motorId : MotorID) : AxisKey :=
  { device, protocol, motorId }

/-- `protocolName`. -/
def CanType.protocolName : CanType → String
  | .MT => "mt"
  | .PP => "pp"
  | .DM => "dm"
  | .ECB => "ecb"

/-- `axisMapKey`. -/
def axisMapKey (key : AxisKey) : String :=
  key.device ++ "|" ++ key.protocol.protocolName ++ "|" ++ toString key.motorId.toNat

namespace SharedDriverState

/-- `touchAxisLocked`: create what is missing and write the key into the records. -/
def touchAxis (s : SharedDriverState) (key : AxisKey) : SharedDriverState :=
  let k := axisMapKey key
  { axisFeedback :=
      put s.axisFeedback k { (s.axisFeedback k).getD { key } with key }
    axisCommands :=
      put s.axisCommands k { (s.axisCommands k).getD { key } with key }
    axisIntents := put s.axisIntents k ((s.axisIntents k).getD .none)
    deviceHealth :=
      put s.deviceHealth key.device
        { (s.deviceHealth key.device).getD { device := key.device } with device := key.device } }

/-- `registerAxis`. -/
def registerAxis (s : SharedDriverState) (key : AxisKey) : SharedDriverState := s.touchAxis key

/-- `recomputeAxisObservedLocked`. -/
def recomputeAxisObserved (f : AxisFeedbackState) : AxisFeedbackState :=
  { f with
    degraded := decide (kDefaultFeedbackDegradedTimeoutThreshold ≤ f.consecutiveTimeoutCount) }

/-- `mutateAxisFeedback`. -/
def mutateAxisFeedback (s : SharedDriverState) (key : AxisKey)
    (fn : AxisFeedbackState → AxisFeedbackState) : SharedDriverState :=
  let s := s.touchAxis key
  let k := axisMapKey key
  let state := recomputeAxisObserved (fn ((s.axisFeedback k).getD { key }))
  let health := (s.deviceHealth key.device).getD { device := key.device }
  { s with
    axisFeedback := put s.axisFeedback k state
    deviceHealth := put s.deviceHealth key.device
      { health with
        device := key.device
        lastRxSteadyNs :=
          if 0 < state.lastRxSteadyNs then max health.lastRxSteadyNs state.lastRxSteadyNs
          else health.lastRxSteadyNs } }

/-- `getAxisFeedback`. -/
def getAxisFeedback (s : SharedDriverState) (key : AxisKey) : Option AxisFeedbackState :=
  s.axisFeedback (axisMapKey key)

/-- `mutateAxisCommand`. -/
def mutateAxisCommand (s : SharedDriverState) (key : AxisKey)
    (fn : AxisCommandState → AxisCommandState) : SharedDriverState :=
  let s := s.touchAxis key
  let k := axisMapKey key
  { s with axisCommands := put s.axisCommands k (fn ((s.axisCommands k).getD { key })) }

/-- `getAxisCommand`. -/
def getAxisCommand (s : SharedDriverState) (key : AxisKey) : Option AxisCommandState :=
  s.axisCommands (axisMapKey key)

/-- `setAxisIntent`. -/
def setAxisIntent (s : SharedDriverState) (key : AxisKey) (intent : AxisIntent) :
    SharedDriverState :=
  let s := s.touchAxis key
  { s with axisIntents := put s.axisIntents (axisMapKey key) intent }

/-- `getAxisIntent`. -/
def getAxisIntent (s : SharedDriverState) (key : AxisKey) : AxisIntent :=
  (s.axisIntents (axisMapKey key)).getD .none

/-- `mutateDeviceHealth`. -/
def mutateDeviceHealth (s : SharedDriverState) (device : String)
    (fn : DeviceHealthState → DeviceHealthState) : SharedDriverState :=
  let health := (s.deviceHealth device).getD { device }
  { s with deviceHealth := put s.deviceHealth device (fn { health with device }) }

/-- `getDeviceHealth`. -/
def getDeviceHealth (s : SharedDriverState) (device : String) : Option DeviceHealthState :=
  s.deviceHealth device

end SharedDriverState

/-! ## keys -/

/-- Two lists with the same separator, absent before it, split alike. -/
theorem split_at_first {c : Char} {xs xs' ys ys' : List Char} (h : xs ++ c :: ys = xs' ++ c :: ys')
    (hx : c ∉ xs) (hx' : c ∉ xs') : xs = xs' ∧ ys = ys' := by
  induction xs generalizing xs' with
  | nil =>
      cases xs' with
      | nil => simpa using h
      | cons x' xs' =>
          simp only [List.nil_append, List.cons_append, List.cons.injEq] at h
          exact absurd (h.1 ▸ List.mem_cons_self) hx'
  | cons x xs ih =>
      cases xs' with
      | nil =>
          simp only [List.nil_append, List.cons_append, List.cons.injEq] at h
          exact absurd (h.1 ▸ List.mem_cons_self) hx
      | cons x' xs' =>
          simp only [List.cons_append, List.cons.injEq, List.mem_cons, not_or] at h hx hx'
          obtain ⟨rfl, rfl⟩ := ih h.2 hx.2 hx'.2
          exact ⟨by rw [h.1], rfl⟩

/-- Likewise when the separator is absent after it. -/
theorem split_at_last {c : Char} {xs xs' ys ys' : List Char} (h : xs ++ c :: ys = xs' ++ c :: ys')
    (hy : c ∉ ys) (hy' : c ∉ ys') : xs = xs' ∧ ys = ys' := by
  have hr := congrArg List.reverse h
  simp only [List.reverse_append, List.reverse_cons, List.append_assoc, List.singleton_append] at hr
  obtain ⟨h₁, h₂⟩ := split_at_first hr (by simpa using hy) (by simpa using hy')
  exact ⟨List.reverse_injective h₂, List.reverse_injective h₁⟩

theorem bar_not_in_digits (n : Nat) : '|' ∉ (toString n).toList := by
  intro h
  have h : '|' ∈ Nat.toDigits 10 n := by simpa [toString, Nat.toList_repr] using h
  have := Nat.isDigit_of_mem_toDigits (by decide) (by decide) h
  exact absurd this (by decide)

theorem toString_nat_injective {m n : Nat} (h : toString m = toString n) : m = n := by
  have hd : Nat.toDigits 10 m = Nat.toDigits 10 n := by
    have := congrArg String.toList h
    simpa [toString, Nat.toList_repr] using this
  rw [← Nat.ofDigitChars_ten_toDigits (n := m), hd, Nat.ofDigitChars_ten_toDigits]

theorem bar_not_in_protocolName (p : CanType) : '|' ∉ p.protocolName.toList := by
  cases p <;> decide

theorem protocolName_injective {p q : CanType} (h : p.protocolName = q.protocolName) : p = q := by
  cases p <;> cases q <;> first | rfl | exact absurd h (by decide)

/-- The text of a key determines the key. -/
theorem axisMapKey_injective {k k' : AxisKey} (h : axisMapKey k = axisMapKey k') : k = k' := by
  obtain ⟨d, p, n⟩ := k
  obtain ⟨d', p', n'⟩ := k'
  have h := congrArg String.toList h
  have hbar : "|".toList = ['|'] := rfl
  have h : (d.toList ++ '|' :: p.protocolName.toList) ++ '|' :: (toString n.toNat).toList =
      (d'.toList ++ '|' :: p'.protocolName.toList) ++ '|' :: (toString n'.toNat).toList := by
    simpa [axisMapKey, String.toList_append, hbar] using h
  obtain ⟨h, hn⟩ := split_at_last h (bar_not_in_digits _) (bar_not_in_digits _)
  obtain ⟨hd, hp⟩ := split_at_last h (bar_not_in_protocolName _) (bar_not_in_protocolName _)
  obtain rfl := String.toList_injective hd
  obtain rfl := protocolName_injective (String.toList_injective hp)
  obtain rfl := UInt16.toNat_inj.1 (toString_nat_injective (String.toList_injective hn))
  rfl

namespace SharedDriverState

variable {s : SharedDriverState} {k k' : AxisKey}

/-! ## what an operation on one axis leaves alone -/

/-- The feedback record a touched axis has: the old one, or a fresh one. -/
def feedbackOr (s : SharedDriverState) (k : AxisKey) : AxisFeedbackState :=
  { (s.getAxisFeedback k).getD { key := k } with key := k }

@[simp] theorem getAxisFeedback_touchAxis_self :
    (s.touchAxis k).getAxisFeedback k = some (s.feedbackOr k) := by
  simp [getAxisFeedback, touchAxis, feedbackOr]

@[simp] theorem getAxisFeedback_touchAxis_of_ne (h : k' ≠ k) :
    (s.touchAxis k).getAxisFeedback k' = s.getAxisFeedback k' :=
  put_of_ne _ _ fun he => h (axisMapKey_injective he)

@[simp] theorem getAxisFeedback_mutateAxisFeedback_self {fn : AxisFeedbackState → AxisFeedbackState} :
    (s.mutateAxisFeedback k fn).getAxisFeedback k =
      some (recomputeAxisObserved (fn (s.feedbackOr k))) := by
  simp [getAxisFeedback, mutateAxisFeedback, touchAxis, feedbackOr]

@[simp] theorem getAxisFeedback_mutateAxisFeedback_of_ne
    {fn : AxisFeedbackState → AxisFeedbackState} (h : k' ≠ k) :
    (s.mutateAxisFeedback k fn).getAxisFeedback k' = s.getAxisFeedback k' := by
  have hk : axisMapKey k' ≠ axisMapKey k := fun he => h (axisMapKey_injective he)
  simp [getAxisFeedback, mutateAxisFeedback, touchAxis, put_of_ne _ _ hk]

@[simp] theorem getAxisFeedback_registerAxis :
    (s.registerAxis k).getAxisFeedback k' = (s.touchAxis k).getAxisFeedback k' := rfl

@[simp] theorem getAxisFeedback_mutateAxisCommand {fn : AxisCommandState → AxisCommandState} :
    (s.mutateAxisCommand k fn).getAxisFeedback k' = (s.touchAxis k).getAxisFeedback k' := rfl

@[simp] theorem getAxisFeedback_setAxisIntent {intent : AxisIntent} :
    (s.setAxisIntent k intent).getAxisFeedback k' = (s.touchAxis k).getAxisFeedback k' := rfl

@[simp] theorem getAxisFeedback_mutateDeviceHealth {device : String}
    {fn : DeviceHealthState → DeviceHealthState} :
    (s.mutateDeviceHealth device fn).getAxisFeedback k = s.getAxisFeedback k := rfl

@[simp] theorem getAxisIntent_touchAxis : (s.touchAxis k).getAxisIntent k' = s.getAxisIntent k' := by
  by_cases h : axisMapKey k' = axisMapKey k
  · simp [getAxisIntent, touchAxis, h]
  · simp [getAxisIntent, touchAxis, put_of_ne _ _ h]

@[simp] theorem getAxisIntent_registerAxis :
    (s.registerAxis k).getAxisIntent k' = s.getAxisIntent k' :=
  getAxisIntent_touchAxis

@[simp] theorem getAxisIntent_mutateAxisFeedback {fn : AxisFeedbackState → AxisFeedbackState} :
    (s.mutateAxisFeedback k fn).getAxisIntent k' = s.getAxisIntent k' :=
  getAxisIntent_touchAxis

@[simp] theorem getAxisIntent_mutateAxisCommand {fn : AxisCommandState → AxisCommandState} :
    (s.mutateAxisCommand k fn).getAxisIntent k' = s.getAxisIntent k' :=
  getAxisIntent_touchAxis

@[simp] theorem getAxisIntent_mutateDeviceHealth {device : String}
    {fn : DeviceHealthState → DeviceHealthState} :
    (s.mutateDeviceHealth device fn).getAxisIntent k' = s.getAxisIntent k' := rfl

@[simp] theorem getAxisIntent_setAxisIntent_self {intent : AxisIntent} :
    (s.setAxisIntent k' intent).getAxisIntent k' = intent := by
  simp [getAxisIntent, setAxisIntent]

theorem getAxisIntent_setAxisIntent_of_ne {intent : AxisIntent} (h : k' ≠ k) :
    (s.setAxisIntent k intent).getAxisIntent k' = s.getAxisIntent k' := by
  have hk : axisMapKey k' ≠ axisMapKey k := fun he => h (axisMapKey_injective he)
  have htouch : (s.touchAxis k).getAxisIntent k' = s.getAxisIntent k' := getAxisIntent_touchAxis
  rw [← htouch]
  simp [getAxisIntent, setAxisIntent, put_of_ne _ _ hk]

end SharedDriverState

end CanDriver
