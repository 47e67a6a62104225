import CanDriver.Maintenance.ModeCalls
import CanDriver.Maintenance.SetZero

/-!
# CanDriver.Maintenance.ModeSwitch

A request for a mode, evaluated against the joints and the modes the protocol and the shared
state keep.

`Ended` says how such a request ends: given up before `setMode`, at `setMode`, or after it, and
then with the confirmation and the preload deciding.
-/

namespace CanDriver

open Interact MotorMaintenanceService CanDriverHW

/-! ## everything that answers -/

/-- How a call of the protocol ends, with what a rejected one may and a thrown one does leave. -/
structure CallEnd where
  outcome : CallOutcome := .ok
  took : Bool := false
  left : Modes := ⟨.position, .position⟩

/-- The answers to a request, the mode an ECB reads back, and the mode a PP drive reports after
each query while the request waits. -/
structure ModeSwitchEnv where
  service : MaintenanceEnv
  deviceReady : Nat → Bool := fun _ => true
  timeLeft : Nat → Bool := fun _ => true
  report : Nat → Option MotorMode := fun _ => none
  readBack : Option MotorMode := none
  setModeEnd : CallEnd := {}
  preloadEnd : CallEnd := {}

/-- The joints, the modes of the axis, and how much was asked so far. -/
structure ModeSwitchWorld where
  base : MaintenanceWorld
  modes : Modes
  readyAsked : Nat := 0
  polls : Nat := 0

namespace ModeSwitchEnv

variable (env : ModeSwitchEnv)

/-- The end that a call meets. -/
def callEnd : ModeCall → CallEnd
  | .setMode _ => env.setModeEnd
  | _ => env.preloadEnd

/-- The answer to a call. -/
def answer (protocol : CanType) (call : ModeCall) : CallOutcome :=
  if protocol.supports call then (env.callEnd call).outcome else .rejected

/-- The modes after a call. -/
def modesLeft (protocol : CanType) (call : ModeCall) (m : Modes) : Modes :=
  match env.answer protocol call with
  | .ok => protocol.modesAfter env.readBack m call
  | .rejected => protocol.modesRejected (env.callEnd call).took m call
  | .thrown => (env.callEnd call).left

/-- How an operation is answered, and what it leaves. -/
def handle : (op : ModeSwitchOp) → ModeSwitchWorld → op.Ans × ModeSwitchWorld
  | .service op, w =>
      let answered := env.service.handle op w.base
      (answered.1, { w with base := answered.2 })
  | .isDeviceReady _, w =>
      (env.deviceReady w.readyAsked, { w with readyAsked := w.readyAsked + 1 })
  | .call target call, w =>
      (env.answer target.protocol call,
        { w with modes := env.modesLeft target.protocol call w.modes })
  | .beforeDeadline, w => (env.timeLeft w.polls, w)
  | .issueModeQuery _, w =>
      ((), { w with
             modes := { w.modes with cached := (env.report w.polls).getD w.modes.cached }
             polls := w.polls + 1 })
  | .commitModeSwitch motorId mode, w =>
      let committed := w.base.hw.commitModeSwitch motorId mode
      (committed.1, { w with base := { w.base with hw := committed.2 } })

/-! ## what a request comes to -/

/-- The wait for a PP drive: whether the mode shows in time, and how often it was asked for. -/
def confirms (mode : MotorMode) : Nat → Nat → Bool × Nat
  | 0, n => (false, n)
  | polls + 1, n =>
      if env.timeLeft n then
        if showsMode mode (env.service.fresh (n + 1)) then (true, n + 1)
        else confirms mode polls (n + 1)
      else (false, n)

/-- The mode a PP drive has reported last, after a number of queries. -/
def reported (mode : MotorMode) : Nat → MotorMode
  | 0 => mode
  | n + 1 => (env.report n).getD (reported mode n)

/-- The axis may take another mode. -/
def allowed (protocol : CanType) : Bool :=
  !modeSwitchRequiresDisabledAxis protocol || env.service.saysDisabledAt 0

/-- The request gets to the protocol. -/
def reaches (protocol : CanType) : Bool :=
  env.allowed protocol && env.deviceReady 0 && env.service.hasProtocol 0

/-- What the wait comes to: a PP drive is asked if its protocol is there. -/
def waits (protocol : CanType) (mode : MotorMode) : Bool × Nat :=
  if protocol = .PP ∧ env.service.hasProtocol 1 = true then env.confirms mode 25 0 else (true, 0)

/-- How often the feedback was looked at before the preload. -/
def looked (protocol : CanType) (mode : MotorMode) : Nat :=
  (env.waits protocol mode).2 + if modeSwitchRequiresDisabledAxis protocol then 1 else 0

/-- The preload of a joint, with the feedback it is taken from: `none` if there has to be one
and cannot. -/
def preload (protocol : CanType) (mode : MotorMode) : Option (Option ModeCall) :=
  if mode = .velocity then some (some (.setVelocity 0))
  else
    match (env.service.fresh (env.looked protocol mode)).filter AxisFeedbackState.positionValid with
    | none => if protocol = .MT then some none else none
    | some feedback =>
        let preloadRaw := clampToInt32 (Double.ofInt feedback.position)
        some (some (if mode = .csp then .quickSetPosition preloadRaw else .setPosition preloadRaw))

/-- The preload gets to the protocol. -/
def reachesPreload (protocol : CanType) : Bool :=
  env.deviceReady 1 && env.service.hasProtocol (if protocol = .PP then 2 else 1)

/-- How the preload ends: `none` if it is not reached, `ok` too if there is none. -/
def preloadOutcome (protocol : CanType) (mode : MotorMode) : Option CallOutcome :=
  (env.preload protocol mode).bind fun preload =>
    match preload with
    | none => some .ok
    | some call => if env.reachesPreload protocol then some (env.answer protocol call) else none

/-- A mode that is set is confirmed and preloaded. -/
def completes (protocol : CanType) (mode : MotorMode) : Bool :=
  (env.waits protocol mode).1 && decide (env.preloadOutcome protocol mode = some .ok)

/-- The mode the protocol is left with once `setMode` is accepted: what a PP drive reports while
the request waits, or an ECB when it is read back, counts. -/
def cachedLeft (protocol : CanType) (mode : MotorMode) : MotorMode :=
  match protocol with
  | .PP => env.reported mode (env.waits protocol mode).2
  | .ECB => env.readBack.getD mode
  | _ => mode

/-! ## the pieces evaluate to it -/

theorem eval_inSwitch (p : Maintenance α) (w : ModeSwitchWorld) :
    (inSwitch p).eval env.handle w =
      ((p.eval env.service.handle w.base).1,
        { w with base := (p.eval env.service.handle w.base).2 }) :=
  Prog.eval_mapOp (fun base => { w with base }) (fun _ _ => ⟨rfl, rfl⟩) p w.base

theorem eval_inSwitch_of {p : Maintenance α} {w : ModeSwitchWorld} {a : α} {t : MaintenanceWorld}
    (h : p.eval env.service.handle w.base = (a, t)) :
    (inSwitch p).eval env.handle w = (a, { w with base := t }) := by
  rw [eval_inSwitch, h]

theorem eval_isDeviceReady (device : String) (w : ModeSwitchWorld) :
    (askSwitch (.isDeviceReady device)).eval env.handle w =
      (env.deviceReady w.readyAsked, { w with readyAsked := w.readyAsked + 1 }) := rfl

theorem eval_hasProtocol (device : String) (protocol : CanType) (w : ModeSwitchWorld) :
    (inSwitch (askService (.hasProtocol device protocol))).eval env.handle w =
      (env.service.hasProtocol w.base.protocolAsked,
        { w with base := { w.base with protocolAsked := w.base.protocolAsked + 1 } }) := rfl

theorem eval_freshFeedback (joint : CanDriverJointConfig) (w : ModeSwitchWorld) :
    (inSwitch (askService (.freshFeedback joint))).eval env.handle w =
      (env.service.fresh w.base.freshAsked,
        { w with base := { w.base with freshAsked := w.base.freshAsked + 1 } }) := rfl

theorem eval_lookupJoint (motorId : MotorID) (w : ModeSwitchWorld) :
    (inSwitch (askService (.lookupJoint motorId))).eval env.handle w =
      (w.base.hw.lookupJointByMotorId motorId, w) := rfl

theorem eval_call (target : CanDriverJointConfig) (call : ModeCall) (w : ModeSwitchWorld) :
    (askSwitch (.call target call)).eval env.handle w =
      (env.answer target.protocol call,
        { w with modes := env.modesLeft target.protocol call w.modes }) := rfl

theorem eval_beforeDeadline (w : ModeSwitchWorld) :
    (askSwitch .beforeDeadline).eval env.handle w = (env.timeLeft w.polls, w) := rfl

theorem eval_issueModeQuery (joint : CanDriverJointConfig) (w : ModeSwitchWorld) :
    (askSwitch (.issueModeQuery joint)).eval env.handle w =
      ((), { w with
             modes := { w.modes with cached := (env.report w.polls).getD w.modes.cached }
             polls := w.polls + 1 }) := rfl

theorem eval_commitModeSwitch (motorId : MotorID) (mode : AxisControlMode) (w : ModeSwitchWorld) :
    (askSwitch (.commitModeSwitch motorId mode)).eval env.handle w =
      ((w.base.hw.commitModeSwitch motorId mode).1,
        { w with base := { w.base with hw := (w.base.hw.commitModeSwitch motorId mode).2 } }) := rfl

/-- A call that is reached decides how `execute` ends. -/
theorem eval_executeModeCall (target : CanDriverJointConfig) (call : ModeCall)
    (w : ModeSwitchWorld) :
    ∃ status w', (executeModeCall target call).eval env.handle w = (status, w') ∧
      w'.base.hw = w.base.hw ∧ w'.base.freshAsked = w.base.freshAsked ∧ w'.polls = w.polls ∧
      ((env.deviceReady w.readyAsked && env.service.hasProtocol w.base.protocolAsked) = false →
        w'.modes = w.modes ∧ ∀ rejected, modeCallFailure rejected status ≠ none) ∧
      ((env.deviceReady w.readyAsked && env.service.hasProtocol w.base.protocolAsked) = true →
        w'.modes = env.modesLeft target.protocol call w.modes ∧
        w'.readyAsked = w.readyAsked + 1 ∧ w'.base.protocolAsked = w.base.protocolAsked + 1 ∧
        ∀ rejected, modeCallFailure rejected status = none ↔
          env.answer target.protocol call = .ok) := by
  rw [executeModeCall, Prog.eval_bind_of (env.eval_isDeviceReady _ w)]
  cases env.deviceReady w.readyAsked with
  | false => exact ⟨_, _, rfl, rfl, rfl, rfl, fun _ => ⟨rfl, by simp [modeCallFailure]⟩, by simp⟩
  | true =>
      rw [Bool.not_true, if_neg Bool.false_ne_true, Prog.eval_bind_of (env.eval_hasProtocol _ _ _)]
      cases env.service.hasProtocol w.base.protocolAsked with
      | false => exact ⟨_, _, rfl, rfl, rfl, rfl, fun _ => ⟨rfl, by simp [modeCallFailure]⟩, by simp⟩
      | true =>
          rw [Bool.not_true, if_neg Bool.false_ne_true,
            Prog.eval_bind_of (env.eval_call target call _)]
          cases env.answer target.protocol call with
          | ok => exact ⟨_, _, rfl, rfl, rfl, rfl, by simp, by simp [modeCallFailure]⟩
          | rejected => exact ⟨_, _, rfl, rfl, rfl, rfl, by simp, by simp [modeCallFailure]⟩
          | thrown => exact ⟨_, _, rfl, rfl, rfl, rfl, by simp, by simp [modeCallFailure]⟩

/-- The wait looks at the feedback until the mode shows, and takes every report of the drive. -/
theorem eval_pollModeConfirmation (joint : CanDriverJointConfig) (mode : MotorMode) (polls : Nat)
    (w : ModeSwitchWorld) (hlooked : w.base.freshAsked = w.polls + 1)
    (hcached : w.modes.cached = env.reported mode w.polls) :
    ∃ w', (pollModeConfirmation joint mode polls).eval env.handle w =
        ((env.confirms mode polls w.polls).1, w') ∧ w'.base.hw = w.base.hw ∧
      w'.base.freshAsked = (env.confirms mode polls w.polls).2 + 1 ∧
      w'.base.protocolAsked = w.base.protocolAsked ∧ w'.readyAsked = w.readyAsked ∧
      w'.modes = ⟨env.reported mode (env.confirms mode polls w.polls).2, w.modes.desired⟩ := by
  induction polls generalizing w with
  | zero =>
      refine ⟨w, rfl, rfl, hlooked, rfl, rfl, ?_⟩
      rw [confirms, ← hcached]
  | succ polls ih =>
      rw [pollModeConfirmation, Prog.eval_bind_of (env.eval_beforeDeadline w), confirms]
      cases env.timeLeft w.polls with
      | false =>
          refine ⟨w, rfl, rfl, hlooked, rfl, rfl, ?_⟩
          rw [if_neg Bool.false_ne_true, ← hcached]
      | true =>
          rw [Bool.not_true, if_neg Bool.false_ne_true, if_pos rfl,
            Prog.eval_bind_of (env.eval_issueModeQuery joint w),
            Prog.eval_bind_of (env.eval_freshFeedback joint _)]
          dsimp only
          rw [hlooked, hcached]
          cases showsMode mode (env.service.fresh (w.polls + 1)) with
          | true => exact ⟨_, rfl, rfl, rfl, rfl, rfl, rfl⟩
          | false =>
              rw [if_neg Bool.false_ne_true, if_neg Bool.false_ne_true]
              exact ih _ rfl rfl

variable {env}

/-! ### the modes that the calls leave -/

/-- A mode that can be set is wanted afterwards. -/
theorem modesAfter_setMode {protocol : CanType} {mode : MotorMode}
    (hsupports : protocol.supports (.setMode mode) = true) (readBack : Option MotorMode) (m : Modes) :
    protocol.modesAfter readBack m (.setMode mode) =
      ⟨if protocol = .ECB then readBack.getD mode else mode, mode⟩ := by
  cases protocol with
  | MT => rfl
  | PP => rfl
  | ECB => rfl
  | DM =>
      rw [of_decide_eq_true hsupports]
      rfl

/-- The call of a preload is the one that its mode takes. -/
theorem preload_spec {protocol : CanType} {mode : MotorMode} {call : ModeCall}
    (h : env.preload protocol mode = some (some call)) :
    mode = .velocity ∧ call = .setVelocity 0 ∨ mode = .csp ∧ (∃ raw, call = .quickSetPosition raw) ∨
      mode = .position ∧ ∃ raw, call = .setPosition raw := by
  rw [preload] at h
  by_cases hvelocity : mode = .velocity
  · rw [if_pos hvelocity] at h
    exact Or.inl ⟨hvelocity, (Option.some.inj (Option.some.inj h)).symm⟩
  · rw [if_neg hvelocity] at h
    cases hfeedback : (env.service.fresh (env.looked protocol mode)).filter
        AxisFeedbackState.positionValid with
    | none =>
        rw [hfeedback] at h
        dsimp only at h
        split at h
        · exact absurd (Option.some.inj h) (Option.some_ne_none call).symm
        · exact absurd h (Option.some_ne_none _).symm
    | some feedback =>
        rw [hfeedback] at h
        have hcall := Option.some.inj (Option.some.inj h)
        cases mode with
        | velocity => exact absurd rfl hvelocity
        | csp => exact Or.inr (Or.inl ⟨rfl, _, hcall.symm⟩)
        | position => exact Or.inr (Or.inr ⟨rfl, _, hcall.symm⟩)

variable (env) in
/-- A preload that is taken leaves the modes as `setMode` has, but for an ECB. -/
theorem modesAfter_preload {protocol : CanType} {mode : MotorMode} {call : ModeCall} {c : MotorMode}
    (hpreload : env.preload protocol mode = some (some call))
    (hdm : protocol = .DM → c = .velocity ∧ mode = .velocity) :
    protocol.modesAfter env.readBack ⟨c, mode⟩ call =
      if protocol = .ECB then (if mode = .csp then ⟨.position, .position⟩ else ⟨mode, mode⟩)
      else ⟨c, mode⟩ := by
  obtain ⟨rfl, rfl⟩ | ⟨rfl, raw, rfl⟩ | ⟨rfl, raw, rfl⟩ := preload_spec hpreload
  · cases protocol with
    | MT => rfl
    | PP => rfl
    | ECB => rfl
    | DM => rw [(hdm rfl).1]; rfl
  · cases protocol with
    | MT => rfl
    | PP => rfl
    | ECB => rfl
    | DM => rfl
  · cases protocol with
    | MT => rfl
    | PP => rfl
    | ECB => rfl
    | DM => rfl

/-- A preload that is rejected leaves the modes as `setMode` has. -/
theorem modesRejected_preload {protocol : CanType} {mode : MotorMode} {call : ModeCall}
    {c : MotorMode} (hpreload : env.preload protocol mode = some (some call))
    (hdm : protocol = .DM → c = .velocity ∧ mode = .velocity) (took : Bool) :
    protocol.modesRejected took ⟨c, mode⟩ call = ⟨c, mode⟩ := by
  have hafter := modesAfter_preload { env with readBack := none } hpreload hdm
  have hsplit : protocol.modesRejected took ⟨c, mode⟩ call =
      if took && decide (protocol ≠ .ECB) && protocol.supports call then
        protocol.modesAfter none ⟨c, mode⟩ call else ⟨c, mode⟩ := by
    obtain ⟨rfl, rfl⟩ | ⟨rfl, raw, rfl⟩ | ⟨rfl, raw, rfl⟩ := preload_spec hpreload
    · rfl
    · rfl
    · rfl
  rw [hsplit]
  split
  · next htook =>
    rw [Bool.and_eq_true, Bool.and_eq_true, decide_eq_true_eq] at htook
    exact hafter.trans (if_neg htook.1.2)
  · rfl

/-- Only a PP drive reports while the request waits. -/
theorem cachedLeft_eq {protocol : CanType} (hpp : protocol ≠ .PP) (mode : MotorMode) :
    env.cachedLeft protocol mode =
      if protocol = .ECB then env.readBack.getD mode else mode := by
  cases protocol with
  | PP => exact absurd rfl hpp
  | MT => rfl
  | DM => rfl
  | ECB => rfl

variable (env)

/-! ### the rest of a request -/

theorem eval_waitForPpModeConfirmation (joint : CanDriverJointConfig) (mode : MotorMode)
    (w : ModeSwitchWorld) (hprotocol : w.base.protocolAsked = 1) (hready : w.readyAsked = 1)
    (hpolls : w.polls = 0)
    (hlooked : w.base.freshAsked = if modeSwitchRequiresDisabledAxis joint.protocol then 1 else 0)
    (hmodes : w.modes = ⟨if joint.protocol = .ECB then env.readBack.getD mode else mode, mode⟩) :
    ∃ w', (waitForPpModeConfirmation joint mode).eval env.handle w =
        ((env.waits joint.protocol mode).1, w') ∧ w'.base.hw = w.base.hw ∧
      w'.base.freshAsked = env.looked joint.protocol mode ∧
      w'.base.protocolAsked = (if joint.protocol = .PP then 2 else 1) ∧ w'.readyAsked = 1 ∧
      w'.modes = ⟨env.cachedLeft joint.protocol mode, mode⟩ := by
  by_cases hp : joint.protocol = .PP
  · rw [hp] at hlooked hmodes ⊢
    have hlooked : w.base.freshAsked = 1 := hlooked
    rw [if_neg (by decide)] at hmodes
    rw [waitForPpModeConfirmation, if_neg (not_not_intro hp),
      Prog.eval_bind_of (env.eval_hasProtocol _ _ _), hprotocol, if_pos rfl]
    cases havailable : env.service.hasProtocol 1 with
    | false =>
        have hwaits : env.waits .PP mode = (true, 0) := by simp [waits, havailable]
        refine ⟨{ w with base := { w.base with protocolAsked := 1 + 1 } }, ?_, rfl, ?_, rfl, hready, ?_⟩
        · rw [hwaits]
          rfl
        · rw [looked, hwaits]
          exact hlooked
        · rw [cachedLeft, hwaits]
          exact hmodes
    | true =>
        have hwaits : env.waits .PP mode = env.confirms mode 25 0 := by simp [waits, havailable]
        obtain ⟨w', heval, hhw, hfresh, hasked, hready', hleft⟩ := env.eval_pollModeConfirmation joint
          mode 25 { w with base := { w.base with protocolAsked := 1 + 1 } }
          (by rw [hpolls]; exact hlooked) (by rw [hpolls, hmodes]; rfl)
        have hconfirms : env.confirms mode 25 w.polls = env.confirms mode 25 0 := by rw [hpolls]
        dsimp only at heval hfresh hleft
        rw [hconfirms] at heval hfresh hleft
        refine ⟨w', ?_, hhw, ?_, hasked, hready'.trans hready, ?_⟩
        · rw [hwaits, Bool.not_true, if_neg Bool.false_ne_true]
          exact heval
        · rw [looked, hwaits]
          exact hfresh
        · rw [cachedLeft, hwaits, hleft, hmodes]
  · have hwaits : env.waits joint.protocol mode = (true, 0) := by simp [waits, hp]
    refine ⟨w, ?_, rfl, ?_, ?_, hready, ?_⟩
    · rw [waitForPpModeConfirmation, if_pos hp, hwaits]
      rfl
    · rw [looked, hwaits, hlooked, Nat.zero_add]
    · rw [hprotocol, if_neg hp]
    · rw [hmodes, cachedLeft_eq hp]

theorem eval_preloadCall (joint : CanDriverJointConfig) (mode : MotorMode) (w : ModeSwitchWorld)
    (hlooked : w.base.freshAsked = env.looked joint.protocol mode) :
    ∃ call w', (preloadCall joint mode).eval env.handle w = (call, w') ∧
      call.toOption = env.preload joint.protocol mode ∧ w'.base.hw = w.base.hw ∧
      w'.base.protocolAsked = w.base.protocolAsked ∧ w'.readyAsked = w.readyAsked ∧
      w'.modes = w.modes := by
  rw [preloadCall, preload]
  split
  · exact ⟨_, _, rfl, rfl, rfl, rfl, rfl, rfl⟩
  · rw [Prog.eval_bind_of (env.eval_freshFeedback joint w), hlooked]
    cases (env.service.fresh (env.looked joint.protocol mode)).filter
        AxisFeedbackState.positionValid with
    | none =>
        dsimp only
        split
        · exact ⟨_, _, rfl, rfl, rfl, rfl, rfl, rfl⟩
        · exact ⟨_, _, rfl, rfl, rfl, rfl, rfl, rfl⟩
    | some feedback =>
        dsimp only
        split
        · exact ⟨_, _, rfl, rfl, rfl, rfl, rfl, rfl⟩
        · exact ⟨_, _, rfl, rfl, rfl, rfl, rfl, rfl⟩

theorem eval_commitModeRequest (motorId : MotorID) (mode : AxisControlMode) (w : ModeSwitchWorld)
    (hfound : (w.base.hw.lookupJointByMotorId motorId).isSome = true) :
    ∃ result, (commitModeRequest motorId mode).eval env.handle w = (result, { w with
        base := { w.base with hw := (w.base.hw.commitModeSwitch motorId mode).2 } }) ∧
      result.success = true := by
  have hcommitted : (w.base.hw.commitModeSwitch motorId mode).1 = true := by
    rw [lookupJointByMotorId, Option.isSome_map] at hfound
    obtain ⟨found, hfound⟩ := Option.isSome_iff_exists.1 hfound
    rw [CanDriverHW.commitModeSwitch, hfound]
  rw [commitModeRequest, Prog.eval_bind_of (env.eval_commitModeSwitch motorId mode w), hcommitted]
  exact ⟨_, rfl, rfl⟩

/-- The preload is reached and throws. -/
def preloadThrows (protocol : CanType) (mode : MotorMode) : Bool :=
  (env.waits protocol mode).1 && decide (env.preloadOutcome protocol mode = some .thrown)

/-- How a request goes on once `setMode` is accepted. -/
structure Switched (hw : CanDriverHW) (protocol : CanType) (motorId : MotorID)
    (axisMode : AxisControlMode) (mode : MotorMode) (result : SetModeResult)
    (w' : ModeSwitchWorld) : Prop where
  success : result.success = env.completes protocol mode
  kept : result.success = false → w'.base.hw = hw
  committed : result.success = true → w'.base.hw = (hw.commitModeSwitch motorId axisMode).2
  done : result.success = true → w'.modes =
    if protocol = .ECB then (if mode = .csp then ⟨.position, .position⟩ else ⟨mode, mode⟩)
    else ⟨env.cachedLeft protocol mode, mode⟩
  thrown : env.preloadThrows protocol mode = true → w'.modes = env.preloadEnd.left
  failed : result.success = false → env.preloadThrows protocol mode = false →
    w'.modes = ⟨env.cachedLeft protocol mode, mode⟩

variable {env} in
/-- A request that fails without a preload that throws leaves what `setMode` has made. -/
theorem Switched.of_failed {hw : CanDriverHW} {protocol : CanType} {motorId : MotorID}
    {axisMode : AxisControlMode} {mode : MotorMode} {result : SetModeResult} {w' : ModeSwitchWorld}
    (hfailed : result.success = false) (hnot : env.completes protocol mode = false)
    (hthrows : env.preloadThrows protocol mode = false) (hhw : w'.base.hw = hw)
    (hmodes : w'.modes = ⟨env.cachedLeft protocol mode, mode⟩) :
    env.Switched hw protocol motorId axisMode mode result w' where
  success := hfailed.trans hnot.symm
  kept _ := hhw
  committed h := absurd (hfailed.symm.trans h) Bool.false_ne_true
  done h := absurd (hfailed.symm.trans h) Bool.false_ne_true
  thrown h := absurd (hthrows.symm.trans h) Bool.false_ne_true
  failed _ _ := hmodes

/-- Once the mode is confirmed, the preload decides. -/
theorem eval_preloadAndCommit (joint : CanDriverJointConfig) (motorId : MotorID)
    (axisMode : AxisControlMode) (mode : MotorMode) (w : ModeSwitchWorld)
    (hmode : protocolMotorModeFromAxisControlMode axisMode = mode)
    (hconfirmed : (env.waits joint.protocol mode).1 = true)
    (hdm : joint.protocol = .DM → mode = .velocity)
    (hlooked : w.base.freshAsked = env.looked joint.protocol mode)
    (hasked : w.base.protocolAsked = if joint.protocol = .PP then 2 else 1)
    (hready : w.readyAsked = 1)
    (hmodes : w.modes = ⟨env.cachedLeft joint.protocol mode, mode⟩)
    (hfound : (w.base.hw.lookupJointByMotorId motorId).isSome = true) :
    ∃ result w', (preloadAndCommit joint motorId axisMode).eval env.handle w = (result, w') ∧
      env.Switched w.base.hw joint.protocol motorId axisMode mode result w' := by
  have hdm' : joint.protocol = .DM →
      env.cachedLeft joint.protocol mode = .velocity ∧ mode = .velocity := by
    intro h
    rw [cachedLeft_eq (by rw [h]; decide), if_neg (by rw [h]; decide)]
    exact ⟨hdm h, hdm h⟩
  obtain ⟨call, w₁, hcall, hpreload, hhw₁, hasked₁, hready₁, hmodes₁⟩ :=
    env.eval_preloadCall joint mode w hlooked
  rw [hasked] at hasked₁
  rw [hready] at hready₁
  rw [hmodes] at hmodes₁
  rw [preloadAndCommit, hmode, Prog.eval_bind_of hcall]
  have hfound₁ : (w₁.base.hw.lookupJointByMotorId motorId).isSome = true := by
    rw [hhw₁]
    exact hfound
  cases call with
  | error message =>
      have hnone : env.preload joint.protocol mode = none := hpreload.symm
      refine ⟨_, _, rfl, .of_failed rfl ?_ ?_ hhw₁ hmodes₁⟩
      · simp [completes, preloadOutcome, hnone]
      · simp [preloadThrows, preloadOutcome, hnone]
  | ok call =>
      have hsome : env.preload joint.protocol mode = some call := hpreload.symm
      cases call with
      | none =>
          have houtcome : env.preloadOutcome joint.protocol mode = some .ok := by
            rw [preloadOutcome, hsome]
            rfl
          have hcompletes : env.completes joint.protocol mode = true := by
            simp [completes, hconfirmed, houtcome]
          have hmt : joint.protocol ≠ .ECB := by
            intro hecb
            rw [preload, hecb] at hsome
            split at hsome
            · exact absurd (Option.some.inj hsome) (Option.some_ne_none _)
            · split at hsome
              · exact absurd hsome.symm (by simp)
              · exact absurd (Option.some.inj hsome) (Option.some_ne_none _)
          obtain ⟨result, heval, hsuccess⟩ :=
            env.eval_commitModeRequest motorId axisMode w₁ hfound₁
          refine ⟨_, _, heval, hsuccess.trans hcompletes.symm, fun h => ?_, fun _ => ?_, fun _ => ?_,
            fun h => ?_, fun h => ?_⟩
          · exact absurd (hsuccess.symm.trans h) Bool.false_ne_true.symm
          · dsimp only
            rw [hhw₁]
          · rw [if_neg hmt]
            exact hmodes₁
          · simp [preloadThrows, houtcome] at h
          · exact absurd (hsuccess.symm.trans h) Bool.false_ne_true.symm
      | some call =>
          obtain ⟨status, w₂, hstatus, hhw₂, -, -, hunreached, hreached⟩ :=
            env.eval_executeModeCall joint call w₁
          rw [hready₁, hasked₁] at hunreached hreached
          dsimp only
          rw [Prog.eval_bind_of hstatus]
          cases hreach : env.reachesPreload joint.protocol with
          | false =>
              have houtcome : env.preloadOutcome joint.protocol mode = none := by
                rw [preloadOutcome, hsome, Option.bind_some]
                dsimp only
                rw [hreach, if_neg Bool.false_ne_true]
              obtain ⟨hleft, hfails⟩ := hunreached hreach
              obtain ⟨message, hmessage⟩ := Option.ne_none_iff_exists'.1
                (hfails "Set mode preload command rejected.")
              rw [hmessage]
              refine ⟨_, _, rfl, .of_failed rfl ?_ ?_ (hhw₂.trans hhw₁) (hleft.trans hmodes₁)⟩
              · simp [completes, houtcome]
              · simp [preloadThrows, houtcome]
          | true =>
              have houtcome : env.preloadOutcome joint.protocol mode =
                  some (env.answer joint.protocol call) := by
                rw [preloadOutcome, hsome, Option.bind_some]
                dsimp only
                rw [hreach, if_pos rfl]
              obtain ⟨hleft, -, -, hfailure⟩ := hreached hreach
              rw [hmodes₁, ModeSwitchEnv.modesLeft] at hleft
              have hfailure := hfailure "Set mode preload command rejected."
              cases hanswer : env.answer joint.protocol call with
              | ok =>
                  rw [hanswer] at hleft houtcome
                  rw [hfailure.2 hanswer]
                  have hcompletes : env.completes joint.protocol mode = true := by
                    simp [completes, hconfirmed, houtcome]
                  obtain ⟨result, heval, hsuccess⟩ :=
                    env.eval_commitModeRequest motorId axisMode w₂ (by rw [hhw₂]; exact hfound₁)
                  refine ⟨_, _, heval, hsuccess.trans hcompletes.symm, fun h => ?_, fun _ => ?_,
                    fun _ => ?_, fun h => ?_, fun h => ?_⟩
                  · exact absurd (hsuccess.symm.trans h) Bool.false_ne_true.symm
                  · dsimp only
                    rw [hhw₂, hhw₁]
                  · exact hleft.trans (modesAfter_preload _ hsome hdm')
                  · simp [preloadThrows, houtcome] at h
                  · exact absurd (hsuccess.symm.trans h) Bool.false_ne_true.symm
              | rejected =>
                  rw [hanswer] at hleft houtcome hfailure
                  obtain ⟨message, hmessage⟩ := Option.ne_none_iff_exists'.1
                    (show modeCallFailure "Set mode preload command rejected." status ≠ none by
                      simpa using hfailure)
                  rw [hmessage]
                  refine ⟨_, _, rfl, .of_failed rfl ?_ ?_ (hhw₂.trans hhw₁)
                    (hleft.trans (modesRejected_preload hsome hdm' _))⟩
                  · simp [completes, houtcome]
                  · simp [preloadThrows, houtcome]
              | thrown =>
                  rw [hanswer] at hleft houtcome hfailure
                  obtain ⟨message, hmessage⟩ := Option.ne_none_iff_exists'.1
                    (show modeCallFailure "Set mode preload command rejected." status ≠ none by
                      simpa using hfailure)
                  have hend : env.callEnd call = env.preloadEnd := by
                    obtain ⟨-, rfl⟩ | ⟨-, raw, rfl⟩ | ⟨-, raw, rfl⟩ := preload_spec hsome
                    · rfl
                    · rfl
                    · rfl
                  rw [hend] at hleft
                  have hthrows : env.preloadThrows joint.protocol mode = true := by
                    simp [preloadThrows, hconfirmed, houtcome]
                  rw [hmessage]
                  refine ⟨_, _, rfl, ?_, fun _ => hhw₂.trans hhw₁, fun h => ?_, fun h => ?_,
                    fun _ => hleft, fun _ h => ?_⟩
                  · simp [completes, houtcome]
                  · cases h
                  · cases h
                  · exact absurd (hthrows.symm.trans h) Bool.false_ne_true.symm

/-- How a request for a mode ends: given up before `setMode`, at `setMode`, or after it. -/
inductive Ended (hw : CanDriverHW) (modes : Modes) (protocol : CanType) (motorId : MotorID)
    (axisMode : AxisControlMode) (mode : MotorMode) (result : SetModeResult)
    (w' : ModeSwitchWorld) : Prop
  | unreached (hreach : env.reaches protocol = false) (hfailed : result.success = false)
      (hhw : w'.base.hw = hw) (hmodes : w'.modes = modes)
  | rejected (hreach : env.reaches protocol = true)
      (hanswer : env.answer protocol (.setMode mode) = .rejected) (hfailed : result.success = false)
      (hhw : w'.base.hw = hw) (hmodes : w'.modes = modes)
  | thrown (hreach : env.reaches protocol = true)
      (hanswer : env.answer protocol (.setMode mode) = .thrown) (hfailed : result.success = false)
      (hhw : w'.base.hw = hw) (hmodes : w'.modes = env.setModeEnd.left)
  | accepted (hreach : env.reaches protocol = true)
      (hanswer : env.answer protocol (.setMode mode) = .ok)
      (hswitched : env.Switched hw protocol motorId axisMode mode result w')

/-- A mode that is set on an axis that may take it is confirmed, preloaded and committed. -/
theorem eval_switchTo (target : CanDriverJointConfig) (motorId : MotorID)
    (axisMode : AxisControlMode) (mode : MotorMode) (w : ModeSwitchWorld)
    (hmode : protocolMotorModeFromAxisControlMode axisMode = mode)
    (hlookup : w.base.hw.lookupJointByMotorId motorId = some target)
    (hlooked : w.base.freshAsked = if modeSwitchRequiresDisabledAxis target.protocol then 1 else 0)
    (hasked : w.base.protocolAsked = 0) (hready : w.readyAsked = 0) (hpolls : w.polls = 0)
    (hallowed : env.allowed target.protocol = true) :
    ∃ result w', (switchTo target motorId axisMode).eval env.handle w = (result, w') ∧
      env.Ended w.base.hw w.modes target.protocol motorId axisMode mode result w' := by
  obtain ⟨status, w₁, hstatus, hhw₁, hfresh₁, hpolls₁, hunreached, hreached⟩ :=
    env.eval_executeModeCall target (.setMode mode) w
  rw [hready, hasked] at hunreached hreached
  have hreaches : env.reaches target.protocol = (env.deviceReady 0 && env.service.hasProtocol 0) := by
    rw [reaches, hallowed, Bool.true_and]
  rw [← hreaches] at hunreached hreached
  rw [switchTo, hmode, Prog.eval_bind_of hstatus]
  cases hreach : env.reaches target.protocol with
  | false =>
      obtain ⟨hleft, hfails⟩ := hunreached hreach
      obtain ⟨message, hmessage⟩ := Option.ne_none_iff_exists'.1
        (hfails "Set mode command rejected.")
      rw [hmessage]
      exact ⟨_, _, rfl, .unreached hreach rfl hhw₁ hleft⟩
  | true =>
      obtain ⟨hleft, hready₁, hasked₁, hfailure⟩ := hreached hreach
      have hfailure := hfailure "Set mode command rejected."
      rw [ModeSwitchEnv.modesLeft] at hleft
      cases hanswer : env.answer target.protocol (.setMode mode) with
      | rejected =>
          rw [hanswer] at hleft hfailure
          obtain ⟨message, hmessage⟩ := Option.ne_none_iff_exists'.1
            (show modeCallFailure "Set mode command rejected." status ≠ none by simpa using hfailure)
          rw [hmessage]
          exact ⟨_, _, rfl, .rejected hreach hanswer rfl hhw₁ hleft⟩
      | thrown =>
          rw [hanswer] at hleft hfailure
          obtain ⟨message, hmessage⟩ := Option.ne_none_iff_exists'.1
            (show modeCallFailure "Set mode command rejected." status ≠ none by simpa using hfailure)
          rw [hmessage]
          exact ⟨_, _, rfl, .thrown hreach hanswer rfl hhw₁ hleft⟩
      | ok =>
          rw [hanswer] at hleft
          have hsupports : target.protocol.supports (.setMode mode) = true := by
            by_contra hnot
            rw [answer, if_neg hnot] at hanswer
            cases hanswer
          have hdm : target.protocol = .DM → mode = .velocity := by
            intro hp
            rw [hp] at hsupports
            exact of_decide_eq_true hsupports
          obtain ⟨w₂, hwait, hhw₂, hfresh₂, hasked₂, hready₂, hmodes₂⟩ :=
            env.eval_waitForPpModeConfirmation target mode w₁ hasked₁ hready₁ (hpolls₁.trans hpolls)
              (hfresh₁.trans hlooked) (hleft.trans (modesAfter_setMode hsupports _ _))
          rw [hfailure.2 hanswer]
          dsimp only
          rw [Prog.eval_bind_of hwait]
          cases hconfirmed : (env.waits target.protocol mode).1 with
          | false =>
              refine ⟨_, _, rfl, .accepted hreach hanswer (.of_failed rfl ?_ ?_ (hhw₂.trans hhw₁)
                hmodes₂)⟩
              · simp [completes, hconfirmed]
              · simp [preloadThrows, hconfirmed]
          | true =>
              have hfound₂ : w₂.base.hw.lookupJointByMotorId motorId = some target := by
                rw [hhw₂, hhw₁]
                exact hlookup
              rw [Bool.not_true, if_neg Bool.false_ne_true,
                Prog.eval_bind_of (env.eval_lookupJoint motorId w₂), hfound₂]
              obtain ⟨result, w', heval, hswitched⟩ := env.eval_preloadAndCommit target motorId
                axisMode mode w₂ hmode hconfirmed hdm hfresh₂ hasked₂ hready₂ hmodes₂
                (by rw [hfound₂]; rfl)
              rw [hhw₂, hhw₁] at hswitched
              exact ⟨result, w', heval, .accepted hreach hanswer hswitched⟩

end ModeSwitchEnv

end CanDriver
