import CanDriver.Lib.Prog

/-!
# CanDriver.OperationalCoordinator

The lifecycle coordinator: one atomic mode, one mutex that serialises the
`Request*` calls, and a table of driver operations the requests delegate to.

Every member function is a program over `ModeOp`: the atomic accesses of
`mode_`, the two ends of a `lock_guard` on `transitionMutex_`, and the
operations `D` of whatever stands behind the driver table.  Nothing is said
here about who else runs at the same time: `CanDriver.Coordinator.Lifecycle`
runs the calls one after another, `CanDriver.Coordinator.FaultRace` lets them
interleave.
-/

namespace CanDriver

open Interact

/-- `SystemOpMode`. -/
inductive SystemOpMode where
  | inactive | configured | standby | armed | running | faulted | recovering | shuttingDown
deriving DecidableEq, Repr

/-- `SystemOpModeName`. -/
def SystemOpMode.name : SystemOpMode → String
  | inactive => "Inactive"
  | configured => "Configured"
  | standby => "Standby"
  | armed => "Armed"
  | running => "Running"
  | faulted => "Faulted"
  | recovering => "Recovering"
  | shuttingDown => "ShuttingDown"

/-- `OperationalCoordinator::Result`. -/
structure Result where
  ok : Bool
  message : String
deriving DecidableEq, Repr

/-- `OperationalCoordinator::DriverOps`: the driver side of the requests; an
empty `std::function` is `none`.  The two health checks are given the detail
string they may overwrite and return what it holds afterwards. -/
structure DriverOps (D : Sig) where
  initDevice : Option (String → Bool → Prog D Result)
  enableAll : Option (Prog D Result)
  disableAll : Option (Prog D Result)
  haltAll : Option (Prog D Result)
  recoverAll : Option (Prog D Result)
  shutdownAll : Option (Bool → Prog D Result)
  enableHealthy : Option (String → Prog D (Bool × String))
  motionHealthy : Option (String → Prog D (Bool × String))
  holdCommands : Option (Prog D Unit)
  armFreshCommandLatch : Option (Prog D Unit)

/-! ## the operations of a member function -/

/-- What a coordinator call does to the outside, step by step. -/
inductive ModeOp (D : Sig) where
  | lock
  | unlock
  | load
  | store (m : SystemOpMode)
  | exchange (m : SystemOpMode)
  | compareExchange (expected desired : SystemOpMode)
  | driver (op : D.Op)

/-- The answers: `load` and `exchange` return the old mode, a compare-exchange
whether it took effect. -/
@[reducible] def ModeOp.Ans {D : Sig} : ModeOp D → Type
  | .lock => Unit
  | .unlock => Unit
  | .load => SystemOpMode
  | .store _ => Unit
  | .exchange _ => SystemOpMode
  | .compareExchange _ _ => Bool
  | .driver op => D.Ans op

/-- The interface a coordinator call is a program over. -/
abbrev coordSig (D : Sig) : Sig := ⟨ModeOp D, ModeOp.Ans⟩

/-- The mode after an operation. -/
def ModeOp.modeAfter {D : Sig} (m : SystemOpMode) : ModeOp D → SystemOpMode
  | .store m' => m'
  | .exchange m' => m'
  | .compareExchange expected desired => if m = expected then desired else m
  | _ => m

variable {D : Sig}

/-- A coordinator program. -/
abbrev Coord (D : Sig) (α : Type) := Prog (coordSig D) α

def lock : Coord D Unit := Prog.vis (S := coordSig D) .lock .ret
def unlock : Coord D Unit := Prog.vis (S := coordSig D) .unlock .ret
def load : Coord D SystemOpMode := Prog.vis (S := coordSig D) .load .ret
def store (m : SystemOpMode) : Coord D Unit := Prog.vis (S := coordSig D) (.store m) .ret
def exchange (m : SystemOpMode) : Coord D SystemOpMode :=
  Prog.vis (S := coordSig D) (.exchange m) .ret
def compareExchange (expected desired : SystemOpMode) : Coord D Bool :=
  Prog.vis (S := coordSig D) (.compareExchange expected desired) .ret

/-- Call into the driver table. -/
def driver (p : Prog D α) : Coord D α :=
  p.mapOp (S := coordSig D) ModeOp.driver fun _ r => r

/-- Call an optional hook that returns nothing. -/
def hook : Option (Prog D Unit) → Coord D Unit
  | some p => driver p
  | none => pure ()

/-- An optional health check: an absent one passes and leaves the detail alone. -/
def healthy (check : Option (String → Prog D (Bool × String))) (detail : String) :
    Coord D (Bool × String) :=
  match check with
  | some p => driver (p detail)
  | none => pure (true, detail)

/-! ## transitions -/

/-- `OperationalCoordinator::DoTransition`.  The action starts with an empty
detail and returns the one it leaves. -/
def doTransition (allowedFrom : List SystemOpMode) (target : SystemOpMode)
    (action : Coord D (Bool × String)) : Coord D Result := do
  lock
  let current ← load
  if current ∈ allowedFrom then
    let (ok, detail) ← action
    if ok then
      store target
      unlock
      pure ⟨true, if detail = "" then "-> " ++ target.name else detail⟩
    else
      unlock
      pure ⟨false, if detail = "" then "action failed" else detail⟩
  else
    unlock
    if current = target then
      pure ⟨true, "already " ++ target.name⟩
    else
      pure ⟨false, "cannot transition from " ++ current.name ++ " target " ++ target.name⟩

/-- `ForceMode`. -/
def forceMode (target : SystemOpMode) : Coord D Unit := do
  let _ ← exchange target
  pure ()

def setInactive : Coord D Unit := forceMode .inactive
def setConfigured : Coord D Unit := forceMode .configured
def setFaulted : Coord D Unit := forceMode .faulted

/-- `RevalidateArmedEnable`. -/
def revalidateArmedEnable (ops : DriverOps D) : Coord D Result := do
  let (ok, detail) ← healthy ops.motionHealthy ""
  if ok then
    pure ⟨true, "already Armed"⟩
  else
    pure ⟨false, if detail = "" then "armed enable validation failed" else detail⟩

/-- The action of `RequestInit`. -/
def initAction (ops : DriverOps D) (device : String) (loopback : Bool) :
    Coord D (Bool × String) :=
  match ops.initDevice with
  | none => pure (false, "init path not available")
  | some init => do
      let result ← driver (init device loopback)
      if result.ok then
        hook ops.holdCommands
        hook ops.armFreshCommandLatch
        pure (true, result.message)
      else
        pure (false, result.message)

/-- `RequestInit`. -/
def requestInit (ops : DriverOps D) (device : String) (loopback : Bool) : Coord D Result :=
  doTransition [.configured] .standby (initAction ops device loopback)

/-- The action of `RequestEnable`: the detail of the health check survives an
enable that reports no message of its own. -/
def enableAction (ops : DriverOps D) : Coord D (Bool × String) := do
  let (ok, detail) ← healthy ops.enableHealthy ""
  if ok then
    match ops.enableAll with
    | none => pure (false, "enable path not available")
    | some enable => do
        let result ← driver enable
        if result.ok then
          hook ops.holdCommands
          hook ops.armFreshCommandLatch
          pure (true, if result.message = "" then detail else result.message)
        else
          pure (false, result.message)
  else
    pure (false, detail)

/-- `RequestEnable`.  The mode is first read without the mutex; only if it is
armed both before and after taking the mutex is the call a revalidation. -/
def requestEnable (ops : DriverOps D) : Coord D Result := do
  let early ← load
  if early = .armed then
    lock
    let current ← load
    if current = .armed then
      let result ← revalidateArmedEnable ops
      unlock
      pure result
    else
      unlock
      doTransition [.standby] .armed (enableAction ops)
  else
    doTransition [.standby] .armed (enableAction ops)

/-- The action of `RequestDisable` and of `RequestHalt`: hold the commands, then
the batch operation. -/
def holdThen (ops : DriverOps D) (batch : Option (Prog D Result)) (missing : String) :
    Coord D (Bool × String) := do
  hook ops.holdCommands
  match batch with
  | none => pure (false, missing)
  | some p => do
      let result ← driver p
      pure (result.ok, result.message)

/-- `RequestDisable`. -/
def requestDisable (ops : DriverOps D) : Coord D Result :=
  doTransition [.standby, .armed, .running] .standby
    (holdThen ops ops.disableAll "disable path not available")

/-- The action of `RequestRelease`. -/
def releaseAction (ops : DriverOps D) : Coord D (Bool × String) := do
  let (ok, detail) ← healthy ops.motionHealthy ""
  if ok then
    hook ops.armFreshCommandLatch
    pure (true, detail)
  else
    pure (false, detail)

/-- `RequestRelease`. -/
def requestRelease (ops : DriverOps D) : Coord D Result :=
  doTransition [.armed] .running (releaseAction ops)

/-- `RequestHalt`. -/
def requestHalt (ops : DriverOps D) : Coord D Result :=
  doTransition [.running] .armed (holdThen ops ops.haltAll "halt path not available")

/-- The action of `RequestRecover`, which leaves `Faulted` on its way and puts
it back on every error branch. -/
def recoverAction (ops : DriverOps D) : Coord D (Bool × String) := do
  store .recovering
  match ops.recoverAll with
  | none => do
      store .faulted
      pure (false, "recover path not available")
  | some recover => do
      let result ← driver recover
      if result.ok then
        hook ops.holdCommands
        hook ops.armFreshCommandLatch
        pure (true, result.message)
      else
        store .faulted
        pure (false, result.message)

/-- `RequestRecover`. -/
def requestRecover (ops : DriverOps D) : Coord D Result :=
  doTransition [.faulted] .standby (recoverAction ops)

/-- The action of `RequestShutdown`: `Configured` is stored whether or not the
shutdown succeeds. -/
def shutdownAction (ops : DriverOps D) (force : Bool) : Coord D (Bool × String) := do
  store .shuttingDown
  match ops.shutdownAll with
  | none => do
      store .configured
      pure (false, "shutdown path not available")
  | some shutdown => do
      let result ← driver (shutdown force)
      store .configured
      pure (result.ok, result.message)

/-- `RequestShutdown`. -/
def requestShutdown (ops : DriverOps D) (force : Bool) : Coord D Result :=
  doTransition [.inactive, .configured, .standby, .armed, .running, .faulted, .recovering,
    .shuttingDown] .configured (shutdownAction ops force)

/-- `UpdateFromFeedback`: the mode is read and exchanged without the mutex. -/
def updateFromFeedback (unhealthy : Bool) : Coord D Unit :=
  if unhealthy then do
    let current ← load
    if current = .armed ∨ current = .running then
      let _ ← compareExchange current .faulted
      pure ()
    else
      pure ()
  else
    pure ()

/-! ## calls -/

/-- The public calls that may change the mode. -/
inductive CoordCall where
  | requestInit (device : String) (loopback : Bool)
  | requestEnable
  | requestDisable
  | requestRelease
  | requestHalt
  | requestRecover
  | requestShutdown (force : Bool)
  | updateFromFeedback (unhealthy : Bool)
  | setInactive
  | setConfigured
  | setFaulted
deriving DecidableEq, Repr

/-- The program of a call; the calls that return nothing yield `none`. -/
def CoordCall.code (ops : DriverOps D) : CoordCall → Coord D (Option Result)
  | requestInit device loopback => do
      let r ← CanDriver.requestInit ops device loopback
      pure (some r)
  | requestEnable => do let r ← CanDriver.requestEnable ops; pure (some r)
  | requestDisable => do let r ← CanDriver.requestDisable ops; pure (some r)
  | requestRelease => do let r ← CanDriver.requestRelease ops; pure (some r)
  | requestHalt => do let r ← CanDriver.requestHalt ops; pure (some r)
  | requestRecover => do let r ← CanDriver.requestRecover ops; pure (some r)
  | requestShutdown force => do let r ← CanDriver.requestShutdown ops force; pure (some r)
  | updateFromFeedback unhealthy => do
      CanDriver.updateFromFeedback unhealthy
      pure none
  | setInactive => do CanDriver.setInactive; pure none
  | setConfigured => do CanDriver.setConfigured; pure none
  | setFaulted => do CanDriver.setFaulted; pure none

end CanDriver
