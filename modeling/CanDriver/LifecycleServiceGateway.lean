import CanDriver.OperationalCoordinator

/-!
# CanDriver.LifecycleServiceGateway

The lifecycle services of the node: each asks the coordinator for a transition and puts its
result into the words of a reply.
-/

namespace CanDriver

open Interact

/-- The response of a lifecycle service. -/
structure ServiceResponse where
  success : Bool
  message : String
deriving DecidableEq, Repr

namespace LifecycleServiceGateway

def kGlobalRecoverMotorId : UInt16 := 0xFFFF

/-- `isAlreadyMessage`. -/
def isAlreadyMessage (message : String) : Bool := message.startsWith "already "

/-- `selectSuccessMessage`. -/
def selectSuccessMessage (result : Result) (canonicalSuccess : String)
    (canonicalAlready : Option String) : String :=
  if isAlreadyMessage result.message then canonicalAlready.getD result.message
  else if canonicalSuccess ≠ "" then canonicalSuccess
  else result.message

/-- `selectFailureMessage`. -/
def selectFailureMessage (result : Result) (fallback : String) : String :=
  if result.message = "" then fallback else result.message

variable {D : Sig}

/-- What all services share: without a coordinator there is nothing to ask; otherwise the result
of the request becomes the reply. -/
def ask (ops : Option (DriverOps D)) (request : DriverOps D → Coord D Result)
    (successMessage : Result → String) (fallback : String) : Coord D ServiceResponse :=
  match ops with
  | none => pure ⟨false, "lifecycle gateway not initialized"⟩
  | some ops => do
      let result ← request ops
      pure ⟨result.ok,
        if result.ok then successMessage result else selectFailureMessage result fallback⟩

/-- `onInit`. -/
def onInit (ops : Option (DriverOps D)) (device : String) (loopback : Bool) :
    Coord D ServiceResponse :=
  ask ops (fun ops => requestInit ops device loopback)
    (fun result => selectSuccessMessage result "initialized (standby)" "already initialized")
    "init failed"

/-- `onShutdown`. -/
def onShutdown (ops : Option (DriverOps D)) (force : Bool) : Coord D ServiceResponse :=
  ask ops (fun ops => requestShutdown ops force)
    (fun _ => "communication stopped; call ~/init first") "shutdown failed"

/-- `onRecover`: only the recovery of all motors is left. -/
def onRecover (ops : Option (DriverOps D)) (motorId : UInt16) : Coord D ServiceResponse :=
  if ops.isSome && motorId ≠ kGlobalRecoverMotorId then
    pure ⟨false, "per-motor recover has been removed; use motor_id=65535 for global recover"⟩
  else
    ask ops requestRecover
      (fun result => selectSuccessMessage result "recovered (standby)" none) "recover failed"

/-- `onEnable`. -/
def onEnable (ops : Option (DriverOps D)) : Coord D ServiceResponse :=
  ask ops requestEnable
    (fun result => selectSuccessMessage result "enabled (armed)" "already enabled")
    "enable failed"

/-- `onDisable`. -/
def onDisable (ops : Option (DriverOps D)) : Coord D ServiceResponse :=
  ask ops requestDisable
    (fun result => selectSuccessMessage result "disabled (standby)" "already disabled")
    "disable failed"

/-- `onHalt`. -/
def onHalt (ops : Option (DriverOps D)) : Coord D ServiceResponse :=
  ask ops requestHalt (fun result => selectSuccessMessage result "halted" "already halted")
    "halt failed"

/-- `onResume`. -/
def onResume (ops : Option (DriverOps D)) : Coord D ServiceResponse :=
  ask ops requestRelease
    (fun result => selectSuccessMessage result "resumed" "already running")
    "resume failed; call ~/enable (or ~/recover then ~/enable) first"

end LifecycleServiceGateway

/-- The requests of the lifecycle services. -/
inductive LifecycleService where
  | init (device : String) (loopback : Bool)
  | shutdown (force : Bool)
  | recover (motorId : UInt16)
  | enable
  | disable
  | halt
  | resume
deriving DecidableEq

/-- The program of a service. -/
def LifecycleService.code (ops : Option (DriverOps D)) :
    LifecycleService → Coord D ServiceResponse
  | init device loopback => LifecycleServiceGateway.onInit ops device loopback
  | shutdown force => LifecycleServiceGateway.onShutdown ops force
  | recover motorId => LifecycleServiceGateway.onRecover ops motorId
  | enable => LifecycleServiceGateway.onEnable ops
  | disable => LifecycleServiceGateway.onDisable ops
  | halt => LifecycleServiceGateway.onHalt ops
  | resume => LifecycleServiceGateway.onResume ops

end CanDriver
