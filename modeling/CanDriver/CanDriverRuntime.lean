import CanDriver.JointConfigParser
import CanDriver.LifecycleDriverOps

/-!
# CanDriver.CanDriverRuntime

What stands behind the driver table of the coordinator: devices are brought up one
after another, prepared for standby by the hooks, and taken down again if a step fails.
-/

namespace CanDriver

open Interact LifecycleDriverOps

namespace CanDriverRuntime

/-! ## device lists -/

/-- `trimCopy`. -/
def trimCopy (cs : List Char) : List Char :=
  ((cs.dropWhile isSpace).reverse.dropWhile isSpace).reverse

/-- Cut a text at its commas. -/
def splitCommas : List Char → List (List Char)
  | [] => [[]]
  | c :: cs =>
      match splitCommas cs with
      | [] => [[c]]
      | token :: tokens => if c = ',' then [] :: token :: tokens else (c :: token) :: tokens

/-- One entry of a device list: the device and whether it is optional. -/
def parseSpec (token : List Char) : Option (String × Bool) :=
  let token := trimCopy token
  if token.isEmpty then none
  else if "optional:".toList.isPrefixOf token then
    let rest := trimCopy (token.drop "optional:".toList.length)
    if rest.isEmpty then none else some (String.ofList rest, true)
  else some (String.ofList token, false)

/-- The devices a device argument names. -/
def deviceSpecs (device : String) : List (String × Bool) :=
  let specs := (splitCommas device.toList).filterMap parseSpec
  if specs.isEmpty then [(device, false)] else specs

/-! ## bringing devices up -/

/-- The hooks that have to be there for a device to be prepared. -/
def requiredHooks : List StandbyHook :=
  [.syncStartupPositionAndCommands, .applyPpDefaultVelocities, .applyInitialModes]

/-- What a failed hook is reported as. -/
def hookFailure (device : String) : StandbyHook → Result
  | .applyPersistedPpZeroOffsets => ⟨false, "Failed to restore persisted PP zero offsets on " ++ device⟩
  | .syncStartupPositionAndCommands => ⟨false, "Failed to synchronize startup position on " ++ device⟩
  | .applyPpDefaultVelocities => ⟨false, "Failed to configure PP default velocities on " ++ device⟩
  | .applyInitialModes => ⟨false, "Failed to apply initial modes on " ++ device⟩

/-- Call the hooks in order; when one fails, take the device down again. -/
def callHooks (device : String) : List StandbyHook → Lifecycle Result
  | [] => do
      askOps (.setDeviceRefreshRate device false)
      pure ⟨true, "prepared (standby)"⟩
  | hook :: hooks => do
      let ok ← askOps (.hook hook device)
      if ok then callHooks device hooks
      else
        askOps (.setDeviceRefreshRate device false)
        let _ ← shutdownDevice device
        pure (hookFailure device hook)

/-- `prepareLifecycleDeviceForStandby`; `configured` says which hooks there are. -/
def prepareLifecycleDeviceForStandby (configured : StandbyHook → Bool) (device : String)
    (loopback : Bool) : Lifecycle Result :=
  if requiredHooks.all configured then do
    askOps (.setDeviceRefreshRate device true)
    let prepareResult ← prepareDevice device loopback
    if prepareResult.ok then
      callHooks device
        (([.applyPersistedPpZeroOffsets].filter configured) ++ requiredHooks)
    else
      askOps (.setDeviceRefreshRate device false)
      pure prepareResult
  else
    pure ⟨false, "prepare lifecycle path not available"⟩

/-- Take down the devices that were brought up before the one that failed. -/
def rollbackDevices : List String → Lifecycle Unit
  | [] => pure ()
  | device :: devices => do
      let _ ← shutdownDevice device
      rollbackDevices devices

/-- The texts of a list, with something in between. -/
def joined (separator : String) (texts : List String) : String := separator.intercalate texts

/-- The end of `initializeLifecycleDevice`. -/
def initSummary (initializedDevices optionalFailures : List String) : Lifecycle Result :=
  if initializedDevices.isEmpty then
    if optionalFailures.isEmpty then pure ⟨false, "no device initialized"⟩
    else pure ⟨false, "all selected devices failed (optional): " ++ joined "; " optionalFailures⟩
  else do
    askOps (.active true)
    pure ⟨true, "initialized (standby): " ++ joined ", " initializedDevices ++
      if optionalFailures.isEmpty then ""
      else "; optional failures: " ++ joined "; " optionalFailures⟩

/-- The loop of `initializeLifecycleDevice`. -/
def initializeSpecs (configured : StandbyHook → Bool) (loopback : Bool)
    (initializedDevices optionalFailures : List String) :
    List (String × Bool) → Lifecycle Result
  | [] => initSummary initializedDevices optionalFailures
  | (device, optional) :: specs =>
      if device = "" then
        initializeSpecs configured loopback initializedDevices optionalFailures specs
      else do
        let _ ← askOps (.loopback fun loopbacks => put loopbacks device loopback)
        let prepareResult ← prepareLifecycleDeviceForStandby configured device loopback
        if prepareResult.ok then
          initializeSpecs configured loopback (initializedDevices ++ [device]) optionalFailures specs
        else if optional then
          initializeSpecs configured loopback initializedDevices
            (optionalFailures ++ [device ++ "(prepare: " ++ prepareResult.message ++ ")"]) specs
        else
          rollbackDevices initializedDevices
          pure prepareResult

/-- `initializeLifecycleDevice`. -/
def initializeLifecycleDevice (configured : StandbyHook → Bool) (device : String)
    (loopback : Bool) : Lifecycle Result :=
  initializeSpecs configured loopback [] [] (deviceSpecs device)

/-- The loop of `recoverLifecycleDevices`: the first failure, if any. -/
def prepareAgain (configured : StandbyHook → Bool) : List String → Lifecycle (Option Result)
  | [] => pure none
  | device :: devices => do
      let loopbacks ← askOps (.loopback id)
      let prepareResult ← prepareLifecycleDeviceForStandby configured device
        ((loopbacks device).getD false)
      if prepareResult.ok then prepareAgain configured devices else pure (some prepareResult)

/-- `recoverLifecycleDevices`. -/
def recoverLifecycleDevices (configured : StandbyHook → Bool) : Lifecycle Result := do
  let devices ← askOps .recoverDevices
  if devices.isEmpty then
    pure ⟨false, "No devices available for recover."⟩
  else
    match ← prepareAgain configured devices with
    | some failure => pure failure
    | none =>
        let recoverResult ← recoverAll
        if recoverResult.ok then
          askOps (.active true)
          pure ⟨true, "recovered (standby)"⟩
        else
          pure recoverResult

/-- `shutdownLifecycleDriver`. -/
def shutdownLifecycleDriver : Lifecycle Result := do
  askOps (.active false)
  let result ← shutdownAll
  askOps .clearCommandState
  pure result

/-- `configureLifecycleCoordinator`: the driver table, with the hooks of `CanDriverHW`. -/
def driverOps (configured : StandbyHook → Bool) : DriverOps lifecycleSig where
  initDevice := some (initializeLifecycleDevice configured)
  enableAll := some enableAll
  disableAll := some disableAll
  haltAll := some haltAll
  recoverAll := some (recoverLifecycleDevices configured)
  shutdownAll := some fun _ => shutdownLifecycleDriver
  enableHealthy := some fun _ => enableHealthy
  motionHealthy := some fun _ => motionHealthy
  holdCommands := some (askOps .holdCommands)
  armFreshCommandLatch := some (askOps .armFreshCommandLatch)

end CanDriverRuntime

end CanDriver
