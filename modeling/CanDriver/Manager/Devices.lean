import CanDriver.Manager.Transports
import CanDriver.SharedDriverState
import CanDriver.DeviceRuntime
import CanDriver.Double
import Mathlib.Data.List.AList

/-!
# CanDriver.Manager.Devices

`DeviceManager` over all its devices.

`CanDriver.DeviceManager` has what the manager does to one device; here are the maps that it
keeps from device names to transports, runtimes, protocol objects and command mutexes, and
what each of its calls does to them.  A protocol object is its refresh rate.  Whether a
transport opens is an input of the calls that open one.
-/

namespace CanDriver

/-- A map from device names. -/
abbrev DeviceMap (α : Type) := AList fun _ : String => α

namespace DeviceMap

variable {α : Type}

/-- A change to the entry of a device, if there is one. -/
def adjust (device : String) (f : α → α) (m : DeviceMap α) : DeviceMap α :=
  match m.lookup device with
  | some x => m.insert device (f x)
  | none => m

@[simp] theorem lookup_adjust_self (device : String) (f : α → α) (m : DeviceMap α) :
    (adjust device f m).lookup device = (m.lookup device).map f := by
  rw [adjust]
  split
  · next x h => rw [AList.lookup_insert, h]; rfl
  · next h => rw [h]; rfl

@[simp] theorem lookup_adjust_of_ne {device other : String} (f : α → α) (m : DeviceMap α)
    (hne : other ≠ device) : (adjust device f m).lookup other = m.lookup other := by
  rw [adjust]
  split
  · rw [AList.lookup_insert_ne hne]
  · rfl

end DeviceMap

/-- An MT, PP or DM object: its `refreshRateHz_`. -/
structure PolledObject where
  refreshRateHz : Double := .finite 0
deriving DecidableEq

/-- `setRefreshRateHz` of `MtCan`, `EyouCan` and `DamiaoCan`. -/
def PolledObject.setRefreshRateHz (hz : Double) (_ : PolledObject) : PolledObject :=
  if !hz.isFinite || hz.le (.finite 0) then { refreshRateHz := .finite 0 }
  else { refreshRateHz := hz }

/-- An ECB object: its `refreshIntervalMs_`. -/
structure EcbObject where
  refreshIntervalMs : Int := 20
deriving DecidableEq

/-- `InnfosEcbProtocol::setRefreshRateHz`. -/
def EcbObject.setRefreshRateHz (hz : Double) (_ : EcbObject) : EcbObject :=
  match hz with
  | .finite q =>
      if q ≤ 0 then { refreshIntervalMs := 20 }
      else { refreshIntervalMs := max 1 (Double.roundAway (1000 / q)) }
  | _ => { refreshIntervalMs := 20 }

/-- `DeviceManager`.  Of a runtime it is kept whether it was given the shared state. -/
structure DeviceManager where
  transports : DeviceMap SocketCanController := ∅
  udpTransports : DeviceMap UdpCanTransport := ∅
  txDispatchers : DeviceMap Bool := ∅
  mtProtocols : DeviceMap PolledObject := ∅
  eyouProtocols : DeviceMap PolledObject := ∅
  damiaoProtocols : DeviceMap PolledObject := ∅
  ecbProtocols : DeviceMap EcbObject := ∅
  ecbDevices : List String := []
  sharedState : SharedDriverState := {}
  refreshRateHz : Double := .finite 0
  deviceRefreshRateOverrides : DeviceMap Double := ∅
  deviceCmdMutexes : List String := []

namespace DeviceManager

/-! ## transports -/

/-- `isUdpDevice`. -/
def isUdpDevice (device : String) : Bool := device.startsWith "udp://"

/-- `isEcbDevice`. -/
def isEcbDevice (device : String) : Bool := device.startsWith "ecb://"

/-- Whether `getTransportBaseLocked` finds one. -/
def hasTransport (m : DeviceManager) (device : String) : Bool :=
  (m.transports.lookup device).isSome || (m.udpTransports.lookup device).isSome

/-- `shutdownTransportLocked`. -/
def shutdownTransport (device : String) (m : DeviceManager) : DeviceManager :=
  match m.transports.lookup device with
  | some _ => { m with transports := m.transports.insert device .shutdown }
  | none =>
      { m with udpTransports := DeviceMap.adjust device (fun _ => .shutdown) m.udpTransports }

/-- `initializeTransportLocked`: a new transport that does not open is not kept. -/
def initializeTransport (device : String) (opened : Bool) (m : DeviceManager) :
    Bool × DeviceManager :=
  if isUdpDevice device then
    if (m.udpTransports.lookup device).isNone && !opened then (false, m)
    else (opened,
      { m with udpTransports := m.udpTransports.insert device (.initializeSocket opened) })
  else
    if (m.transports.lookup device).isNone && !opened then (false, m)
    else (opened, { m with transports := m.transports.insert device (.initializeSocket opened) })

/-- The statistics that a device's record is filled from: all zero without a SocketCAN one. -/
def snapshotStats (m : DeviceManager) (device : String) : SocketCanStats :=
  ((m.transports.lookup device).map (·.stats)).getD {}

/-- Filling a device's record from statistics. -/
def copyStats (ready : Bool) (stats : SocketCanStats) (health : DeviceHealthState) :
    DeviceHealthState :=
  { health with
    transportReady := ready
    txBackpressure := stats.txBackpressure
    txLinkUnavailable := stats.txLinkUnavailable
    txError := stats.txError
    rxError := stats.rxError
    lastTxLinkUnavailableSteadyNs := stats.lastTxLinkUnavailableSteadyNs
    lastRxSteadyNs := stats.lastRxSteadyNs }

/-- The record of a device, filled from its transport. -/
def refreshHealth (device : String) (ready : Bool) (m : DeviceManager) : DeviceManager :=
  { m with
    sharedState := m.sharedState.mutateDeviceHealth device
      (copyStats ready (m.snapshotStats device)) }

/-! ## refresh rates -/

/-- `normalizeRefreshRateHz`. -/
def normalizeRefreshRateHz (hz : Double) : Double :=
  if hz.isFinite && Double.lt (.finite 0) hz then hz else .finite 0

/-- `effectiveRefreshRateHzLocked`. -/
def effectiveRefreshRateHz (m : DeviceManager) (device : String) : Double :=
  (m.deviceRefreshRateOverrides.lookup device).getD m.refreshRateHz

/-- `applyRefreshRateLocked`. -/
def applyRefreshRate (device : String) (hz : Double) (m : DeviceManager) : DeviceManager :=
  { m with
    mtProtocols := DeviceMap.adjust device (PolledObject.setRefreshRateHz hz) m.mtProtocols
    eyouProtocols := DeviceMap.adjust device (PolledObject.setRefreshRateHz hz) m.eyouProtocols
    damiaoProtocols :=
      DeviceMap.adjust device (PolledObject.setRefreshRateHz hz) m.damiaoProtocols
    ecbProtocols := DeviceMap.adjust device (EcbObject.setRefreshRateHz hz) m.ecbProtocols }

/-- `setRefreshRateHz`: the rate goes to the devices that have a command mutex. -/
def setRefreshRateHz (hz : Double) (m : DeviceManager) : DeviceManager :=
  m.deviceCmdMutexes.foldl
    (fun m device => m.applyRefreshRate device (m.effectiveRefreshRateHz device))
    { m with refreshRateHz := normalizeRefreshRateHz hz }

/-- The part of `setDeviceRefreshRateHz` that keeps the rate: none is no override. -/
def setOverride (device : String) (hz : Double) (m : DeviceManager) : DeviceManager :=
  { m with
    deviceRefreshRateOverrides :=
      if Double.lt (.finite 0) (normalizeRefreshRateHz hz) then
        m.deviceRefreshRateOverrides.insert device (normalizeRefreshRateHz hz)
      else m.deviceRefreshRateOverrides.erase device }

/-- `setDeviceRefreshRateHz`. -/
def setDeviceRefreshRateHz (device : String) (hz : Double) (m : DeviceManager) : DeviceManager :=
  let m := m.setOverride device hz
  if device ∈ m.deviceCmdMutexes then
    m.applyRefreshRate device (m.effectiveRefreshRateHz device)
  else m

/-! ## bringing devices up and down -/

/-- A command mutex for a device. -/
def ensureMutex (device : String) (m : DeviceManager) : DeviceManager :=
  { m with deviceCmdMutexes := m.deviceCmdMutexes.insert device }

/-- A device is an ECB one. -/
def ensureEcbDevice (device : String) (m : DeviceManager) : DeviceManager :=
  { m with ecbDevices := m.ecbDevices.insert device }

/-- A new runtime for a device, which is given the shared state or is not. -/
def newRuntime (device : String) (shared : Bool) (m : DeviceManager) : DeviceManager :=
  { m with txDispatchers := m.txDispatchers.insert device shared }

/-- `registerAxis` for every motor of a device. -/
def registerAxes (device : String) (motors : List (CanType × MotorID)) (m : DeviceManager) :
    DeviceManager :=
  { m with
    sharedState := motors.foldl
      (fun s motor => s.registerAxis (makeAxisKey device motor.1 motor.2)) m.sharedState }

/-- An object for a device that has none. -/
def ensureObject (device : String) (object : PolledObject) (objects : DeviceMap PolledObject) :
    DeviceMap PolledObject :=
  if (objects.lookup device).isNone then objects.insert device object else objects

/-- A new object, with the rate of its device. -/
def newObject (device : String) (m : DeviceManager) : PolledObject :=
  PolledObject.setRefreshRateHz (m.effectiveRefreshRateHz device) {}

/-- An MT, PP or DM object for a device that has none. -/
def addProtocol (device : String) (type : CanType) (m : DeviceManager) : DeviceManager :=
  match type with
  | .MT => { m with mtProtocols := ensureObject device (m.newObject device) m.mtProtocols }
  | .PP => { m with eyouProtocols := ensureObject device (m.newObject device) m.eyouProtocols }
  | .DM => { m with damiaoProtocols := ensureObject device (m.newObject device) m.damiaoProtocols }
  | .ECB => m

/-- `resetDeviceRuntimeLocked`. -/
def resetDeviceRuntime (device : String) (m : DeviceManager) : DeviceManager :=
  { m with
    mtProtocols := m.mtProtocols.erase device
    eyouProtocols := m.eyouProtocols.erase device
    damiaoProtocols := m.damiaoProtocols.erase device
    ecbProtocols := m.ecbProtocols.erase device
    txDispatchers := m.txDispatchers.erase device }

/-- The end of `shutdownDeviceLocked`: the device is forgotten. -/
def forgetDevice (device : String) (m : DeviceManager) : DeviceManager :=
  { m with
    transports := m.transports.erase device
    udpTransports := m.udpTransports.erase device
    ecbDevices := m.ecbDevices.filter (· ≠ device)
    deviceCmdMutexes := m.deviceCmdMutexes.filter (· ≠ device) }

/-- `shutdownDevice`: the last statistics are kept in the record. -/
def shutdownDevice (device : String) (m : DeviceManager) : DeviceManager :=
  (((m.refreshHealth device false).shutdownTransport device).resetDeviceRuntime device).forgetDevice
    device

/-- `shutdownAll`. -/
def shutdownAll (m : DeviceManager) : DeviceManager :=
  let devices := m.transports.keys ++ m.udpTransports.keys ++ m.ecbDevices
  { devices.foldl (fun m device => m.shutdownDevice device) m with
    transports := ∅
    udpTransports := ∅
    txDispatchers := ∅
    mtProtocols := ∅
    eyouProtocols := ∅
    damiaoProtocols := ∅
    ecbProtocols := ∅
    ecbDevices := []
    deviceCmdMutexes := [] }

/-- `ensureTransport`. -/
def ensureTransport (device : String) (opened : Bool) (m : DeviceManager) :
    Bool × DeviceManager :=
  if isEcbDevice device then (true, (m.ensureEcbDevice device).ensureMutex device)
  else if m.hasTransport device then (true, m)
  else if (m.initializeTransport device opened).1 then
    (true, (((m.initializeTransport device opened).2.newRuntime device true).refreshHealth device
      true).ensureMutex device)
  else (false, (m.initializeTransport device opened).2)

/-- `ensureProtocol`: a runtime that is made here is not given the shared state. -/
def ensureProtocol (device : String) (type : CanType) (m : DeviceManager) :
    Bool × DeviceManager :=
  if type = .ECB then
    let object := EcbObject.setRefreshRateHz (m.effectiveRefreshRateHz device) {}
    let m :=
      if (m.ecbProtocols.lookup device).isNone then
        { m with ecbProtocols := m.ecbProtocols.insert device object }
      else m
    (true, (m.ensureEcbDevice device).ensureMutex device)
  else if m.hasTransport device then
    let m := if (m.txDispatchers.lookup device).isNone then m.newRuntime device false else m
    (true, m.addProtocol device type)
  else (false, m)

/-- The transport that `initDevice` works on: a new one, or the old one opened again. -/
def bringUpTransport (device : String) (opened : Bool) (m : DeviceManager) : Bool × DeviceManager :=
  if m.hasTransport device then
    let r := ((m.shutdownTransport device).resetDeviceRuntime device).initializeTransport device
      opened
    if r.1 then r else (false, r.2.shutdownDevice device)
  else m.initializeTransport device opened

/-- The objects that `initDevice` makes: one for each protocol that has motors. -/
def addProtocols (device : String) (motors : List (CanType × MotorID)) (m : DeviceManager) :
    DeviceManager :=
  [CanType.MT, .PP, .DM].foldl
    (fun m type => if motors.any fun motor => motor.1 = type then m.addProtocol device type else m)
    m

/-- `initDevice`. -/
def initDevice (device : String) (motors : List (CanType × MotorID)) (opened : Bool)
    (m : DeviceManager) : Bool × DeviceManager :=
  if (motors.any fun motor => motor.1 = .ECB) && isEcbDevice device then
    let object := EcbObject.setRefreshRateHz (m.effectiveRefreshRateHz device) {}
    let m := { m with ecbProtocols := m.ecbProtocols.insert device object }
    let m := ((m.ensureEcbDevice device).ensureMutex device).registerAxes device motors
    (true,
      { m with
        sharedState := m.sharedState.mutateDeviceHealth device fun health =>
          { health with transportReady := true } })
  else
    let r := m.bringUpTransport device opened
    if r.1 && r.2.hasTransport device then
      let m := (r.2.ensureMutex device).newRuntime device true
      (true, ((m.registerAxes device motors).refreshHealth device true).addProtocols device motors)
    else (false, r.2)

/-! ## readiness -/

/-- `isDeviceReady`: the answer goes into the record of the device, with the statistics. -/
def isDeviceReady (device : String) (m : DeviceManager) : Bool × DeviceManager :=
  if isEcbDevice device then ((m.ecbProtocols.lookup device).isSome, m)
  else
    let ready :=
      match m.transports.lookup device with
      | some t => t.initialized && t.linkRecovered
      | none => (m.udpTransports.lookup device).any (·.initialized)
    (ready, m.refreshHealth device ready)

end DeviceManager

/-! ## calls -/

/-- The calls that change what the manager keeps. -/
inductive ManagerCall where
  | ensureTransport (device : String) (opened : Bool)
  | ensureProtocol (device : String) (type : CanType)
  | initDevice (device : String) (motors : List (CanType × MotorID)) (opened : Bool)
  | setRefreshRateHz (hz : Double)
  | setDeviceRefreshRateHz (device : String) (hz : Double)
  | shutdownDevice (device : String)
  | shutdownAll
deriving DecidableEq

/-- What a call does to the manager. -/
def ManagerCall.run : ManagerCall → DeviceManager → DeviceManager
  | .ensureTransport device opened, m => (m.ensureTransport device opened).2
  | .ensureProtocol device type, m => (m.ensureProtocol device type).2
  | .initDevice device motors opened, m => (m.initDevice device motors opened).2
  | .setRefreshRateHz hz, m => m.setRefreshRateHz hz
  | .setDeviceRefreshRateHz device hz, m => m.setDeviceRefreshRateHz device hz
  | .shutdownDevice device, m => m.shutdownDevice device
  | .shutdownAll, m => m.shutdownAll

end CanDriver
