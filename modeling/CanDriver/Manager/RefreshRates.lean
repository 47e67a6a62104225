import CanDriver.Manager.Devices

/-!
# CanDriver.Manager.RefreshRates

Every protocol object polls at the rate of its device.

The manager hands a rate to the objects from five of its calls, and two of them go by the
command mutexes and not by the objects.  That reaches every object, since a device has a
command mutex from the moment it has a transport, and only a device that has a transport is
given an MT, PP or DM object.
-/

namespace CanDriver

/-- The objects of a protocol. -/
def DeviceManager.objects (m : DeviceManager) : CanType → DeviceMap PolledObject
  | .MT => m.mtProtocols
  | .PP => m.eyouProtocols
  | .DM => m.damiaoProtocols
  | .ECB => ∅

/-! ## the rates that were asked for -/

/-- What was asked for: a rate for all devices, and rates for some of them. -/
structure AskedRates where
  all : Double := .finite 0
  own : String → Option Double := fun _ => none

namespace AskedRates

/-- The rate of a device: its own if it has one. -/
def rate (r : AskedRates) (device : String) : Double := (r.own device).getD r.all

/-- What a call asks for.  A rate that is not positive and finite means none of its own for a
device, and none for all of them. -/
def after (r : AskedRates) : ManagerCall → AskedRates
  | .setRefreshRateHz hz =>
      { r with all := if hz.isFinite && Double.lt (.finite 0) hz then hz else .finite 0 }
  | .setDeviceRefreshRateHz device hz =>
      { r with
        own := Function.update r.own device
          (if hz.isFinite && Double.lt (.finite 0) hz then some hz else none) }
  | _ => r

end AskedRates

/-- The manager after some calls. -/
def managerAfter (calls : List ManagerCall) : DeviceManager :=
  calls.foldl (fun m call => call.run m) {}

/-- What was asked for by some calls. -/
def askedBy (calls : List ManagerCall) : AskedRates := calls.foldl AskedRates.after {}

namespace DeviceManager

variable {m : DeviceManager} {device other : String} {type : CanType} {object : PolledObject}

/-! ## one rate -/

/-- An object keeps a rate as the manager does. -/
theorem setRefreshRateHz_eq (hz : Double) (object : PolledObject) :
    object.setRefreshRateHz hz = { refreshRateHz := normalizeRefreshRateHz hz } := by
  cases hz with
  | finite q =>
      by_cases hq : 0 < q
      · simp [PolledObject.setRefreshRateHz, normalizeRefreshRateHz, Double.isFinite, Double.le,
          Double.lt, hq]
      · simp [PolledObject.setRefreshRateHz, normalizeRefreshRateHz, Double.isFinite, Double.le,
          Double.lt, hq, le_of_not_gt hq]
  | inf negative => rfl
  | nan => rfl

theorem normalizeRefreshRateHz_idem (hz : Double) :
    normalizeRefreshRateHz (normalizeRefreshRateHz hz) = normalizeRefreshRateHz hz := by
  by_cases h : (hz.isFinite && Double.lt (.finite 0) hz) = true
  · rw [normalizeRefreshRateHz, normalizeRefreshRateHz, if_pos h, if_pos h]
  · rw [normalizeRefreshRateHz.eq_def hz, if_neg h]
    rfl

/-! ## the rate that goes to every device with a mutex -/

theorem objects_applyRefreshRate (hz : Double) (hother : other ≠ device) :
    ((m.applyRefreshRate device hz).objects type).lookup other =
      (m.objects type).lookup other := by
  cases type with
  | MT => exact DeviceMap.lookup_adjust_of_ne _ _ hother
  | PP => exact DeviceMap.lookup_adjust_of_ne _ _ hother
  | DM => exact DeviceMap.lookup_adjust_of_ne _ _ hother
  | ECB => rfl

theorem objects_applyRefreshRate_self (hz : Double) :
    ((m.applyRefreshRate device hz).objects type).lookup device =
      ((m.objects type).lookup device).map (PolledObject.setRefreshRateHz hz) := by
  cases type with
  | MT => exact DeviceMap.lookup_adjust_self _ _ _
  | PP => exact DeviceMap.lookup_adjust_self _ _ _
  | DM => exact DeviceMap.lookup_adjust_self _ _ _
  | ECB => rfl

/-- The loop of `setRefreshRateHz`. -/
def applyRates (devices : List String) (m : DeviceManager) : DeviceManager :=
  devices.foldl (fun m device => m.applyRefreshRate device (m.effectiveRefreshRateHz device)) m

/-- What the loop leaves alone. -/
theorem applyRates_keeps (devices : List String) (m : DeviceManager) :
    (applyRates devices m).transports = m.transports ∧
      (applyRates devices m).udpTransports = m.udpTransports ∧
      (applyRates devices m).refreshRateHz = m.refreshRateHz ∧
      (applyRates devices m).deviceRefreshRateOverrides = m.deviceRefreshRateOverrides ∧
      (applyRates devices m).deviceCmdMutexes = m.deviceCmdMutexes := by
  induction devices generalizing m with
  | nil => exact ⟨rfl, rfl, rfl, rfl, rfl⟩
  | cons device devices ih => exact ih (m.applyRefreshRate device _)

/-- An object has the rate of its device once the loop has been there. -/
theorem lookup_applyRates (devices : List String) (m : DeviceManager) (type : CanType)
    (device : String) :
    ((applyRates devices m).objects type).lookup device =
      if device ∈ devices then
        ((m.objects type).lookup device).map fun _ =>
          { refreshRateHz := normalizeRefreshRateHz (m.effectiveRefreshRateHz device) }
      else (m.objects type).lookup device := by
  induction devices generalizing m with
  | nil => rw [if_neg List.not_mem_nil]; rfl
  | cons first devices ih =>
      have htail := ih (m.applyRefreshRate first (m.effectiveRefreshRateHz first))
      rw [applyRates, List.foldl_cons]
      refine htail.trans ?_
      by_cases hfirst : device = first
      · subst hfirst
        rw [if_pos List.mem_cons_self, objects_applyRefreshRate_self, Option.map_map]
        have hset : PolledObject.setRefreshRateHz (m.effectiveRefreshRateHz device) =
            fun _ => { refreshRateHz :=
              normalizeRefreshRateHz (m.effectiveRefreshRateHz device) } :=
          funext (setRefreshRateHz_eq _)
        rw [hset]
        split <;> rfl
      · rw [objects_applyRefreshRate _ hfirst]
        have hmem : device ∈ first :: devices ↔ device ∈ devices := by
          rw [List.mem_cons, or_iff_right hfirst]
        simp only [hmem]
        rfl

/-! ## what every call keeps -/

/-- An object belongs to a device with a mutex and has the device's rate, and rates are kept
as an object would keep them. -/
structure Rated (m : DeviceManager) : Prop where
  guarded : ∀ type device object, (m.objects type).lookup device = some object →
    device ∈ m.deviceCmdMutexes
  rate : ∀ type device object, (m.objects type).lookup device = some object →
    object.refreshRateHz = m.effectiveRefreshRateHz device
  normal : ∀ device, normalizeRefreshRateHz (m.effectiveRefreshRateHz device) =
    m.effectiveRefreshRateHz device
  all : normalizeRefreshRateHz m.refreshRateHz = m.refreshRateHz

/-- A device with a transport has a mutex. -/
def Guarded (m : DeviceManager) : Prop :=
  ∀ device, m.hasTransport device = true → device ∈ m.deviceCmdMutexes

/-- The same, but for the transport of one device. -/
def GuardedBut (device : String) (m : DeviceManager) : Prop :=
  ∀ other, other ≠ device → m.hasTransport other = true → other ∈ m.deviceCmdMutexes

/-- Nothing that `Rated` is about has changed. -/
structure SameRates (m m' : DeviceManager) : Prop where
  mt : m'.mtProtocols = m.mtProtocols
  eyou : m'.eyouProtocols = m.eyouProtocols
  damiao : m'.damiaoProtocols = m.damiaoProtocols
  all : m'.refreshRateHz = m.refreshRateHz
  own : m'.deviceRefreshRateOverrides = m.deviceRefreshRateOverrides
  mutexes : m'.deviceCmdMutexes = m.deviceCmdMutexes

variable {m' : DeviceManager}

theorem SameRates.objects (h : SameRates m m') (type : CanType) : m'.objects type = m.objects type := by
  cases type with
  | MT => exact h.mt
  | PP => exact h.eyou
  | DM => exact h.damiao
  | ECB => rfl

theorem SameRates.effective (h : SameRates m m') (device : String) :
    m'.effectiveRefreshRateHz device = m.effectiveRefreshRateHz device := by
  rw [effectiveRefreshRateHz, effectiveRefreshRateHz, h.own, h.all]

theorem Rated.same (h : Rated m) (hsame : SameRates m m') : Rated m' where
  guarded type device object hobject := by
    rw [hsame.objects] at hobject
    rw [hsame.mutexes]
    exact h.guarded type device object hobject
  rate type device object hobject := by
    rw [hsame.objects] at hobject
    rw [hsame.effective]
    exact h.rate type device object hobject
  normal device := by
    rw [hsame.effective]
    exact h.normal device
  all := by
    rw [hsame.all]
    exact h.all

/-! ## transports -/

theorem sameRates_refreshHealth (device : String) (ready : Bool) (m : DeviceManager) :
    SameRates m (m.refreshHealth device ready) := ⟨rfl, rfl, rfl, rfl, rfl, rfl⟩

theorem sameRates_shutdownTransport (device : String) (m : DeviceManager) :
    SameRates m (m.shutdownTransport device) := by
  rw [shutdownTransport]
  split <;> exact ⟨rfl, rfl, rfl, rfl, rfl, rfl⟩

theorem sameRates_initializeTransport (device : String) (opened : Bool) (m : DeviceManager) :
    SameRates m (m.initializeTransport device opened).2 := by
  rw [initializeTransport]
  split <;> split <;> exact ⟨rfl, rfl, rfl, rfl, rfl, rfl⟩

theorem lookup_insert_isSome {α : Type} {objects : DeviceMap α} {x : α} (hne : other ≠ device) :
    ((objects.insert device x).lookup other).isSome = (objects.lookup other).isSome := by
  rw [AList.lookup_insert_ne hne]

/-- The transports of other devices are as they were. -/
theorem hasTransport_shutdownTransport (hne : other ≠ device) :
    (m.shutdownTransport device).hasTransport other = m.hasTransport other := by
  rw [shutdownTransport]
  split
  · exact congrArg (· || _) (lookup_insert_isSome hne)
  · rw [hasTransport, hasTransport, DeviceMap.lookup_adjust_of_ne _ _ hne]

theorem hasTransport_initializeTransport (opened : Bool) (hne : other ≠ device) :
    (m.initializeTransport device opened).2.hasTransport other = m.hasTransport other := by
  rw [initializeTransport]
  split <;> split
  · rfl
  · exact congrArg (_ || ·) (lookup_insert_isSome hne)
  · rfl
  · exact congrArg (· || _) (lookup_insert_isSome hne)

/-- A device whose transport did not open has the one that it had, if any. -/
theorem hasTransport_of_not_opened {opened : Bool}
    (hfailed : (m.initializeTransport device opened).1 = false) :
    (m.initializeTransport device opened).2.hasTransport device = m.hasTransport device := by
  have hkept : ∀ {α : Type} {objects : DeviceMap α} {x : α},
      ¬((objects.lookup device).isNone && !opened) = true → opened = false →
      ((objects.insert device x).lookup device).isSome = (objects.lookup device).isSome := by
    intro α objects x hnew hopened
    rw [hopened, Bool.not_false, Bool.and_true, Bool.not_eq_true, Option.isNone_eq_false_iff] at hnew
    rw [AList.lookup_insert, hnew]
    rfl
  rw [initializeTransport] at hfailed ⊢
  split at hfailed <;> split at hfailed
  · next hudp hnew => rw [if_pos hudp, if_pos hnew]
  · next hudp hold =>
    rw [if_pos hudp, if_neg hold]
    exact congrArg (_ || ·) (hkept hold hfailed)
  · next hudp hnew => rw [if_neg hudp, if_pos hnew]
  · next hudp hold =>
    rw [if_neg hudp, if_neg hold]
    exact congrArg (· || _) (hkept hold hfailed)

/-! ## bringing devices up and down -/

theorem objects_resetDeviceRuntime :
    ((m.resetDeviceRuntime device).objects type).lookup other =
      if other = device then none else (m.objects type).lookup other := by
  have herase : ∀ objects : DeviceMap PolledObject, (objects.erase device).lookup other =
      if other = device then none else objects.lookup other := by
    intro objects
    split
    · next h => rw [h, AList.lookup_erase]
    · next h => rw [AList.lookup_erase_ne h]
  cases type with
  | MT => exact herase m.mtProtocols
  | PP => exact herase m.eyouProtocols
  | DM => exact herase m.damiaoProtocols
  | ECB => rw [objects, objects, AList.lookup_empty, ite_self]

theorem Rated.resetDeviceRuntime (h : Rated m) : Rated (m.resetDeviceRuntime device) where
  guarded type other object hobject := by
    rw [objects_resetDeviceRuntime, Option.ite_none_left_eq_some] at hobject
    exact h.guarded type other object hobject.2
  rate type other object hobject := by
    rw [objects_resetDeviceRuntime, Option.ite_none_left_eq_some] at hobject
    exact h.rate type other object hobject.2
  normal := h.normal
  all := h.all

theorem hasTransport_forgetDevice (hne : other ≠ device) :
    (m.forgetDevice device).hasTransport other = m.hasTransport other := by
  rw [hasTransport, hasTransport, forgetDevice, AList.lookup_erase_ne hne,
    AList.lookup_erase_ne hne]

theorem hasTransport_forgetDevice_self : (m.forgetDevice device).hasTransport device = false := by
  rw [hasTransport, forgetDevice, AList.lookup_erase, AList.lookup_erase]
  rfl

theorem Rated.shutdownDevice (h : Rated m) : Rated (m.shutdownDevice device) := by
  have hrated := (h.same (sameRates_refreshHealth device false m)).same
    (sameRates_shutdownTransport device (m.refreshHealth device false))
  constructor
  · intro type other object hobject
    have hreset := objects_resetDeviceRuntime.symm.trans hobject
    rw [Option.ite_none_left_eq_some] at hreset
    exact List.mem_filter.2 ⟨hrated.guarded type other object hreset.2, decide_eq_true hreset.1⟩
  · intro type other object hobject
    have hreset := objects_resetDeviceRuntime.symm.trans hobject
    rw [Option.ite_none_left_eq_some] at hreset
    exact hrated.rate type other object hreset.2
  · exact hrated.normal
  · exact hrated.all

theorem Guarded.shutdownDevice (h : GuardedBut device m) : Guarded (m.shutdownDevice device) := by
  intro other htransport
  by_cases hother : other = device
  · subst hother
    exact absurd (hasTransport_forgetDevice_self.symm.trans htransport) Bool.false_ne_true
  · have hbefore : m.hasTransport other = true :=
      ((hasTransport_forgetDevice hother).trans
        (hasTransport_shutdownTransport (m := m.refreshHealth device false) hother)).symm.trans
        htransport
    have hmem : other ∈ ((m.refreshHealth device false).shutdownTransport device).deviceCmdMutexes := by
      rw [(sameRates_shutdownTransport device _).mutexes]
      exact h other hother hbefore
    exact List.mem_filter.2 ⟨hmem, decide_eq_true hother⟩

variable (device) in
/-- A transport for `initDevice`: only the device itself may have one and no mutex yet. -/
theorem bringUpTransport_keeps (h : Rated m) (hguarded : Guarded m) (opened : Bool) :
    Rated (m.bringUpTransport device opened).2 ∧
      GuardedBut device (m.bringUpTransport device opened).2 ∧
      ((m.bringUpTransport device opened).1 = false →
        Guarded (m.bringUpTransport device opened).2) := by
  rw [bringUpTransport]
  split
  · have hreset : Rated ((m.shutdownTransport device).resetDeviceRuntime device) :=
      (h.same (sameRates_shutdownTransport device m)).resetDeviceRuntime
    have hopened := hreset.same (sameRates_initializeTransport device opened _)
    have hmutexes : (((m.shutdownTransport device).resetDeviceRuntime device).initializeTransport
        device opened).2.deviceCmdMutexes = m.deviceCmdMutexes :=
      (sameRates_initializeTransport device opened _).mutexes.trans
        (sameRates_shutdownTransport device m).mutexes
    have hbut : GuardedBut device (((m.shutdownTransport device).resetDeviceRuntime
        device).initializeTransport device opened).2 := by
      intro other hother htransport
      rw [hasTransport_initializeTransport opened hother] at htransport
      rw [hmutexes]
      refine hguarded other ?_
      rw [← hasTransport_shutdownTransport hother]
      exact htransport
    dsimp only
    split
    · next hok => exact ⟨hopened, hbut, fun hno => absurd (hno.symm.trans hok) Bool.false_ne_true⟩
    · exact ⟨hopened.shutdownDevice, fun other _ => Guarded.shutdownDevice hbut other,
        fun _ => Guarded.shutdownDevice hbut⟩
  · have hmutexes := (sameRates_initializeTransport device opened m).mutexes
    refine ⟨h.same (sameRates_initializeTransport device opened m), ?_, ?_⟩
    · intro other hother htransport
      rw [hasTransport_initializeTransport opened hother] at htransport
      rw [hmutexes]
      exact hguarded other htransport
    · intro hfailed other htransport
      rw [hmutexes]
      refine hguarded other ?_
      by_cases hother : other = device
      · subst hother
        rw [← hasTransport_of_not_opened hfailed]
        exact htransport
      · rw [← hasTransport_initializeTransport opened hother]
        exact htransport

/-! ## new objects -/

/-- An object is an old one, or the new one of the device. -/
theorem lookup_addProtocol {added : CanType}
    (h : ((m.addProtocol device added).objects type).lookup other = some object) :
    (m.objects type).lookup other = some object ∨
      other = device ∧ object = m.newObject device := by
  have hensure : ∀ objects : DeviceMap PolledObject,
      (ensureObject device (m.newObject device) objects).lookup other = some object →
      objects.lookup other = some object ∨ other = device ∧ object = m.newObject device := by
    intro objects hobject
    rw [ensureObject] at hobject
    split at hobject
    · by_cases hother : other = device
      · subst hother
        rw [AList.lookup_insert] at hobject
        exact Or.inr ⟨rfl, (Option.some.inj hobject).symm⟩
      · rw [AList.lookup_insert_ne hother] at hobject
        exact Or.inl hobject
    · exact Or.inl hobject
  cases added with
  | MT => cases type with
    | MT => exact hensure _ h
    | PP | DM | ECB => exact Or.inl h
  | PP => cases type with
    | PP => exact hensure _ h
    | MT | DM | ECB => exact Or.inl h
  | DM => cases type with
    | DM => exact hensure _ h
    | MT | PP | ECB => exact Or.inl h
  | ECB => exact Or.inl h

/-- What `addProtocol` leaves alone. -/
theorem addProtocol_keeps (device : String) (added : CanType) (m : DeviceManager) :
    (m.addProtocol device added).transports = m.transports ∧
      (m.addProtocol device added).udpTransports = m.udpTransports ∧
      (m.addProtocol device added).refreshRateHz = m.refreshRateHz ∧
      (m.addProtocol device added).deviceRefreshRateOverrides = m.deviceRefreshRateOverrides ∧
      (m.addProtocol device added).deviceCmdMutexes = m.deviceCmdMutexes := by
  cases added <;> exact ⟨rfl, rfl, rfl, rfl, rfl⟩

theorem effective_of_eq (hall : m'.refreshRateHz = m.refreshRateHz)
    (hown : m'.deviceRefreshRateOverrides = m.deviceRefreshRateOverrides) (device : String) :
    m'.effectiveRefreshRateHz device = m.effectiveRefreshRateHz device := by
  rw [effectiveRefreshRateHz, effectiveRefreshRateHz, hown, hall]

theorem guarded_of_eq (htransports : m'.transports = m.transports)
    (hudp : m'.udpTransports = m.udpTransports) (hmutexes : m'.deviceCmdMutexes = m.deviceCmdMutexes)
    (h : Guarded m) : Guarded m' := by
  intro device htransport
  rw [hasTransport, htransports, hudp] at htransport
  rw [hmutexes]
  exact h device htransport

/-- A device with a mutex may be given an object. -/
theorem Rated.addProtocol (h : Rated m) (hmutex : device ∈ m.deviceCmdMutexes) (added : CanType) :
    Rated (m.addProtocol device added) := by
  obtain ⟨-, -, hall, hown, hmutexes⟩ := addProtocol_keeps device added m
  have heffective := effective_of_eq hall hown
  constructor
  · intro type other object hobject
    rw [hmutexes]
    obtain hold | ⟨rfl, -⟩ := lookup_addProtocol hobject
    · exact h.guarded type other object hold
    · exact hmutex
  · intro type other object hobject
    rw [heffective]
    obtain hold | ⟨rfl, rfl⟩ := lookup_addProtocol hobject
    · exact h.rate type other object hold
    · rw [newObject, setRefreshRateHz_eq, h.normal]
  · intro other
    rw [heffective]
    exact h.normal other
  · rw [hall]
    exact h.all

/-- What every new object keeps, `addProtocols` keeps. -/
theorem addProtocols_induction (P : DeviceManager → Prop) (motors : List (CanType × MotorID))
    (hstep : ∀ m added, P m → P (m.addProtocol device added)) (h : P m) :
    P (m.addProtocols device motors) := by
  refine List.foldlRecOn (motive := P) _ _ h fun m hm added _ => ?_
  split
  · exact hstep m added hm
  · exact hm

theorem addProtocols_keeps (motors : List (CanType × MotorID))
    (h : Rated m ∧ Guarded m ∧ device ∈ m.deviceCmdMutexes) :
    Rated (m.addProtocols device motors) ∧ Guarded (m.addProtocols device motors) ∧
      device ∈ (m.addProtocols device motors).deviceCmdMutexes := by
  refine addProtocols_induction (fun m => Rated m ∧ Guarded m ∧ device ∈ m.deviceCmdMutexes)
    motors ?_ h
  rintro m added ⟨hrated, hguarded, hmutex⟩
  obtain ⟨htransports, hudp, -, -, hmutexes⟩ := addProtocol_keeps device added m
  exact ⟨hrated.addProtocol hmutex added, guarded_of_eq htransports hudp hmutexes hguarded,
    hmutexes ▸ hmutex⟩

theorem mem_ensureMutex : other ∈ (m.ensureMutex device).deviceCmdMutexes ↔
    other = device ∨ other ∈ m.deviceCmdMutexes := List.mem_insert_iff

theorem Rated.ensureMutex (h : Rated m) : Rated (m.ensureMutex device) where
  guarded type other object hobject :=
    mem_ensureMutex.2 (Or.inr (h.guarded type other object hobject))
  rate := h.rate
  normal := h.normal
  all := h.all

theorem GuardedBut.ensureMutex (h : GuardedBut device m) : Guarded (m.ensureMutex device) := by
  intro other htransport
  by_cases hother : other = device
  · exact mem_ensureMutex.2 (Or.inl hother)
  · exact mem_ensureMutex.2 (Or.inr (h other hother htransport))

theorem Guarded.but (h : Guarded m) : GuardedBut device m := fun other _ => h other

/-! ## calls -/

theorem ensureTransport_keeps (opened : Bool) (h : Rated m) (hguarded : Guarded m) :
    Rated (m.ensureTransport device opened).2 ∧ Guarded (m.ensureTransport device opened).2 := by
  have hnew := h.same (sameRates_initializeTransport device opened m)
  have hmutexes := (sameRates_initializeTransport device opened m).mutexes
  have hbut : GuardedBut device (m.initializeTransport device opened).2 := by
    intro other hother htransport
    rw [hasTransport_initializeTransport opened hother] at htransport
    rw [hmutexes]
    exact hguarded other htransport
  rw [ensureTransport]
  split
  · exact ⟨Rated.ensureMutex (h.same ⟨rfl, rfl, rfl, rfl, rfl, rfl⟩),
      GuardedBut.ensureMutex (fun other _ => hguarded other)⟩
  · split
    · exact ⟨h, hguarded⟩
    · next hnone =>
      split
      · exact ⟨Rated.ensureMutex (hnew.same ⟨rfl, rfl, rfl, rfl, rfl, rfl⟩),
          GuardedBut.ensureMutex hbut⟩
      · next hfailed =>
        refine ⟨hnew, fun other htransport => ?_⟩
        by_cases hother : other = device
        · subst hother
          rw [hasTransport_of_not_opened (Bool.eq_false_iff.2 hfailed)] at htransport
          exact absurd htransport hnone
        · exact hbut other hother htransport

theorem ensureProtocol_keeps (added : CanType) (h : Rated m) (hguarded : Guarded m) :
    Rated (m.ensureProtocol device added).2 ∧ Guarded (m.ensureProtocol device added).2 := by
  rw [ensureProtocol]
  split
  · dsimp only
    split
    · exact ⟨Rated.ensureMutex (h.same ⟨rfl, rfl, rfl, rfl, rfl, rfl⟩),
        GuardedBut.ensureMutex (fun other _ => hguarded other)⟩
    · exact ⟨Rated.ensureMutex (h.same ⟨rfl, rfl, rfl, rfl, rfl, rfl⟩),
        GuardedBut.ensureMutex (fun other _ => hguarded other)⟩
  · split
    · next htransport =>
      have hadd : ∀ m' : DeviceManager, SameRates m m' → m'.transports = m.transports →
          m'.udpTransports = m.udpTransports →
          Rated (m'.addProtocol device added) ∧ Guarded (m'.addProtocol device added) := by
        intro m' hsame hsockets hudp
        obtain ⟨htransports', hudp', -, -, hmutexes'⟩ := addProtocol_keeps device added m'
        have hmutex : device ∈ m'.deviceCmdMutexes := by
          rw [hsame.mutexes]
          exact hguarded device htransport
        exact ⟨(h.same hsame).addProtocol hmutex added,
          guarded_of_eq htransports' hudp' hmutexes'
            (guarded_of_eq hsockets hudp hsame.mutexes hguarded)⟩
      dsimp only
      split
      · exact hadd _ ⟨rfl, rfl, rfl, rfl, rfl, rfl⟩ rfl rfl
      · exact hadd _ ⟨rfl, rfl, rfl, rfl, rfl, rfl⟩ rfl rfl
    · exact ⟨h, hguarded⟩

theorem initDevice_keeps (motors : List (CanType × MotorID)) (opened : Bool) (h : Rated m)
    (hguarded : Guarded m) :
    Rated (m.initDevice device motors opened).2 ∧ Guarded (m.initDevice device motors opened).2 := by
  rw [initDevice]
  split
  · exact ⟨Rated.same (Rated.ensureMutex (h.same ⟨rfl, rfl, rfl, rfl, rfl, rfl⟩))
        ⟨rfl, rfl, rfl, rfl, rfl, rfl⟩,
      GuardedBut.ensureMutex (fun other _ => hguarded other)⟩
  · obtain ⟨hrated, hbut, hfailed⟩ := bringUpTransport_keeps device h hguarded opened
    dsimp only
    split
    · have hmutex : Guarded ((m.bringUpTransport device opened).2.ensureMutex device) :=
        GuardedBut.ensureMutex hbut
      have hkept := addProtocols_keeps motors
        (m := (((m.bringUpTransport device opened).2.ensureMutex device).newRuntime device
          true |>.registerAxes device motors).refreshHealth device true)
        ⟨(Rated.ensureMutex hrated).same ⟨rfl, rfl, rfl, rfl, rfl, rfl⟩, hmutex,
          mem_ensureMutex.2 (Or.inl rfl)⟩
      exact ⟨hkept.1, hkept.2.1⟩
    · next hnot =>
      refine ⟨hrated, fun other htransport => ?_⟩
      by_cases hother : other = device
      · subst hother
        rw [htransport, Bool.and_true, Bool.not_eq_true] at hnot
        exact hfailed hnot other htransport
      · exact hbut other hother htransport

theorem setRefreshRateHz_keeps (hz : Double) (h : Rated m) (hguarded : Guarded m) :
    Rated (m.setRefreshRateHz hz) ∧ Guarded (m.setRefreshRateHz hz) := by
  obtain ⟨htransports, hudp, hall, hown, hmutexes⟩ := applyRates_keeps m.deviceCmdMutexes
    { m with refreshRateHz := normalizeRefreshRateHz hz }
  have hlookup := lookup_applyRates m.deviceCmdMutexes
    { m with refreshRateHz := normalizeRefreshRateHz hz }
  have hsame : m.setRefreshRateHz hz = applyRates m.deviceCmdMutexes
      { m with refreshRateHz := normalizeRefreshRateHz hz } := rfl
  rw [← hsame] at htransports hudp hall hown hmutexes hlookup
  have heffective := effective_of_eq hall hown
  have hnormal : ∀ device, normalizeRefreshRateHz
      (effectiveRefreshRateHz { m with refreshRateHz := normalizeRefreshRateHz hz } device) =
        effectiveRefreshRateHz { m with refreshRateHz := normalizeRefreshRateHz hz } device := by
    intro device
    have hbefore := h.normal device
    rw [effectiveRefreshRateHz] at hbefore ⊢
    cases howned : m.deviceRefreshRateOverrides.lookup device with
    | none => exact normalizeRefreshRateHz_idem hz
    | some x =>
        rw [howned] at hbefore
        exact hbefore
  have hmutex : ∀ type device object, ((m.setRefreshRateHz hz).objects type).lookup device =
      some object → device ∈ m.deviceCmdMutexes := by
    intro type device object hobject
    by_contra hnot
    rw [hlookup, if_neg hnot] at hobject
    exact hnot (h.guarded type device object hobject)
  refine ⟨⟨?_, ?_, ?_, ?_⟩, guarded_of_eq htransports hudp hmutexes hguarded⟩
  · intro type device object hobject
    rw [hmutexes]
    exact hmutex type device object hobject
  · intro type device object hobject
    have hmem := hmutex type device object hobject
    rw [hlookup, if_pos hmem, Option.map_eq_some_iff] at hobject
    obtain ⟨old, -, rfl⟩ := hobject
    rw [heffective, hnormal]
  · intro device
    rw [heffective]
    exact hnormal device
  · rw [hall]
    exact normalizeRefreshRateHz_idem hz

/-- The override of a device after it was asked for. -/
theorem lookup_setOverride (hz : Double) :
    (m.setOverride device hz).deviceRefreshRateOverrides.lookup other =
      if other = device then
        if Double.lt (.finite 0) (normalizeRefreshRateHz hz) then some (normalizeRefreshRateHz hz)
        else none
      else m.deviceRefreshRateOverrides.lookup other := by
  rw [setOverride]
  dsimp only
  by_cases hother : other = device
  · subst hother
    rw [if_pos rfl]
    split
    · rw [AList.lookup_insert]
    · rw [AList.lookup_erase]
  · rw [if_neg hother]
    split
    · rw [AList.lookup_insert_ne hother]
    · rw [AList.lookup_erase_ne hother]

theorem effective_setOverride (hz : Double) (hother : other ≠ device) :
    (m.setOverride device hz).effectiveRefreshRateHz other = m.effectiveRefreshRateHz other := by
  rw [effectiveRefreshRateHz, lookup_setOverride, if_neg hother]
  rfl

theorem normal_setOverride (device : String) (hz : Double) (h : Rated m) (other : String) :
    normalizeRefreshRateHz ((m.setOverride device hz).effectiveRefreshRateHz other) =
      (m.setOverride device hz).effectiveRefreshRateHz other := by
  by_cases hother : other = device
  · rw [effectiveRefreshRateHz, lookup_setOverride, if_pos hother]
    split
    · exact normalizeRefreshRateHz_idem hz
    · exact h.all
  · rw [effective_setOverride hz hother]
    exact h.normal other

theorem setDeviceRefreshRateHz_keeps (hz : Double) (h : Rated m) (hguarded : Guarded m) :
    Rated (m.setDeviceRefreshRateHz device hz) ∧ Guarded (m.setDeviceRefreshRateHz device hz) := by
  have hnormal := normal_setOverride device hz h
  rw [setDeviceRefreshRateHz]
  split
  · next hmem =>
    refine ⟨⟨?_, ?_, hnormal, h.all⟩, hguarded⟩
    · intro type other object hobject
      by_cases hother : other = device
      · rw [hother]
        exact hmem
      · rw [objects_applyRefreshRate _ hother] at hobject
        exact h.guarded type other object hobject
    · intro type other object hobject
      by_cases hother : other = device
      · subst hother
        rw [objects_applyRefreshRate_self, Option.map_eq_some_iff] at hobject
        obtain ⟨old, -, rfl⟩ := hobject
        rw [setRefreshRateHz_eq]
        exact hnormal other
      · rw [objects_applyRefreshRate _ hother] at hobject
        exact (h.rate type other object hobject).trans (effective_setOverride hz hother).symm
  · next hmem =>
    refine ⟨⟨h.guarded, ?_, hnormal, h.all⟩, hguarded⟩
    intro type other object hobject
    have hother : other ≠ device := by
      rintro rfl
      exact hmem (h.guarded type other object hobject)
    rw [effective_setOverride hz hother]
    exact h.rate type other object hobject

theorem shutdownAll_keeps (h : Rated m) : Rated m.shutdownAll ∧ Guarded m.shutdownAll := by
  have hrated : Rated ((m.transports.keys ++ m.udpTransports.keys ++ m.ecbDevices).foldl
      (fun m device => m.shutdownDevice device) m) :=
    List.foldlRecOn (motive := Rated) _ _ h fun _ hrated _ _ => hrated.shutdownDevice
  have hnone : ∀ type device, (m.shutdownAll.objects type).lookup device = none := by
    intro type device
    cases type <;> rfl
  refine ⟨⟨?_, ?_, hrated.normal, hrated.all⟩, ?_⟩
  · intro type device object hobject
    exact absurd ((hnone type device).symm.trans hobject) (Option.some_ne_none object).symm
  · intro type device object hobject
    exact absurd ((hnone type device).symm.trans hobject) (Option.some_ne_none object).symm
  · intro device htransport
    exact absurd htransport Bool.false_ne_true

/-- **Step**: every call keeps the rates, and keeps a mutex for every transport. -/
theorem rated_run (call : ManagerCall) (h : Rated m ∧ Guarded m) :
    Rated (call.run m) ∧ Guarded (call.run m) := by
  obtain ⟨hrated, hguarded⟩ := h
  cases call with
  | ensureTransport device opened => exact ensureTransport_keeps opened hrated hguarded
  | ensureProtocol device type => exact ensureProtocol_keeps type hrated hguarded
  | initDevice device motors opened => exact initDevice_keeps motors opened hrated hguarded
  | setRefreshRateHz hz => exact setRefreshRateHz_keeps hz hrated hguarded
  | setDeviceRefreshRateHz device hz => exact setDeviceRefreshRateHz_keeps hz hrated hguarded
  | shutdownDevice device =>
      exact ⟨hrated.shutdownDevice, Guarded.shutdownDevice hguarded.but⟩
  | shutdownAll => exact shutdownAll_keeps hrated

/-- **Run**: so they are kept by any sequence of calls. -/
theorem rated_managerAfter (calls : List ManagerCall) :
    Rated (managerAfter calls) ∧ Guarded (managerAfter calls) := by
  have hempty : Rated {} ∧ Guarded {} := by
    refine ⟨⟨?_, ?_, fun _ => rfl, rfl⟩, ?_⟩
    · intro type device object hobject
      cases type <;> cases hobject
    · intro type device object hobject
      cases type <;> cases hobject
    · intro device htransport
      exact absurd htransport Bool.false_ne_true
  exact List.foldlRecOn (motive := fun m => Rated m ∧ Guarded m) calls _ hempty
    fun _ h call _ => rated_run call h

/-! ## what was asked for -/

/-- The manager keeps the rates that were asked for. -/
structure Keeps (m : DeviceManager) (r : AskedRates) : Prop where
  all : m.refreshRateHz = r.all
  own : ∀ device, m.deviceRefreshRateOverrides.lookup device = r.own device

variable {r : AskedRates}

theorem Keeps.of_eq (h : Keeps m r) (hall : m'.refreshRateHz = m.refreshRateHz)
    (hown : m'.deviceRefreshRateOverrides = m.deviceRefreshRateOverrides) : Keeps m' r where
  all := hall.trans h.all
  own device := by
    rw [hown]
    exact h.own device

theorem Keeps.same (h : Keeps m r) (hsame : SameRates m m') : Keeps m' r :=
  h.of_eq hsame.all hsame.own

theorem Keeps.shutdownDevice (h : Keeps m r) : Keeps (m.shutdownDevice device) r :=
  (h.same (sameRates_refreshHealth device false m)).same
    (sameRates_shutdownTransport device (m.refreshHealth device false)) |>.of_eq rfl rfl

theorem Keeps.addProtocol (h : Keeps m r) (added : CanType) : Keeps (m.addProtocol device added) r :=
  h.of_eq (addProtocol_keeps device added m).2.2.1 (addProtocol_keeps device added m).2.2.2.1

theorem Keeps.ensureTransport (h : Keeps m r) (opened : Bool) :
    Keeps (m.ensureTransport device opened).2 r := by
  have hopened := h.same (sameRates_initializeTransport device opened m)
  rw [DeviceManager.ensureTransport]
  split
  · exact h.of_eq rfl rfl
  · split
    · exact h
    · split
      · exact hopened.of_eq rfl rfl
      · exact hopened

theorem Keeps.ensureProtocol (h : Keeps m r) (type : CanType) :
    Keeps (m.ensureProtocol device type).2 r := by
  rw [DeviceManager.ensureProtocol]
  split
  · dsimp only
    split <;> exact h.of_eq rfl rfl
  · split
    · dsimp only
      refine Keeps.addProtocol ?_ type
      split
      · exact h.of_eq rfl rfl
      · exact h
    · exact h

theorem Keeps.initDevice (h : Keeps m r) (motors : List (CanType × MotorID)) (opened : Bool) :
    Keeps (m.initDevice device motors opened).2 r := by
  have hbring : Keeps (m.bringUpTransport device opened).2 r := by
    have hreset : Keeps ((m.shutdownTransport device).resetDeviceRuntime device) r :=
      (h.same (sameRates_shutdownTransport device m)).of_eq rfl rfl
    have hopened := hreset.same (sameRates_initializeTransport device opened _)
    rw [bringUpTransport]
    split
    · dsimp only
      split
      · exact hopened
      · exact hopened.shutdownDevice
    · exact h.same (sameRates_initializeTransport device opened m)
  rw [DeviceManager.initDevice]
  split
  · exact h.of_eq rfl rfl
  · dsimp only
    split
    · exact addProtocols_induction (fun m => Keeps m r) motors
        (fun _ added hkeeps => hkeeps.addProtocol added) (hbring.of_eq rfl rfl)
    · exact hbring

/-- **Step**: a call changes what the manager keeps as it changes what was asked for. -/
theorem keeps_run (call : ManagerCall) (h : Keeps m r) : Keeps (call.run m) (r.after call) := by
  cases call with
  | ensureTransport device opened => exact h.ensureTransport opened
  | ensureProtocol device type => exact h.ensureProtocol type
  | initDevice device motors opened => exact h.initDevice motors opened
  | setRefreshRateHz hz =>
      obtain ⟨-, -, hall, hown, -⟩ := applyRates_keeps m.deviceCmdMutexes
        { m with refreshRateHz := normalizeRefreshRateHz hz }
      have hasked : Keeps { m with refreshRateHz := normalizeRefreshRateHz hz }
          (r.after (.setRefreshRateHz hz)) := ⟨rfl, h.own⟩
      exact hasked.of_eq hall hown
  | setDeviceRefreshRateHz device hz =>
      have hasked : Keeps (m.setOverride device hz) (r.after (.setDeviceRefreshRateHz device hz)) := by
        refine ⟨h.all, fun other => ?_⟩
        rw [lookup_setOverride, AskedRates.after]
        dsimp only
        rw [Function.update_apply, normalizeRefreshRateHz]
        split
        · by_cases hpositive : (hz.isFinite && Double.lt (.finite 0) hz) = true
          · rw [if_pos hpositive, if_pos hpositive, if_pos (Bool.and_eq_true _ _ ▸ hpositive).2]
          · rw [if_neg hpositive, if_neg hpositive]
            rfl
        · exact h.own other
      rw [ManagerCall.run, setDeviceRefreshRateHz]
      split
      · exact hasked.of_eq rfl rfl
      · exact hasked
  | shutdownDevice device => exact h.shutdownDevice
  | shutdownAll =>
      have hfold : Keeps ((m.transports.keys ++ m.udpTransports.keys ++ m.ecbDevices).foldl
          (fun m device => m.shutdownDevice device) m) r :=
        List.foldlRecOn (motive := fun m => Keeps m r) _ _ h
          fun _ hkeeps _ _ => hkeeps.shutdownDevice
      exact hfold.of_eq rfl rfl

/-- **Run**: the manager keeps the rates that the calls asked for. -/
theorem keeps_managerAfter (calls : List ManagerCall) :
    Keeps (managerAfter calls) (askedBy calls) := by
  have hempty : Keeps {} {} := ⟨rfl, fun _ => rfl⟩
  exact List.foldl_rel hempty fun call _ m r h => keeps_run call h

/-- **Rates**: after any calls, every live MT, PP or DM object polls at the rate of its
device: the device's own rate if it was given one, and the rate of all devices otherwise. -/
theorem live_rate (calls : List ManagerCall) {type : CanType} {device : String}
    {object : PolledObject}
    (hlive : ((managerAfter calls).objects type).lookup device = some object) :
    object.refreshRateHz =
        ((managerAfter calls).deviceRefreshRateOverrides.lookup device).getD
          (managerAfter calls).refreshRateHz ∧
      object.refreshRateHz = (askedBy calls).rate device := by
  have hrate := (rated_managerAfter calls).1.rate type device object hlive
  have hkeeps := keeps_managerAfter calls
  refine ⟨hrate, ?_⟩
  rw [hrate, effectiveRefreshRateHz, hkeeps.own, hkeeps.all, AskedRates.rate]

/-- A rate for all devices, and another for one of the two that are brought up. -/
def twoRates : List ManagerCall :=
  [.ensureTransport "can0" true, .ensureProtocol "can0" .PP, .setRefreshRateHz (.finite 20),
    .setDeviceRefreshRateHz "can0" (.finite 5), .initDevice "can1" [(.PP, 1), (.DM, 2)] true,
    .setRefreshRateHz (.finite 50)]

/-- The device with a rate of its own keeps it, and the other follows. -/
theorem live_rate_of_twoRates :
    (Double.finite 5 =
        ((managerAfter twoRates).deviceRefreshRateOverrides.lookup "can0").getD
          (managerAfter twoRates).refreshRateHz ∧
      Double.finite 5 = (askedBy twoRates).rate "can0") ∧
    (Double.finite 50 =
        ((managerAfter twoRates).deviceRefreshRateOverrides.lookup "can1").getD
          (managerAfter twoRates).refreshRateHz ∧
      Double.finite 50 = (askedBy twoRates).rate "can1") := by
  have hown : ((managerAfter twoRates).objects .PP).lookup "can0" =
      some { refreshRateHz := .finite 5 } := by decide +kernel
  have hall : ((managerAfter twoRates).objects .DM).lookup "can1" =
      some { refreshRateHz := .finite 50 } := by decide +kernel
  exact ⟨live_rate twoRates hown, live_rate twoRates hall⟩

end DeviceManager

end CanDriver
