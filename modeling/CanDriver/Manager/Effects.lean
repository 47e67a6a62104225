import CanDriver.Manager.RefreshRates

/-!
# CanDriver.Manager.Effects

What a call of the manager does to the transport and the health record of one device.

A call leaves them as they are, opens the transport afresh, or leaves the device without one.
-/

namespace CanDriver

/-- A counter of a record, by the result that it counts. -/
def DeviceHealthState.count (h : DeviceHealthState) : SendResult → Nat
  | .ok => 0
  | .backpressure => h.txBackpressure
  | .linkDown => h.txLinkUnavailable
  | .error => h.txError

/-- A counter of a SocketCAN transport, by the result that it counts. -/
def SocketCanStats.count (stats : SocketCanStats) : SendResult → Nat
  | .ok => 0
  | .backpressure => stats.txBackpressure
  | .linkDown => stats.txLinkUnavailable
  | .error => stats.txError

/-- Whether a call opens a transport of a device. -/
def ManagerCall.opens (m : DeviceManager) : ManagerCall → String → Bool
  | .ensureTransport device opened, other =>
      decide (other = device) && opened && !m.hasTransport device
  | .initDevice device _ opened, other => decide (other = device) && opened
  | _, _ => false

namespace DeviceManager

/-- The health record of a device. -/
def record (m : DeviceManager) (device : String) : DeviceHealthState :=
  (m.sharedState.getDeviceHealth device).getD { device }

/-- A UDP device has no SocketCAN transport, and no other device has a UDP one. -/
structure OfKind (m : DeviceManager) (device : String) : Prop where
  udp : isUdpDevice device = true → m.transports.lookup device = none
  socket : isUdpDevice device = false → m.udpTransports.lookup device = none

/-- The transport and the record of a device are as they were. -/
structure SameDevice (device : String) (m m' : DeviceManager) : Prop where
  socket : m'.transports.lookup device = m.transports.lookup device
  udp : m'.udpTransports.lookup device = m.udpTransports.lookup device
  health : m'.sharedState.deviceHealth device = m.sharedState.deviceHealth device

/-- The transport of a device has just been opened. -/
structure Opened (device : String) (m : DeviceManager) : Prop where
  socket : m.transports.lookup device =
    if isUdpDevice device then none else some (.initializeSocket true)
  udp : m.udpTransports.lookup device =
    if isUdpDevice device then some (.initializeSocket true) else none

/-- The same, and its record has been filled. -/
structure Fresh (device : String) (m : DeviceManager) : Prop extends Opened device m where
  counts : ∀ result, (m.record device).count result = 0

variable {m m' m'' : DeviceManager} {device other : String}

theorem SameDevice.refl (device : String) (m : DeviceManager) : SameDevice device m m :=
  ⟨rfl, rfl, rfl⟩

theorem SameDevice.trans (h : SameDevice device m m') (h' : SameDevice device m' m'') :
    SameDevice device m m'' :=
  ⟨h'.socket.trans h.socket, h'.udp.trans h.udp, h'.health.trans h.health⟩

theorem SameDevice.hasTransport (h : SameDevice device m m') :
    m'.hasTransport device = m.hasTransport device := by
  rw [DeviceManager.hasTransport, DeviceManager.hasTransport, h.socket, h.udp]

theorem SameDevice.record (h : SameDevice device m m') : m'.record device = m.record device := by
  rw [DeviceManager.record, DeviceManager.record, SharedDriverState.getDeviceHealth,
    SharedDriverState.getDeviceHealth, h.health]

theorem SameDevice.snapshotStats (h : SameDevice device m m') :
    m'.snapshotStats device = m.snapshotStats device := by
  rw [DeviceManager.snapshotStats, DeviceManager.snapshotStats, h.socket]

theorem SameDevice.ofKind (h : SameDevice device m m') (hkind : OfKind m device) :
    OfKind m' device :=
  ⟨fun hudp => h.socket.trans (hkind.udp hudp), fun hsocket => h.udp.trans (hkind.socket hsocket)⟩

theorem ofKind_of_not_hasTransport (h : m.hasTransport device = false) : OfKind m device := by
  rw [hasTransport, Bool.or_eq_false_iff, Option.isSome_eq_false_iff, Option.isSome_eq_false_iff,
    Option.isNone_iff_eq_none, Option.isNone_iff_eq_none] at h
  exact ⟨fun _ => h.1, fun _ => h.2⟩

theorem Opened.ofKind (h : Opened device m) : OfKind m device := by
  constructor
  · intro hudp
    rw [h.socket, if_pos hudp]
  · intro hsocket
    rw [h.udp, if_neg (Bool.eq_false_iff.1 hsocket)]

/-! ## other devices -/

theorem sameDevice_refreshHealth (ready : Bool) (hne : other ≠ device) :
    SameDevice other m (m.refreshHealth device ready) :=
  ⟨rfl, rfl, put_of_ne _ _ hne⟩

theorem sameDevice_shutdownTransport (hne : other ≠ device) :
    SameDevice other m (m.shutdownTransport device) := by
  rw [shutdownTransport]
  split
  · exact ⟨AList.lookup_insert_ne hne, rfl, rfl⟩
  · exact ⟨rfl, DeviceMap.lookup_adjust_of_ne _ _ hne, rfl⟩

theorem sameDevice_initializeTransport (opened : Bool) (hne : other ≠ device) :
    SameDevice other m (m.initializeTransport device opened).2 := by
  rw [initializeTransport]
  split <;> split
  · exact .refl other m
  · exact ⟨rfl, AList.lookup_insert_ne hne, rfl⟩
  · exact .refl other m
  · exact ⟨AList.lookup_insert_ne hne, rfl, rfl⟩

theorem sameDevice_shutdownDevice (hne : other ≠ device) :
    SameDevice other m (m.shutdownDevice device) := by
  have hbefore : SameDevice other m ((m.refreshHealth device false).shutdownTransport device) :=
    (sameDevice_refreshHealth false hne).trans (sameDevice_shutdownTransport hne)
  exact hbefore.trans ⟨AList.lookup_erase_ne hne, AList.lookup_erase_ne hne, rfl⟩

theorem sameDevice_registerAxes (motors : List (CanType × MotorID)) (hne : other ≠ device) :
    SameDevice other m (m.registerAxes device motors) := by
  refine ⟨rfl, rfl, ?_⟩
  exact List.foldlRecOn (motive := fun s : SharedDriverState =>
      s.deviceHealth other = m.sharedState.deviceHealth other) motors _ rfl
    fun s hs motor _ => (put_of_ne _ _ hne).trans hs

theorem sameDevice_bringUpTransport (opened : Bool) (hne : other ≠ device) :
    SameDevice other m (m.bringUpTransport device opened).2 := by
  rw [bringUpTransport]
  split
  · have hopened : SameDevice other m (((m.shutdownTransport device).resetDeviceRuntime
        device).initializeTransport device opened).2 := by
      have hreset : SameDevice other m ((m.shutdownTransport device).resetDeviceRuntime device) :=
        (sameDevice_shutdownTransport hne).trans ⟨rfl, rfl, rfl⟩
      exact hreset.trans (sameDevice_initializeTransport opened hne)
    dsimp only
    split
    · exact hopened
    · exact hopened.trans (sameDevice_shutdownDevice hne)
  · exact sameDevice_initializeTransport opened hne

theorem sameDevice_addProtocol (added : CanType) : SameDevice other m (m.addProtocol device added) := by
  cases added <;> exact ⟨rfl, rfl, rfl⟩

theorem sameDevice_addProtocols (motors : List (CanType × MotorID)) :
    SameDevice other m (m.addProtocols device motors) :=
  addProtocols_induction (fun m' => SameDevice other m m') motors
    (fun _ added h => h.trans (sameDevice_addProtocol added)) (.refl other m)

theorem sameDevice_applyRates (devices : List String) :
    SameDevice other m (applyRates devices m) :=
  List.foldlRecOn (motive := fun m' => SameDevice other m m') devices _ (.refl other m)
    fun _ h _ _ => h.trans ⟨rfl, rfl, rfl⟩

/-! ## the device itself -/

/-- A change to the record of a device. -/
theorem record_mutateDeviceHealth (fn : DeviceHealthState → DeviceHealthState) :
    DeviceManager.record { m with sharedState := m.sharedState.mutateDeviceHealth device fn } device =
      fn { m.record device with device } := by
  have hput := put_self m.sharedState.deviceHealth device
    (fn { (m.sharedState.deviceHealth device).getD { device } with device })
  exact congrArg (fun found : Option DeviceHealthState => found.getD { device }) hput

/-- A record that was filled has the transport's counters. -/
theorem count_refreshHealth (ready : Bool) (result : SendResult) :
    ((m.refreshHealth device ready).record device).count result =
      (m.snapshotStats device).count result := by
  rw [refreshHealth, record_mutateDeviceHealth]
  cases result <;> rfl

theorem OfKind.shutdownTransport (h : OfKind m device) : OfKind (m.shutdownTransport device) device := by
  rw [DeviceManager.shutdownTransport]
  split
  · next t ht =>
    constructor
    · intro hudp
      exact absurd (ht.symm.trans (h.udp hudp)) (Option.some_ne_none t)
    · exact h.socket
  · constructor
    · exact h.udp
    · intro hsocket
      rw [DeviceMap.lookup_adjust_self, h.socket hsocket]
      rfl

theorem opened_initializeTransport (h : OfKind m device) :
    (m.initializeTransport device true).1 = true ∧
      Opened device (m.initializeTransport device true).2 := by
  rw [initializeTransport, Bool.not_true, Bool.and_false, if_neg Bool.false_ne_true, Bool.and_false,
    if_neg Bool.false_ne_true]
  split
  · next hudp =>
    refine ⟨rfl, ⟨?_, ?_⟩⟩
    · rw [if_pos hudp]
      exact h.udp hudp
    · rw [if_pos hudp, AList.lookup_insert]
  · next hsocket =>
    refine ⟨rfl, ⟨?_, ?_⟩⟩
    · rw [if_neg hsocket, AList.lookup_insert]
    · rw [if_neg hsocket]
      exact h.socket (Bool.eq_false_iff.2 hsocket)

theorem Opened.snapshotStats (h : Opened device m) : m.snapshotStats device = {} := by
  rw [DeviceManager.snapshotStats, h.socket]
  split <;> rfl

theorem Opened.refreshHealth (h : Opened device m) (ready : Bool) :
    Fresh device (m.refreshHealth device ready) where
  socket := h.socket
  udp := h.udp
  counts result := by
    rw [count_refreshHealth, h.snapshotStats]
    cases result <;> rfl

theorem Opened.hasTransport (h : Opened device m) : m.hasTransport device = true := by
  rw [DeviceManager.hasTransport, h.socket, h.udp]
  split <;> rfl

theorem Fresh.same (h : Fresh device m) (hsame : SameDevice device m m') : Fresh device m' where
  socket := hsame.socket.trans h.socket
  udp := hsame.udp.trans h.udp
  counts result := by
    rw [hsame.record]
    exact h.counts result

/-! ## calls -/

/-- What a call does to a device that it opens no transport of, and to one that it does. -/
structure Effect (device : String) (opens : Bool) (m m' : DeviceManager) : Prop where
  kept : opens = false → SameDevice device m m' ∨ m'.hasTransport device = false
  opened : opens = true → Fresh device m'

theorem Effect.same (hsame : SameDevice device m m') : Effect device false m m' :=
  ⟨fun _ => Or.inl hsame, fun h => absurd h Bool.false_ne_true⟩

theorem Effect.gone (hgone : m'.hasTransport device = false) : Effect device false m m' :=
  ⟨fun _ => Or.inr hgone, fun h => absurd h Bool.false_ne_true⟩

theorem Effect.fresh (hfresh : Fresh device m') : Effect device true m m' :=
  ⟨fun h => absurd h.symm Bool.false_ne_true, fun _ => hfresh⟩

variable (m device) in
/-- A transport that does not open: a new one is not kept. -/
theorem initializeTransport_not_opened :
    (m.initializeTransport device false).1 = false ∧
      (m.hasTransport device = false → (m.initializeTransport device false).2 = m) := by
  rw [initializeTransport, hasTransport, Bool.or_eq_false_iff, Option.isSome_eq_false_iff,
    Option.isSome_eq_false_iff]
  constructor
  · split <;> split <;> rfl
  · rintro ⟨hsocket, hudp⟩
    rw [hsocket, hudp, Bool.not_false, Bool.and_true, if_pos rfl, if_pos rfl, ite_self]

theorem effect_ensureTransport (opened : Bool) (hkind : OfKind m other)
    (hecb : isEcbDevice other = false) :
    Effect other (decide (other = device) && opened && !m.hasTransport device) m
      (m.ensureTransport device opened).2 := by
  by_cases hother : other = device
  · subst hother
    rw [ensureTransport, hecb, if_neg Bool.false_ne_true, decide_eq_true rfl, Bool.true_and]
    cases htransport : m.hasTransport other with
    | true =>
        rw [if_pos rfl, Bool.not_true, Bool.and_false]
        exact .same (.refl other m)
    | false =>
        rw [if_neg Bool.false_ne_true, Bool.not_false, Bool.and_true]
        cases opened with
        | false =>
            obtain ⟨hfailed, hsame⟩ := initializeTransport_not_opened m other
            rw [hfailed, if_neg Bool.false_ne_true, hsame htransport]
            exact .same (.refl other m)
        | true =>
            obtain ⟨hok, hopened⟩ := opened_initializeTransport hkind
            rw [if_pos hok]
            have hruntime : Opened other ((m.initializeTransport other true).2.newRuntime other
                true) := ⟨hopened.socket, hopened.udp⟩
            exact .fresh ((hruntime.refreshHealth true).same ⟨rfl, rfl, rfl⟩)
  · rw [decide_eq_false hother, Bool.false_and, Bool.false_and, ensureTransport]
    split
    · exact .same ⟨rfl, rfl, rfl⟩
    · split
      · exact .same (.refl other m)
      · split
        · have hruntime : SameDevice other m ((m.initializeTransport device opened).2.newRuntime
              device true) := (sameDevice_initializeTransport opened hother).trans ⟨rfl, rfl, rfl⟩
          have hhealth := hruntime.trans (sameDevice_refreshHealth true hother)
          exact .same (hhealth.trans ⟨rfl, rfl, rfl⟩)
        · exact .same (sameDevice_initializeTransport opened hother)

theorem sameDevice_ensureProtocol (type : CanType) :
    SameDevice other m (m.ensureProtocol device type).2 := by
  rw [ensureProtocol]
  split
  · dsimp only
    split <;> exact ⟨rfl, rfl, rfl⟩
  · split
    · dsimp only
      refine SameDevice.trans ?_ (sameDevice_addProtocol type)
      split <;> exact ⟨rfl, rfl, rfl⟩
    · exact .refl other m

theorem not_hasTransport_shutdownDevice : (m.shutdownDevice device).hasTransport device = false :=
  hasTransport_forgetDevice_self

/-- `initDevice` on a device that is not an ECB one. -/
theorem effect_initDevice_self (motors : List (CanType × MotorID)) (opened : Bool)
    (hkind : OfKind m device) (hecb : isEcbDevice device = false) :
    Effect device opened m (m.initDevice device motors opened).2 := by
  have hreset : OfKind ((m.shutdownTransport device).resetDeviceRuntime device) device :=
    ⟨hkind.shutdownTransport.udp, hkind.shutdownTransport.socket⟩
  rw [initDevice, hecb, Bool.and_false, if_neg Bool.false_ne_true]
  cases opened with
  | true =>
      have hbring : (m.bringUpTransport device true).1 = true ∧
          Opened device (m.bringUpTransport device true).2 := by
        rw [bringUpTransport]
        split
        · obtain ⟨hok, hopened⟩ := opened_initializeTransport hreset
          dsimp only
          rw [if_pos hok]
          exact ⟨hok, hopened⟩
        · exact opened_initializeTransport hkind
      obtain ⟨hok, hopened⟩ := hbring
      dsimp only
      rw [hok, hopened.hasTransport, Bool.and_true, if_pos rfl]
      have hready : Opened device ((((m.bringUpTransport device true).2.ensureMutex
          device).newRuntime device true).registerAxes device motors) :=
        ⟨hopened.socket, hopened.udp⟩
      exact .fresh ((hready.refreshHealth true).same (sameDevice_addProtocols motors))
  | false =>
      have hbring : (m.bringUpTransport device false).1 = false ∧
          (SameDevice device m (m.bringUpTransport device false).2 ∨
            (m.bringUpTransport device false).2.hasTransport device = false) := by
        rw [bringUpTransport]
        split
        · dsimp only
          rw [(initializeTransport_not_opened _ device).1, if_neg Bool.false_ne_true]
          exact ⟨rfl, Or.inr not_hasTransport_shutdownDevice⟩
        · next hnone =>
          obtain ⟨hfailed, hsame⟩ := initializeTransport_not_opened m device
          refine ⟨hfailed, Or.inl ?_⟩
          rw [hsame (Bool.eq_false_iff.2 hnone)]
          exact .refl device m
      obtain ⟨hfailed, heffect⟩ := hbring
      dsimp only
      rw [hfailed, Bool.false_and, if_neg Bool.false_ne_true]
      exact ⟨fun _ => heffect, fun h => absurd h Bool.false_ne_true⟩

theorem sameDevice_initDevice (motors : List (CanType × MotorID)) (opened : Bool)
    (hne : other ≠ device) : SameDevice other m (m.initDevice device motors opened).2 := by
  rw [initDevice]
  split
  · dsimp only
    have haxes : ∀ m₁ : DeviceManager, SameDevice other m m₁ →
        SameDevice other m (m₁.registerAxes device motors) :=
      fun _ h => h.trans (sameDevice_registerAxes motors hne)
    exact ⟨rfl, rfl, (put_of_ne _ _ hne).trans (haxes _ ⟨rfl, rfl, rfl⟩).health⟩
  · have hbring := sameDevice_bringUpTransport (m := m) opened hne
    dsimp only
    split
    · have hruntime : SameDevice other m (((m.bringUpTransport device opened).2.ensureMutex
          device).newRuntime device true) := hbring.trans ⟨rfl, rfl, rfl⟩
      exact ((hruntime.trans (sameDevice_registerAxes motors hne)).trans
        (sameDevice_refreshHealth true hne)).trans (sameDevice_addProtocols motors)
    · exact hbring

/-- **Calls**: a call leaves a device as it is or without a transport, unless it opens one. -/
theorem effect_run (call : ManagerCall) (hkind : OfKind m other) (hecb : isEcbDevice other = false) :
    Effect other (call.opens m other) m (call.run m) := by
  cases call with
  | ensureTransport device opened => exact effect_ensureTransport opened hkind hecb
  | ensureProtocol device type => exact .same (sameDevice_ensureProtocol type)
  | initDevice device motors opened =>
      by_cases hother : other = device
      · subst hother
        rw [ManagerCall.opens, decide_eq_true rfl, Bool.true_and]
        exact effect_initDevice_self motors opened hkind hecb
      · rw [ManagerCall.opens, decide_eq_false hother, Bool.false_and]
        exact .same (sameDevice_initDevice motors opened hother)
  | setRefreshRateHz hz =>
      have hall : SameDevice other m { m with refreshRateHz := normalizeRefreshRateHz hz } :=
        ⟨rfl, rfl, rfl⟩
      exact .same (hall.trans (sameDevice_applyRates m.deviceCmdMutexes))
  | setDeviceRefreshRateHz device hz =>
      rw [ManagerCall.run, setDeviceRefreshRateHz]
      split <;> exact .same ⟨rfl, rfl, rfl⟩
  | shutdownDevice device =>
      by_cases hother : other = device
      · subst hother
        exact .gone not_hasTransport_shutdownDevice
      · exact .same (sameDevice_shutdownDevice hother)
  | shutdownAll => exact .gone rfl

end DeviceManager

end CanDriver
