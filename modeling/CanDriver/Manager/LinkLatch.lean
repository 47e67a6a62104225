import CanDriver.Manager.Effects
import CanDriver.Bus

/-!
# CanDriver.Manager.LinkLatch

A lost link stays lost until something is heard, on a SocketCAN device.

Three parties write the health record of a device: its runtime counts how its sends ended,
`isDeviceReady` fills the record from the transport, and so do the calls that open one.  A
SocketCAN transport keeps counters and times of its own, so that filling brings back what the
runtime noted.  A UDP transport keeps none: filling forgets the lost link and the counters.

A send is two events, since the runtime notes it after the transport has answered and a query
may come in between.  Beside the manager the fleet keeps what an observer would: which links
were found lost since something was heard, and for each way that a send can fail how often the
runtime noted it, and how often the transport counted it, since the record was last filled.
-/

namespace CanDriver

/-- A fleet of devices: the manager, the sends that are still to be noted, and the clock,
which has been running before it is first read. -/
structure Fleet where
  manager : DeviceManager := {}
  unnoted : List (String × SendResult) := []
  now : Time
  linkDown : String → Bool := fun _ => false
  noted : String → SendResult → Nat := fun _ _ => 0
  counted : String → SendResult → Nat := fun _ _ => 0

/-- What happens to a fleet.  Every reading of the clock comes with the time since the last. -/
inductive FleetEvent where
  | call (call : ManagerCall)
  | transmit (device : String) (written : SysResult) (elapsed : Nat)
  | note (index : Nat) (elapsed : Nat)
  | socketReceive (device : String) (read : SysResult) (elapsed : Nat)
  | udpReceive (device : String) (packet : List UInt8) (fromRemote : Bool)
  | isDeviceReady (device : String)
  | getDeviceHealth (device : String)
deriving DecidableEq

/-- Whether a SocketCAN transport counts a send by its result: one that was refused. -/
def SocketCanController.counts (t : SocketCanController) (written : SysResult) : Bool :=
  t.initialized && decide (written.returned < 0)

namespace Fleet

/-- A counter of a device and a result goes up. -/
def countUp (counter : String → SendResult → Nat) (device : String) (result : SendResult) :
    String → SendResult → Nat :=
  Function.update counter device
    (Function.update (counter device) result (counter device result + 1))

/-- The transport of a device answers a send.  `deviceName` is empty for no device that notes
its sends. -/
def answered (device : String) (result : SendResult) (counts : Bool) (w : Fleet) : Fleet :=
  { w with
    unnoted :=
      if result ≠ .ok ∧ device ≠ "" ∧ w.manager.txDispatchers.lookup device = some true then
        w.unnoted ++ [(device, result)]
      else w.unnoted
    linkDown := if result = .linkDown then Function.update w.linkDown device true else w.linkDown
    counted := if counts then countUp w.counted device result else w.counted }

/-- A frame of a device has come. -/
def heard (device : String) (w : Fleet) : Fleet :=
  { w with linkDown := Function.update w.linkDown device false }

/-- The record of a device is filled from its transport. -/
def filled (device : String) (w : Fleet) : Fleet :=
  { w with
    noted := Function.update w.noted device fun _ => 0
    counted := Function.update w.counted device fun _ => 0 }

/-- A call of the manager; the devices whose transport it opens start afresh. -/
def call (call : ManagerCall) (w : Fleet) : Fleet :=
  { w with
    manager := call.run w.manager
    linkDown := fun device => w.linkDown device && !call.opens w.manager device
    noted := fun device result => if call.opens w.manager device then 0 else w.noted device result
    counted := fun device result =>
      if call.opens w.manager device then 0 else w.counted device result }

/-- A SocketCAN transport has gone on, by a reading of the clock. -/
def setSocket (device : String) (t : SocketCanController) (elapsed : Nat) (w : Fleet) : Fleet :=
  { w with
    now := w.now + elapsed
    manager := { w.manager with transports := w.manager.transports.insert device t } }

/-- A send of a device's runtime, as far as the transport. -/
def transmit (device : String) (written : SysResult) (elapsed : Nat) (w : Fleet) : Fleet :=
  if (w.manager.txDispatchers.lookup device).isNone then w
  else
    match w.manager.transports.lookup device with
    | some t =>
        let r := t.send written (w.now + elapsed)
        (w.setSocket device r.2 elapsed).answered device r.1 (t.counts written)
    | none =>
        match w.manager.udpTransports.lookup device with
        | some u => w.answered device (u.send written) false
        | none => w

/-- `noteSharedSendResult` for one of the sends that are still to be noted. -/
def note (index : Nat) (elapsed : Nat) (w : Fleet) : Fleet :=
  match w.unnoted[index]? with
  | some (device, result) =>
      { w with
        unnoted := w.unnoted.eraseIdx index
        now := w.now + elapsed
        manager :=
          { w.manager with
            sharedState := w.manager.sharedState.mutateDeviceHealth device
              (DeviceRuntime.noteHealth result (w.now + elapsed)) }
        noted := countUp w.noted device result }
  | none => w

/-- A round of a SocketCAN transport's `receiveLoop`. -/
def socketReceive (device : String) (read : SysResult) (elapsed : Nat) (w : Fleet) : Fleet :=
  match w.manager.transports.lookup device with
  | some t =>
      let r := t.receive read (w.now + elapsed)
      if r.1 then (w.setSocket device r.2 elapsed).heard device
      else w.setSocket device r.2 elapsed
  | none => w

/-- A round of a UDP transport's `receiveLoop`. -/
def udpReceive (device : String) (packet : List UInt8) (fromRemote : Bool) (w : Fleet) : Fleet :=
  match w.manager.udpTransports.lookup device with
  | some u => if u.receive packet fromRemote then w.heard device else w
  | none => w

/-- `isDeviceReady`, which fills the record of any device but an ECB one. -/
def isDeviceReady (device : String) (w : Fleet) : Fleet :=
  let w' := { w with manager := (w.manager.isDeviceReady device).2 }
  if DeviceManager.isEcbDevice device then w' else w'.filled device

/-- What an event does to a fleet; looking at a health record does nothing. -/
def step (w : Fleet) : FleetEvent → Fleet
  | .call c => w.call c
  | .transmit device written elapsed => w.transmit device written elapsed
  | .note index elapsed => w.note index elapsed
  | .socketReceive device read elapsed => w.socketReceive device read elapsed
  | .udpReceive device packet fromRemote => w.udpReceive device packet fromRemote
  | .isDeviceReady device => w.isDeviceReady device
  | .getDeviceHealth _ => w

/-- The fleet after some events; the clock has been running for a while. -/
def after (boot : Nat) (events : List FleetEvent) : Fleet :=
  events.foldl step { now := boot + 1 }

/-! ## the promise -/

/-- What a query owes: a device whose link was found lost is not ready until it was heard or
opened again, and the counters of a device with a transport do not go down. -/
def AnswersHealth (w : Fleet) (device : String) : Prop :=
  (w.linkDown device = true → (w.manager.isDeviceReady device).1 = false) ∧
    (w.manager.hasTransport device = true → ∀ result,
      (w.manager.record device).count result ≤
        ((w.manager.isDeviceReady device).2.record device).count result)

/-- Every readiness query of a run pays what it owes. -/
def KeepsHealth (boot : Nat) (events : List FleetEvent) : Prop :=
  ∀ before device rest, events = before ++ .isDeviceReady device :: rest →
    DeviceManager.isEcbDevice device = false → (after boot before).AnswersHealth device

/-- No lost UDP link is left to forget, and the runtime has not noted more failed sends than
the transport has counted since the record was filled. -/
def NothingForgotten (w : Fleet) (device : String) : Prop :=
  ((w.manager.udpTransports.lookup device).isSome = true → w.linkDown device = false) ∧
    (w.manager.hasTransport device = true → ∀ result, result ≠ .ok →
      w.noted device result ≤ w.counted device result)

/-- At every readiness query of a run there is nothing to forget. -/
def NeverForgets (boot : Nat) (events : List FleetEvent) : Prop :=
  ∀ before device rest, events = before ++ .isDeviceReady device :: rest →
    DeviceManager.isEcbDevice device = false → (after boot before).NothingForgotten device

end Fleet

/-! ## one transport -/

namespace SocketCanController

/-- What a send does to the statistics. -/
theorem send_spec (t : SocketCanController) (written : SysResult) (now : Time) :
    (t.send written now).2.stats.lastRxSteadyNs = t.stats.lastRxSteadyNs ∧
      (t.send written now).2.stats.lastTxLinkUnavailableSteadyNs =
        (if (t.send written now).1 = .linkDown then now
          else t.stats.lastTxLinkUnavailableSteadyNs) ∧
      ∀ result, result ≠ .ok → (t.send written now).2.stats.count result =
        t.stats.count result +
          (if t.counts written = true ∧ result = (t.send written now).1 then 1 else 0) := by
  rw [send, counts]
  split
  · next hclosed =>
    rw [hclosed]
    refine ⟨rfl, rfl, fun result _ => ?_⟩
    simp
  · next hopen =>
    rw [Bool.not_eq_false] at hopen
    rw [hopen, Bool.true_and]
    split
    · next hrefused =>
      rw [decide_eq_true hrefused]
      split
      · refine ⟨rfl, rfl, fun result hne => ?_⟩
        cases result <;> simp_all [SocketCanStats.count]
      · split
        · refine ⟨rfl, rfl, fun result hne => ?_⟩
          cases result <;> simp_all [SocketCanStats.count]
        · refine ⟨rfl, rfl, fun result hne => ?_⟩
          cases result <;> simp_all [SocketCanStats.count]
    · next htaken =>
      rw [decide_eq_false htaken]
      split
      · refine ⟨rfl, rfl, fun result _ => ?_⟩
        cases result <;> simp [SocketCanStats.count]
      · refine ⟨rfl, rfl, fun result _ => ?_⟩
        cases result <;> simp [SocketCanStats.count]

/-- What a read does to the statistics. -/
theorem receive_spec (t : SocketCanController) (read : SysResult) (now : Time) :
    (t.receive read now).2.stats.lastTxLinkUnavailableSteadyNs =
        t.stats.lastTxLinkUnavailableSteadyNs ∧
      (t.receive read now).2.stats.lastRxSteadyNs =
        (if (t.receive read now).1 = true then now else t.stats.lastRxSteadyNs) ∧
      ∀ result, (t.receive read now).2.stats.count result = t.stats.count result := by
  have hcount : ∀ stats : SocketCanStats,
      stats.txBackpressure = t.stats.txBackpressure →
      stats.txLinkUnavailable = t.stats.txLinkUnavailable → stats.txError = t.stats.txError →
      ∀ result, stats.count result = t.stats.count result := by
    intro stats hbackpressure hlink herror result
    cases result with
    | ok => rfl
    | backpressure => exact hbackpressure
    | linkDown => exact hlink
    | error => exact herror
  rw [receive]
  split
  · exact ⟨rfl, rfl, hcount _ rfl rfl rfl⟩
  · split
    · exact ⟨rfl, rfl, hcount _ rfl rfl rfl⟩
    · split
      · split
        · exact ⟨rfl, rfl, hcount _ rfl rfl rfl⟩
        · exact ⟨rfl, rfl, hcount _ rfl rfl rfl⟩
      · exact ⟨rfl, rfl, hcount _ rfl rfl rfl⟩

end SocketCanController

/-! ## what every event keeps -/

namespace Fleet

open DeviceManager

/-- The books of a device: a UDP transport is open, a SocketCAN one remembers a lost link by
its times, and what the record and the transport have counted since the record was filled
accounts for the difference between them. -/
structure Account (w : Fleet) (device : String) : Prop where
  kind : OfKind w.manager device
  udpOpen : ∀ u, w.manager.udpTransports.lookup device = some u → u.initialized = true
  heardBefore : ∀ t, w.manager.transports.lookup device = some t →
    t.stats.lastRxSteadyNs ≤ w.now
  latched : ∀ t, w.manager.transports.lookup device = some t → w.linkDown device = true →
    0 < t.stats.lastTxLinkUnavailableSteadyNs ∧
      t.stats.lastRxSteadyNs ≤ t.stats.lastTxLinkUnavailableSteadyNs
  counts : w.manager.hasTransport device = true → ∀ result, result ≠ .ok →
    (w.manager.record device).count result + w.counted device result =
      (w.manager.snapshotStats device).count result + w.noted device result

/-- The clock is running, and the books of every device are in order. -/
structure Accounts (w : Fleet) : Prop where
  running : 0 < w.now
  device : ∀ device, isEcbDevice device = false → Account w device

/-- Nothing that the books of a device are about has changed. -/
structure SameBooks (device : String) (w w' : Fleet) : Prop where
  manager : SameDevice device w.manager w'.manager
  now : w.now ≤ w'.now
  linkDown : w'.linkDown device = true → w.linkDown device = true
  noted : w'.noted device = w.noted device
  counted : w'.counted device = w.counted device

variable {w w' : Fleet} {device other : String}

theorem Account.same (h : Account w device) (hsame : SameBooks device w w') : Account w' device where
  kind := hsame.manager.ofKind h.kind
  udpOpen u hu := h.udpOpen u (hsame.manager.udp.symm.trans hu)
  heardBefore t ht := (h.heardBefore t (hsame.manager.socket.symm.trans ht)).trans hsame.now
  latched t ht hdown := h.latched t (hsame.manager.socket.symm.trans ht) (hsame.linkDown hdown)
  counts htransport result hne := by
    rw [hsame.manager.record, hsame.manager.snapshotStats, hsame.noted, hsame.counted]
    exact h.counts (hsame.manager.hasTransport.symm.trans htransport) result hne

theorem snapshotStats_of_lookup {m : DeviceManager} {t : SocketCanController}
    (ht : m.transports.lookup device = some t) : m.snapshotStats device = t.stats := by
  rw [snapshotStats, ht]
  rfl

theorem countUp_self (counter : String → SendResult → Nat) (device : String)
    (counted result : SendResult) :
    countUp counter device counted device result =
      counter device result + if result = counted then 1 else 0 := by
  rw [countUp, Function.update_self, Function.update_apply]
  split
  · next h => rw [h]
  · rfl

theorem countUp_of_ne (counter : String → SendResult → Nat) (counted : SendResult)
    (hne : other ≠ device) : countUp counter device counted other = counter other :=
  Function.update_of_ne hne _ _

/-! ## sends -/

theorem sameBooks_answered {result : SendResult} {counts : Bool} (hne : other ≠ device) :
    SameBooks other w (w.answered device result counts) := by
  refine ⟨.refl other _, le_refl _, ?_, rfl, ?_⟩
  · rw [answered]
    intro hdown
    dsimp only at hdown
    split at hdown
    · rwa [Function.update_of_ne hne] at hdown
    · exact hdown
  · rw [answered]
    dsimp only
    split
    · exact countUp_of_ne _ _ hne
    · rfl

theorem le_now_add (w : Fleet) (elapsed : Nat) : w.now ≤ w.now + elapsed :=
  Int.le_add_of_nonneg_right (Int.natCast_nonneg elapsed)

theorem sameBooks_setSocket {t : SocketCanController} {elapsed : Nat} (hne : other ≠ device) :
    SameBooks other w (w.setSocket device t elapsed) :=
  ⟨⟨AList.lookup_insert_ne hne, rfl, rfl⟩, le_now_add w elapsed, id, rfl, rfl⟩

/-- A SocketCAN transport has gone on: what is left to say is how its statistics did. -/
theorem account_setSocket {t t' : SocketCanController} {linkDown : String → Bool}
    {counted : String → SendResult → Nat} {unnoted : List (String × SendResult)}
    (h : Account w device) (ht : w.manager.transports.lookup device = some t) (elapsed : Nat)
    (hheard : t'.stats.lastRxSteadyNs ≤ w.now + elapsed)
    (hlatched : linkDown device = true → 0 < t'.stats.lastTxLinkUnavailableSteadyNs ∧
      t'.stats.lastRxSteadyNs ≤ t'.stats.lastTxLinkUnavailableSteadyNs)
    (hcounts : ∀ result, result ≠ .ok → t'.stats.count result + w.counted device result =
      t.stats.count result + counted device result) :
    Account { w.setSocket device t' elapsed with linkDown, counted, unnoted } device := by
  have hlookup : ∀ t'', (w.manager.transports.insert device t').lookup device = some t'' →
      t'' = t' := by
    intro t'' ht''
    rw [AList.lookup_insert] at ht''
    exact (Option.some.inj ht'').symm
  constructor
  · refine ⟨fun hudp => ?_, h.kind.socket⟩
    exact absurd (ht.symm.trans (h.kind.udp hudp)) (Option.some_ne_none t)
  · exact h.udpOpen
  · intro t'' ht''
    rw [hlookup t'' ht'']
    exact hheard
  · intro t'' ht'' hdown
    rw [hlookup t'' ht'']
    exact hlatched hdown
  · intro _ result hne
    have hbefore := h.counts (by rw [hasTransport, ht]; rfl) result hne
    rw [snapshotStats_of_lookup ht] at hbefore
    have hstats : (setSocket device t' elapsed w).manager.snapshotStats device = t'.stats :=
      snapshotStats_of_lookup (AList.lookup_insert _)
    have hnow := hcounts result hne
    dsimp only
    rw [hstats]
    change (w.manager.record device).count result + counted device result =
      _ + w.noted device result
    omega

/-- A SocketCAN transport answers a send. -/
theorem account_socketAnswered {t : SocketCanController} (h : Account w device) (hrunning : 0 < w.now)
    (ht : w.manager.transports.lookup device = some t) (written : SysResult) (elapsed : Nat) :
    Account ((w.setSocket device (t.send written (w.now + elapsed)).2 elapsed).answered device
      (t.send written (w.now + elapsed)).1 (t.counts written)) device := by
  obtain ⟨hrx, htx, hcounts⟩ := t.send_spec written (w.now + elapsed)
  have hpassed := le_now_add w elapsed
  have hheard := h.heardBefore t ht
  refine account_setSocket h ht elapsed (hrx.le.trans (hheard.trans hpassed)) ?_ ?_
  · intro hdown
    rw [hrx, htx]
    split
    · exact ⟨hrunning.trans_le hpassed, hheard.trans hpassed⟩
    · next hup =>
      rw [if_neg hup] at hdown
      exact h.latched t ht hdown
  · intro result hne
    rw [hcounts result hne]
    split
    · next hcounted =>
      rw [if_pos hcounted.1, countUp_self, if_pos hcounted.2]
      exact Nat.add_right_comm _ _ _
    · next hnot =>
      split
      · next hcounted =>
        rw [countUp_self, if_neg fun hresult => hnot ⟨hcounted, hresult⟩]
        rfl
      · rfl

/-- A UDP transport answers a send: there is no SocketCAN one to keep anything. -/
theorem account_udpAnswered (h : Account w device)
    (hnone : w.manager.transports.lookup device = none) (result : SendResult) :
    Account (w.answered device result false) device where
  kind := h.kind
  udpOpen := h.udpOpen
  heardBefore t ht := absurd (hnone.symm.trans ht) (Option.some_ne_none t).symm
  latched t ht _ := absurd (hnone.symm.trans ht) (Option.some_ne_none t).symm
  counts := h.counts

theorem accounts_transmit (h : Accounts w) (device : String) (written : SysResult) (elapsed : Nat) :
    Accounts (w.transmit device written elapsed) := by
  rw [transmit]
  dsimp only
  split
  · exact h
  · split
    · next t ht =>
      refine ⟨h.running.trans_le (le_now_add w elapsed), fun other hecb => ?_⟩
      by_cases hother : other = device
      · subst hother
        exact account_socketAnswered (h.device other hecb) h.running ht written elapsed
      · exact ((h.device other hecb).same (sameBooks_setSocket hother)).same
          (sameBooks_answered hother)
    · next hnone =>
      split
      · refine ⟨h.running, fun other hecb => ?_⟩
        by_cases hother : other = device
        · subst hother
          exact account_udpAnswered (h.device other hecb) hnone _
        · exact (h.device other hecb).same (sameBooks_answered hother)
      · exact h

/-! ## notes -/

theorem count_noteHealth (noted : SendResult) (now : Time) (health : DeviceHealthState)
    {result : SendResult} (hne : result ≠ .ok) :
    (DeviceRuntime.noteHealth noted now health).count result =
      health.count result + if result = noted then 1 else 0 := by
  cases noted <;> cases result <;> first | exact absurd rfl hne | rfl

theorem accounts_note (h : Accounts w) (index elapsed : Nat) : Accounts (w.note index elapsed) := by
  rw [note]
  split
  · next device noted _ =>
    have hpassed := le_now_add w elapsed
    refine ⟨h.running.trans_le hpassed, fun other hecb => ?_⟩
    have hbooks := h.device other hecb
    by_cases hother : other = device
    · subst hother
      refine ⟨⟨hbooks.kind.udp, hbooks.kind.socket⟩, hbooks.udpOpen, fun t ht => (hbooks.heardBefore t ht).trans hpassed,
        hbooks.latched, fun htransport result hne => ?_⟩
      have hbefore := hbooks.counts htransport result hne
      dsimp only
      rw [countUp_self, record_mutateDeviceHealth, count_noteHealth noted _ _ hne]
      change (w.manager.record other).count result + _ + _ =
        (w.manager.snapshotStats other).count result + _
      omega
    · refine hbooks.same ⟨⟨rfl, rfl, put_of_ne _ _ hother⟩, hpassed, id, ?_, rfl⟩
      exact countUp_of_ne _ _ hother
  · exact h

/-! ## receptions -/

theorem sameBooks_heard (device other : String) (w : Fleet) : SameBooks other w (w.heard device) := by
  refine ⟨.refl other _, le_refl _, fun hdown => ?_, rfl, rfl⟩
  rw [heard] at hdown
  dsimp only at hdown
  rw [Function.update_apply] at hdown
  split at hdown
  · exact absurd hdown Bool.false_ne_true
  · exact hdown

theorem accounts_socketReceive (h : Accounts w) (device : String) (read : SysResult)
    (elapsed : Nat) : Accounts (w.socketReceive device read elapsed) := by
  rw [socketReceive]
  split
  · next t ht =>
    obtain ⟨htx, hrx, hcounts⟩ := t.receive_spec read (w.now + elapsed)
    have hpassed := le_now_add w elapsed
    dsimp only
    split
    · next hframe =>
      rw [if_pos hframe] at hrx
      refine ⟨h.running.trans_le hpassed, fun other hecb => ?_⟩
      have hbooks := h.device other hecb
      by_cases hother : other = device
      · subst hother
        refine account_setSocket hbooks ht elapsed hrx.le ?_ ?_
        · intro hdown
          rw [Function.update_self] at hdown
          exact absurd hdown Bool.false_ne_true
        · intro result _
          rw [hcounts]
          rfl
      · exact (hbooks.same (sameBooks_setSocket hother)).same (sameBooks_heard device other _)
    · next hnone =>
      rw [if_neg hnone] at hrx
      refine ⟨h.running.trans_le hpassed, fun other hecb => ?_⟩
      have hbooks := h.device other hecb
      by_cases hother : other = device
      · subst hother
        refine account_setSocket hbooks ht elapsed
          (hrx.le.trans ((hbooks.heardBefore t ht).trans hpassed)) ?_ ?_
        · intro hdown
          rw [hrx, htx]
          exact hbooks.latched t ht hdown
        · intro result _
          rw [hcounts]
      · exact hbooks.same (sameBooks_setSocket hother)
  · exact h

theorem accounts_udpReceive (h : Accounts w) (device : String) (packet : List UInt8)
    (fromRemote : Bool) : Accounts (w.udpReceive device packet fromRemote) := by
  rw [udpReceive]
  split
  · split
    · exact ⟨h.running, fun other hecb => (h.device other hecb).same (sameBooks_heard device other w)⟩
    · exact h
  · exact h

/-! ## queries -/

/-- A query of a device that is not an ECB one fills its record. -/
theorem isDeviceReady_manager (m : DeviceManager) (hecb : isEcbDevice device = false) :
    (m.isDeviceReady device).2 = m.refreshHealth device (m.isDeviceReady device).1 := by
  rw [DeviceManager.isDeviceReady, hecb, if_neg Bool.false_ne_true]

theorem accounts_isDeviceReady (h : Accounts w) (device : String) :
    Accounts (w.isDeviceReady device) := by
  rw [isDeviceReady]
  split
  · next hecb =>
    rw [DeviceManager.isDeviceReady, if_pos hecb]
    exact h
  · next hecb =>
    rw [isDeviceReady_manager w.manager (Bool.eq_false_iff.2 hecb)]
    refine ⟨h.running, fun other hecb => ?_⟩
    have hbooks := h.device other hecb
    by_cases hother : other = device
    · subst hother
      refine ⟨⟨hbooks.kind.udp, hbooks.kind.socket⟩, hbooks.udpOpen, hbooks.heardBefore,
        hbooks.latched, fun _ result _ => ?_⟩
      have hfilled :
          ((w.manager.refreshHealth other (w.manager.isDeviceReady other).1).record other).count
            result = (w.manager.snapshotStats other).count result :=
        count_refreshHealth _ result
      dsimp only [filled]
      rw [Function.update_self, Function.update_self, hfilled]
      rfl
    · refine hbooks.same ⟨sameDevice_refreshHealth _ hother, le_refl _, id, ?_, ?_⟩
      · exact Function.update_of_ne hother _ _
      · exact Function.update_of_ne hother _ _

/-! ## calls -/

theorem call_linkDown (w : Fleet) (c : ManagerCall) (device : String) :
    (w.call c).linkDown device = (w.linkDown device && !c.opens w.manager device) := rfl

theorem call_noted (w : Fleet) (c : ManagerCall) (device : String) : (w.call c).noted device =
    fun result => if c.opens w.manager device then 0 else w.noted device result := rfl

theorem call_counted (w : Fleet) (c : ManagerCall) (device : String) : (w.call c).counted device =
    fun result => if c.opens w.manager device then 0 else w.counted device result := rfl

theorem accounts_call (h : Accounts w) (c : ManagerCall) : Accounts (w.call c) := by
  refine ⟨h.running, fun device hecb => ?_⟩
  have hbooks := h.device device hecb
  have heffect := effect_run c hbooks.kind hecb
  cases hopens : c.opens w.manager device with
  | false =>
      have hdown : (w.call c).linkDown device = w.linkDown device := by
        rw [call_linkDown, hopens, Bool.not_false, Bool.and_true]
      obtain hsame | hgone := heffect.kept hopens
      · refine hbooks.same ⟨hsame, le_refl _, fun hd => hdown.symm.trans hd, ?_, ?_⟩
        · rw [call_noted, hopens]
          rfl
        · rw [call_counted, hopens]
          rfl
      · have hnone : ∀ t, (w.call c).manager.transports.lookup device ≠ some t := by
          intro t ht
          rw [hasTransport, Bool.or_eq_false_iff] at hgone
          exact absurd (hgone.1.symm.trans (congrArg Option.isSome ht)) Bool.false_ne_true
        refine ⟨ofKind_of_not_hasTransport hgone, fun u hu => ?_, fun t ht => ?_, fun t ht => ?_,
          fun htransport => ?_⟩
        · rw [hasTransport, Bool.or_eq_false_iff] at hgone
          exact absurd (hgone.2.symm.trans (congrArg Option.isSome hu)) Bool.false_ne_true
        · exact absurd ht (hnone t)
        · exact absurd ht (hnone t)
        · exact absurd (hgone.symm.trans htransport) Bool.false_ne_true
  | true =>
      have hfresh := heffect.opened hopens
      have hnew : ∀ t, (w.call c).manager.transports.lookup device = some t →
          t = .initializeSocket true := by
        intro t ht
        have ht' := hfresh.socket.symm.trans ht
        rw [Option.ite_none_left_eq_some] at ht'
        exact (Option.some.inj ht'.2).symm
      refine ⟨hfresh.ofKind, fun u hu => ?_, fun t ht => ?_, fun t ht hdown => ?_,
        fun _ result _ => ?_⟩
      · have hu' := hfresh.udp.symm.trans hu
        rw [Option.ite_none_right_eq_some] at hu'
        rw [← Option.some.inj hu'.2]
        rfl
      · rw [hnew t ht]
        exact h.running.le
      · rw [call_linkDown, hopens, Bool.not_true, Bool.and_false] at hdown
        exact absurd hdown Bool.false_ne_true
      · have hstats := hfresh.snapshotStats
        have hcount := hfresh.counts result
        rw [call_noted, call_counted, hopens]
        change ((c.run w.manager).record device).count result + 0 =
          ((c.run w.manager).snapshotStats device).count result + 0
        rw [hcount, hstats]
        cases result <;> rfl

/-- **Step**: every event keeps the books. -/
theorem accounts_step (h : Accounts w) (e : FleetEvent) : Accounts (w.step e) := by
  cases e with
  | call c => exact accounts_call h c
  | transmit device written elapsed => exact accounts_transmit h device written elapsed
  | note index elapsed => exact accounts_note h index elapsed
  | socketReceive device read elapsed => exact accounts_socketReceive h device read elapsed
  | udpReceive device packet fromRemote => exact accounts_udpReceive h device packet fromRemote
  | isDeviceReady device => exact accounts_isDeviceReady h device
  | getDeviceHealth device => exact h

/-- **Run**: so the books are in order after any events. -/
theorem accounts_after (boot : Nat) (events : List FleetEvent) : Accounts (after boot events) := by
  have hstart : Accounts { now := boot + 1 } := by
    refine ⟨Int.natCast_succ_pos boot, fun device _ => ?_⟩
    exact ⟨⟨fun _ => rfl, fun _ => rfl⟩, fun _ h => absurd h (by simp), fun _ h => absurd h (by simp),
      fun _ h => absurd h (by simp), fun h => absurd h Bool.false_ne_true⟩
  exact List.foldlRecOn (motive := Accounts) events _ hstart fun _ h e _ => accounts_step h e

/-! ## the promise kept -/

/-- A record counts no sends that succeeded. -/
theorem count_ok (h : DeviceHealthState) : h.count .ok = 0 := rfl

/-- Of the transports only a UDP one is ready while its link is lost. -/
theorem ready_while_lost_iff (h : Account w device) (hecb : isEcbDevice device = false) :
    (w.linkDown device = true → (w.manager.isDeviceReady device).1 = false) ↔
      ((w.manager.udpTransports.lookup device).isSome = true → w.linkDown device = false) := by
  rw [DeviceManager.isDeviceReady, hecb, if_neg Bool.false_ne_true]
  dsimp only
  split
  · next t ht =>
    -- a SocketCAN transport remembers by its times
    have hnone : w.manager.udpTransports.lookup device = none := by
      cases hudp : isUdpDevice device with
      | true => exact absurd (ht.symm.trans (h.kind.udp hudp)) (Option.some_ne_none t)
      | false => exact h.kind.socket hudp
    constructor
    · intro _ hsome
      rw [hnone] at hsome
      exact absurd hsome Bool.false_ne_true
    · intro _ hdown
      obtain ⟨hpositive, hstale⟩ := h.latched t ht hdown
      rw [SocketCanController.linkRecovered, decide_eq_false hpositive.ne',
        decide_eq_false hstale.not_gt, Bool.or_self, Bool.and_false]
  · cases hlookup : w.manager.udpTransports.lookup device with
    | none => exact iff_of_true (fun _ => rfl) fun hsome => absurd hsome Bool.false_ne_true
    | some u =>
        rw [Option.any_some, h.udpOpen u hlookup, Option.isSome_some]
        cases hdown : w.linkDown device with
        | true =>
            constructor
            · intro hlatched
              exact absurd (hlatched rfl) Bool.false_ne_true.symm
            · intro hup
              exact absurd (hup rfl) Bool.false_ne_true.symm
        | false => exact iff_of_true (fun hdown => absurd hdown Bool.false_ne_true) fun _ => rfl

/-- A query lowers a counter exactly if the runtime noted more than the transport counted. -/
theorem counters_kept_iff (h : Account w device) (hecb : isEcbDevice device = false)
    (htransport : w.manager.hasTransport device = true) :
    (∀ result, (w.manager.record device).count result ≤
        ((w.manager.isDeviceReady device).2.record device).count result) ↔
      ∀ result, result ≠ .ok → w.noted device result ≤ w.counted device result := by
  rw [isDeviceReady_manager _ hecb]
  constructor
  · intro hkept result hne
    have hbooks := h.counts htransport result hne
    have hle := hkept result
    rw [count_refreshHealth] at hle
    omega
  · intro hnoted result
    by_cases hok : result = .ok
    · rw [hok, count_ok, count_ok]
    · have hbooks := h.counts htransport result hok
      have hle := hnoted result hok
      rw [count_refreshHealth]
      omega

/-- **Health**: in a run every readiness query finds a lost link lost and leaves the counters
standing, if and only if it never finds a UDP link lost or a failed send that was noted and
that the transport did not count. -/
theorem keeps_health_iff (boot : Nat) (events : List FleetEvent) :
    KeepsHealth boot events ↔ NeverForgets boot events := by
  have hquery : ∀ before device, isEcbDevice device = false →
      ((after boot before).AnswersHealth device ↔
        (after boot before).NothingForgotten device) := by
    intro before device hecb
    have hbooks := (accounts_after boot before).device device hecb
    exact and_congr (ready_while_lost_iff hbooks hecb)
      (imp_congr_right fun htransport => counters_kept_iff hbooks hecb htransport)
  constructor
  · intro hkeeps before device rest hsplit hecb
    exact (hquery before device hecb).1 (hkeeps before device rest hsplit hecb)
  · intro hnever before device rest hsplit hecb
    exact (hquery before device hecb).2 (hnever before device rest hsplit hecb)

/-- A UDP device is opened, and a send finds the network unreachable. -/
def udpLinkLost : List FleetEvent :=
  [.call (.initDevice "udp://10.0.0.2" [(.MT, 0x141)] true),
    .transmit "udp://10.0.0.2" { returned := -1, errno := .ENETUNREACH } 5, .note 0 1]

/-- The query that follows finds the device ready, and forgets that the link was lost. -/
theorem udp_link_forgotten :
    ¬ ∀ boot events, KeepsHealth boot events := by
  intro hall
  have hquery := hall 0 (udpLinkLost ++ [.isDeviceReady "udp://10.0.0.2"]) udpLinkLost
    "udp://10.0.0.2" [] rfl (by decide +kernel)
  have hlost : (after 0 udpLinkLost).linkDown "udp://10.0.0.2" = true := by decide +kernel
  have hready : ((after 0 udpLinkLost).manager.isDeviceReady "udp://10.0.0.2").1 = true := by
    decide +kernel
  exact absurd ((hquery.1 hlost).symm.trans hready) Bool.false_ne_true

end Fleet

end CanDriver
