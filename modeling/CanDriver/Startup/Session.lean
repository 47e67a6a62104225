import CanDriver.Feedback.Reports
import CanDriver.Startup.Sync

/-!
# CanDriver.Startup.Session

What the calls of a device do to its session.

A session begins when a transport is opened.  Whoever opens it has dropped the protocol objects
of the session before, and registers only objects it has made since, which have not heard of any
position.  Nobody else changes which objects there are.
-/

namespace CanDriver

open Interact Prog

/-! ## calls -/

/-- What a thread may be asked to do on a device, the startup sync of its joints included. -/
inductive StartupCall where
  | bus (call : BusCall)
  | sync (params : StartupParams) (joints : List CanDriverJointConfig)

namespace StartupCall

/-- The program of a call; only the sync has a result. -/
def code (cfg : DeviceManagerConfig) (deviceName : String) :
    StartupCall → BusProg (Option (Bool × List CanDriverJointConfig))
  | bus call => do
      call.code cfg deviceName
      pure none
  | sync params joints => syncStartupPositionAndCommands cfg params deviceName joints

/-- The calls that open and close transports, and make and drop protocol objects. -/
def manages : StartupCall → Bool
  | bus (.initDevice _) => true
  | bus .shutdownDevice => true
  | _ => false

/-- The node a call may report about. -/
def tells : StartupCall → Option (CanType × UInt8)
  | bus call => call.tells
  | sync _ _ => none

/-- A startup sync. -/
def isSync : StartupCall → Bool
  | sync _ _ => true
  | bus _ => false

/-- The call whose discipline it keeps: the sync receives nothing. -/
def reporter : StartupCall → BusCall
  | bus call => call
  | sync _ _ => .work

end StartupCall

/-! ## rules -/

/-- What a thread knows: the slot as it left it, the objects it has made since it opened the
transport, and the records it has looked at. -/
structure SessionGhost where
  slot : Option DeviceSlot := none
  made : Set CanType := ∅
  seen : List SharedDriverState := []

/-- The object has heard of no position. -/
def EyouCan.Deaf (s : EyouCan) : Prop := ∀ n, (s.motorState n).positionReceived = false

def MtCan.Deaf (s : MtCan) : Prop := ∀ n, (s.motorState n).positionReceived = false

/-- Without a transport there are no protocol objects. -/
def DeviceSlot.Settled (slot : DeviceSlot) : Prop := slot.transport = false → slot.protocols = []

/-- What a call may do to the slot, and when it may open a transport. -/
def sessionRules (c : StartupCall) : Protocol busSig SessionGhost where
  allow g
    | .slot f => f = id ∨ c.manages = true ∧ ∀ slot : DeviceSlot, ∀ type ∈ (f slot).protocols,
        type ∈ slot.protocols ∨ type ∈ g.made
    | .openTransport => c.manages = true ∧ ∃ slot, g.slot = some slot ∧ slot.protocols = []
    | _ => True
  accepts g
    | .slot _, slot => c.manages = true → (∀ known, g.slot = some known → slot = known) ∧
        (g.slot = none → slot.Settled)
    | _, _ => True
  next g
    | .slot f, slot => { g with slot := some (f slot) }
    | .openTransport, _ => { g with made := ∅ }
    | .eyou f, _ => { g with made := g.made ∪ {type | type = .PP ∧ ∀ s, (f s).Deaf} }
    | .mt f, _ => { g with made := g.made ∪ {type | type = .MT ∧ ∀ s, (f s).Deaf} }
    | .dm _, _ => { g with made := g.made ∪ {.DM} }
    | .shared _, s => { g with seen := s :: g.seen }
    | _, _ => g

variable {c : StartupCall} {g : SessionGhost} {deviceName : String}

/-! ### calls that leave the slot alone -/

/-- An operation that does not look at the slot. -/
def BusOp.Beside : BusOp → Prop
  | .slot _ | .openTransport => False
  | _ => True

/-- An operation that at most looks at the slot. -/
def BusOp.Watches : BusOp → Prop
  | .slot f => f = id
  | .openTransport => False
  | _ => True

theorem BusOp.Beside.watches {op : BusOp} (h : op.Beside) : op.Watches := by
  cases op with
  | slot f => exact h.elim
  | _ => exact h

theorem completion_beside (completion : Completion) (sent : Bool) (result : SendResult) (t : Time) :
    (completion.run sent result t).Stays BusOp.Beside := by
  cases completion with
  | eyouRead => exact .vis trivial fun _ => trivial
  | mtRead => exact .vis trivial fun _ => trivial

theorem onBus_beside {P : Type} [BusObject P]
    (hown : ∀ f : P → P, (BusObject.own f).Stays BusOp.Beside) (p : Proto P α) :
    p.onBus.Stays BusOp.Beside := by
  have hall : p.Stays fun _ => True := wp_only_of_forall (fun _ => trivial) p
  refine wp_only_interp (fun op _ => ?_) hall
  cases op with
  | proto f => exact hown f
  | submit r =>
      exact DeviceRuntime.submit_stays trivial trivial fun c _ t => completion_beside c _ _ t
  | _ => exact ⟨trivial, fun _ _ => trivial⟩

theorem eyou_beside (p : Proto EyouCan α) : p.onBus.Stays BusOp.Beside :=
  onBus_beside (fun f => show (Device.eyou f).Stays _ from .vis trivial fun _ => trivial) p

theorem mt_beside (p : Proto MtCan α) : p.onBus.Stays BusOp.Beside :=
  onBus_beside (fun f => show (Device.mt f).Stays _ from .vis trivial fun _ => trivial) p

theorem dm_beside (p : Proto DamiaoCan α) : p.onBus.Stays BusOp.Beside :=
  onBus_beside (fun f => show (Device.dm f).Stays _ from .vis trivial fun _ => trivial) p

/-- The calls that manage no session leave the slot alone. -/
theorem busCall_beside (cfg : DeviceManagerConfig) {call : BusCall}
    (h : (StartupCall.bus call).manages = false) : (call.code cfg deviceName).Stays BusOp.Beside := by
  cases call with
  | work =>
      exact DeviceRuntime.workerStep_stays trivial trivial (fun _ => trivial) (fun _ => trivial)
        (fun _ _ => trivial) (fun c _ _ t => completion_beside c _ _ t) deviceName
  | refreshTick =>
      have hsteps : AllowsTick BusOp.Beside :=
        { refresh := fun _ => trivial, shared := trivial, clock := trivial, eyou := trivial
          mt := trivial, dm := trivial, mtQuery := fun _ _ => mt_beside _
          ppQuery := fun _ _ => eyou_beside _, dmQuery := fun _ _ => dm_beside _ }
      exact (hsteps.stays deviceName).bind fun _ => trivial
  | initDevice motors => exact absurd h Bool.noConfusion
  | shutdownDevice => exact absurd h Bool.noConfusion
  | mt | mtSetCommunicationTimeout | mtSetPositionAcceleration | mtSetPositionDeceleration
  | mtInitializeMotorRefresh | mtIssueRefreshQuery | mtReceive => exact mt_beside _
  | dm | dmInitializeMotorRefresh | dmIssueRefreshQuery | dmReceive => exact dm_beside _
  | _ => exact eyou_beside _

/-- A program beside the slot knows afterwards what it knew, and may have made more. -/
theorem wp_beside {p : BusProg α} (hp : p.Stays BusOp.Beside) :
    p.wp (sessionRules c) (fun _ g' => g'.slot = g.slot ∧ g.made ⊆ g'.made) g := by
  have hkeeps := wp_of_only (P := sessionRules c) (R := fun _ => True)
    (I := fun g' => g'.slot = g.slot ∧ g.made ⊆ g'.made) hp (fun g' op hg hop => ?_)
    ⟨rfl, subset_rfl⟩
  · exact wp_mono hkeeps fun _ _ h => h.2
  · cases op with
    | slot | openTransport => exact hop.elim
    | eyou | mt | dm =>
        exact ⟨trivial, fun _ _ => ⟨hg.1, subset_trans hg.2 Set.subset_union_left⟩⟩
    | _ => exact ⟨trivial, fun _ _ => hg⟩

/-- A program that at most looks at the slot has seen afterwards what it has seen before. -/
theorem wp_watches {p : BusProg α} (hp : p.Stays BusOp.Watches) :
    p.wp (sessionRules c) (fun _ g' => g.seen ⊆ g'.seen) g := by
  have hkeeps := wp_of_only (P := sessionRules c) (R := fun _ => True)
    (I := fun g' => g.seen ⊆ g'.seen) hp (fun g' op hg hop => ?_) (List.Subset.refl _)
  · exact wp_mono hkeeps fun _ _ h => h.2
  · cases op with
    | openTransport => exact hop.elim
    | slot f => exact ⟨.inl hop, fun _ _ => hg⟩
    | shared f => exact ⟨trivial, fun s _ => List.Subset.trans hg (List.subset_cons_self _ _)⟩
    | _ => exact ⟨trivial, fun _ _ => hg⟩

/-! ### bringing the device up and down -/

/-- The thread knows the slot, and leaves it settled. -/
def SessionGhost.Settled (g : SessionGhost) : Prop := ∀ slot, g.slot = some slot → slot.Settled

/-- The thread knows that there is a transport. -/
def SessionGhost.Up (g : SessionGhost) : Prop := ∃ slot, g.slot = some slot ∧ slot.transport = true

theorem SessionGhost.Up.settled (h : g.Up) : g.Settled := by
  obtain ⟨slot, hslot, htransport⟩ := h
  intro slot' hslot' hclosed
  obtain rfl := Option.some.inj (hslot.symm.trans hslot')
  exact absurd (htransport.symm.trans hclosed) (by decide)

/-- Changing the slot without registering an object. -/
theorem wp_changeSlot (hmanages : c.manages = true) {f : DeviceSlot → DeviceSlot}
    (hf : ∀ slot, (f slot).protocols ⊆ slot.protocols) {k : DeviceSlot → BusProg α}
    {Q : α → SessionGhost → Prop}
    (hk : ∀ slot, (∀ known, g.slot = some known → slot = known) →
      (g.slot = none → slot.Settled) →
      (k slot).wp (sessionRules c) Q { g with slot := some (f slot) }) :
    (Device.slot f >>= k).wp (sessionRules c) Q g := by
  refine ⟨.inr ⟨hmanages, fun slot type htype => .inl (hf slot htype)⟩, fun slot haccepts => ?_⟩
  obtain ⟨hknown, hfresh⟩ := haccepts hmanages
  exact hk slot hknown hfresh

theorem wp_shutdownDevice_settled (hmanages : c.manages = true) :
    (shutdownDevice deviceName).wp (sessionRules c) (fun _ g' => g'.Settled) g := by
  refine ⟨trivial, fun _ _ => ⟨trivial, fun _ _ => ?_⟩⟩
  refine wp_changeSlot hmanages ?_ fun slot _ _ => wp_changeSlot hmanages ?_ fun slot' _ _ => ?_
  · exact fun _ => List.Subset.refl _
  · exact fun _ => List.nil_subset _
  · refine ⟨trivial, fun _ _ known hknown _ => ?_⟩
    obtain rfl := Option.some.inj hknown
    rfl

/-- Opening a transport, where there are no objects. -/
theorem wp_initializeTransport (hmanages : c.manages = true) {slot : DeviceSlot}
    (hslot : g.slot = some slot) (hempty : slot.protocols = []) :
    initializeTransport.wp (sessionRules c)
      (fun ok g' => if ok = true then g'.Up else g'.Settled) g := by
  refine ⟨⟨hmanages, slot, hslot, hempty⟩, fun ok _ => ?_⟩
  show (if ok = true then Device.slot (fun s => { s with transport := true }) >>= fun _ =>
    (pure true : BusProg Bool) else pure false).wp _ _ _
  rw [wp_ite]
  split
  · refine wp_changeSlot hmanages ?_ fun slot' _ _ => ⟨_, rfl, rfl⟩
    exact fun _ => List.Subset.refl _
  · intro known hknown _
    obtain rfl := Option.some.inj (hslot.symm.trans hknown)
    exact hempty

theorem wp_bringUpTransport (hmanages : c.manages = true) (hstart : g.slot = none) :
    (bringUpTransport deviceName).wp (sessionRules c)
      (fun ok g' => if ok = true then g'.Up else g'.Settled) g := by
  refine wp_changeSlot hmanages ?_ fun slot _ hfresh => ?_
  · exact fun _ => List.Subset.refl _
  rw [wp_ite]
  split
  · refine ⟨trivial, fun _ _ => wp_changeSlot hmanages ?_ fun slot₁ _ _ =>
      wp_changeSlot hmanages ?_ fun slot₂ _ _ => ⟨trivial, fun _ _ => ?_⟩⟩
    · exact fun _ => List.Subset.refl _
    · exact fun _ => List.nil_subset _
    dsimp only [Prog.bind]
    refine wp_bind.2 ?_
    refine wp_mono (wp_initializeTransport hmanages rfl rfl) fun ok g' hok => ?_
    rw [wp_ite]
    split at hok
    · rw [if_pos ‹_›]
      exact hok
    · rw [if_neg ‹_›]
      exact wp_bind.2 (wp_mono (wp_shutdownDevice_settled hmanages) fun _ _ h => by simpa using h)
  · next hclosed =>
      have hclosed : slot.transport = false := by simpa using hclosed
      exact wp_initializeTransport hmanages rfl (hfresh hstart hclosed)

/-- Registering an object that was made before. -/
theorem wp_ensureObject (hmanages : c.manages = true) {type : CanType} {ids : List MotorID}
    {create : BusProg Unit} (hup : g.Up)
    (hcreate : ∀ g, create.wp (sessionRules c) (fun _ g' => g'.slot = g.slot ∧ type ∈ g'.made) g) :
    (ensureObject type ids create).wp (sessionRules c) (fun _ g' => g'.Up) g := by
  obtain ⟨up, hslot, htransport⟩ := hup
  refine wp_changeSlot hmanages ?_ fun slot hknown _ => ?_
  · exact fun _ => List.Subset.refl _
  obtain rfl := hknown up hslot
  rw [wp_ite]
  split
  · refine wp_bind.2 (wp_mono (hcreate _) fun _ g' hcreated => ?_)
    refine ⟨.inr ⟨hmanages, fun s type' htype => ?_⟩, fun slot' haccepts => ?_⟩
    · rcases List.mem_cons.1 htype with rfl | htype
      · exact .inr hcreated.2
      · exact .inl htype
    · obtain rfl := (haccepts hmanages).1 slot hcreated.1
      exact ⟨_, rfl, htransport⟩
  · exact ⟨slot, rfl, htransport⟩

/-- A program beside the slot does not lose the transport. -/
theorem wp_beside_up {p : BusProg α} (hp : p.Stays BusOp.Beside) (hup : g.Up) :
    p.wp (sessionRules c) (fun _ g' => g'.Up) g := by
  refine wp_mono (wp_beside hp) fun _ g' h => ?_
  obtain ⟨slot, hslot, htransport⟩ := hup
  exact ⟨slot, h.1.trans hslot, htransport⟩

/-- A new object has heard of no position. -/
theorem wp_createMt (cfg : DeviceManagerConfig) (g : SessionGhost) :
    (createMt cfg deviceName).wp (sessionRules c)
      (fun _ g' => g'.slot = g.slot ∧ .MT ∈ g'.made) g := by
  have hset : ∀ hz timeoutMs, (Proto.onBus (MtCan.setRefreshRateHz hz) >>= fun _ =>
      Proto.onBus (MtCan.setCommunicationTimeoutOnInit timeoutMs)).Stays BusOp.Beside :=
    fun _ _ => (mt_beside _).bind fun _ => mt_beside _
  refine ⟨trivial, fun s _ => wp_mono (wp_beside (hset _ _)) fun _ g' h => ⟨h.1, h.2 (.inr ?_)⟩⟩
  exact ⟨rfl, fun _ _ => rfl⟩

theorem wp_createPp (cfg : DeviceManagerConfig) (g : SessionGhost) :
    (createPp cfg deviceName).wp (sessionRules c)
      (fun _ g' => g'.slot = g.slot ∧ .PP ∈ g'.made) g := by
  have hset : ∀ hz enabled velocityRaw velocityRaw', (Proto.onBus (EyouCan.setRefreshRateHz hz) >>=
      fun _ => Proto.onBus (EyouCan.setFastWriteEnabled enabled) >>=
      fun _ => Proto.onBus (EyouCan.setDefaultPositionVelocityRaw velocityRaw) >>=
      fun _ => Proto.onBus (EyouCan.setDefaultCspVelocityRaw velocityRaw')).Stays BusOp.Beside :=
    fun _ _ _ _ => (eyou_beside _).bind fun _ => (eyou_beside _).bind fun _ =>
      (eyou_beside _).bind fun _ => eyou_beside _
  refine ⟨trivial, fun s _ => wp_mono (wp_beside (hset _ _ _ _)) fun _ g' h => ⟨h.1, h.2 (.inr ?_)⟩⟩
  exact ⟨rfl, fun _ _ => rfl⟩

theorem wp_createDm (cfg : DeviceManagerConfig) (g : SessionGhost) :
    (createDm cfg deviceName).wp (sessionRules c)
      (fun _ g' => g'.slot = g.slot ∧ .DM ∈ g'.made) g := by
  refine ⟨trivial, fun s _ => wp_mono (wp_beside (dm_beside _)) fun _ g' h => ⟨h.1, h.2 (.inr ?_)⟩⟩
  exact rfl

theorem wp_initDevice (hmanages : c.manages = true) (cfg : DeviceManagerConfig)
    (motors : List (CanType × MotorID)) (hstart : g.slot = none) :
    (initDevice cfg deviceName motors).wp (sessionRules c) (fun _ g' => g'.Settled) g := by
  refine wp_bind.2 (wp_mono (wp_bringUpTransport hmanages hstart) fun ok g' hok => ?_)
  rw [wp_ite]
  split at hok
  · rw [if_pos ‹_›]
    refine ⟨trivial, fun _ _ => ⟨trivial, fun s _ => ⟨trivial, fun s' _ => ?_⟩⟩⟩
    have hup : SessionGhost.Up { g' with seen := s' :: s :: g'.seen } := hok
    dsimp only [Prog.bind]
    refine wp_bind.2 (wp_mono (wp_ensureObject hmanages hup (wp_createMt cfg)) fun _ g₁ h₁ => ?_)
    refine wp_bind.2 (wp_mono (wp_ensureObject hmanages h₁ (wp_createPp cfg)) fun _ g₂ h₂ => ?_)
    refine wp_bind.2 (wp_mono (wp_ensureObject hmanages h₂ (wp_createDm cfg)) fun _ g₃ h₃ => ?_)
    have hpoll : ∀ {ids load schedule}, load.Stays BusOp.Beside →
        (startPolling ids load schedule).Stays BusOp.Beside := fun hload =>
      startPolling_stays hload trivial
    refine wp_mono (Q := fun _ g' => g'.Up) (wp_beside_up ?_ h₃) fun _ _ h => h.settled
    exact .vis trivial fun _ => (hpoll (mt_beside _)).bind fun _ => (hpoll (eyou_beside _)).bind
      fun _ => (hpoll (dm_beside _)).bind fun _ => trivial
  · rw [if_neg ‹_›]
    exact hok

/-! ### the startup sync -/

theorem startup_watches : AllowsStartup BusOp.Watches where
  slot := rfl
  shared := trivial
  clock := trivial
  refresh _ := trivial
  mtRate _ := (mt_beside _).mono fun _ => BusOp.Beside.watches
  ppRate _ := (eyou_beside _).mono fun _ => BusOp.Beside.watches
  dmRate _ := (dm_beside _).mono fun _ => BusOp.Beside.watches
  mtQuery _ _ := (mt_beside _).mono fun _ => BusOp.Beside.watches
  ppQuery _ _ := (eyou_beside _).mono fun _ => BusOp.Beside.watches
  dmQuery _ _ := (dm_beside _).mono fun _ => BusOp.Beside.watches

/-- A joint with what a record said that was looked at. -/
def TakenFrom (joints : List CanDriverJointConfig) (seen : List SharedDriverState)
    (taken : CanDriverJointConfig) : Prop :=
  ∃ joint ∈ joints, ∃ s ∈ seen, ∃ feedback, joint.startupFeedback s = some feedback ∧
    taken = joint.takeFeedback feedback

theorem TakenFrom.mono {joints joints' : List CanDriverJointConfig}
    {seen seen' : List SharedDriverState} {taken : CanDriverJointConfig}
    (h : TakenFrom joints seen taken) (hjoints : joints ⊆ joints') (hseen : seen ⊆ seen') :
    TakenFrom joints' seen' taken := by
  obtain ⟨joint, hjoint, s, hs, h⟩ := h
  exact ⟨joint, hjoints hjoint, s, hseen hs, h⟩

/-- What a pass over the records returns. -/
def PassOutcome (deviceName : String) (joints : List CanDriverJointConfig)
    (seen : List SharedDriverState) (result : Option (List CanDriverJointConfig)) : Prop :=
  ∀ snapshots, result = some snapshots → ∀ taken ∈ snapshots, taken.canDevice = deviceName →
    TakenFrom joints seen taken

theorem wp_validateStartupJoints (joints : List CanDriverJointConfig) (g : SessionGhost) :
    (validateStartupJoints deviceName joints).wp (sessionRules c)
      (fun result g' => g.seen ⊆ g'.seen ∧ PassOutcome deviceName joints g'.seen result) g := by
  induction joints generalizing g with
  | nil =>
      refine ⟨List.Subset.refl _, fun snapshots h taken htaken => ?_⟩
      obtain rfl := Option.some.inj h
      exact absurd htaken List.not_mem_nil
  | cons joint joints ih =>
      rw [validateStartupJoints, wp_ite]
      split
      · next hother =>
          refine wp_bind.2 (wp_mono (ih g) fun rest g' h => ⟨h.1, fun snapshots hresult => ?_⟩)
          obtain ⟨rest', hrest, rfl⟩ := Option.map_eq_some_iff.1 hresult
          intro taken htaken hdevice
          rcases List.mem_cons.1 htaken with rfl | htaken
          · exact absurd hdevice hother
          · exact (h.2 rest' hrest taken htaken hdevice).mono (List.subset_cons_self _ _)
              (List.Subset.refl _)
      · refine ⟨trivial, fun s _ => ?_⟩
        dsimp only [Prog.bind]
        refine wp_bind.2 (wp_mono (ih _) fun rest g' h => ?_)
        have hs : s ∈ g'.seen := h.1 List.mem_cons_self
        have hseen : g.seen ⊆ g'.seen := List.Subset.trans (List.subset_cons_self _ _) h.1
        cases hfeedback : joint.startupFeedback s with
        | none => exact ⟨hseen, fun _ hresult => absurd hresult (by simp)⟩
        | some feedback =>
            refine ⟨hseen, fun snapshots hresult => ?_⟩
            obtain ⟨rest', hrest, rfl⟩ := Option.map_eq_some_iff.1 hresult
            intro taken htaken hdevice
            rcases List.mem_cons.1 htaken with rfl | htaken
            · exact ⟨joint, List.mem_cons_self, s, hs, feedback, hfeedback, rfl⟩
            · exact (h.2 rest' hrest taken htaken hdevice).mono (List.subset_cons_self _ _)
                (List.Subset.refl _)

theorem wp_validateStartup (joints : List CanDriverJointConfig) (passes : Nat)
    (g : SessionGhost) : (validateStartup deviceName joints passes).wp (sessionRules c)
      (fun result g' => PassOutcome deviceName joints g'.seen result) g := by
  induction passes generalizing g with
  | zero => exact fun _ h => absurd h (by simp)
  | succ passes ih =>
      refine wp_bind.2 (wp_mono (wp_validateStartupJoints joints g) fun snapshots g' h => ?_)
      rw [wp_ite]
      split
      · exact h.2
      · exact ih g'

/-- What a successful sync makes of the device's joints. -/
def SyncOutcome (deviceName : String) (params : StartupParams) (joints : List CanDriverJointConfig)
    (seen : List SharedDriverState) (result : Option (Bool × List CanDriverJointConfig)) : Prop :=
  ∀ aligned, result = some (true, aligned) → ∀ joint ∈ aligned, joint.canDevice = deviceName →
    joint.outOfRange params.startupPositionLimitToleranceRad = false ∧
      ∃ taken, TakenFrom joints seen taken ∧ joint = taken.alignCommand

theorem wp_syncStartup (cfg : DeviceManagerConfig) (params : StartupParams)
    (joints : List CanDriverJointConfig) (g : SessionGhost) :
    (syncStartupPositionAndCommands cfg params deviceName joints).wp (sessionRules c)
      (fun result g' => SyncOutcome deviceName params joints g'.seen result) g := by
  have hrate : ∀ hz g, (setDeviceRefreshRateHz cfg hz).wp (sessionRules c)
      (fun _ g' => g.seen ⊆ g'.seen) g := fun hz _ => wp_watches (startup_watches.setRate cfg hz)
  refine wp_bind.2 (wp_mono (hrate _ _) fun _ g₁ _ => ?_)
  rw [wp_ite]
  split
  · next hnone =>
      refine wp_bind.2 (wp_mono (hrate _ _) fun _ g₂ _ => ?_)
      intro aligned hresult joint hjoint hdevice
      obtain rfl := (Prod.mk.inj (Option.some.inj hresult)).2
      rw [List.isEmpty_iff, List.filter_eq_nil_iff] at hnone
      exact absurd (decide_eq_true hdevice) (hnone joint hjoint)
  · refine ⟨trivial, fun t _ => ?_⟩
    dsimp only [Prog.bind]
    refine wp_bind.2 (wp_mono (wp_watches (startup_watches.probe _ _ _)) fun probed g₂ _ => ?_)
    rw [wp_ite]
    split
    · refine wp_bind.2 (wp_mono (wp_validateStartup joints _ g₂) fun snapshots g₃ hpass => ?_)
      refine wp_bind.2 (wp_mono (hrate _ _) fun _ g₄ hseen => ?_)
      cases snapshots with
      | none => exact fun _ hresult => absurd hresult (by simp)
      | some snapshots =>
          intro aligned hresult joint hjoint hdevice
          obtain ⟨hrange, rfl⟩ := Prod.mk.inj (Option.some.inj hresult)
          obtain ⟨taken, htaken, rfl⟩ := List.mem_map.1 hjoint
          have hown : taken.canDevice = deviceName := by
            by_contra hother
            rw [alignStartupJoint, if_pos hother] at hdevice
            exact hother hdevice
          have halign : alignStartupJoint deviceName taken = taken.alignCommand := by
            rw [alignStartupJoint, if_neg (not_not.2 hown)]
          refine ⟨?_, taken, (hpass snapshots rfl taken htaken hown).mono (List.Subset.refl _) hseen,
            halign⟩
          rw [Bool.not_eq_true'] at hrange
          have hthis := (List.any_eq_false.1 hrange) _ hjoint
          simpa [hdevice] using hthis
    · exact fun _ hresult => absurd hresult (by simp)

/-! ### every call -/

/-- **Calls**: every call keeps to the rules; who has managed the device leaves the slot settled,
and the sync takes over what it has seen. -/
theorem startupCall_code (cfg : DeviceManagerConfig) (c : StartupCall) :
    (c.code cfg deviceName).wp (sessionRules c)
      (fun result g' => (c.manages = true → g'.Settled) ∧ ∀ params joints,
        c = .sync params joints → SyncOutcome deviceName params joints g'.seen result) {} := by
  cases c with
  | sync params joints =>
      refine wp_mono (wp_syncStartup cfg params joints {}) fun result g' h => ?_
      refine ⟨fun hmanages => absurd hmanages Bool.noConfusion, fun params' joints' hsync => ?_⟩
      obtain ⟨rfl, rfl⟩ := StartupCall.sync.inj hsync
      exact h
  | bus call =>
      have hcode : (call.code cfg deviceName).wp (sessionRules (.bus call))
          (fun _ g' => (StartupCall.bus call).manages = true → g'.Settled) {} := by
        by_cases hmanages : (StartupCall.bus call).manages = true
        · cases call with
          | initDevice motors =>
              exact wp_bind.2 (wp_mono (wp_initDevice rfl cfg motors rfl) fun _ _ h _ => h)
          | shutdownDevice => exact wp_mono (wp_shutdownDevice_settled rfl) fun _ _ h _ => h
          | _ => exact absurd hmanages Bool.noConfusion
        · have hbeside : (call.code cfg deviceName).Stays BusOp.Beside :=
            busCall_beside cfg (Bool.eq_false_of_not_eq_true hmanages)
          exact wp_mono (wp_beside hbeside) fun _ _ _ h => absurd h hmanages
      exact wp_bind.2 (wp_mono hcode fun _ g' h => ⟨h, fun _ _ h => by simp at h⟩)

/-- And it reports only what it has decoded. -/
theorem startupCall_reporting (cfg : DeviceManagerConfig) (c : StartupCall) :
    (c.code cfg deviceName).wp (reporting deviceName c.reporter) (fun _ _ => True) {} := by
  cases c with
  | bus call => exact wp_bind.2 (wp_mono (reporting_code cfg call) fun _ _ _ => trivial)
  | sync params joints =>
      have hsteps : AllowsStartup (LocalOp deviceName) :=
        { slot := trivial, shared := untold_id, clock := trivial, refresh := fun _ => trivial
          mtRate := fun _ => mt_local (MtCan.local_setting (fun _ => rfl) (fun _ => rfl) fun _ => rfl)
          ppRate := fun _ => eyou_local (EyouCan.local_setting (fun _ => rfl) (fun _ => rfl)
            (fun _ => rfl) (fun _ => rfl) fun _ => rfl)
          dmRate := fun _ => dm_local (DamiaoCan.local_modify (fun _ => rfl) fun _ => rfl)
          mtQuery := fun _ query => mt_local (MtCan.local_issueRefreshQuery query)
          ppQuery := fun _ query => eyou_local (EyouCan.local_issueRefreshQuery query)
          dmQuery := fun _ query => dm_local (DamiaoCan.local_issueRefreshQuery query) }
      exact reporting_of_local (fun frame => by simp [StartupCall.reporter])
        (hsteps.stays cfg params deviceName joints)

end CanDriver
