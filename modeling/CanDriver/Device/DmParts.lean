import CanDriver.BusCall

/-!
# CanDriver.Device.DmParts

What the calls of a device do to its DM object.

Only the DM protocol and the manager's setting up of it touch the object, so a fact about
what may happen to it has to be looked at in `DmParts` only; `DmParts.code` then has it of
every call, the ticks of the refresh worker and the bringing up of the device included.
-/

namespace CanDriver

open Interact Prog

/-- A protocol program changes its object only so. -/
def PortOp.Own {P : Type} (A : (P → P) → Prop) : PortOp P → Prop
  | .proto f => A f
  | _ => True

/-- A program on the device changes the DM object only so. -/
def BusOp.DmOwn (A : (DamiaoCan → DamiaoCan) → Prop) : BusOp → Prop
  | .dm f => A f
  | _ => True

section

variable {A : (DamiaoCan → DamiaoCan) → Prop}

theorem completion_dmOwn (c : Completion) (attempted : Bool) (result : SendResult) (t : Time) :
    (c.run attempted result t).Stays (BusOp.DmOwn A) := by
  cases c <;> exact ⟨trivial, fun _ _ => trivial⟩

theorem submit_dmOwn (r : Request) : (DeviceRuntime.submit r).Stays (BusOp.DmOwn A) :=
  DeviceRuntime.submit_stays trivial trivial fun c _ t => completion_dmOwn c _ _ t

theorem workerStep_dmOwn (deviceName : String) :
    (DeviceRuntime.workerStep deviceName).Stays (BusOp.DmOwn A) :=
  DeviceRuntime.workerStep_stays trivial trivial (fun _ => trivial) (fun _ => trivial)
    (fun _ _ => trivial) (fun c _ _ t => completion_dmOwn c _ _ t) deviceName

/-- The other protocols have objects of their own. -/
theorem onBus_dmOwn {P : Type} [BusObject P]
    (hown : ∀ f : P → P, (BusObject.own f).Stays (BusOp.DmOwn A)) (p : Proto P α) :
    p.onBus.Stays (BusOp.DmOwn A) := by
  have hall : p.Stays fun _ => True := wp_only_of_forall (fun _ => trivial) p
  refine wp_only_interp (fun op _ => ?_) hall
  cases op with
  | proto f => exact hown f
  | submit r => exact submit_dmOwn r
  | _ => exact ⟨trivial, fun _ _ => trivial⟩

theorem eyou_dmOwn (p : Proto EyouCan α) : p.onBus.Stays (BusOp.DmOwn A) :=
  onBus_dmOwn (fun f => show (Device.eyou f).Stays _ from .vis trivial fun _ => trivial) p

theorem mt_dmOwn (p : Proto MtCan α) : p.onBus.Stays (BusOp.DmOwn A) :=
  onBus_dmOwn (fun f => show (Device.mt f).Stays _ from .vis trivial fun _ => trivial) p

theorem dm_dmOwn {p : Proto DamiaoCan α} (hp : p.Stays (PortOp.Own A)) :
    p.onBus.Stays (BusOp.DmOwn A) := by
  refine wp_only_interp (fun op hop => ?_) hp
  cases op with
  | proto f => exact ⟨hop, fun _ _ => trivial⟩
  | submit r => exact submit_dmOwn r
  | _ => exact ⟨trivial, fun _ _ => trivial⟩

/-- The parts that touch the object. -/
structure DmParts (A : (DamiaoCan → DamiaoCan) → Prop) : Prop where
  look : A id
  new : ∀ deviceName, A fun _ => { deviceName }
  rate : ∀ hz, (DamiaoCan.setRefreshRateHz hz).Stays (PortOp.Own A)
  load : ∀ ids, (DamiaoCan.initializeMotorRefresh ids).Stays (PortOp.Own A)
  motorCall : ∀ id call, (DamiaoCan.motorCall id call).Stays (PortOp.Own A)
  query : ∀ id query, (DamiaoCan.issueRefreshQuery id query).Stays (PortOp.Own A)

namespace DmParts

/-! ### every call -/

theorem refreshTick (h : DmParts A) (deviceName : String) :
    (CanDriver.refreshTick deviceName).Stays (BusOp.DmOwn A) := by
  have hsteps : AllowsTick (BusOp.DmOwn A) :=
    { refresh := fun _ => trivial, shared := trivial, clock := trivial, eyou := trivial
      mt := trivial, dm := h.look, mtQuery := fun _ _ => mt_dmOwn _
      ppQuery := fun _ _ => eyou_dmOwn _, dmQuery := fun _ query => dm_dmOwn (h.query _ query) }
  exact hsteps.stays deviceName

theorem initDevice (h : DmParts A) (cfg : DeviceManagerConfig) (deviceName : String)
    (motors : List (CanType × MotorID)) :
    (CanDriver.initDevice cfg deviceName motors).Stays (BusOp.DmOwn A) := by
  have hsteps : AllowsInit (BusOp.DmOwn A) :=
    { slot := fun _ => trivial, shared := fun _ => trivial, stop := trivial
      unschedule := trivial, openTransport := trivial, restart := trivial
      gap := fun _ => trivial, scheduleMt := fun _ => trivial, schedulePp := fun _ => trivial
      scheduleDm := fun _ => trivial }
  exact hsteps.stays (.vis trivial fun _ => (mt_dmOwn _).bind fun _ => mt_dmOwn _)
    (.vis trivial fun _ => (eyou_dmOwn _).bind fun _ => (eyou_dmOwn _).bind fun _ =>
      (eyou_dmOwn _).bind fun _ => eyou_dmOwn _)
    (.vis (h.new _) fun _ => dm_dmOwn (h.rate _)) (mt_dmOwn _) (eyou_dmOwn _) (dm_dmOwn (h.load _))

/-- **Frame**: what holds of the parts holds of every call, and of the handling of a frame if
it holds of that. -/
theorem code (h : DmParts A) (cfg : DeviceManagerConfig) (deviceName : String) {c : BusCall}
    (hframe : ∀ frame, c = .dmReceive frame →
      (DamiaoCan.handleResponse frame).Stays (PortOp.Own A)) :
    (c.code cfg deviceName).Stays (BusOp.DmOwn A) := by
  cases c with
  | dm id call => exact dm_dmOwn (h.motorCall id call)
  | dmInitializeMotorRefresh ids => exact dm_dmOwn (h.load ids)
  | dmIssueRefreshQuery id query => exact dm_dmOwn ((h.query id query).bind fun _ => trivial)
  | dmReceive frame => exact dm_dmOwn (hframe frame rfl)
  | work => exact workerStep_dmOwn deviceName
  | refreshTick => exact (h.refreshTick deviceName).bind fun _ => trivial
  | initDevice motors => exact (h.initDevice cfg deviceName motors).bind fun _ => trivial
  | shutdownDevice =>
      exact .vis trivial fun _ => .vis trivial fun _ => .vis trivial fun _ => .vis trivial fun _ =>
        .vis trivial fun _ => trivial
  | mt | mtSetCommunicationTimeout | mtSetPositionAcceleration | mtSetPositionDeceleration
  | mtInitializeMotorRefresh | mtIssueRefreshQuery | mtReceive => exact mt_dmOwn _
  | _ => exact eyou_dmOwn _

end DmParts

end

end CanDriver
