import CanDriver.Lib.Runs
import CanDriver.SocketCanController
import Mathlib.Data.List.Nodup

/-!
# CanDriver.Device.Handlers

Who is registered at the transport of a device while the device is initialised again.

The protocol objects of a device register a receive handler when they are built, and remove
the id they were given when their last reference goes.  `initDevice` shuts the transport
down, drops its references, initialises the transport and builds new objects; the callers
of `getProtocol` drop theirs at any time.  Ids start again with the transport, so an object
that is destroyed late may remove the handler of a new one: `handlers_kept_iff`.
-/

namespace CanDriver

open Interact

/-! ## the objects at a transport -/

/-- A protocol object, with the session of the transport in which it registered. -/
structure ProtocolObject where
  owner : Nat
  receiveHandlerId : Nat
  session : Nat
deriving DecidableEq

/-- A transport and the objects that registered at it and still exist. -/
structure HandlerRegistry where
  transport : ReceiveHandlers Nat := {}
  objects : List ProtocolObject := []
  created : Nat := 0
  session : Nat := 0

namespace HandlerRegistry

/-- The transport is shut down. -/
def restart (r : HandlerRegistry) : HandlerRegistry :=
  { r with transport := r.transport.shutdown, session := r.session + 1 }

/-- `MtCan::MtCan`, `EyouCan::EyouCan` and `DamiaoCan::DamiaoCan`. -/
def construct (r : HandlerRegistry) : HandlerRegistry :=
  let added := r.transport.addReceiveHandler (some r.created)
  { r with
    transport := added.2
    objects := r.objects ++ [⟨r.created, added.1, r.session⟩]
    created := r.created + 1 }

/-- `MtCan::~MtCan`, `EyouCan::~EyouCan` and `DamiaoCan::~DamiaoCan`. -/
def destroy (r : HandlerRegistry) (o : ProtocolObject) : HandlerRegistry :=
  { r with
    transport := if o.receiveHandlerId ≠ 0 then r.transport.removeReceiveHandler o.receiveHandlerId
      else r.transport
    objects := r.objects.filter fun x => x.owner ≠ o.owner }

/-- The objects that registered since the transport was shut down last are registered. -/
def Kept (r : HandlerRegistry) : Prop :=
  ∀ o ∈ r.objects, o.session = r.session → (o.receiveHandlerId, o.owner) ∈ r.transport.handlers

/-- The id of an object is that of another one's handler. -/
def Foreign (r : HandlerRegistry) (o : ProtocolObject) : Prop :=
  ∃ owner, (o.receiveHandlerId, owner) ∈ r.transport.handlers ∧ owner ≠ o.owner

/-- An object registered before the transport was shut down last, and one that registered
since was given the same id. -/
def Stale (r : HandlerRegistry) (o : ProtocolObject) : Prop :=
  o.session < r.session ∧
    ∃ x ∈ r.objects, x.session = r.session ∧ x.receiveHandlerId = o.receiveHandlerId

/-- Every object has its own number and an id, in one session every object has its own id,
and the handlers are those of objects that registered in this session. -/
structure WellFormed (r : HandlerRegistry) : Prop where
  fresh : ∀ o ∈ r.objects, o.owner < r.created
  owners : ∀ o ∈ r.objects, ∀ x ∈ r.objects, o.owner = x.owner → o = x
  past : ∀ o ∈ r.objects, o.session ≤ r.session
  pos : ∀ o ∈ r.objects, 0 < o.receiveHandlerId
  next : 0 < r.transport.nextHandlerId
  given : ∀ o ∈ r.objects, o.session = r.session → o.receiveHandlerId < r.transport.nextHandlerId
  distinct : ∀ o ∈ r.objects, ∀ x ∈ r.objects, o.session = r.session → x.session = r.session →
    o.receiveHandlerId = x.receiveHandlerId → o = x
  listed : ∀ entry ∈ r.transport.handlers, ∃ o ∈ r.objects, o.session = r.session ∧
    (o.receiveHandlerId, o.owner) = entry

variable {r : HandlerRegistry} {o : ProtocolObject}

theorem WellFormed.restart (h : r.WellFormed) : r.restart.WellFormed where
  fresh := h.fresh
  owners := h.owners
  past o ho := Nat.le_succ_of_le (h.past o ho)
  pos := h.pos
  next := Nat.one_pos
  given o ho heq := by
    have hle := h.past o ho
    have heq : o.session = r.session + 1 := heq
    omega
  distinct o ho x hx heq := by
    have hle := h.past o ho
    have heq : o.session = r.session + 1 := heq
    omega
  listed entry hentry := absurd hentry List.not_mem_nil

/-- No handler is registered under the next id. -/
theorem WellFormed.next_free (h : r.WellFormed) :
    ∀ entry ∈ r.transport.handlers, entry.1 ≠ r.transport.nextHandlerId := by
  intro entry hentry
  obtain ⟨o, ho, hsession, rfl⟩ := h.listed entry hentry
  exact Nat.ne_of_lt (h.given o ho hsession)

/-- What is registered after an object is built. -/
theorem WellFormed.mem_construct (h : r.WellFormed) {entry : Nat × Nat} :
    entry ∈ r.construct.transport.handlers ↔
      entry ∈ r.transport.handlers ∨ entry = (r.transport.nextHandlerId, r.created) :=
  ReceiveHandlers.mem_addReceiveHandler h.next_free

theorem mem_construct_objects {x : ProtocolObject} :
    x ∈ r.construct.objects ↔
      x ∈ r.objects ∨ x = ⟨r.created, r.transport.nextHandlerId, r.session⟩ := by
  simp [construct, ReceiveHandlers.addReceiveHandler]

theorem construct_nextHandlerId :
    r.construct.transport.nextHandlerId = r.transport.nextHandlerId + 1 := rfl

theorem WellFormed.construct (h : r.WellFormed) : r.construct.WellFormed where
  fresh x hx := by
    show x.owner < r.created + 1
    rcases mem_construct_objects.1 hx with hx | rfl
    · exact Nat.lt_succ_of_lt (h.fresh x hx)
    · exact Nat.lt_succ_self _
  owners x hx y hy heq := by
    rcases mem_construct_objects.1 hx with hx | rfl <;>
      rcases mem_construct_objects.1 hy with hy | rfl
    · exact h.owners x hx y hy heq
    · exact absurd heq (Nat.ne_of_lt (h.fresh x hx))
    · exact absurd heq.symm (Nat.ne_of_lt (h.fresh y hy))
    · rfl
  past x hx := by
    rcases mem_construct_objects.1 hx with hx | rfl
    · exact h.past x hx
    · exact Nat.le_refl _
  pos x hx := by
    rcases mem_construct_objects.1 hx with hx | rfl
    · exact h.pos x hx
    · exact h.next
  next := Nat.succ_pos _
  given x hx hsession := by
    rw [construct_nextHandlerId]
    rcases mem_construct_objects.1 hx with hx | rfl
    · exact Nat.lt_succ_of_lt (h.given x hx hsession)
    · exact Nat.lt_succ_self _
  distinct x hx y hy hxs hys heq := by
    rcases mem_construct_objects.1 hx with hx | rfl <;>
      rcases mem_construct_objects.1 hy with hy | rfl
    · exact h.distinct x hx y hy hxs hys heq
    · exact absurd heq (Nat.ne_of_lt (h.given x hx hxs))
    · exact absurd heq.symm (Nat.ne_of_lt (h.given y hy hys))
    · rfl
  listed entry hentry := by
    rcases h.mem_construct.1 hentry with hentry | rfl
    · obtain ⟨o, ho, hsession, heq⟩ := h.listed entry hentry
      exact ⟨o, mem_construct_objects.2 (.inl ho), hsession, heq⟩
    · exact ⟨_, mem_construct_objects.2 (.inr rfl), rfl, rfl⟩

theorem WellFormed.kept_construct (h : r.WellFormed) (hkept : r.Kept) : r.construct.Kept := by
  intro x hx hsession
  rw [h.mem_construct]
  rcases mem_construct_objects.1 hx with hx | rfl
  · exact .inl (hkept x hx hsession)
  · exact .inr rfl

/-- What is registered after an object is destroyed. -/
theorem WellFormed.mem_destroy (h : r.WellFormed) (ho : o ∈ r.objects) {entry : Nat × Nat} :
    entry ∈ (r.destroy o).transport.handlers ↔
      entry ∈ r.transport.handlers ∧ entry.1 ≠ o.receiveHandlerId := by
  have hne : o.receiveHandlerId ≠ 0 := Nat.ne_of_gt (h.pos o ho)
  rw [destroy, if_pos hne]
  exact ReceiveHandlers.mem_removeReceiveHandler hne

theorem mem_destroy_objects {x : ProtocolObject} :
    x ∈ (r.destroy o).objects ↔ x ∈ r.objects ∧ x.owner ≠ o.owner := by
  simp [destroy]

theorem destroy_nextHandlerId :
    (r.destroy o).transport.nextHandlerId = r.transport.nextHandlerId := by
  rw [destroy]
  dsimp only
  split
  · exact ReceiveHandlers.removeReceiveHandler_nextHandlerId _ _
  · rfl

theorem WellFormed.destroy (h : r.WellFormed) (ho : o ∈ r.objects) : (r.destroy o).WellFormed where
  fresh x hx := h.fresh x (mem_destroy_objects.1 hx).1
  owners x hx y hy := h.owners x (mem_destroy_objects.1 hx).1 y (mem_destroy_objects.1 hy).1
  past x hx := h.past x (mem_destroy_objects.1 hx).1
  pos x hx := h.pos x (mem_destroy_objects.1 hx).1
  next := by
    rw [destroy_nextHandlerId]
    exact h.next
  given x hx := by
    rw [destroy_nextHandlerId]
    exact h.given x (mem_destroy_objects.1 hx).1
  distinct x hx y hy := h.distinct x (mem_destroy_objects.1 hx).1 y (mem_destroy_objects.1 hy).1
  listed entry hentry := by
    obtain ⟨hentry, hne⟩ := (h.mem_destroy ho).1 hentry
    obtain ⟨x, hx, hsession, rfl⟩ := h.listed entry hentry
    refine ⟨x, mem_destroy_objects.2 ⟨hx, fun heq => hne ?_⟩, hsession, rfl⟩
    rw [h.owners x hx o ho heq]

/-- A destroyed object removes another one's handler exactly if it is stale. -/
theorem WellFormed.kept_destroy_iff (h : r.WellFormed) (hkept : r.Kept) (ho : o ∈ r.objects) :
    ¬ r.Foreign o ∧ (r.destroy o).Kept ↔ ¬ r.Stale o := by
  constructor
  · rintro ⟨-, hafter⟩ ⟨hlt, x, hx, hsession, hid⟩
    have hne : x.owner ≠ o.owner := by
      intro heq
      rw [h.owners x hx o ho heq] at hsession
      omega
    have hmem := hafter x (mem_destroy_objects.2 ⟨hx, hne⟩) hsession
    exact ((h.mem_destroy ho).1 hmem).2 hid
  · intro hfresh
    have hown : ∀ x ∈ r.objects, x.session = r.session →
        x.receiveHandlerId = o.receiveHandlerId → x = o := by
      intro x hx hsession hid
      rcases Nat.lt_or_eq_of_le (h.past o ho) with hlt | heq
      · exact absurd ⟨hlt, x, hx, hsession, hid⟩ hfresh
      · exact h.distinct x hx o ho hsession heq hid
    constructor
    · rintro ⟨owner, hentry, hne⟩
      obtain ⟨x, hx, hsession, heq⟩ := h.listed _ hentry
      obtain ⟨hid, rfl⟩ := Prod.mk.inj heq
      rw [hown x hx hsession hid] at hne
      exact hne rfl
    · intro x hx hsession
      obtain ⟨hx, hne⟩ := mem_destroy_objects.1 hx
      refine (h.mem_destroy ho).2 ⟨hkept x hx hsession, fun hid => hne ?_⟩
      rw [hown x hx hsession hid]

end HandlerRegistry

/-! ## the device -/

/-- A device: its protocol maps, and the references that callers hold. -/
structure DeviceObjects where
  registry : HandlerRegistry := {}
  protocols : List (CanType × Nat) := []
  held : List Nat := []

namespace DeviceObjects

/-- Somebody holds a reference to an object. -/
def referenced (w : DeviceObjects) (owner : Nat) : Bool :=
  w.held.contains owner || w.protocols.any fun entry => entry.2 = owner

/-- What the maps hold for a type. -/
def protocol (w : DeviceObjects) (type : CanType) : Option Nat :=
  (w.protocols.find? fun entry => entry.1 = type).map Prod.snd

end DeviceObjects

/-- What happens at the device: its transport is shut down or initialised; a protocol object
is built where there is none, or the map's reference to it is dropped; a caller takes a
reference, or drops one; somebody else registers a handler, of which he holds the only
reference. -/
inductive HandlerEvent where
  | shutdownTransport
  | initializeTransport
  | ensureProtocol (type : CanType)
  | eraseProtocol (type : CanType)
  | getProtocol (type : CanType)
  | release (owner : Nat)
  | addReceiveHandler
deriving DecidableEq

/-- `initDevice` of a device that has a transport: the maps are cleared by
`resetDeviceRuntimeLocked`. -/
def initDeviceEvents (types : List CanType) : List HandlerEvent :=
  [.shutdownTransport, .eraseProtocol .MT, .eraseProtocol .PP, .eraseProtocol .DM,
    .initializeTransport] ++ types.map .ensureProtocol

namespace HandlerEvent

/-- The object to which a reference is dropped, and the device without it. -/
def drop (w : DeviceObjects) : HandlerEvent → Option (Nat × DeviceObjects)
  | .eraseProtocol type =>
      (w.protocol type).map fun owner =>
        (owner, { w with protocols := w.protocols.filter fun entry => entry.1 ≠ type })
  | .release owner =>
      if w.held.contains owner then some (owner, { w with held := w.held.erase owner }) else none
  | _ => none

/-- The object whose last reference is dropped. -/
def destroyed (w : DeviceObjects) (e : HandlerEvent) : Option ProtocolObject :=
  match e.drop w with
  | none => none
  | some (owner, w') =>
      if w'.referenced owner then none else w.registry.objects.find? fun o => o.owner = owner

/-- The device after an event. -/
def apply (w : DeviceObjects) (e : HandlerEvent) : DeviceObjects :=
  match e with
  | .shutdownTransport => { w with registry := w.registry.restart }
  | .initializeTransport => { w with registry := w.registry.restart }
  | .ensureProtocol type =>
      if type = .ECB ∨ (w.protocol type).isSome then w
      else { w with
        registry := w.registry.construct
        protocols := (type, w.registry.created) :: w.protocols }
  | .getProtocol type => { w with held := (w.protocol type).toList ++ w.held }
  | .addReceiveHandler =>
      { w with registry := w.registry.construct, held := w.registry.created :: w.held }
  | .eraseProtocol _ | .release _ =>
      let w' := ((e.drop w).map Prod.snd).getD w
      match e.destroyed w with
      | none => w'
      | some o => { w' with registry := w.registry.destroy o }

/-- What an event does to the objects at the transport. -/
inductive Changed (r : HandlerRegistry) : Option ProtocolObject → HandlerRegistry → Prop
  | same : Changed r none r
  | restarted : Changed r none r.restart
  | constructed : Changed r none r.construct
  | destroyed (o : ProtocolObject) (ho : o ∈ r.objects) : Changed r (some o) (r.destroy o)

theorem drop_registry {w w' : DeviceObjects} {e : HandlerEvent} {owner : Nat}
    (h : e.drop w = some (owner, w')) : w'.registry = w.registry := by
  cases e with
  | eraseProtocol type =>
      obtain ⟨_, _, heq⟩ := Option.map_eq_some_iff.1 h
      rw [← (Prod.mk.inj heq).2]
  | release _ =>
      obtain ⟨_, heq⟩ := Option.ite_none_right_eq_some.1 h
      rw [← (Prod.mk.inj (Option.some.inj heq)).2]
  | _ => exact absurd h (Option.some_ne_none _).symm

theorem mem_of_destroyed {w : DeviceObjects} {e : HandlerEvent} {o : ProtocolObject}
    (h : e.destroyed w = some o) : o ∈ w.registry.objects := by
  rw [destroyed] at h
  split at h
  · exact absurd h (Option.some_ne_none _).symm
  · obtain ⟨_, hfind⟩ := Option.ite_none_left_eq_some.1 h
    exact List.mem_of_find?_eq_some hfind

theorem apply_changed (w : DeviceObjects) (e : HandlerEvent) :
    Changed w.registry (e.destroyed w) (e.apply w).registry := by
  have hdrop : ∀ e : HandlerEvent, (((e.drop w).map Prod.snd).getD w).registry = w.registry := by
    intro e
    cases hd : e.drop w with
    | none => rfl
    | some result =>
        obtain ⟨owner, w'⟩ := result
        exact drop_registry hd
  cases e with
  | shutdownTransport => exact .restarted
  | initializeTransport => exact .restarted
  | ensureProtocol type =>
      rw [apply]
      split
      · exact .same
      · exact .constructed
  | getProtocol type => exact .same
  | addReceiveHandler => exact .constructed
  | eraseProtocol type =>
      rw [apply]
      cases ho : (HandlerEvent.eraseProtocol type).destroyed w with
      | none =>
          have hsame := hdrop (.eraseProtocol type)
          dsimp only
          rw [hsame]
          exact .same
      | some o => exact .destroyed o (mem_of_destroyed ho)
  | release owner =>
      rw [apply]
      cases ho : (HandlerEvent.release owner).destroyed w with
      | none =>
          have hsame := hdrop (.release owner)
          dsimp only
          rw [hsame]
          exact .same
      | some o => exact .destroyed o (mem_of_destroyed ho)

end HandlerEvent

/-! ## runs -/

/-- A step removes nobody else's handler, and leaves those who registered since the transport
was shut down last registered. -/
def Keeps (w : DeviceObjects) (e : HandlerEvent) : Prop :=
  (∀ o, e.destroyed w = some o → ¬ w.registry.Foreign o) ∧ (e.apply w).registry.Kept

/-- No object is destroyed that registered before the transport was shut down last, while
one that registered since was given the same id. -/
def DestroysNoStale (w : DeviceObjects) (e : HandlerEvent) : Prop :=
  ∀ o, e.destroyed w = some o → ¬ w.registry.Stale o

/-- **Step**: the registry stays well formed. -/
theorem wellFormed_apply {w : DeviceObjects} (e : HandlerEvent) (h : w.registry.WellFormed) :
    (e.apply w).registry.WellFormed := by
  have hchanged := HandlerEvent.apply_changed w e
  generalize e.destroyed w = gone, (e.apply w).registry = r' at hchanged
  cases hchanged with
  | same => exact h
  | restarted => exact h.restart
  | constructed => exact h.construct
  | destroyed o ho => exact h.destroy ho

/-- **Step**: exactly the destruction of a stale object goes wrong. -/
theorem keeps_iff {w : DeviceObjects} (e : HandlerEvent) (h : w.registry.WellFormed)
    (hkept : w.registry.Kept) : Keeps w e ↔ DestroysNoStale w e := by
  rw [Keeps, DestroysNoStale]
  have hchanged := HandlerEvent.apply_changed w e
  generalize e.destroyed w = gone, (e.apply w).registry = r' at hchanged
  cases hchanged with
  | same => simpa using hkept
  | restarted =>
      have hempty : w.registry.restart.Kept := by
        intro o ho heq
        have hle := h.past o ho
        have heq : o.session = w.registry.session + 1 := heq
        omega
      simpa using hempty
  | constructed => simpa using h.kept_construct hkept
  | destroyed o ho => simpa using h.kept_destroy_iff hkept ho

/-- **Handlers**: in a run at a device, no object removes another one's handler and every
object stays registered, exactly if no object is destroyed that registered before the
transport was shut down last while one that registered since was given the same id. -/
theorem handlers_kept_iff (es : List HandlerEvent) :
    EveryStep (fun w e => e.apply w) {} Keeps es ↔
      EveryStep (fun w e => e.apply w) {} DestroysNoStale es := by
  refine everyStep_iff (I := fun w => w.registry.WellFormed ∧ w.registry.Kept) ?_ ?_ ?_ es
  · exact ⟨⟨by simp, by simp, by simp, by simp, Nat.one_pos, by simp, by simp, by simp⟩,
      fun o ho => absurd ho List.not_mem_nil⟩
  · intro w e h hkeeps
    exact ⟨wellFormed_apply e h.1, hkeeps.2⟩
  · intro w e h
    exact keeps_iff e h.1 h.2

/-- A caller holds the MT protocol while the device is initialised again, and drops it after:
the new protocol is no longer registered, and a frame reaches nobody. -/
theorem late_release_unregisters :
    ¬ ∀ es, EveryStep (fun w e => e.apply w) {} Keeps es := by
  intro h
  have hkept := (h ([.initializeTransport, .ensureProtocol .MT, .getProtocol .MT] ++
    initDeviceEvents [.MT] ++ [.release 0]) _ _ (List.prefix_refl _)).2
  have hmem := hkept ⟨1, 1, 3⟩ (by decide) (by decide)
  exact absurd hmem (by decide)

end CanDriver
