import CanDriver.BusCall
import CanDriver.Dispatch.ControlQueue

/-!
# CanDriver.ControlCoalescing

Which queued control frames never reach the bus.

The dispatcher coalesces control frames by CAN id, while every protocol sends
all the registers and commands of a node under one id.  A queued frame is lost
without need exactly when a frame of the same id that writes something else is
queued behind it; the three registers of `configurePositionLimits` do so at once
(`limit_overwritten`).
-/

namespace CanDriver

open Interact

/-- What a control frame writes: the CAN id of the node under its protocol, and
the register or command.  A DM speed frame (four bytes) has no command byte. -/
def Request.register (r : Request) : CanType × UInt32 × Option UInt8 :=
  (r.source.protocol, r.frame.id,
    match r.source.protocol with
    | .PP => some (r.frame.byte 1)
    | .MT => some (r.frame.byte 0)
    | .DM => if r.frame.dlc = 4 then none else some (r.frame.byte 7)
    | .ECB => none)

/-! ## runs -/

section

variable {ι : Type} [DecidableEq ι] {cfg : DeviceManagerConfig} {deviceName : String}
  {p p' : BusPool ι} {e : BusEvent ι}

/-- The control frames waiting on the device. -/
def controlQueue (p : BusPool ι) : List Request := p.shared.runtime.controlQueue

/-- What one step does to the control queue. -/
inductive QueueStep (p : BusPool ι) (e : BusEvent ι) (p' : BusPool ι) : Prop
  | same (he : ∀ i r, e = .act i (.enqueue r) → ¬ p.shared.runtime.TakesControl r)
      (h : controlQueue p' = controlQueue p)
  | taken (i : ι) (r : Request) (he : e = .act i .pop)
      (h : controlQueue p = r :: controlQueue p') (hs : p'.shared.runtime.sending = some r)
  | queued (i : ι) (r : Request) (he : e = .act i (.enqueue r))
      (ht : p.shared.runtime.TakesControl r)
      (h : ControlQueued p.shared.runtime.options.maxControlQueueDepth r (controlQueue p)
        (controlQueue p'))

theorem queueStep (hs : BusStep cfg deviceName p e p') : QueueStep p e p' := by
  cases hs with
  | call i c hi => exact .same (by simp) rfl
  | ret i c a hi => exact .same (by simp) rfl
  | act i c op k r s' hi hop =>
      cases op with
      | enqueue q =>
          obtain ⟨_, rfl⟩ := hop
          by_cases ht : p.shared.runtime.TakesControl q
          · exact .queued i q rfl ht (DeviceRuntime.controlQueued_enqueue ht)
          · refine .same ?_ (DeviceRuntime.controlQueue_enqueue_of_not ht)
            rintro j q' he
            obtain ⟨_, rfl⟩ : i = j ∧ q = q' := by simpa using he
            exact ht
      | pop =>
          obtain ⟨_, rfl⟩ := hop
          rcases DeviceRuntime.controlQueue_startSend p.shared.runtime with h | ⟨r, h, hs⟩
          · exact .same (by simp) h
          · exact .taken i r rfl h hs
      | restart =>
          obtain ⟨hidle, rfl⟩ := hop
          refine .same (by simp) ?_
          simp only [Bus.admits, DeviceRuntime.idle, Bool.and_eq_true, List.isEmpty_iff] at hidle
          exact hidle.1.1.1.1.symm
      | _ =>
          obtain ⟨_, rfl⟩ := hop
          exact .same (by simp) rfl

/-- **Step**: CAN ids stay distinct. -/
theorem controlIdsDistinct_step (hp : p.shared.runtime.ControlIdsDistinct)
    (hs : BusStep cfg deviceName p e p') : p'.shared.runtime.ControlIdsDistinct := by
  simp only [DeviceRuntime.ControlIdsDistinct] at hp ⊢
  cases queueStep hs with
  | same _ h => rwa [show p'.shared.runtime.controlQueue = p.shared.runtime.controlQueue from h]
  | taken i r he h _ =>
      rw [show p.shared.runtime.controlQueue = r :: p'.shared.runtime.controlQueue from h,
        List.map_cons] at hp
      exact (List.nodup_cons.1 hp).2
  | queued i r he ht h => exact h.ids_nodup hp

/-- The step takes the request out of the queue without handing it to the worker. -/
def Lost (p : BusPool ι) (e : BusEvent ι) (p' : BusPool ι) (q : Request) : Prop :=
  q ∈ controlQueue p ∧ q ∉ controlQueue p' ∧
    ¬ ∃ i, e = .act i .pop ∧ p'.shared.runtime.sending = some q

/-- A later control frame that writes the same register of the same node has
taken the place of the request. -/
def Superseded (p : BusPool ι) (e : BusEvent ι) (p' : BusPool ι) (q : Request) : Prop :=
  ∃ i r front back, e = .act i (.enqueue r) ∧ controlQueue p = front ++ q :: back ∧
    controlQueue p' = front ++ r :: back ∧ r.register = q.register

/-- The queue was full, no frame in it had the CAN id of the new one, and the
request was its oldest entry. -/
def Evicted (p : BusPool ι) (e : BusEvent ι) (p' : BusPool ι) (q : Request) : Prop :=
  ∃ i r rest, e = .act i (.enqueue r) ∧ (∀ x ∈ controlQueue p, x.frame.id ≠ r.frame.id) ∧
    p.shared.runtime.options.maxControlQueueDepth ≤ (controlQueue p).length ∧
    controlQueue p = q :: rest ∧ controlQueue p' = rest ++ [r]

/-- The step does not queue a control frame while one with the same CAN id that
writes another register is waiting. -/
def WritesSameRegister (p : BusPool ι) (e : BusEvent ι) : Prop :=
  ∀ i r, e = .act i (.enqueue r) → p.shared.runtime.TakesControl r →
    ∀ q ∈ controlQueue p, q.frame.id = r.frame.id → r.register = q.register

/-- Among frames with distinct CAN ids, the one that makes place for a new one is
the only one that may be missing afterwards. -/
theorem eq_old_of_missing {front back : List Request} {old r q : Request}
    (hq : q ∈ front ++ old :: back) (hq' : q ∉ front ++ r :: back) : q = old := by
  simp only [List.mem_append, List.mem_cons, not_or] at hq hq'
  rcases hq with h | h | h
  · exact absurd h hq'.1
  · exact h
  · exact absurd h hq'.2.2

/-- It is missing, unless it is the new one. -/
theorem old_missing {front back : List Request} {old r : Request}
    (hq : ((front ++ old :: back).map fun x => x.frame.id).Nodup) (hne : old ≠ r) :
    old ∉ front ++ r :: back := by
  have hq : (front ++ old :: back).Nodup := List.Nodup.of_map _ hq
  rw [List.nodup_middle, List.nodup_cons] at hq
  simp only [List.mem_append, List.mem_cons, not_or] at hq ⊢
  exact ⟨hq.1.1, hne, hq.1.2⟩

/-- **Step**: with distinct CAN ids, everything a step loses is superseded or
evicted exactly if the step writes the register that is waiting. -/
theorem lost_iff_of_distinct (hp : p.shared.runtime.ControlIdsDistinct)
    (hs : BusStep cfg deviceName p e p') :
    (∀ q, Lost p e p' q → Superseded p e p' q ∨ Evicted p e p' q) ↔ WritesSameRegister p e := by
  have hnodup : ((controlQueue p).map fun x => x.frame.id).Nodup := hp
  cases queueStep hs with
  | same he h =>
      refine ⟨fun _ i r hi ht => absurd ht (he i r hi), fun _ q hq => ?_⟩
      exact absurd (h ▸ hq.1) hq.2.1
  | taken i r he h hsend =>
      refine ⟨fun _ j q hq => by simp [he] at hq, fun _ q hq => ?_⟩
      obtain ⟨hmem, hgone, htaken⟩ := hq
      rw [h, List.mem_cons] at hmem
      rcases hmem with rfl | hmem
      · exact absurd ⟨i, he, hsend⟩ htaken
      · exact absurd hmem hgone
  | queued i r he ht h =>
      have hpop : ∀ q, ¬ ∃ j, e = .act j .pop ∧ p'.shared.runtime.sending = some q := by simp [he]
      generalize hbefore : controlQueue p = before at h
      generalize hafter : controlQueue p' = after at h
      rw [hbefore] at hnodup
      cases h with
      | replaced front back old hid =>
          have hmem : old ∈ controlQueue p := by simp [hbefore]
          constructor
          · intro hlost j r' he' _ q hq hqid
            obtain ⟨_, rfl⟩ : i = j ∧ r = r' := by simpa [he] using he'
            obtain rfl : q = old :=
              List.inj_on_of_nodup_map hnodup (hbefore ▸ hq) (by simp) (hqid.trans hid.symm)
            by_cases hne : q = r
            · rw [hne]
            · rcases hlost q ⟨hmem, hafter ▸ old_missing hnodup hne, hpop q⟩ with hs | hs
              · obtain ⟨k, r', _, _, he', _, _, hreg⟩ := hs
                obtain ⟨_, rfl⟩ : i = k ∧ r = r' := by simpa [he] using he'
                exact hreg
              · obtain ⟨k, r', _, he', hdistinct, _⟩ := hs
                obtain ⟨_, rfl⟩ : i = k ∧ r = r' := by simpa [he] using he'
                exact absurd hid (hdistinct q hmem)
          · rintro hsame q ⟨hq, hgone, _⟩
            rw [hbefore] at hq
            rw [hafter] at hgone
            obtain rfl := eq_old_of_missing hq hgone
            exact .inl ⟨i, r, front, back, he, hbefore, hafter, hsame i r he ht q hmem hid⟩
      | evicted _ hid hfull =>
          constructor
          · intro _ j r' he' _ q hq hqid
            obtain ⟨_, rfl⟩ : i = j ∧ r = r' := by simpa [he] using he'
            exact absurd hqid (hid q (hbefore ▸ hq))
          · rintro _ q ⟨hq, hgone, _⟩
            rw [hbefore] at hq
            rw [hafter] at hgone
            obtain ⟨rest, rfl⟩ : ∃ rest, before = q :: rest := by
              cases before with
              | nil => simp at hq
              | cons x rest =>
                  rcases List.mem_cons.1 hq with rfl | hq
                  · exact ⟨rest, rfl⟩
                  · exact absurd (List.mem_append_left _ hq) hgone
            exact .inr ⟨i, r, rest, he, hbefore ▸ hid, hbefore ▸ hfull, hbefore, hafter⟩
      | added _ hid =>
          constructor
          · intro _ j r' he' _ q hq hqid
            obtain ⟨_, rfl⟩ : i = j ∧ r = r' := by simpa [he] using he'
            exact absurd hqid (hid q (hbefore ▸ hq))
          · rintro _ q ⟨hq, hgone, _⟩
            rw [hbefore] at hq
            rw [hafter] at hgone
            exact absurd (List.mem_append_left _ hq) hgone

/-- The start of a run: the dispatcher has nothing to send. -/
def BusPool.start (eyou : EyouCan) (mt : MtCan) (dm : DamiaoCan) (shared : SharedDriverState)
    (options : RuntimeOptions) (time : Time) : BusPool ι :=
  Pool.idle { slot := {}, eyou, mt, dm, shared, runtime := { options }, refresh := {}, time }

/-- **Run**: whatever runs on the device, everything a step loses is superseded or
evicted exactly if the step writes the register that is waiting. -/
theorem control_lost_iff (cfg : DeviceManagerConfig) (deviceName : String) (eyou : EyouCan) (mt : MtCan) (dm : DamiaoCan)
    (shared : SharedDriverState) (options : RuntimeOptions) (time : Time)
    {p p' : BusPool ι} {e : BusEvent ι}
    (hr : Reach (BusStep cfg deviceName) (fun _ _ => True)
      (BusPool.start eyou mt dm shared options time) p)
    (hs : BusStep cfg deviceName p e p') :
    (∀ q, Lost p e p' q → Superseded p e p' q ∨ Evicted p e p' q) ↔ WritesSameRegister p e := by
  have hp : p.shared.runtime.ControlIdsDistinct :=
    hr.invariant (I := fun p => p.shared.runtime.ControlIdsDistinct) List.nodup_nil fun _ _ _ hp _ hs => controlIdsDistinct_step hp hs
  exact lost_iff_of_distinct hp hs

end

/-! ## two limits of one motor -/

/-- A device on which nothing has happened yet. -/
def freshBus : BusPool Nat :=
  .start { deviceName := "can0" } { deviceName := "can0" } { deviceName := "can0" } {} {} 0

/-- Run a script on the fresh device, and one move of thread 0 more. -/
def replayBus (ms : List (Pool.Move Nat BusCall)) :
    Option (BusPool Nat × BusEvent Nat × BusPool Nat) :=
  Pool.replay (BusCall.code {} "can0") (fun b _ => b.serve) freshBus ms (.go 0)

/-- A step of such a script. -/
theorem run_of_replayBus {ms : List (Pool.Move Nat BusCall)}
    {test : BusPool Nat → BusEvent Nat → BusPool Nat → Bool}
    (h : (replayBus ms).any (fun x => test x.1 x.2.1 x.2.2) = true) :
    ∃ p e p', Reach (BusStep {} "can0") (fun _ _ => True) freshBus p ∧ BusStep {} "can0" p e p' ∧
      test p e p' = true := by
  obtain ⟨p, e, p', hr, hs, _, ht⟩ :=
    Pool.run_of_replay (h := fun b _ => b.serves) (fun _ _ _ _ _ => serves_of_serve)
      (fun _ _ _ _ _ _ => trivial) h
  exact ⟨p, e, p', hr, hs, ht⟩

/-- The call that writes both limits of motor 5. -/
def writeLimits : BusCall := .eyouConfigurePositionLimits 5 (-1000) 1000 true

/-- The request that writes one of them. -/
def limitRequest (subCommand : UInt8) (value : Int32) : Request :=
  { frame := EyouCan.writeFrame 5 subCommand value.toUInt32 4 EyouCan.kWriteCommand,
    category := .control, source := .eyouSendWriteCommand }

/-- The lower limit is queued behind the upper one. -/
def overwritesUpperLimit (p : BusPool Nat) (e : BusEvent Nat) (p' : BusPool Nat) : Bool :=
  match e with
  | .act _ (.enqueue r) =>
      decide (r = limitRequest 0x3A (-1000) ∧ controlQueue p = [limitRequest 0x39 1000] ∧
        controlQueue p' = [limitRequest 0x3A (-1000)])
  | _ => false

/-- The upper limit of a motor is lost to its lower limit. -/
theorem limit_overwritten :
    ∃ p e p', Reach (BusStep {} "can0") (fun _ _ => True) freshBus p ∧ BusStep {} "can0" p e p' ∧
      Lost p e p' (limitRequest 0x39 1000) ∧ ¬ Superseded p e p' (limitRequest 0x39 1000) ∧
      ¬ Evicted p e p' (limitRequest 0x39 1000) := by
  have hrun : (replayBus (Pool.callFor 0 writeLimits 10)).any
      (fun x => overwritesUpperLimit x.1 x.2.1 x.2.2) = true := by decide +kernel
  obtain ⟨p, e, p', hr, hs, ht⟩ := run_of_replayBus hrun
  match e, ht with
  | .act i (.enqueue r), ht =>
      obtain ⟨rfl, hbefore, hafter⟩ := of_decide_eq_true ht
      refine ⟨p, _, p', hr, hs, ⟨by simp [hbefore], ?_, by simp⟩, ?_, ?_⟩
      · rw [hafter]
        decide +kernel
      · rintro ⟨_, r, _, _, he, _, _, hreg⟩
        obtain ⟨_, rfl⟩ : i = _ ∧ _ = r := by simpa using he
        exact absurd hreg (by decide +kernel)
      · rintro ⟨_, r, _, he, hid, _⟩
        obtain ⟨_, rfl⟩ : i = _ ∧ _ = r := by simpa using he
        exact hid _ (by rw [hbefore]; exact List.mem_singleton_self _) (by decide +kernel)

/-- A request of MT motor 1 for a speed. -/
def speedRequest (velocity : Int32) : Request :=
  { frame := MtRmd.makeSpeedClosedLoopFrame (MtRmd.sendCanId 1) velocity,
    category := .control, source := .mtSetVelocity }

/-- A second speed is queued behind the first. -/
def overwritesSpeed (p : BusPool Nat) (_ : BusEvent Nat) (p' : BusPool Nat) : Bool :=
  decide (controlQueue p = [speedRequest 100] ∧ controlQueue p' = [speedRequest 200])

/-- A speed that takes the place of an earlier speed is no loss. -/
theorem speed_superseded :
    ∃ (p p' : BusPool Nat) (e : BusEvent Nat), BusStep {} "can0" p e p' ∧
      controlQueue p = [speedRequest 100] ∧
      controlQueue p' = [speedRequest 200] ∧
      ((∀ q, Lost p e p' q → Superseded p e p' q ∨ Evicted p e p' q) ↔ WritesSameRegister p e) := by
  have hrun : (replayBus (Pool.callFor 0 (.mt 0x141 (.setVelocity 100)) 9 ++
      Pool.callFor 0 (.mt 0x141 (.setVelocity 200)) 7)).any
      (fun x => overwritesSpeed x.1 x.2.1 x.2.2) = true := by decide +kernel
  obtain ⟨p, e, p', hr, hs, ht⟩ := run_of_replayBus hrun
  obtain ⟨hbefore, hafter⟩ := of_decide_eq_true ht
  exact ⟨p, p', e, hs, hbefore, hafter, control_lost_iff {} "can0" _ _ _ _ _ _ hr hs⟩

end CanDriver
