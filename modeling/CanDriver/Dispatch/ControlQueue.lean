import CanDriver.DeviceRuntime
import Mathlib.Data.List.Nodup

/-!
# CanDriver.Dispatch.ControlQueue

The control queue of a dispatcher.

A control frame takes the place of the queued one with its CAN id, so there is never more
than one of an id; what is discarded on the way is a replaced frame or, in a full queue, the
oldest one.
-/

namespace CanDriver

/-! ## the control queue under one submission -/

/-- What queuing a control frame does to the queue: it takes the place of the
queued frame with its CAN id, or pushes out the oldest of a full queue, or is
added. -/
inductive ControlQueued (depth : Nat) (r : Request) : List Request → List Request → Prop
  | replaced (front back : List Request) (old : Request) (hid : old.frame.id = r.frame.id) :
      ControlQueued depth r (front ++ old :: back) (front ++ r :: back)
  | evicted (q : List Request) (hid : ∀ x ∈ q, x.frame.id ≠ r.frame.id)
      (hfull : depth ≤ q.length) : ControlQueued depth r q (q.tail ++ [r])
  | added (q : List Request) (hid : ∀ x ∈ q, x.frame.id ≠ r.frame.id) :
      ControlQueued depth r q (q ++ [r])

namespace DeviceRuntime

theorem replaceById_eq_none {r : Request} {q : List Request} :
    replaceById r q = none ↔ ∀ x ∈ q, x.frame.id ≠ r.frame.id := by
  induction q with
  | nil => simp [replaceById]
  | cons x q ih => by_cases hx : x.frame.id = r.frame.id <;> simp [replaceById, hx, ih]

/-- The frame that is replaced is the one that is found. -/
theorem find?_of_replaceById {r : Request} {q q' : List Request} (h : replaceById r q = some q') :
    ∃ front old back, q = front ++ old :: back ∧ q' = front ++ r :: back ∧
      old.frame.id = r.frame.id ∧ (q.find? fun x => x.frame.id = r.frame.id) = some old := by
  induction q generalizing q' with
  | nil => simp [replaceById] at h
  | cons x q ih =>
      by_cases hx : x.frame.id = r.frame.id
      · obtain rfl : r :: q = q' := by simpa [replaceById, hx] using h
        exact ⟨[], x, q, rfl, rfl, hx, by simp [hx]⟩
      · simp only [replaceById, if_neg hx, Option.map_eq_some_iff] at h
        obtain ⟨q₁, hq₁, rfl⟩ := h
        obtain ⟨front, old, back, rfl, rfl, hid, hfind⟩ := ih hq₁
        exact ⟨x :: front, old, back, rfl, rfl, hid, by simp [hx, hfind]⟩

theorem replaceById_eq_some {r : Request} {q q' : List Request} (h : replaceById r q = some q') :
    ∃ front old back, q = front ++ old :: back ∧ q' = front ++ r :: back ∧
      old.frame.id = r.frame.id := by
  obtain ⟨front, old, back, hq, hq', hid, _⟩ := find?_of_replaceById h
  exact ⟨front, old, back, hq, hq', hid⟩

/-- The request is taken as a control frame. -/
def TakesControl (rt : DeviceRuntime) (r : Request) : Prop :=
  rt.stopRequested = false ∧ r.category = .control

theorem controlQueued_enqueue {rt : DeviceRuntime} {r : Request} (h : rt.TakesControl r) :
    ControlQueued rt.options.maxControlQueueDepth r rt.controlQueue
      (rt.enqueue r).2.controlQueue := by
  obtain ⟨hstop, hcontrol⟩ := h
  simp only [enqueue, hstop, hcontrol, Bool.false_eq_true, if_false, if_true, noteSubmitted,
    enqueueControl]
  cases hr : replaceById r rt.controlQueue with
  | some q =>
      obtain ⟨front, old, back, hq, rfl, hid⟩ := replaceById_eq_some hr
      rw [hq]
      exact .replaced front back old hid
  | none =>
      have hid := replaceById_eq_none.1 hr
      by_cases hfull : rt.options.maxControlQueueDepth ≤ rt.controlQueue.length
      · simp only [if_pos hfull]
        exact .evicted _ hid hfull
      · simp only [if_neg hfull]
        exact .added _ hid

/-- Any other submission leaves the control queue alone. -/
theorem controlQueue_enqueue_of_not {rt : DeviceRuntime} {r : Request} (h : ¬ rt.TakesControl r) :
    (rt.enqueue r).2.controlQueue = rt.controlQueue := by
  unfold enqueue
  split
  · cases r.category <;> rfl
  · rename_i hstop
    have hcontrol : r.category ≠ .control := fun hc => h ⟨by simpa using hstop, hc⟩
    rw [if_neg hcontrol]
    split
    · cases r.category <;> rfl
    · cases hc : r.category with
      | control => exact absurd hc hcontrol
      | _ => rfl

/-- The worker only ever takes the front of the control queue. -/
theorem controlQueue_startSend (rt : DeviceRuntime) :
    rt.startSend.2.controlQueue = rt.controlQueue ∨
      ∃ r, rt.controlQueue = r :: rt.startSend.2.controlQueue ∧
        rt.startSend.2.sending = some r := by
  match hc : rt.controlQueue, hr : rt.recoverQueue, hf : rt.configQueue, hq : rt.queryQueue with
  | r :: q, _, _, _ => exact .inr ⟨r, by simp [startSend, popNext, hc]⟩
  | [], r :: q, _, _ => exact .inl (by simp [startSend, popNext, hc, hr])
  | [], [], r :: q, _ => exact .inl (by simp [startSend, popNext, hc, hr, hf])
  | [], [], [], r :: q => exact .inl (by simp [startSend, popNext, hc, hr, hf, hq])
  | [], [], [], [] => exact .inl (by simp [startSend, popNext, hc, hr, hf, hq])

/-- No two queued control frames have the same CAN id. -/
def ControlIdsDistinct (rt : DeviceRuntime) : Prop :=
  (rt.controlQueue.map fun r => r.frame.id).Nodup

end DeviceRuntime

/-- A frame with a new CAN id keeps the ids distinct. -/
theorem ids_nodup_concat {q : List Request} {r : Request}
    (hq : (q.map fun x => x.frame.id).Nodup) (hid : ∀ x ∈ q, x.frame.id ≠ r.frame.id) :
    ((q ++ [r]).map fun x => x.frame.id).Nodup := by
  have hr : r.frame.id ∉ q.map fun x => x.frame.id := by
    intro h
    obtain ⟨x, hx, hxid⟩ := List.mem_map.1 h
    exact hid x hx hxid
  simpa using List.Nodup.concat hr hq

theorem ControlQueued.ids_nodup {depth : Nat} {r : Request} {q q' : List Request}
    (h : ControlQueued depth r q q') (hq : (q.map fun x => x.frame.id).Nodup) :
    (q'.map fun x => x.frame.id).Nodup := by
  cases h with
  | replaced front back old hid => simpa [hid] using hq
  | evicted q hid hfull =>
      have htail : (q.tail.map fun x => x.frame.id).Nodup := by
        rw [List.map_tail]
        exact hq.sublist (List.tail_sublist _)
      exact ids_nodup_concat htail fun x hx => hid x (List.mem_of_mem_tail hx)
  | added q hid => exact ids_nodup_concat hq hid

end CanDriver
