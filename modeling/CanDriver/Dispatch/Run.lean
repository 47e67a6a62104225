import CanDriver.Dispatch.ControlQueue
import CanDriver.Lib.Pool

/-!
# CanDriver.Dispatch.Run

A dispatcher with its worker, from the start of the worker to its end.

Any number of threads submit requests; a submission is one critical section, and a rejected
request is completed by its own thread afterwards.  The worker is followed through
`workerLoop`: it takes a request, hands it to the transport, calls the completion, counts the
result, and then takes control frames directly as long as there are any.

`workerThread_` is not guarded by the mutex, so `start` and `shutdown` do not overlap.  Every
step may be noted in a log that the code does not see.
-/

namespace CanDriver

open Interact

/-! ## the dispatcher -/

/-- Where the worker is: not started yet, before it looks for a request, with a request in its
hands, after the transport has answered, after the completion was called, after the result was
counted, in the gap between two control frames, and past its end. -/
inductive WorkerPoint where
  | absent
  | waiting
  | popped
  | sent (result : SendResult)
  | told (result : SendResult)
  | counted (category : Category)
  | pausing
  | terminated
deriving DecidableEq, Repr

/-- A `DeviceRuntime` with its threads: `stopping` is a call of `shutdown` that waits for the
worker, `dropping` are rejected requests whose completion was not called yet. -/
structure Dispatcher where
  rt : DeviceRuntime := {}
  started : Bool := false
  worker : WorkerPoint := .absent
  stopping : Bool := false
  dropping : List Request := []
deriving Repr

namespace DeviceRuntime

/-- `allQueuesEmptyLocked`. -/
def allQueuesEmpty (rt : DeviceRuntime) : Bool :=
  rt.controlQueue.isEmpty && rt.recoverQueue.isEmpty && rt.configQueue.isEmpty &&
    rt.queryQueue.isEmpty

/-- The worker takes a control frame without going back to `popNextLocked`. -/
def burstSend (rt : DeviceRuntime) : Option DeviceRuntime :=
  match rt.controlQueue with
  | [] => none
  | r :: q => some { rt with controlQueue := q, sending := some r }

end DeviceRuntime

/-- The steps of a dispatcher. -/
inductive DispatchEvent where
  | submit (r : Request)
  | completeDropped (r : Request)
  | start
  | requestStop
  | joined
  | take
  | exit
  | send (result : SendResult)
  | complete
  | count
  | rest
  | pause
  | burst
deriving DecidableEq, Repr

/-- What a step does; nothing where it is not possible. -/
def DispatchEvent.apply (d : Dispatcher) : DispatchEvent → Option Dispatcher
  | .submit r =>
      let (accepted, rt) := d.rt.enqueue r
      if accepted then some { d with rt } else some { d with rt, dropping := r :: d.dropping }
  | .completeDropped r =>
      if r ∈ d.dropping then some { d with dropping := d.dropping.erase r } else none
  | .start =>
      if d.stopping then none
      else if d.started then some d
      else
        some
          { d with
            rt := { d.rt with stopRequested := false }
            started := true
            worker := .waiting }
  | .requestStop =>
      if d.stopping then none else some { d with rt := d.rt.requestStop, stopping := true }
  | .joined =>
      if d.stopping && (d.worker == .absent || d.worker == .terminated) then
        some { d with rt := { d.rt with sending := none }, started := false, stopping := false }
      else none
  | .take =>
      if d.worker = .waiting && !d.rt.allQueuesEmpty then
        some { d with rt := d.rt.startSend.2, worker := .popped }
      else none
  | .exit =>
      if d.worker = .waiting && (d.rt.stopRequested && d.rt.allQueuesEmpty) then
        some { d with worker := .terminated }
      else none
  | .send result => if d.worker = .popped then some { d with worker := .sent result } else none
  | .complete =>
      match d.worker with
      | .sent result => some { d with worker := .told result }
      | _ => none
  | .count =>
      match d.worker, d.rt.sending with
      | .told result, some r =>
          some { d with rt := d.rt.noteSendResult result, worker := .counted r.category }
      | _, _ => none
  | .rest =>
      match d.worker with
      | .counted _ => if d.rt.controlQueue.isEmpty then some { d with worker := .waiting } else none
      | _ => none
  | .pause =>
      if d.worker = .counted .control && !d.rt.controlQueue.isEmpty then
        some { d with worker := .pausing }
      else none
  | .burst =>
      match d.worker with
      | .counted _ => d.rt.burstSend.map fun rt => { d with rt, worker := .popped }
      | .pausing => d.rt.burstSend.map fun rt => { d with rt, worker := .popped }
      | _ => none

/-! ## what a step can do -/

namespace DeviceRuntime

variable {rt : DeviceRuntime}

theorem allQueuesEmpty_iff :
    rt.allQueuesEmpty = true ↔
      rt.controlQueue = [] ∧ rt.recoverQueue = [] ∧ rt.configQueue = [] ∧ rt.queryQueue = [] := by
  simp [allQueuesEmpty, and_assoc]

/-- What `popNextLocked` takes: the front of the first queue that is not empty. -/
inductive Popped (rt : DeviceRuntime) : Request → DeviceRuntime → Prop
  | control (r q) (h : rt.controlQueue = r :: q) : Popped rt r { rt with controlQueue := q }
  | recover (r q) (hcontrol : rt.controlQueue = []) (h : rt.recoverQueue = r :: q) :
      Popped rt r { rt with recoverQueue := q }
  | config (r q) (hcontrol : rt.controlQueue = []) (hrecover : rt.recoverQueue = [])
      (h : rt.configQueue = r :: q) : Popped rt r { rt with configQueue := q }
  | query (r q) (hcontrol : rt.controlQueue = []) (hrecover : rt.recoverQueue = [])
      (hconfig : rt.configQueue = []) (h : rt.queryQueue = r :: q) :
      Popped rt r { rt with queryQueue := q }

/-- As long as a queue is not empty, the worker takes something. -/
theorem startSend_popped (h : rt.allQueuesEmpty = false) :
    ∃ r rt', rt.Popped r rt' ∧ rt.startSend.2 = { rt' with sending := some r } := by
  cases hc : rt.controlQueue with
  | cons r q => exact ⟨r, _, .control r q hc, by simp [startSend, popNext, hc]⟩
  | nil =>
      cases hr : rt.recoverQueue with
      | cons r q => exact ⟨r, _, .recover r q hc hr, by simp [startSend, popNext, hc, hr]⟩
      | nil =>
          cases hf : rt.configQueue with
          | cons r q =>
              exact ⟨r, _, .config r q hc hr hf, by simp [startSend, popNext, hc, hr, hf]⟩
          | nil =>
              cases hq : rt.queryQueue with
              | cons r q =>
                  exact ⟨r, _, .query r q hc hr hf hq, by simp [startSend, popNext, hc, hr, hf, hq]⟩
              | nil => simp [allQueuesEmpty, hc, hr, hf, hq] at h

/-- What becomes of a submitted request. -/
inductive Enqueued (rt : DeviceRuntime) (r : Request) : Bool × DeviceRuntime → Prop
  | rejected : Enqueued rt r (false, rt.noteDropped r.category)
  | control (hcontrol : r.category = .control) (hstop : rt.stopRequested = false) :
      Enqueued rt r (true, (rt.enqueueControl r).noteSubmitted)
  | queued (hcategory : r.category ≠ .control) (hstop : rt.stopRequested = false)
      (hroom : (rt.queueFor r.category).length < rt.maxDepthFor r.category) :
      Enqueued rt r
        (true, (rt.setQueue r.category (rt.queueFor r.category ++ [r])).noteSubmitted)

theorem enqueue_enqueued (rt : DeviceRuntime) (r : Request) : rt.Enqueued r (rt.enqueue r) := by
  rw [enqueue]
  split
  · exact .rejected
  · next hstop =>
    have hstop : rt.stopRequested = false := by simpa using hstop
    split
    · next hcontrol => exact .control hcontrol hstop
    · next hcategory =>
      split
      · exact .rejected
      · next hroom => exact .queued hcategory hstop (Nat.lt_of_not_le hroom)

end DeviceRuntime

/-- What a step does, case by case. -/
inductive Dispatched (d : Dispatcher) : DispatchEvent → Dispatcher → Prop
  | accepted (r) (h : (d.rt.enqueue r).1 = true) :
      Dispatched d (.submit r) { d with rt := (d.rt.enqueue r).2 }
  | rejected (r) (h : (d.rt.enqueue r).1 = false) :
      Dispatched d (.submit r) { d with rt := (d.rt.enqueue r).2, dropping := r :: d.dropping }
  | completeDropped (r) (h : r ∈ d.dropping) :
      Dispatched d (.completeDropped r) { d with dropping := d.dropping.erase r }
  | running (h : d.started = true) : Dispatched d .start d
  | start (h : d.started = false) :
      Dispatched d .start
        { d with
          rt := { d.rt with stopRequested := false }
          started := true
          worker := .waiting }
  | requestStop : Dispatched d .requestStop { d with rt := d.rt.requestStop, stopping := true }
  | joined (h : d.worker = .absent ∨ d.worker = .terminated) :
      Dispatched d .joined
        { d with rt := { d.rt with sending := none }, started := false, stopping := false }
  | take (r rt) (hw : d.worker = .waiting) (h : d.rt.Popped r rt) :
      Dispatched d .take { d with rt := { rt with sending := some r }, worker := .popped }
  | exit (hw : d.worker = .waiting) (hstop : d.rt.stopRequested = true)
      (hempty : d.rt.allQueuesEmpty = true) : Dispatched d .exit { d with worker := .terminated }
  | send (result) (hw : d.worker = .popped) :
      Dispatched d (.send result) { d with worker := .sent result }
  | complete (result) (hw : d.worker = .sent result) :
      Dispatched d .complete { d with worker := .told result }
  | count (result r) (hw : d.worker = .told result) (hr : d.rt.sending = some r) :
      Dispatched d .count { d with rt := d.rt.noteSendResult result, worker := .counted r.category }
  | rest (c) (hw : d.worker = .counted c) : Dispatched d .rest { d with worker := .waiting }
  | pause (c) (hw : d.worker = .counted c) : Dispatched d .pause { d with worker := .pausing }
  | burst (r q) (hw : (∃ c, d.worker = .counted c) ∨ d.worker = .pausing)
      (h : d.rt.controlQueue = r :: q) :
      Dispatched d .burst
        { d with rt := { d.rt with controlQueue := q, sending := some r }, worker := .popped }

theorem DeviceRuntime.burstSend_eq_some {rt rt' : DeviceRuntime} (h : rt.burstSend = some rt') :
    ∃ r q, rt.controlQueue = r :: q ∧ rt' = { rt with controlQueue := q, sending := some r } := by
  rw [burstSend] at h
  cases hq : rt.controlQueue with
  | nil => simp [hq] at h
  | cons r q =>
      rw [hq] at h
      exact ⟨r, q, rfl, (Option.some.inj h).symm⟩

/-- **Step**: what a step can do. -/
theorem dispatched_of_apply {d d' : Dispatcher} {e : DispatchEvent} (h : e.apply d = some d') :
    Dispatched d e d' := by
  cases e with
  | submit r =>
      rw [DispatchEvent.apply] at h
      cases haccepted : (d.rt.enqueue r).1 with
      | true =>
          simp only [haccepted, if_true, Option.some.injEq] at h
          exact h ▸ .accepted r haccepted
      | false =>
          simp only [haccepted, Bool.false_eq_true, if_false, Option.some.injEq] at h
          exact h ▸ .rejected r haccepted
  | completeDropped r =>
      obtain ⟨hr, h⟩ := Option.ite_none_right_eq_some.1 h
      exact Option.some.inj h ▸ .completeDropped r hr
  | start =>
      obtain ⟨_, h⟩ := Option.ite_none_left_eq_some.1 h
      cases hstarted : d.started with
      | true =>
          rw [hstarted, if_pos rfl] at h
          exact Option.some.inj h ▸ .running hstarted
      | false =>
          rw [hstarted, if_neg Bool.false_ne_true] at h
          exact Option.some.inj h ▸ .start hstarted
  | requestStop =>
      obtain ⟨_, h⟩ := Option.ite_none_left_eq_some.1 h
      exact Option.some.inj h ▸ .requestStop
  | joined =>
      obtain ⟨hw, h⟩ := Option.ite_none_right_eq_some.1 h
      rw [Bool.and_eq_true, Bool.or_eq_true, beq_iff_eq, beq_iff_eq] at hw
      exact Option.some.inj h ▸ .joined hw.2
  | take =>
      obtain ⟨hw, h⟩ := Option.ite_none_right_eq_some.1 h
      rw [Bool.and_eq_true, decide_eq_true_eq, Bool.not_eq_true'] at hw
      obtain ⟨r, rt, hpopped, hrt⟩ := DeviceRuntime.startSend_popped hw.2
      rw [hrt] at h
      exact Option.some.inj h ▸ .take r rt hw.1 hpopped
  | exit =>
      obtain ⟨hw, h⟩ := Option.ite_none_right_eq_some.1 h
      rw [Bool.and_eq_true, Bool.and_eq_true, decide_eq_true_eq] at hw
      exact Option.some.inj h ▸ .exit hw.1 hw.2.1 hw.2.2
  | send result =>
      obtain ⟨hw, h⟩ := Option.ite_none_right_eq_some.1 h
      exact Option.some.inj h ▸ .send result hw
  | complete =>
      rw [DispatchEvent.apply] at h
      split at h
      · next result hw => exact Option.some.inj h ▸ .complete result hw
      · exact absurd h (Option.some_ne_none _).symm
  | count =>
      rw [DispatchEvent.apply] at h
      split at h
      · next result r hw hr => exact Option.some.inj h ▸ .count result r hw hr
      · exact absurd h (Option.some_ne_none _).symm
  | rest =>
      rw [DispatchEvent.apply] at h
      split at h
      · next c hw =>
        obtain ⟨_, h⟩ := Option.ite_none_right_eq_some.1 h
        exact Option.some.inj h ▸ .rest c hw
      · exact absurd h (Option.some_ne_none _).symm
  | pause =>
      obtain ⟨hw, h⟩ := Option.ite_none_right_eq_some.1 h
      rw [Bool.and_eq_true, decide_eq_true_eq] at hw
      exact Option.some.inj h ▸ .pause .control hw.1
  | burst =>
      have hburst : ((∃ c, d.worker = .counted c) ∨ d.worker = .pausing) ∧
          ∃ rt, d.rt.burstSend = some rt ∧ d' = { d with rt, worker := .popped } := by
        rw [DispatchEvent.apply] at h
        split at h
        · next c hw =>
          obtain ⟨rt, hrt, h⟩ := Option.map_eq_some_iff.1 h
          exact ⟨.inl ⟨c, hw⟩, rt, hrt, h.symm⟩
        · next hw =>
          obtain ⟨rt, hrt, h⟩ := Option.map_eq_some_iff.1 h
          exact ⟨.inr hw, rt, hrt, h.symm⟩
        · exact absurd h (Option.some_ne_none _).symm
      obtain ⟨hw, rt, hrt, rfl⟩ := hburst
      obtain ⟨r, q, hq, rfl⟩ := DeviceRuntime.burstSend_eq_some hrt
      exact .burst r q hw hq

/-! ## what is noted -/

namespace DeviceRuntime

/-- The queued frame whose place a control frame takes, or the oldest one of a full queue. -/
def discarded (rt : DeviceRuntime) (r : Request) : Option Request :=
  match rt.controlQueue.find? fun q => q.frame.id = r.frame.id with
  | some old => some old
  | none => if rt.options.maxControlQueueDepth ≤ rt.controlQueue.length then rt.controlQueue.head?
      else none

/-- The frame that overflows from a full control queue. -/
def overflow (rt : DeviceRuntime) (r : Request) : Option Request :=
  match rt.controlQueue.find? fun q => q.frame.id = r.frame.id with
  | some _ => none
  | none => rt.discarded r

/-- What queuing a control frame does, with the frame that is discarded. -/
inductive ControlTaken (rt : DeviceRuntime) (r : Request) : DeviceRuntime → Prop
  | replaced (front back : List Request) (old : Request)
      (hq : rt.controlQueue = front ++ old :: back) (hid : old.frame.id = r.frame.id)
      (hdiscarded : rt.discarded r = some old) (hoverflow : rt.overflow r = none) :
      ControlTaken rt r { rt.noteEvicted with controlQueue := front ++ r :: back }
  | evicted (hid : ∀ x ∈ rt.controlQueue, x.frame.id ≠ r.frame.id)
      (hfull : rt.options.maxControlQueueDepth ≤ rt.controlQueue.length)
      (hdiscarded : rt.discarded r = rt.controlQueue.head?)
      (hoverflow : rt.overflow r = rt.controlQueue.head?) :
      ControlTaken rt r { rt.noteEvicted with controlQueue := rt.controlQueue.tail ++ [r] }
  | added (hid : ∀ x ∈ rt.controlQueue, x.frame.id ≠ r.frame.id)
      (hroom : rt.controlQueue.length < rt.options.maxControlQueueDepth)
      (hdiscarded : rt.discarded r = none) (hoverflow : rt.overflow r = none) :
      ControlTaken rt r { rt with controlQueue := rt.controlQueue ++ [r] }

theorem enqueueControl_taken (rt : DeviceRuntime) (r : Request) :
    rt.ControlTaken r (rt.enqueueControl r) := by
  rw [enqueueControl]
  cases hr : replaceById r rt.controlQueue with
  | some q =>
      obtain ⟨front, old, back, hq, rfl, hid, hfind⟩ := find?_of_replaceById hr
      exact .replaced front back old hq hid (by simp [discarded, hfind]) (by simp [overflow, hfind])
  | none =>
      have hid := replaceById_eq_none.1 hr
      have hfind : (rt.controlQueue.find? fun x => x.frame.id = r.frame.id) = none := by
        simpa using hid
      dsimp only
      split
      · next hfull =>
        have hdiscarded : rt.discarded r = rt.controlQueue.head? := by
          simp [discarded, hfind, hfull]
        exact .evicted hid hfull hdiscarded (by simp [overflow, hfind, hdiscarded])
      · next hroom =>
        have hdiscarded : rt.discarded r = none := by simp [discarded, hfind, hroom]
        exact .added hid (Nat.lt_of_not_le hroom) hdiscarded (by simp [overflow, hfind, hdiscarded])

end DeviceRuntime

/-- The call of a completion, if the request has one. -/
def completionCall (attempted : Bool) (r : Request) : List (Request × Bool) :=
  if r.completion.isSome then [(r, attempted)] else []

/-- What is noted: the requests that were accepted, those rejected whose submission returned,
the control frames discarded from the queue, the frames handed to the transport, the calls of
completions, and for which CAN ids the last accepted control frame overflowed. -/
structure DispatchLog where
  accepted : List Request := []
  rejected : List Request := []
  discarded : List Request := []
  handed : List Request := []
  calls : List (Request × Bool) := []
  overflowed : UInt32 → Bool := fun _ => false

/-- The CAN ids whose last accepted control frame overflowed, after another submission. -/
def overflowedAfter (rt : DeviceRuntime) (r : Request) (overflowed : UInt32 → Bool) :
    UInt32 → Bool :=
  fun id => if id = r.frame.id then false
    else overflowed id || (rt.overflow r).any fun old => old.frame.id = id

/-- What a step adds to the log. -/
def DispatchEvent.note (d : Dispatcher) (log : DispatchLog) : DispatchEvent → DispatchLog
  | .submit r =>
      if !(d.rt.enqueue r).1 then log
      else if r.category = .control then
        { log with
          accepted := log.accepted ++ [r]
          discarded := log.discarded ++ (d.rt.discarded r).toList
          overflowed := overflowedAfter d.rt r log.overflowed }
      else { log with accepted := log.accepted ++ [r] }
  | .completeDropped r =>
      { log with
        rejected := log.rejected ++ [r]
        calls := log.calls ++ completionCall false r }
  | .send _ => { log with handed := log.handed ++ d.rt.sending.toList }
  | .complete => { log with calls := log.calls ++ d.rt.sending.toList.flatMap (completionCall true) }
  | _ => log

/-- A step of a run. -/
def DispatchEvent.step (w : Dispatcher × DispatchLog) (e : DispatchEvent) :
    Option (Dispatcher × DispatchLog) :=
  (e.apply w.1).map fun d => (d, e.note w.1 w.2)

/-- A step, as a relation. -/
def DispatchStep (w : Dispatcher × DispatchLog) (e : DispatchEvent) (w' : Dispatcher × DispatchLog) :
    Prop :=
  e.step w = some w'

/-- Where a run of a new dispatcher with these options may lead. -/
abbrev DispatchReached (options : RuntimeOptions) : Dispatcher × DispatchLog → Prop :=
  Reach DispatchStep (fun _ _ => True) ({ rt := { options } }, {})

theorem dispatched_of_step {w w' : Dispatcher × DispatchLog} {e : DispatchEvent}
    (h : DispatchStep w e w') : Dispatched w.1 e w'.1 ∧ w'.2 = e.note w.1 w.2 := by
  obtain ⟨d, hd, rfl⟩ := Option.map_eq_some_iff.1 h
  exact ⟨dispatched_of_apply hd, rfl⟩

/-! ## scripted runs -/

/-- Take steps one after another. -/
def runEvents : List DispatchEvent → Dispatcher × DispatchLog → Option (Dispatcher × DispatchLog)
  | [], w => some w
  | e :: es, w => (e.step w).bind (runEvents es)

/-- Steps taken one after another are a run. -/
theorem reached_of_runEvents {es : List DispatchEvent} {w₀ w w' : Dispatcher × DispatchLog}
    (hw : Reach DispatchStep (fun _ _ => True) w₀ w) (h : runEvents es w = some w') :
    Reach DispatchStep (fun _ _ => True) w₀ w' := by
  induction es generalizing w with
  | nil => exact Option.some.inj h ▸ hw
  | cons e es ih =>
      obtain ⟨w₁, hstep, hrest⟩ := Option.bind_eq_some_iff.1 h
      exact ih (hw.step trivial hstep) hrest

/-- A test of where steps lead holds of a state that is reached. -/
theorem exists_dispatched (options : RuntimeOptions) (es : List DispatchEvent)
    (test : Dispatcher × DispatchLog → Bool)
    (h : (runEvents es ({ rt := { options } }, {})).any test = true) :
    ∃ w, DispatchReached options w ∧ test w = true := by
  obtain ⟨w, hrun, htest⟩ := (Option.any_eq_true _ _).1 h
  exact ⟨w, reached_of_runEvents .refl hrun, htest⟩

end CanDriver
