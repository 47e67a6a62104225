import CanDriver.Dispatch.Run
import Mathlib.Data.List.Perm.Basic

/-!
# CanDriver.Dispatch.Accounting

What becomes of the requests a dispatcher accepts.

Every request is sent, counted as discarded, waiting in a queue or in the hands of the worker
(`dispatcher_conserved`), and when the worker has ended none is waiting any more.  Completions
are called for what was handed to the transport and for what was rejected, but not for what is
discarded from the control queue (`completed_iff`).
-/

namespace CanDriver

open Interact

/-! ## the queues -/

namespace DeviceRuntime

variable {rt rt' : DeviceRuntime} {r : Request}

/-- `pendingTotal`. -/
def pendingTotal (rt : DeviceRuntime) : Nat :=
  rt.controlQueue.length + rt.recoverQueue.length + rt.configQueue.length + rt.queryQueue.length

/-- All that is waiting. -/
def queued (rt : DeviceRuntime) : List Request :=
  rt.controlQueue ++ rt.recoverQueue ++ rt.configQueue ++ rt.queryQueue

/-- What a submission discards. -/
def discardedBy (rt : DeviceRuntime) (r : Request) : List Request :=
  if r.category = .control then (rt.discarded r).toList else []

/-- No queue is longer than it may be. -/
structure WithinDepth (rt : DeviceRuntime) : Prop where
  control : rt.controlQueue.length ≤ rt.options.maxControlQueueDepth
  recover : rt.recoverQueue.length ≤ rt.options.maxRecoverQueueDepth
  config : rt.configQueue.length ≤ rt.options.maxConfigQueueDepth
  query : rt.queryQueue.length ≤ rt.options.maxQueryQueueDepth

/-- The equation of the counters. -/
def Conserved (rt : DeviceRuntime) : Prop :=
  rt.counters.submitted =
    rt.counters.sent + rt.counters.sendBackpressure + rt.counters.sendLinkDown +
      rt.counters.sendError + rt.counters.evictedControl + rt.pendingTotal +
      rt.sending.toList.length

/-- A queued control frame takes a place in the queue or the place of what is discarded. -/
theorem ControlTaken.perm (h : rt.ControlTaken r rt') :
    (rt'.controlQueue ++ (rt.discarded r).toList).Perm (rt.controlQueue ++ [r]) := by
  cases h with
  | replaced front back old hq hid hdiscarded hoverflow =>
      rw [hq, hdiscarded]
      have hswap : (front ++ r :: back ++ [old]).Perm (front ++ old :: back ++ [r]) := by
        rw [List.perm_iff_count]
        intro x
        simp only [List.count_append, List.count_cons, List.count_nil]
        omega
      exact hswap
  | evicted hid hfull hdiscarded hoverflow =>
      rw [hdiscarded]
      cases rt.controlQueue with
      | nil => exact .refl _
      | cons old q => exact List.perm_append_singleton old (q ++ [r])
  | added hid hroom hdiscarded hoverflow =>
      rw [hdiscarded]
      exact (List.append_nil _).symm ▸ .refl _

/-- What else a queued control frame changes. -/
theorem ControlTaken.same (h : rt.ControlTaken r rt') :
    rt'.options = rt.options ∧ rt'.recoverQueue = rt.recoverQueue ∧
      rt'.configQueue = rt.configQueue ∧ rt'.queryQueue = rt.queryQueue ∧
      rt'.sending = rt.sending ∧ rt'.stopRequested = rt.stopRequested := by
  cases h with
  | replaced => exact ⟨rfl, rfl, rfl, rfl, rfl, rfl⟩
  | evicted => exact ⟨rfl, rfl, rfl, rfl, rfl, rfl⟩
  | added => exact ⟨rfl, rfl, rfl, rfl, rfl, rfl⟩

/-- An accepted request is waiting, and what is not waiting any more is discarded. -/
theorem Enqueued.perm {rt' : DeviceRuntime} (h : rt.Enqueued r (true, rt')) :
    (rt'.queued ++ rt.discardedBy r).Perm (rt.queued ++ [r]) := by
  cases h with
  | control hcontrol hstop =>
      have htaken := rt.enqueueControl_taken r
      have hperm := htaken.perm
      obtain ⟨_, hrecover, hconfig, hquery, _⟩ := htaken.same
      rw [discardedBy, if_pos hcontrol]
      simp only [DeviceRuntime.queued, noteSubmitted, hrecover, hconfig, hquery]
      rw [List.perm_iff_count] at hperm ⊢
      intro x
      have hx := hperm x
      simp only [List.count_append] at hx ⊢
      omega
  | queued hcategory hstop hroom =>
      rw [discardedBy, if_neg hcategory, List.append_nil, List.perm_iff_count]
      intro x
      cases hc : r.category with
      | control => exact absurd hc hcategory
      | recover =>
          simp only [DeviceRuntime.queued, noteSubmitted, setQueue, queueFor, List.count_append]
          omega
      | config =>
          simp only [DeviceRuntime.queued, noteSubmitted, setQueue, queueFor, List.count_append]
          omega
      | query =>
          simp only [DeviceRuntime.queued, noteSubmitted, setQueue, queueFor, List.count_append]
          omega

/-- A control frame that is queued is waiting instead of what is counted as evicted. -/
theorem ControlTaken.conserved (h : rt.ControlTaken r rt')
    (hdepth : 0 < rt.options.maxControlQueueDepth) (hrt : rt.Conserved) :
    rt'.noteSubmitted.Conserved := by
  rw [Conserved, pendingTotal] at hrt ⊢
  cases h with
  | replaced front back old hq hid hdiscarded hoverflow =>
      rw [hq] at hrt
      simp only [noteSubmitted, noteEvicted, List.length_append, List.length_cons] at hrt ⊢
      omega
  | evicted hid hfull hdiscarded hoverflow =>
      simp only [noteSubmitted, noteEvicted, List.length_append, List.length_tail,
        List.length_singleton]
      omega
  | added hid hroom hdiscarded hoverflow =>
      simp only [noteSubmitted, List.length_append, List.length_singleton]
      omega

/-- A submission keeps the equation of the counters. -/
theorem Enqueued.conserved {result : Bool × DeviceRuntime} (h : rt.Enqueued r result)
    (hdepth : 0 < rt.options.maxControlQueueDepth) (hrt : rt.Conserved) : result.2.Conserved := by
  cases h with
  | rejected =>
      rw [Conserved] at hrt ⊢
      cases hc : r.category <;> exact hrt
  | control hcontrol hstop => exact (rt.enqueueControl_taken r).conserved hdepth hrt
  | queued hcategory hstop hroom =>
      rw [Conserved, pendingTotal] at hrt ⊢
      cases hc : r.category with
      | control => exact absurd hc hcategory
      | recover =>
          simp only [noteSubmitted, setQueue, queueFor, List.length_append, List.length_singleton]
          omega
      | config =>
          simp only [noteSubmitted, setQueue, queueFor, List.length_append, List.length_singleton]
          omega
      | query =>
          simp only [noteSubmitted, setQueue, queueFor, List.length_append, List.length_singleton]
          omega

/-- A request that is taken is in the hands of the worker. -/
theorem Popped.conserved (h : rt.Popped r rt') (hsending : rt.sending = none)
    (hrt : rt.Conserved) : Conserved { rt' with sending := some r } := by
  rw [Conserved, pendingTotal, hsending] at hrt
  rw [Conserved, pendingTotal]
  cases h with
  | control q hq =>
      simp only [hq, List.length_cons, Option.toList_none, Option.toList_some,
        List.length_nil] at hrt ⊢
      omega
  | recover q hcontrol hq =>
      simp only [hq, List.length_cons, Option.toList_none, Option.toList_some,
        List.length_nil] at hrt ⊢
      omega
  | config q hcontrol hrecover hq =>
      simp only [hq, List.length_cons, Option.toList_none, Option.toList_some,
        List.length_nil] at hrt ⊢
      omega
  | query q hcontrol hrecover hconfig hq =>
      simp only [hq, List.length_cons, Option.toList_none, Option.toList_some,
        List.length_nil] at hrt ⊢
      omega

/-- A result that is counted is not in the hands of the worker any more. -/
theorem conserved_noteSendResult (result : SendResult) (hsending : rt.sending = some r)
    (hrt : rt.Conserved) : (rt.noteSendResult result).Conserved := by
  rw [Conserved, hsending] at hrt
  rw [Conserved]
  cases result <;>
    simp only [noteSendResult, pendingTotal, Option.toList_none, Option.toList_some,
      List.length_nil, List.length_singleton] at hrt ⊢ <;> omega

/-- A submission keeps within the depths. -/
theorem Enqueued.withinDepth {result : Bool × DeviceRuntime} (h : rt.Enqueued r result)
    (hdepth : 0 < rt.options.maxControlQueueDepth) (hrt : rt.WithinDepth) :
    result.2.options = rt.options ∧ result.2.WithinDepth := by
  obtain ⟨hc, hr, hf, hq⟩ := hrt
  cases h with
  | rejected =>
      cases r.category <;> exact ⟨rfl, hc, hr, hf, hq⟩
  | control hcontrol hstop =>
      have htaken := rt.enqueueControl_taken r
      obtain ⟨hoptions, hrecover, hconfig, hquery, _⟩ := htaken.same
      refine ⟨hoptions, ?_, ?_, ?_, ?_⟩
      · show (rt.enqueueControl r).controlQueue.length ≤
          (rt.enqueueControl r).options.maxControlQueueDepth
        rw [hoptions]
        generalize rt.enqueueControl r = rt' at htaken
        cases htaken with
        | replaced front back old hq hid hdiscarded hoverflow =>
            rw [hq] at hc
            simpa using hc
        | evicted hid hfull hdiscarded hoverflow =>
            simp only [List.length_append, List.length_tail, List.length_singleton]
            omega
        | added hid hroom hdiscarded hoverflow =>
            simp only [List.length_append, List.length_singleton]
            omega
      · simpa [noteSubmitted, hoptions, hrecover] using hr
      · simpa [noteSubmitted, hoptions, hconfig] using hf
      · simpa [noteSubmitted, hoptions, hquery] using hq
  | queued hcategory hstop hroom =>
      cases hcat : r.category with
      | control => exact absurd hcat hcategory
      | recover =>
          rw [hcat] at hroom
          simp only [maxDepthFor, queueFor] at hroom
          exact ⟨rfl, hc, by simpa [noteSubmitted, setQueue, queueFor] using Nat.succ_le_of_lt hroom, hf, hq⟩
      | config =>
          rw [hcat] at hroom
          simp only [maxDepthFor, queueFor] at hroom
          exact ⟨rfl, hc, hr, by simpa [noteSubmitted, setQueue, queueFor] using Nat.succ_le_of_lt hroom, hq⟩
      | query =>
          rw [hcat] at hroom
          simp only [maxDepthFor, queueFor] at hroom
          exact ⟨rfl, hc, hr, hf, by simpa [noteSubmitted, setQueue, queueFor] using Nat.succ_le_of_lt hroom⟩

/-- Taking a request makes a queue shorter. -/
theorem Popped.withinDepth (h : rt.Popped r rt') (hrt : rt.WithinDepth) :
    rt'.options = rt.options ∧ rt'.WithinDepth := by
  obtain ⟨hc, hr, hf, hq⟩ := hrt
  cases h with
  | control q h => exact ⟨rfl, Nat.le_of_succ_le (by simpa [h] using hc), hr, hf, hq⟩
  | recover q hcontrol h => exact ⟨rfl, hc, Nat.le_of_succ_le (by simpa [h] using hr), hf, hq⟩
  | config q hcontrol hrecover h =>
      exact ⟨rfl, hc, hr, Nat.le_of_succ_le (by simpa [h] using hf), hq⟩
  | query q hcontrol hrecover hconfig h =>
      exact ⟨rfl, hc, hr, hf, Nat.le_of_succ_le (by simpa [h] using hq)⟩

/-- What is taken is the first of all that is waiting. -/
theorem Popped.queued_eq (h : rt.Popped r rt') : rt.queued = r :: rt'.queued := by
  cases h with
  | control q hq => simp [DeviceRuntime.queued, hq]
  | recover q hcontrol hq => simp [DeviceRuntime.queued, hcontrol, hq]
  | config q hcontrol hrecover hq => simp [DeviceRuntime.queued, hcontrol, hrecover, hq]
  | query q hcontrol hrecover hconfig hq =>
      simp [DeviceRuntime.queued, hcontrol, hrecover, hconfig, hq]

end DeviceRuntime

/-- The outcome of a submission, by whether it was accepted. -/
theorem DeviceRuntime.enqueued_of_eq {rt : DeviceRuntime} {r : Request} {accepted : Bool}
    (h : (rt.enqueue r).1 = accepted) : rt.Enqueued r (accepted, (rt.enqueue r).2) := by
  have henqueued : rt.Enqueued r ((rt.enqueue r).1, (rt.enqueue r).2) := rt.enqueue_enqueued r
  rw [h] at henqueued
  exact henqueued

/-! ## the worker -/

/-- Whether the worker holds a request that is not counted yet. -/
def WorkerPoint.holds : WorkerPoint → Bool
  | .popped | .sent _ | .told _ => true
  | _ => false

/-- The invariant of the program points: what the worker holds is being sent; without a start
there is no worker at work; a worker has ended only when nothing was waiting and nothing was
accepted any more. -/
structure Dispatcher.Shaped (d : Dispatcher) : Prop where
  holding : d.rt.sending.isSome = d.worker.holds
  idle : d.started = false → d.worker = .absent ∨ d.worker = .terminated
  ended : d.worker = .terminated → d.rt.stopRequested = true ∧ d.rt.allQueuesEmpty = true

variable {d d' : Dispatcher} {e : DispatchEvent}

/-- A submission leaves what is being sent alone, and when the runtime is stopping it leaves
the queues alone as well. -/
theorem DeviceRuntime.Enqueued.same {rt : DeviceRuntime} {r : Request}
    {result : Bool × DeviceRuntime} (h : rt.Enqueued r result) :
    result.2.sending = rt.sending ∧ result.2.stopRequested = rt.stopRequested ∧
      (rt.stopRequested = true → result.2.allQueuesEmpty = rt.allQueuesEmpty) := by
  cases h with
  | rejected => cases r.category <;> exact ⟨rfl, rfl, fun _ => rfl⟩
  | control hcontrol hstop =>
      obtain ⟨_, _, _, _, hsending, hsame⟩ := (rt.enqueueControl_taken r).same
      exact ⟨hsending, hsame, fun h => absurd (hstop.symm.trans h) Bool.false_ne_true⟩
  | queued hcategory hstop hroom =>
      refine ⟨?_, ?_, fun h => absurd (hstop.symm.trans h) Bool.false_ne_true⟩
      · cases r.category <;> rfl
      · cases r.category <;> rfl

/-- **Step**: the program points. -/
theorem shaped_step (h : d.Shaped) (hs : Dispatched d e d') : d'.Shaped := by
  obtain ⟨hholding, hidle, hended⟩ := h
  have hsubmit : ∀ r, (d.rt.enqueue r).2.sending.isSome = d.worker.holds ∧
      (d.worker = .terminated → (d.rt.enqueue r).2.stopRequested = true ∧
        (d.rt.enqueue r).2.allQueuesEmpty = true) := by
    intro r
    obtain ⟨hsending, hstop, hqueues⟩ := (d.rt.enqueue_enqueued r).same
    refine ⟨by rw [hsending, hholding], fun hw => ?_⟩
    obtain ⟨hstopped, hempty⟩ := hended hw
    exact ⟨hstop.trans hstopped, (hqueues hstopped).trans hempty⟩
  cases hs with
  | accepted r h => exact ⟨(hsubmit r).1, hidle, (hsubmit r).2⟩
  | rejected r h => exact ⟨(hsubmit r).1, hidle, (hsubmit r).2⟩
  | completeDropped r h => exact ⟨hholding, hidle, hended⟩
  | running h => exact ⟨hholding, hidle, hended⟩
  | start h =>
      refine ⟨?_, fun h => absurd h Bool.false_ne_true.symm, fun h => WorkerPoint.noConfusion h⟩
      rcases hidle h with hw | hw
      · rw [hw] at hholding
        exact hholding
      · rw [hw] at hholding
        exact hholding
  | requestStop => exact ⟨hholding, hidle, fun hw => ⟨rfl, (hended hw).2⟩⟩
  | joined h =>
      refine ⟨?_, fun _ => h, hended⟩
      rcases h with hw | hw
      · rw [hw]
        rfl
      · rw [hw]
        rfl
  | take r rt hw h =>
      exact ⟨rfl, fun h => by simpa [hw] using hidle h, fun h => WorkerPoint.noConfusion h⟩
  | exit hw hstop hempty =>
      rw [hw] at hholding
      exact ⟨hholding, fun _ => .inr rfl, fun _ => ⟨hstop, hempty⟩⟩
  | send result hw =>
      rw [hw] at hholding
      exact ⟨hholding, fun h => by simpa [hw] using hidle h, fun h => WorkerPoint.noConfusion h⟩
  | complete result hw =>
      rw [hw] at hholding
      exact ⟨hholding, fun h => by simpa [hw] using hidle h, fun h => WorkerPoint.noConfusion h⟩
  | count result r hw hr =>
      exact ⟨rfl, fun h => by simpa [hw] using hidle h, fun h => WorkerPoint.noConfusion h⟩
  | rest c hw =>
      rw [hw] at hholding
      exact ⟨hholding, fun h => by simpa [hw] using hidle h, fun h => WorkerPoint.noConfusion h⟩
  | pause c hw =>
      rw [hw] at hholding
      exact ⟨hholding, fun h => by simpa [hw] using hidle h, fun h => WorkerPoint.noConfusion h⟩
  | burst r q hw h =>
      refine ⟨rfl, fun h => ?_, fun h => WorkerPoint.noConfusion h⟩
      rcases hw with ⟨c, hw⟩ | hw
      · simpa [hw] using hidle h
      · simpa [hw] using hidle h

/-! ## the counters -/

/-- The invariant of the counters. -/
structure Dispatcher.Conserving (options : RuntimeOptions) (d : Dispatcher) : Prop where
  shaped : d.Shaped
  options : d.rt.options = options
  within : d.rt.WithinDepth
  conserved : d.rt.Conserved

/-- **Step**: the counters. -/
theorem conserving_step {options : RuntimeOptions} (hdepth : 0 < options.maxControlQueueDepth)
    (h : d.Conserving options) (hs : Dispatched d e d') : d'.Conserving options := by
  have hshaped := shaped_step h.shaped hs
  obtain ⟨⟨hholding, _, _⟩, rfl, hwithin, hconserved⟩ := h
  have hsubmit : ∀ r, (d.rt.enqueue r).2.options = d.rt.options ∧
      (d.rt.enqueue r).2.WithinDepth ∧ (d.rt.enqueue r).2.Conserved := by
    intro r
    have henqueued := d.rt.enqueue_enqueued r
    obtain ⟨hoptions, hdepths⟩ := henqueued.withinDepth hdepth hwithin
    exact ⟨hoptions, hdepths, henqueued.conserved hdepth hconserved⟩
  have hfree : d.worker.holds = false → d.rt.sending = none := by
    intro hw
    rw [hw] at hholding
    simpa using hholding
  have hrest : d'.rt.options = d.rt.options ∧ d'.rt.WithinDepth ∧ d'.rt.Conserved := by
    cases hs with
    | accepted r h => exact hsubmit r
    | rejected r h => exact hsubmit r
    | completeDropped r h => exact ⟨rfl, hwithin, hconserved⟩
    | running h => exact ⟨rfl, hwithin, hconserved⟩
    | start h => exact ⟨rfl, ⟨hwithin.1, hwithin.2, hwithin.3, hwithin.4⟩, hconserved⟩
    | requestStop => exact ⟨rfl, ⟨hwithin.1, hwithin.2, hwithin.3, hwithin.4⟩, hconserved⟩
    | joined h =>
        have hnone : d.rt.sending = none := by
          rcases h with hw | hw
          · exact hfree (by rw [hw]; rfl)
          · exact hfree (by rw [hw]; rfl)
        rw [DeviceRuntime.Conserved, hnone] at hconserved
        exact ⟨rfl, ⟨hwithin.1, hwithin.2, hwithin.3, hwithin.4⟩, hconserved⟩
    | take r rt hw h =>
        obtain ⟨hoptions, hdepths⟩ := h.withinDepth hwithin
        have hnone := hfree (by rw [hw]; rfl)
        exact ⟨hoptions, ⟨hdepths.1, hdepths.2, hdepths.3, hdepths.4⟩, h.conserved hnone hconserved⟩
    | exit hw hstop hempty => exact ⟨rfl, hwithin, hconserved⟩
    | send result hw => exact ⟨rfl, hwithin, hconserved⟩
    | complete result hw => exact ⟨rfl, hwithin, hconserved⟩
    | count result r hw hr =>
        exact ⟨rfl, ⟨hwithin.1, hwithin.2, hwithin.3, hwithin.4⟩,
          DeviceRuntime.conserved_noteSendResult result hr hconserved⟩
    | rest c hw => exact ⟨rfl, hwithin, hconserved⟩
    | pause c hw => exact ⟨rfl, hwithin, hconserved⟩
    | burst r q hw h =>
        have hnone : d.rt.sending = none := by
          rcases hw with ⟨c, hw⟩ | hw
          · exact hfree (by rw [hw]; rfl)
          · exact hfree (by rw [hw]; rfl)
        have hpopped := DeviceRuntime.Popped.control r q h
        obtain ⟨hoptions, hdepths⟩ := hpopped.withinDepth hwithin
        exact ⟨hoptions, ⟨hdepths.1, hdepths.2, hdepths.3, hdepths.4⟩,
          hpopped.conserved hnone hconserved⟩
  exact ⟨hshaped, hrest.1, hrest.2.1, hrest.2.2⟩

/-! ## the frames -/

/-- What the worker has taken and not handed to the transport yet. -/
def Dispatcher.unsent (d : Dispatcher) : List Request :=
  if d.worker = .popped then d.rt.sending.toList else []

/-- Every accepted request was handed to the transport, is on the way to it, or was
discarded. -/
def Accounted (w : Dispatcher × DispatchLog) : Prop :=
  w.2.accepted.Perm (w.2.handed ++ w.1.unsent ++ w.1.rt.queued ++ w.2.discarded)

/-- What is noted of an accepted request. -/
theorem note_accepted {r : Request} (log : DispatchLog) (h : (d.rt.enqueue r).1 = true) :
    ((DispatchEvent.submit r).note d log).accepted = log.accepted ++ [r] ∧
      ((DispatchEvent.submit r).note d log).discarded = log.discarded ++ d.rt.discardedBy r ∧
      ((DispatchEvent.submit r).note d log).rejected = log.rejected ∧
      ((DispatchEvent.submit r).note d log).handed = log.handed ∧
      ((DispatchEvent.submit r).note d log).calls = log.calls := by
  rw [DispatchEvent.note, h, DeviceRuntime.discardedBy, Bool.not_true, if_neg Bool.false_ne_true]
  split
  · exact ⟨rfl, rfl, rfl, rfl, rfl⟩
  · exact ⟨rfl, (List.append_nil _).symm, rfl, rfl, rfl⟩

/-- Nothing is noted of a rejected one. -/
theorem note_rejected {r : Request} (log : DispatchLog) (h : (d.rt.enqueue r).1 = false) :
    (DispatchEvent.submit r).note d log = log := by
  rw [DispatchEvent.note, h, Bool.not_false, if_pos rfl]

theorem unsent_eq_nil (h : d.worker ≠ .popped) : d.unsent = [] := by
  rw [Dispatcher.unsent, if_neg h]

/-- **Step**: the frames. -/
theorem accounted_step {log : DispatchLog} (hshaped : d.Shaped) (h : Accounted (d, log))
    (hd : Dispatched d e d') : Accounted (d', e.note d log) := by
  have h : log.accepted.Perm (log.handed ++ d.unsent ++ d.rt.queued ++ log.discarded) := h
  -- the steps that move no request
  have hsame : ∀ d' : Dispatcher, d'.unsent = d.unsent → d'.rt.queued = d.rt.queued →
      log.accepted.Perm (log.handed ++ d'.unsent ++ d'.rt.queued ++ log.discarded) := by
    intro d' hunsent hqueued
    rw [hunsent, hqueued]
    exact h
  have hidle : ∀ d' : Dispatcher, d.worker ≠ .popped → d'.worker ≠ .popped →
      d'.rt.queued = d.rt.queued →
      log.accepted.Perm (log.handed ++ d'.unsent ++ d'.rt.queued ++ log.discarded) :=
    fun d' hw hw' => hsame d' ((unsent_eq_nil hw').trans (unsent_eq_nil hw).symm)
  -- the worker takes a request
  have htaken : ∀ r rt, d.worker ≠ .popped → d.rt.Popped r rt →
      log.accepted.Perm (log.handed ++ [r] ++ rt.queued ++ log.discarded) := by
    intro r rt hw hpopped
    rw [unsent_eq_nil hw, hpopped.queued_eq, List.append_nil] at h
    rw [List.append_assoc log.handed, List.singleton_append]
    exact h
  cases hd with
  | accepted r haccepted =>
      obtain ⟨hin, hout, _, hhanded, _⟩ := note_accepted log haccepted
      have hperm := (DeviceRuntime.enqueued_of_eq haccepted).perm
      have hunsent : ({ d with rt := (d.rt.enqueue r).2 } : Dispatcher).unsent = d.unsent := by
        rw [Dispatcher.unsent, Dispatcher.unsent, (d.rt.enqueue_enqueued r).same.1]
      rw [Accounted, hin, hout, hhanded, hunsent]
      rw [List.perm_iff_count] at hperm h ⊢
      intro x
      have hx := hperm x
      have hy := h x
      simp only [List.count_append] at hx hy ⊢
      omega
  | rejected r hrejected =>
      rw [Accounted, note_rejected log hrejected]
      have henqueued := d.rt.enqueue_enqueued r
      refine hsame _ ?_ ?_
      · rw [Dispatcher.unsent, Dispatcher.unsent, henqueued.same.1]
      · have henqueued := DeviceRuntime.enqueued_of_eq hrejected
        generalize (d.rt.enqueue r).2 = rt at henqueued
        cases henqueued with
        | rejected => cases r.category <;> rfl
  | completeDropped r hr => exact hsame _ rfl rfl
  | running hstarted => exact h
  | start hstarted =>
      refine hidle _ ?_ (by simp) rfl
      rcases hshaped.idle hstarted with hw | hw <;> simp [hw]
  | requestStop => exact hsame _ rfl rfl
  | joined hw =>
      have hne : d.worker ≠ .popped := by rcases hw with hw | hw <;> simp [hw]
      exact hidle _ hne hne rfl
  | take r rt hw hpopped => exact htaken r rt (by simp [hw]) hpopped
  | exit hw hstop hempty => exact hidle _ (by simp [hw]) (by simp) rfl
  | send result hw =>
      have hunsent : d.unsent = d.rt.sending.toList := by rw [Dispatcher.unsent, if_pos hw]
      show log.accepted.Perm (log.handed ++ d.rt.sending.toList ++ [] ++ d.rt.queued ++ log.discarded)
      rw [List.append_nil, ← hunsent]
      exact h
  | complete result hw => exact hidle _ (by simp [hw]) (by simp) rfl
  | count result r hw hr => exact hidle _ (by simp [hw]) (by simp) rfl
  | rest c hw => exact hidle _ (by simp [hw]) (by simp) rfl
  | pause c hw => exact hidle _ (by simp [hw]) (by simp) rfl
  | burst r q hw hq =>
      refine htaken r { d.rt with controlQueue := q } ?_ (.control r q hq)
      rcases hw with ⟨c, hw⟩ | hw <;> simp [hw]

/-! ## the completions -/

/-- The completion the worker has still to call for a frame it has handed over. -/
def Dispatcher.untold (d : Dispatcher) : List (Request × Bool) :=
  match d.worker with
  | .sent _ => d.rt.sending.toList.flatMap (completionCall true)
  | _ => []

/-- Completions were called, or are about to be, for what was handed over and for what was
rejected. -/
def Told (w : Dispatcher × DispatchLog) : Prop :=
  (w.2.calls ++ w.1.untold).Perm
    (w.2.handed.flatMap (completionCall true) ++ w.2.rejected.flatMap (completionCall false))

theorem untold_eq_nil (h : ∀ result, d.worker ≠ .sent result) : d.untold = [] := by
  rw [Dispatcher.untold]
  split
  · next result hw => exact absurd hw (h result)
  · rfl

/-- **Step**: the completions. -/
theorem told_step {log : DispatchLog} (hshaped : d.Shaped) (h : Told (d, log)) (hd : Dispatched d e d') :
    Told (d', e.note d log) := by
  have h : (log.calls ++ d.untold).Perm (log.handed.flatMap (completionCall true) ++
    log.rejected.flatMap (completionCall false)) := h
  -- the steps that hand nothing over and call nothing
  have hsame : ∀ d' : Dispatcher, d'.untold = d.untold → Told (d', log) := by
    intro d' huntold
    rw [Told, huntold]
    exact h
  have hidle : ∀ d' : Dispatcher, (∀ result, d.worker ≠ .sent result) →
      (∀ result, d'.worker ≠ .sent result) → Told (d', log) :=
    fun d' hw hw' => hsame d' ((untold_eq_nil hw').trans (untold_eq_nil hw).symm)
  have hsubmit : ∀ (r : Request) (dropping : List Request),
      ({ d with rt := (d.rt.enqueue r).2, dropping } : Dispatcher).untold = d.untold := by
    intro r dropping
    rw [Dispatcher.untold, Dispatcher.untold, (d.rt.enqueue_enqueued r).same.1]
  cases hd with
  | accepted r haccepted =>
      obtain ⟨_, _, hrejected, hhanded, hcalls⟩ := note_accepted log haccepted
      rw [Told, hrejected, hhanded, hcalls, hsubmit r d.dropping]
      exact h
  | rejected r hrejected =>
      rw [note_rejected log hrejected]
      exact hsame _ (hsubmit r _)
  | completeDropped r hr =>
      have huntold : ({ d with dropping := d.dropping.erase r } : Dispatcher).untold = d.untold := rfl
      rw [Told, huntold, DispatchEvent.note]
      rw [List.perm_iff_count] at h ⊢
      intro x
      have hx := h x
      simp only [List.count_append, List.flatMap_append, List.flatMap_cons, List.flatMap_nil,
        List.append_nil] at hx ⊢
      omega
  | running hstarted => exact h
  | start hstarted =>
      refine hidle _ ?_ (by simp)
      rcases hshaped.idle hstarted with hw | hw <;> simp [hw]
  | requestStop => exact hsame _ rfl
  | joined hw =>
      have hne : ∀ result, d.worker ≠ .sent result := by rcases hw with hw | hw <;> simp [hw]
      exact hidle _ hne hne
  | take r rt hw hpopped => exact hidle _ (by simp [hw]) (by simp)
  | exit hw hstop hempty => exact hidle _ (by simp [hw]) (by simp)
  | send result hw =>
      have huntold : d.untold = [] := untold_eq_nil (by simp [hw])
      rw [huntold, List.append_nil] at h
      show (log.calls ++ d.rt.sending.toList.flatMap (completionCall true)).Perm
        ((log.handed ++ d.rt.sending.toList).flatMap (completionCall true) ++
          log.rejected.flatMap (completionCall false))
      rw [List.perm_iff_count] at h ⊢
      intro x
      have hx := h x
      simp only [List.count_append, List.flatMap_append] at hx ⊢
      omega
  | complete result hw =>
      have huntold : d.untold = d.rt.sending.toList.flatMap (completionCall true) := by
        rw [Dispatcher.untold, hw]
      rw [huntold] at h
      show ((log.calls ++ d.rt.sending.toList.flatMap (completionCall true)) ++ []).Perm _
      rw [List.append_nil]
      exact h
  | count result r hw hr => exact hidle _ (by simp [hw]) (by simp)
  | rest c hw => exact hidle _ (by simp [hw]) (by simp)
  | pause c hw => exact hidle _ (by simp [hw]) (by simp)
  | burst r q hw hq => exact hidle _ (by rcases hw with ⟨c, hw⟩ | hw <;> simp [hw]) (by simp)

/-! ## runs -/

/-- The invariants of the log in every state that is reached. -/
structure LogRight (w : Dispatcher × DispatchLog) : Prop where
  shaped : w.1.Shaped
  accounted : Accounted w
  told : Told w

/-- **Run**: the log is right in every state that is reached. -/
theorem logRight_reached {options : RuntimeOptions} {w : Dispatcher × DispatchLog}
    (hr : DispatchReached options w) : LogRight w := by
  have hstart : LogRight ({ rt := { options } }, {}) :=
    ⟨⟨rfl, fun _ => .inl rfl, fun h => WorkerPoint.noConfusion h⟩, .refl _, .refl _⟩
  refine Reach.invariant (I := LogRight) hstart (fun w e w' h _ hs => ?_) hr
  obtain ⟨d', log'⟩ := w'
  obtain ⟨hd, hlog⟩ := dispatched_of_step hs
  have hlog : log' = e.note w.1 w.2 := hlog
  subst hlog
  exact ⟨shaped_step h.shaped hd, accounted_step h.shaped h.accounted hd,
    told_step h.shaped h.told hd⟩

/-- Where the worker has ended, every accepted frame was handed over or discarded. -/
theorem perm_of_terminated {w : Dispatcher × DispatchLog} (h : LogRight w)
    (hw : w.1.worker = .terminated) : w.2.accepted.Perm (w.2.handed ++ w.2.discarded) := by
  have hperm := h.accounted
  obtain ⟨hcontrol, hrecover, hconfig, hquery⟩ :=
    DeviceRuntime.allQueuesEmpty_iff.1 (h.shaped.ended hw).2
  rw [Accounted, unsent_eq_nil (by simp [hw]), DeviceRuntime.queued, hcontrol, hrecover, hconfig,
    hquery] at hperm
  simpa using hperm

/-- **Conservation**: in every state that is reached, the accepted requests are those whose
result was counted, those counted as evicted, those waiting and the one in the hands of the
worker; no queue is longer than it may be; and when `shutdown` returns after a start, every
accepted frame that was not evicted has been handed to the transport exactly once. -/
theorem dispatcher_conserved (options : RuntimeOptions)
    (hdepth : 0 < options.maxControlQueueDepth) (w : Dispatcher × DispatchLog)
    (hr : DispatchReached options w) :
    w.1.rt.counters.submitted =
        w.1.rt.counters.sent + w.1.rt.counters.sendBackpressure + w.1.rt.counters.sendLinkDown +
          w.1.rt.counters.sendError + w.1.rt.counters.evictedControl + w.1.rt.pendingTotal +
          (if w.1.worker.holds then 1 else 0) ∧
      (w.1.rt.options = options ∧ w.1.rt.WithinDepth) ∧
      ∀ w', DispatchStep w .joined w' → w.1.worker ≠ .absent →
        w'.2.accepted.Perm (w'.2.handed ++ w'.2.discarded) := by
  have hstart : Dispatcher.Conserving options { rt := { options } } :=
    ⟨⟨rfl, fun _ => .inl rfl, fun h => WorkerPoint.noConfusion h⟩, rfl,
      ⟨Nat.zero_le _, Nat.zero_le _, Nat.zero_le _, Nat.zero_le _⟩, rfl⟩
  have hinv : w.1.Conserving options :=
    Reach.invariant (I := fun w => w.1.Conserving options) hstart
      (fun _ _ _ h _ hs => conserving_step hdepth h (dispatched_of_step hs).1) hr
  refine ⟨?_, ⟨hinv.options, hinv.within⟩, fun w' hs hstarted => ?_⟩
  · have hcounts := hinv.conserved
    rw [DeviceRuntime.Conserved] at hcounts
    rw [hcounts, ← hinv.shaped.holding]
    cases w.1.rt.sending <;> rfl
  · obtain ⟨hd, hlog⟩ := dispatched_of_step hs
    generalize hd' : w'.1 = d' at hd
    cases hd with
    | joined hw =>
        rw [hlog]
        exact perm_of_terminated (logRight_reached hr) (hw.resolve_left hstarted)

/-- The submitted requests are completed: each was handed to the transport, rejected or
discarded, and the completion of each was called exactly once, with what became of it. -/
structure Completed (log : DispatchLog) : Prop where
  submitted : (log.accepted ++ log.rejected).Perm (log.handed ++ (log.rejected ++ log.discarded))
  called : log.calls.Perm (log.handed.flatMap (completionCall true) ++
    (log.rejected ++ log.discarded).flatMap (completionCall false))

/-- Requests without a completion have none to be called. -/
theorem flatMap_completionCall_eq_nil (attempted : Bool) {requests : List Request} :
    requests.flatMap (completionCall attempted) = [] ↔ ∀ r ∈ requests, r.completion = none := by
  rw [List.flatMap_eq_nil_iff]
  refine forall_congr' fun r => imp_congr_right fun _ => ?_
  rw [completionCall]
  cases r.completion <;> simp

/-- A control frame for the node 1. -/
def controlRequest (completion : Option Completion) : Request where
  frame := ⟨1, false, false, 8, Vector.replicate 8 0⟩
  category := .control
  source := .eyouSendWriteCommand
  completion := completion

/-- A query of the node 1. -/
def queryRequest : Request where
  frame := ⟨1, false, false, 8, Vector.replicate 8 0⟩
  category := .query
  source := .eyouSendReadCommand
  completion := some (.eyouRead 1 0)

/-- The worker sends one frame and goes back to its queues. -/
def sendOne : List DispatchEvent := [.take, .send .ok, .complete, .count, .rest]

/-- A control frame and a query are both sent before the worker ends. -/
theorem both_sent_conserved :
    ∃ w w', DispatchReached {} w ∧ DispatchStep w .joined w' ∧ w.1.rt.counters.submitted = 2 ∧
      w'.2.handed = [controlRequest none, queryRequest] ∧
      w'.2.accepted.Perm (w'.2.handed ++ w'.2.discarded) := by
  obtain ⟨w, hr, htest⟩ := exists_dispatched {}
    ([.start, .submit queryRequest, .submit (controlRequest none)] ++ sendOne ++ sendOne ++
      [.requestStop, .exit])
    (fun w => w.1.worker != .absent && (w.1.rt.counters.submitted == 2 &&
      (DispatchEvent.joined.step w).any fun w' =>
        w'.2.handed == [controlRequest none, queryRequest])) (by decide +kernel)
  rw [Bool.and_eq_true, Bool.and_eq_true, bne_iff_ne, beq_iff_eq] at htest
  obtain ⟨hstarted, hsubmitted, hjoined⟩ := htest
  obtain ⟨w', hstep, hhanded⟩ := (Option.any_eq_true _ _).1 hjoined
  have hconserved := dispatcher_conserved {} (by decide) w hr
  exact ⟨w, w', hr, hstep, hsubmitted, eq_of_beq hhanded, hconserved.2.2 w' hstep hstarted⟩

end CanDriver
