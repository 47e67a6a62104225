import CanDriver.Dispatch.Accounting

/-!
# CanDriver.Dispatch.Order

In which order a dispatcher sends what it accepts.

The frames handed over, the one in the hands of the worker and the queues one after another
form a single line, which taking and sending a request leave as it is.  Of a category other
than control, this line is what was accepted; of the control frames with one CAN id, it is a
part of it that ends with the last one, unless that one overflowed (`dispatcher_ordered`).
-/

namespace CanDriver

open Interact

/-! ## the line -/

/-- The requests of a category. -/
def ofCategory (c : Category) (requests : List Request) : List Request :=
  requests.filter fun r => r.category = c

/-- The control frames with a CAN id. -/
def controlOf (id : UInt32) (requests : List Request) : List Request :=
  requests.filter fun r => r.category = .control && r.frame.id = id

/-- What was handed over and what is on the way. -/
def line (w : Dispatcher × DispatchLog) : List Request :=
  w.2.handed ++ w.1.unsent ++ w.1.rt.queued

@[simp] theorem ofCategory_append (c : Category) (a b : List Request) :
    ofCategory c (a ++ b) = ofCategory c a ++ ofCategory c b :=
  List.filter_append a b

@[simp] theorem controlOf_append (id : UInt32) (a b : List Request) :
    controlOf id (a ++ b) = controlOf id a ++ controlOf id b :=
  List.filter_append a b

theorem ofCategory_eq_nil {c : Category} {requests : List Request}
    (h : ∀ r ∈ requests, r.category ≠ c) : ofCategory c requests = [] := by
  rw [ofCategory, List.filter_eq_nil_iff]
  intro r hr
  simpa using h r hr

theorem controlOf_eq_nil {id : UInt32} {requests : List Request}
    (h : ∀ r ∈ requests, r.category = .control → r.frame.id ≠ id) : controlOf id requests = [] := by
  rw [controlOf, List.filter_eq_nil_iff]
  intro r hr
  simpa using h r hr

theorem ofCategory_singleton (c : Category) (r : Request) :
    ofCategory c [r] = if r.category = c then [r] else [] := by
  simp [ofCategory, List.filter_cons]

theorem controlOf_singleton (id : UInt32) {r : Request} (h : r.category = .control) :
    controlOf id [r] = if r.frame.id = id then [r] else [] := by
  simp [controlOf, List.filter_cons, h]

/-! ## the queues -/

namespace DeviceRuntime

variable {rt rt' : DeviceRuntime} {r : Request}

/-- Every queue holds requests of its own category, and the control queue none twice. -/
structure Sorted (rt : DeviceRuntime) : Prop where
  control : ∀ r ∈ rt.controlQueue, r.category = .control
  recover : ∀ r ∈ rt.recoverQueue, r.category = .recover
  config : ∀ r ∈ rt.configQueue, r.category = .config
  query : ∀ r ∈ rt.queryQueue, r.category = .query
  distinct : rt.ControlIdsDistinct

/-- The control frames with a CAN id are all in the control queue. -/
theorem Sorted.controlOf_queued (h : rt.Sorted) (id : UInt32) :
    controlOf id rt.queued = controlOf id rt.controlQueue := by
  have hrecover : controlOf id rt.recoverQueue = [] :=
    controlOf_eq_nil fun r hr hc => by simp [h.recover r hr] at hc
  have hconfig : controlOf id rt.configQueue = [] :=
    controlOf_eq_nil fun r hr hc => by simp [h.config r hr] at hc
  have hquery : controlOf id rt.queryQueue = [] :=
    controlOf_eq_nil fun r hr hc => by simp [h.query r hr] at hc
  simp [queued, hrecover, hconfig, hquery]

/-- The requests of another category are all in its queue. -/
theorem Sorted.ofCategory_queued (h : rt.Sorted) {c : Category} (hc : c ≠ .control) :
    ofCategory c rt.queued = rt.queueFor c := by
  have hin : ∀ (c' : Category) (q : List Request), (∀ r ∈ q, r.category = c') →
      ofCategory c q = if c' = c then q else [] := by
    intro c' q hq
    split
    · next heq =>
      rw [ofCategory, List.filter_eq_self]
      intro r hr
      simp [hq r hr, heq]
    · next hne => exact ofCategory_eq_nil fun r hr heq => hne ((hq r hr).symm.trans heq)
  simp only [queued, ofCategory_append, hin _ _ h.control, hin _ _ h.recover, hin _ _ h.config,
    hin _ _ h.query]
  cases c with
  | control => exact absurd rfl hc
  | recover => simp [queueFor]
  | config => simp [queueFor]
  | query => simp [queueFor]

/-- Of a CAN id there is at most one frame in the control queue. -/
theorem Sorted.controlOf_split (h : rt.Sorted) {front back : List Request} {old : Request}
    (hq : rt.controlQueue = front ++ old :: back) :
    controlOf old.frame.id front = [] ∧ controlOf old.frame.id back = [] := by
  have hdistinct := h.distinct
  rw [ControlIdsDistinct, hq, List.map_append, List.map_cons, List.nodup_middle,
    List.nodup_cons] at hdistinct
  have hnone : ∀ x ∈ front ++ back, x.frame.id ≠ old.frame.id := by
    intro x hx heq
    refine hdistinct.1 ?_
    rw [← List.map_append, ← heq]
    exact List.mem_map_of_mem hx
  constructor
  · exact controlOf_eq_nil fun x hx _ => hnone x (List.mem_append_left back hx)
  · exact controlOf_eq_nil fun x hx _ => hnone x (List.mem_append_right front hx)

/-- A queued control frame keeps the queues sorted. -/
theorem ControlTaken.sorted (h : rt.ControlTaken r rt') (hr : r.category = .control)
    (hrt : rt.Sorted) : rt'.Sorted := by
  obtain ⟨_, hrecover, hconfig, hquery, _⟩ := h.same
  refine ⟨?_, hrecover ▸ hrt.recover, hconfig ▸ hrt.config, hquery ▸ hrt.query, ?_⟩
  · have hcontrol := hrt.control
    cases h with
    | replaced front back old hq hid hdiscarded hoverflow =>
        rw [hq] at hcontrol
        intro x hx
        rcases List.mem_append.1 hx with hx | hx
        · exact hcontrol x (List.mem_append_left _ hx)
        · rcases List.mem_cons.1 hx with rfl | hx
          · exact hr
          · exact hcontrol x (List.mem_append_right _ (List.mem_cons_of_mem _ hx))
    | evicted hid hfull hdiscarded hoverflow =>
        intro x hx
        rcases List.mem_append.1 hx with hx | hx
        · exact hcontrol x (List.mem_of_mem_tail hx)
        · rw [List.mem_singleton.1 hx]
          exact hr
    | added hid hroom hdiscarded hoverflow =>
        intro x hx
        rcases List.mem_append.1 hx with hx | hx
        · exact hcontrol x hx
        · rw [List.mem_singleton.1 hx]
          exact hr
  · have hdistinct := hrt.distinct
    rw [ControlIdsDistinct] at hdistinct ⊢
    cases h with
    | replaced front back old hq hid hdiscarded hoverflow =>
        rw [hq] at hdistinct
        have hqueued : ControlQueued 0 r (front ++ old :: back) (front ++ r :: back) :=
          .replaced front back old hid
        exact hqueued.ids_nodup hdistinct
    | evicted hid hfull hdiscarded hoverflow =>
        exact (ControlQueued.evicted _ hid hfull).ids_nodup hdistinct
    | added hid hroom hdiscarded hoverflow => exact ids_nodup_concat hdistinct hid

/-- Of the CAN id of a queued control frame, it is the only one in the queue. -/
theorem ControlTaken.controlOf_self (h : rt.ControlTaken r rt') (hr : r.category = .control)
    (hrt : rt.Sorted) : controlOf r.frame.id rt'.controlQueue = [r] := by
  have hself : controlOf r.frame.id [r] = [r] := by simp [controlOf_singleton _ hr]
  have hnone : ∀ q : List Request, (∀ x ∈ q, x.frame.id ≠ r.frame.id) →
      controlOf r.frame.id (q ++ [r]) = [r] := by
    intro q hq
    rw [controlOf_append, controlOf_eq_nil fun x hx _ => hq x hx, hself, List.nil_append]
  cases h with
  | replaced front back old hq hid hdiscarded hoverflow =>
      obtain ⟨hfront, hback⟩ := hrt.controlOf_split hq
      rw [hid] at hfront hback
      have hsplit : front ++ r :: back = front ++ [r] ++ back := by simp
      rw [hsplit, controlOf_append, controlOf_append, hfront, hback, hself]
      rfl
  | evicted hid hfull hdiscarded hoverflow =>
      exact hnone _ fun x hx => hid x (List.mem_of_mem_tail hx)
  | added hid hroom hdiscarded hoverflow => exact hnone _ hid

/-- Of another CAN id the queue keeps what it has, unless that overflows. -/
theorem ControlTaken.controlOf_other (h : rt.ControlTaken r rt') {id : UInt32}
    (hne : r.frame.id ≠ id) :
    (controlOf id rt'.controlQueue).Sublist (controlOf id rt.controlQueue) ∧
      ((rt.overflow r).any (fun old => old.frame.id = id) = false →
        controlOf id rt'.controlQueue = controlOf id rt.controlQueue) := by
  have hout : ∀ x : Request, x.frame.id ≠ id → controlOf id [x] = [] :=
    fun x hx => controlOf_eq_nil fun y hy _ => List.mem_singleton.1 hy ▸ hx
  cases h with
  | replaced front back old hq hid hdiscarded hoverflow =>
      have hsame : controlOf id (front ++ r :: back) = controlOf id rt.controlQueue := by
        rw [hq, ← List.singleton_append (x := r), ← List.singleton_append (x := old)]
        simp only [controlOf_append, hout r hne, hout old (hid ▸ hne)]
      exact ⟨hsame ▸ List.Sublist.refl _, fun _ => hsame⟩
  | evicted hid hfull hdiscarded hoverflow =>
      simp only [controlOf_append, hout r hne, List.append_nil]
      refine ⟨(List.tail_sublist _).filter _, fun hkept => ?_⟩
      cases hq : rt.controlQueue with
      | nil => rfl
      | cons old q =>
          rw [hoverflow, hq, List.head?_cons, Option.any_some, decide_eq_false_iff_not] at hkept
          rw [List.tail_cons, ← List.singleton_append (x := old), controlOf_append, hout old hkept,
            List.nil_append]
  | added hid hroom hdiscarded hoverflow =>
      have hsame : controlOf id (rt.controlQueue ++ [r]) = controlOf id rt.controlQueue := by
        rw [controlOf_append, hout r hne, List.append_nil]
      exact ⟨hsame ▸ List.Sublist.refl _, fun _ => hsame⟩

/-- A submission keeps the queues sorted. -/
theorem Enqueued.sorted {result : Bool × DeviceRuntime} (h : rt.Enqueued r result)
    (hrt : rt.Sorted) : result.2.Sorted := by
  obtain ⟨hc, hr, hf, hq, hd⟩ := hrt
  have hadd : ∀ {c : Category} {q : List Request}, (∀ x ∈ q, x.category = c) → r.category = c →
      ∀ x ∈ q ++ [r], x.category = c := by
    intro c q hall hcat x hx
    rcases List.mem_append.1 hx with hx | hx
    · exact hall x hx
    · rw [List.mem_singleton.1 hx]
      exact hcat
  cases h with
  | rejected => cases r.category <;> exact ⟨hc, hr, hf, hq, hd⟩
  | control hcontrol hstop =>
      have hsorted := (rt.enqueueControl_taken r).sorted hcontrol ⟨hc, hr, hf, hq, hd⟩
      exact ⟨hsorted.1, hsorted.2, hsorted.3, hsorted.4, hsorted.5⟩
  | queued hcategory hstop hroom =>
      cases hcat : r.category with
      | control => exact absurd hcat hcategory
      | recover => exact ⟨hc, hadd hr hcat, hf, hq, hd⟩
      | config => exact ⟨hc, hr, hadd hf hcat, hq, hd⟩
      | query => exact ⟨hc, hr, hf, hadd hq hcat, hd⟩

/-- Taking a request keeps them sorted. -/
theorem Popped.sorted (h : rt.Popped r rt') (hrt : rt.Sorted) : rt'.Sorted := by
  obtain ⟨hc, hr, hf, hq, hd⟩ := hrt
  have htail : ∀ {c : Category} {x : Request} {q q' : List Request},
      (∀ y ∈ q', y.category = c) → q' = x :: q → ∀ y ∈ q, y.category = c :=
    fun hall heq y hy => hall y (heq ▸ List.mem_cons_of_mem _ hy)
  cases h with
  | control q h =>
      refine ⟨htail hc h, hr, hf, hq, ?_⟩
      rw [ControlIdsDistinct, h, List.map_cons] at hd
      exact (List.nodup_cons.1 hd).2
  | recover q hcontrol h => exact ⟨hc, htail hr h, hf, hq, hd⟩
  | config q hcontrol hrecover h => exact ⟨hc, hr, htail hf h, hq, hd⟩
  | query q hcontrol hrecover hconfig h => exact ⟨hc, hr, hf, htail hq h, hd⟩

end DeviceRuntime

/-! ## steps -/

variable {d d' : Dispatcher} {e : DispatchEvent} {log : DispatchLog}

/-- A step other than a submission leaves the line as it is. -/
theorem line_same (hshaped : d.Shaped) (hd : Dispatched d e d') (he : ∀ r, e ≠ .submit r) :
    line (d', e.note d log) = line (d, log) := by
  have hidle : ∀ d' : Dispatcher, d.worker ≠ .popped → d'.worker ≠ .popped →
      d'.rt.queued = d.rt.queued → line (d', log) = line (d, log) := by
    intro d' hw hw' hqueued
    rw [line, line, hqueued, unsent_eq_nil hw, unsent_eq_nil hw']
  have htaken : ∀ r rt, d.worker ≠ .popped → d.rt.Popped r rt →
      log.handed ++ [r] ++ rt.queued = line (d, log) := by
    intro r rt hw hpopped
    rw [line, unsent_eq_nil hw, hpopped.queued_eq]
    simp
  cases hd with
  | accepted r h => exact absurd rfl (he r)
  | rejected r h => exact absurd rfl (he r)
  | completeDropped r hr => rfl
  | running hstarted => rfl
  | start hstarted =>
      refine hidle _ ?_ (by simp) rfl
      rcases hshaped.idle hstarted with hw | hw <;> simp [hw]
  | requestStop => rfl
  | joined hw =>
      have hne : d.worker ≠ .popped := by rcases hw with hw | hw <;> simp [hw]
      exact hidle _ hne hne rfl
  | take r rt hw hpopped => exact htaken r rt (by simp [hw]) hpopped
  | exit hw hstop hempty => exact hidle _ (by simp [hw]) (by simp) rfl
  | send result hw =>
      have hunsent : d.unsent = d.rt.sending.toList := by rw [Dispatcher.unsent, if_pos hw]
      show log.handed ++ d.rt.sending.toList ++ [] ++ d.rt.queued = _
      rw [List.append_nil, ← hunsent]
      rfl
  | complete result hw => exact hidle _ (by simp [hw]) (by simp) rfl
  | count result r hw hr => exact hidle _ (by simp [hw]) (by simp) rfl
  | rest c hw => exact hidle _ (by simp [hw]) (by simp) rfl
  | pause c hw => exact hidle _ (by simp [hw]) (by simp) rfl
  | burst r q hw hq =>
      refine htaken r { d.rt with controlQueue := q } ?_ (.control r q hq)
      rcases hw with ⟨c, hw⟩ | hw <;> simp [hw]

/-- It accepts nothing. -/
theorem accepted_same (d : Dispatcher) (log : DispatchLog) (he : ∀ r, e ≠ .submit r) :
    (e.note d log).accepted = log.accepted ∧ (e.note d log).overflowed = log.overflowed := by
  cases e with
  | submit r => exact absurd rfl (he r)
  | _ => exact ⟨rfl, rfl⟩

/-- It keeps the queues sorted. -/
theorem sorted_step (hd : Dispatched d e d') (h : d.rt.Sorted) : d'.rt.Sorted := by
  cases hd with
  | accepted r _ => exact (d.rt.enqueue_enqueued r).sorted h
  | rejected r _ => exact (d.rt.enqueue_enqueued r).sorted h
  | start _ => exact ⟨h.1, h.2, h.3, h.4, h.5⟩
  | requestStop => exact ⟨h.1, h.2, h.3, h.4, h.5⟩
  | joined _ => exact ⟨h.1, h.2, h.3, h.4, h.5⟩
  | take r rt hw hpopped =>
      have hsorted := hpopped.sorted h
      exact ⟨hsorted.1, hsorted.2, hsorted.3, hsorted.4, hsorted.5⟩
  | count result r hw hr => exact ⟨h.1, h.2, h.3, h.4, h.5⟩
  | burst r q hw hq =>
      have hsorted := (DeviceRuntime.Popped.control r q hq).sorted h
      exact ⟨hsorted.1, hsorted.2, hsorted.3, hsorted.4, hsorted.5⟩
  | _ => exact h

/-- What was sent, the queues and what was accepted: the requests of another category than
control are the same, the control frames with one CAN id are a part that ends alike, unless
the last one overflowed. -/
structure InOrder (rt : DeviceRuntime) (sent accepted : List Request)
    (overflowed : UInt32 → Bool) : Prop where
  sorted : rt.Sorted
  fifo : ∀ c, c ≠ .control → ofCategory c (sent ++ rt.queued) = ofCategory c accepted
  part : ∀ id, (controlOf id (sent ++ rt.queued)).Sublist (controlOf id accepted)
  last : ∀ id, overflowed id = false →
    (controlOf id (sent ++ rt.queued)).getLast? = (controlOf id accepted).getLast?

variable {rt : DeviceRuntime} {sent accepted : List Request} {overflowed : UInt32 → Bool}
  {r : Request}

/-- An accepted control frame is the last one of its CAN id. -/
theorem InOrder.control (h : InOrder rt sent accepted overflowed) (hcontrol : r.category = .control) :
    InOrder (rt.enqueueControl r).noteSubmitted sent (accepted ++ [r])
      (overflowedAfter rt r overflowed) := by
  have htaken := rt.enqueueControl_taken r
  have hsorted : (rt.enqueueControl r).noteSubmitted.Sorted := by
    have hsorted := htaken.sorted hcontrol h.sorted
    exact ⟨hsorted.1, hsorted.2, hsorted.3, hsorted.4, hsorted.5⟩
  have hline : ∀ id, controlOf id (sent ++ (rt.enqueueControl r).noteSubmitted.queued) =
      controlOf id sent ++ controlOf id (rt.enqueueControl r).controlQueue := by
    intro id
    rw [controlOf_append, hsorted.controlOf_queued]
    rfl
  have haccepted : ∀ id, controlOf id (accepted ++ [r]) =
      controlOf id accepted ++ if r.frame.id = id then [r] else [] := by
    intro id
    rw [controlOf_append, controlOf_singleton id hcontrol]
  have hself := htaken.controlOf_self hcontrol h.sorted
  refine ⟨hsorted, fun c hc => ?_, fun id => ?_, fun id hkept => ?_⟩
  · have hfifo := h.fifo c hc
    have hqueue : (rt.enqueueControl r).noteSubmitted.queueFor c = rt.queueFor c := by
      obtain ⟨_, hrecover, hconfig, hquery, _⟩ := htaken.same
      cases c with
      | control => exact absurd rfl hc
      | recover => exact hrecover
      | config => exact hconfig
      | query => exact hquery
    have hr : ofCategory c [r] = [] := by
      rw [ofCategory_singleton, if_neg (hcontrol ▸ hc.symm)]
    rw [ofCategory_append, h.sorted.ofCategory_queued hc] at hfifo
    rw [ofCategory_append, ofCategory_append, hsorted.ofCategory_queued hc, hqueue, hr,
      List.append_nil]
    exact hfifo
  · have hpart := h.part id
    rw [controlOf_append, h.sorted.controlOf_queued] at hpart
    rw [hline, haccepted]
    by_cases hid : r.frame.id = id
    · subst hid
      rw [if_pos rfl, hself]
      exact ((List.sublist_append_left _ _).trans hpart).append (List.Sublist.refl _)
    · rw [if_neg hid, List.append_nil]
      exact ((List.Sublist.refl _).append (htaken.controlOf_other hid).1).trans hpart
  · rw [hline, haccepted]
    by_cases hid : r.frame.id = id
    · subst hid
      rw [if_pos rfl, hself, List.getLast?_concat, List.getLast?_concat]
    · have hid' : ¬ id = r.frame.id := fun heq => hid heq.symm
      rw [overflowedAfter, if_neg hid', Bool.or_eq_false_iff] at hkept
      have hlast := h.last id hkept.1
      rw [controlOf_append, h.sorted.controlOf_queued] at hlast
      rw [if_neg hid, List.append_nil, (htaken.controlOf_other hid).2 hkept.2]
      exact hlast

/-- An accepted request of another category is the last one of its category. -/
theorem InOrder.queued (h : InOrder rt sent accepted overflowed) (hcategory : r.category ≠ .control)
    (hstop : rt.stopRequested = false)
    (hroom : (rt.queueFor r.category).length < rt.maxDepthFor r.category) :
    InOrder (rt.setQueue r.category (rt.queueFor r.category ++ [r])).noteSubmitted sent
      (accepted ++ [r]) overflowed := by
  have hsorted : (rt.setQueue r.category (rt.queueFor r.category ++ [r])).noteSubmitted.Sorted :=
    (DeviceRuntime.Enqueued.queued hcategory hstop hroom).sorted h.sorted
  have hcontrol : (rt.setQueue r.category
      (rt.queueFor r.category ++ [r])).noteSubmitted.controlQueue = rt.controlQueue := by
    cases hc : r.category with
    | control => exact absurd hc hcategory
    | _ => rfl
  have hnone : ∀ id, controlOf id [r] = [] := fun id =>
    controlOf_eq_nil fun x hx hc => absurd (List.mem_singleton.1 hx ▸ hc) hcategory
  have hline : ∀ id, controlOf id (sent ++ (rt.setQueue r.category
      (rt.queueFor r.category ++ [r])).noteSubmitted.queued) =
        controlOf id (sent ++ rt.queued) := by
    intro id
    rw [controlOf_append, controlOf_append, hsorted.controlOf_queued, h.sorted.controlOf_queued,
      hcontrol]
  refine ⟨hsorted, fun c hc => ?_, fun id => ?_, fun id hkept => ?_⟩
  · have hfifo := h.fifo c hc
    have hqueue : (rt.setQueue r.category
        (rt.queueFor r.category ++ [r])).noteSubmitted.queueFor c =
          rt.queueFor c ++ ofCategory c [r] := by
      rw [ofCategory_singleton]
      cases hcat : r.category <;> cases c <;>
        simp_all [DeviceRuntime.noteSubmitted, DeviceRuntime.setQueue, DeviceRuntime.queueFor]
    rw [ofCategory_append, h.sorted.ofCategory_queued hc] at hfifo
    rw [ofCategory_append, hsorted.ofCategory_queued hc, hqueue, ofCategory_append,
      ← List.append_assoc, hfifo]
  · rw [hline, controlOf_append id accepted, hnone, List.append_nil]
    exact h.part id
  · rw [hline, controlOf_append id accepted, hnone, List.append_nil]
    exact h.last id hkept

/-- What was sent, and the request that is being sent. -/
def sentBy (w : Dispatcher × DispatchLog) : List Request := w.2.handed ++ w.1.unsent

/-- The order in a state. -/
def Orderly (w : Dispatcher × DispatchLog) : Prop :=
  InOrder w.1.rt (sentBy w) w.2.accepted w.2.overflowed

/-- **Step**: the order. -/
theorem orderly_step (hshaped : d.Shaped) (h : Orderly (d, log)) (hd : Dispatched d e d') :
    Orderly (d', e.note d log) := by
  by_cases hsubmit : ∃ r, e = .submit r
  · obtain ⟨r, rfl⟩ := hsubmit
    have hsent : ∀ dropping, sentBy ({ d with rt := (d.rt.enqueue r).2, dropping },
        (DispatchEvent.submit r).note d log) = sentBy (d, log) := by
      intro dropping
      have hhanded : ((DispatchEvent.submit r).note d log).handed = log.handed := by
        cases haccepted : (d.rt.enqueue r).1 with
        | true => exact (note_accepted log haccepted).2.2.2.1
        | false => rw [note_rejected log haccepted]
      rw [sentBy, sentBy, hhanded, Dispatcher.unsent, Dispatcher.unsent,
        (d.rt.enqueue_enqueued r).same.1]
    cases hd with
    | accepted r haccepted =>
        rw [Orderly, hsent d.dropping]
        have henqueued := DeviceRuntime.enqueued_of_eq haccepted
        rw [DispatchEvent.note, haccepted, Bool.not_true, if_neg Bool.false_ne_true]
        generalize (d.rt.enqueue r).2 = rt at henqueued
        cases henqueued with
        | control hcontrol hstop =>
            rw [if_pos hcontrol]
            exact InOrder.control h hcontrol
        | queued hcategory hstop hroom =>
            rw [if_neg hcategory]
            exact InOrder.queued h hcategory hstop hroom
    | rejected r hrejected =>
        rw [Orderly, hsent (r :: d.dropping), note_rejected log hrejected]
        have henqueued := DeviceRuntime.enqueued_of_eq hrejected
        generalize (d.rt.enqueue r).2 = rt at henqueued
        have hsorted := henqueued.sorted h.sorted
        cases henqueued with
        | rejected =>
            have hqueued : (d.rt.noteDropped r.category).queued = d.rt.queued := by
              cases r.category <;> rfl
            refine ⟨hsorted, ?_, ?_, ?_⟩
            · rw [hqueued]
              exact h.fifo
            · rw [hqueued]
              exact h.part
            · rw [hqueued]
              exact h.last
  · have he : ∀ r, e ≠ .submit r := fun r heq => hsubmit ⟨r, heq⟩
    have hline : sentBy (d', e.note d log) ++ d'.rt.queued = sentBy (d, log) ++ d.rt.queued :=
      line_same hshaped hd he
    obtain ⟨haccepted, hoverflowed⟩ := accepted_same d log he
    refine ⟨sorted_step hd h.sorted, ?_, ?_, ?_⟩
    · rw [hline, haccepted]
      exact h.fifo
    · rw [hline, haccepted]
      exact h.part
    · rw [hline, haccepted, hoverflowed]
      exact h.last

/-- **Run**: the order in every state that is reached. -/
theorem orderly_reached {options : RuntimeOptions} {w : Dispatcher × DispatchLog}
    (hr : DispatchReached options w) : w.1.Shaped ∧ Orderly w := by
  have hstart : Orderly ({ rt := { options } }, {}) :=
    ⟨⟨fun _ h => absurd h List.not_mem_nil, fun _ h => absurd h List.not_mem_nil,
        fun _ h => absurd h List.not_mem_nil, fun _ h => absurd h List.not_mem_nil,
        List.nodup_nil⟩,
      fun _ _ => rfl, fun _ => List.Sublist.refl _, fun _ _ => rfl⟩
  refine Reach.invariant (I := fun w => w.1.Shaped ∧ Orderly w)
    ⟨⟨rfl, fun _ => .inl rfl, fun h => WorkerPoint.noConfusion h⟩, hstart⟩
    (fun w e w' h _ hs => ?_) hr
  obtain ⟨d', log'⟩ := w'
  obtain ⟨hd, hlog⟩ := dispatched_of_step hs
  have hlog : log' = e.note w.1 w.2 := hlog
  subst hlog
  exact ⟨shaped_step h.1 hd, orderly_step h.1 h.2 hd⟩

/-- A request is taken in order: no request of a higher category is waiting. -/
def TakenInOrder (rt : DeviceRuntime) (r : Request) : Prop :=
  (r.category ≠ .control → rt.controlQueue = []) ∧
    (r.category = .config ∨ r.category = .query → rt.recoverQueue = []) ∧
    (r.category = .query → rt.configQueue = [])

/-- What is taken is taken in order. -/
theorem DeviceRuntime.Popped.takenInOrder {rt rt' : DeviceRuntime} {r : Request}
    (h : rt.Popped r rt') (hrt : rt.Sorted) : TakenInOrder rt r := by
  cases h with
  | control q hq =>
      have hr := hrt.control r (hq ▸ List.mem_cons_self)
      refine ⟨fun hne => absurd hr hne, fun heq => ?_, fun heq => ?_⟩
      · simp [hr] at heq
      · simp [hr] at heq
  | recover q hcontrol hq =>
      have hr := hrt.recover r (hq ▸ List.mem_cons_self)
      refine ⟨fun _ => hcontrol, fun heq => ?_, fun heq => ?_⟩
      · simp [hr] at heq
      · simp [hr] at heq
  | config q hcontrol hrecover hq =>
      have hr := hrt.config r (hq ▸ List.mem_cons_self)
      refine ⟨fun _ => hcontrol, fun _ => hrecover, fun heq => ?_⟩
      simp [hr] at heq
  | query q hcontrol hrecover hconfig hq =>
      exact ⟨fun _ => hcontrol, fun _ => hrecover, fun _ => hconfig⟩

/-- **Order**: in every state that is reached, the control frames of a CAN id that were handed
over are a part of the accepted ones, in their order; the last accepted one is the last of
those handed over and on the way, unless it overflowed; of every other category the first
accepted requests were handed over, in their order; and what the worker takes is taken in
order. -/
theorem dispatcher_ordered (options : RuntimeOptions) (w : Dispatcher × DispatchLog)
    (hr : DispatchReached options w) :
    (∀ id, (controlOf id w.2.handed).Sublist (controlOf id w.2.accepted)) ∧
      (∀ id, w.2.overflowed id = false →
        (controlOf id (line w)).getLast? = (controlOf id w.2.accepted).getLast?) ∧
      (∀ c, c ≠ .control → ofCategory c w.2.handed <+: ofCategory c w.2.accepted) ∧
      ∀ e w' r, DispatchStep w e w' → w.1.rt.sending = none → w'.1.rt.sending = some r →
        TakenInOrder w.1.rt r := by
  obtain ⟨hshaped, horder⟩ := orderly_reached hr
  have hline : line w = w.2.handed ++ (w.1.unsent ++ w.1.rt.queued) := List.append_assoc _ _ _
  refine ⟨fun id => ?_, horder.last, fun c hc => ?_, fun e w' r hs hnone hsome => ?_⟩
  · have hpart : (controlOf id (line w)).Sublist (controlOf id w.2.accepted) := horder.part id
    rw [hline, controlOf_append] at hpart
    exact (List.sublist_append_left _ _).trans hpart
  · have hfifo : ofCategory c (line w) = ofCategory c w.2.accepted := horder.fifo c hc
    rw [hline, ofCategory_append] at hfifo
    exact hfifo ▸ List.prefix_append _ _
  · have hd := (dispatched_of_step hs).1
    generalize hd' : w'.1 = d' at hd hsome
    cases hd with
    | accepted q _ =>
        have hsame := (w.1.rt.enqueue_enqueued q).same.1
        have hsome : (w.1.rt.enqueue q).2.sending = some r := hsome
        rw [hsame, hnone] at hsome
        exact absurd hsome (Option.some_ne_none _).symm
    | rejected q _ =>
        have hsame := (w.1.rt.enqueue_enqueued q).same.1
        have hsome : (w.1.rt.enqueue q).2.sending = some r := hsome
        rw [hsame, hnone] at hsome
        exact absurd hsome (Option.some_ne_none _).symm
    | joined _ => exact absurd hsome (Option.some_ne_none _).symm
    | count result q _ _ => exact absurd hsome (Option.some_ne_none _).symm
    | take q rt _ hpopped =>
        have heq : q = r := Option.some.inj hsome
        exact heq ▸ hpopped.takenInOrder horder.sorted
    | burst q rest _ hq =>
        have heq : q = r := Option.some.inj hsome
        exact heq ▸ (DeviceRuntime.Popped.control q rest hq).takenInOrder horder.sorted
    | _ => exact absurd (hnone.symm.trans hsome) (Option.some_ne_none _).symm

/-- A control frame that replaces another one is sent before the query that came first. -/
theorem query_overtaken :
    ∃ w, DispatchReached {} w ∧ w.2.handed = [controlRequest none, queryRequest] ∧
      (controlOf 1 w.2.handed).Sublist (controlOf 1 w.2.accepted) ∧
      ofCategory .query w.2.handed <+: ofCategory .query w.2.accepted := by
  obtain ⟨w, hr, htest⟩ := exists_dispatched {}
    ([.submit queryRequest, .submit (controlRequest (some (.eyouRead 1 0))),
      .submit (controlRequest none), .start] ++ sendOne ++ sendOne)
    (fun w => w.2.handed == [controlRequest none, queryRequest]) (by decide +kernel)
  obtain ⟨hpart, _, hfifo, _⟩ := dispatcher_ordered {} w hr
  exact ⟨w, hr, eq_of_beq htest, hpart 1, hfifo .query (by decide)⟩

end CanDriver
