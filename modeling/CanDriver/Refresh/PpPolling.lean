import CanDriver.DeviceManager

/-!
# CanDriver.Refresh.PpPolling

What the refresh worker asks PP motors for.

The worker sends the first query of a plan that the protocol accepts, and what has
been sent rests for at least 50 ms.  So six visits to a motor within less than that
ask six different things; and no more can be said, since the position comes before
everything else and is due again after 50 ms.
-/

namespace CanDriver

open Interact Prog

instance : Fintype PpRefreshQuery where
  elems := ppRefreshQueryOrder.toFinset
  complete query := by cases query <;> decide

/-! ## plans -/

theorem mem_order (state : PpAxisRefreshScheduleState) (pressure : Bool)
    (query : PpRefreshQuery) : query ∈ state.order pressure := by
  have hrotate : ∀ k < kPpRefreshQueryCount, query ∈ ppRefreshQueryOrder.rotateLeft k := by
    cases query <;> decide
  unfold PpAxisRefreshScheduleState.order
  split
  · exact hrotate _ (Nat.mod_lt _ (by decide))
  · cases query <;> decide

/-- The plan is the first part of what is due. -/
theorem buildPpRefreshPlan_eq (now : Time) (pressure : Bool) (snapshot : PpAxisRefreshSnapshot)
    (state : PpAxisRefreshScheduleState) :
    (buildPpRefreshPlan now pressure snapshot state).1 =
      ((state.order pressure).filter (state.due now snapshot)).take
        (if pressure then min kPpPressureBudgetPerCycle kPpRefreshQueryCount
         else kPpRefreshQueryCount) := by
  unfold buildPpRefreshPlan
  dsimp only
  split <;> rfl

theorem buildPpRefreshPlan_lastIssued (now : Time) (pressure : Bool)
    (snapshot : PpAxisRefreshSnapshot) (state : PpAxisRefreshScheduleState) :
    (buildPpRefreshPlan now pressure snapshot state).2.lastIssued = state.lastIssued := by
  unfold buildPpRefreshPlan
  dsimp only
  split <;> rfl

/-- What is planned first: something that is due, if anything is; without query
pressure the first thing due in the order of `PpRefreshQueryOrder`. -/
theorem head_buildPpRefreshPlan (now : Time) (pressure : Bool) (snapshot : PpAxisRefreshSnapshot)
    (state : PpAxisRefreshScheduleState) :
    (buildPpRefreshPlan now pressure snapshot state).1.head? =
      ((state.order pressure).filter (state.due now snapshot)).head? := by
  rw [buildPpRefreshPlan_eq, List.head?_take, if_neg]
  cases pressure <;> decide

/-! ## the rule of a visit -/

/-- What a visit to a motor does, given when it was last asked what. -/
structure PpRule (last : PpRefreshQuery → Time) (v : PpVisit) : Prop where
  pos : 0 < v.time
  past : ∀ query, last query ≤ v.time
  planned : ∃ snapshot cursor,
    v.due = ppRefreshQueryOrder.filter
      (PpAxisRefreshScheduleState.due { lastIssued := last, pressureCursor := cursor } v.time
        snapshot) ∧
    v.asked = (buildPpRefreshPlan v.time v.info.pressure snapshot
      { lastIssued := last, pressureCursor := cursor }).1.head?

theorem ppRefreshPeriod_ge (query : PpRefreshQuery) (snapshot : PpAxisRefreshSnapshot) :
    ms 50 ≤ ppRefreshPeriod query snapshot := by
  cases query with
  | position => exact le_rfl
  | current => exact (by decide : ms 50 ≤ ms 100)
  | _ =>
      simp only [ppRefreshPeriod]
      split <;> decide

theorem mem_ppRefreshQueryOrder (query : PpRefreshQuery) : query ∈ ppRefreshQueryOrder := by
  cases query <;> decide

theorem mem_due (state : PpAxisRefreshScheduleState) (now : Time)
    (snapshot : PpAxisRefreshSnapshot) (query : PpRefreshQuery) :
    query ∈ ppRefreshQueryOrder.filter (state.due now snapshot) ↔
      ¬ (state.lastIssued query ≠ 0 ∧ state.lastIssued query ≤ now ∧
        now - state.lastIssued query < ppRefreshPeriod query snapshot) := by
  simp only [List.mem_filter, mem_ppRefreshQueryOrder, PpAxisRefreshScheduleState.due, true_and,
    Bool.not_eq_true', Bool.and_eq_false_iff, bne_eq_false_iff_eq, decide_eq_false_iff_not]
  tauto

/-- What is due has rested for the shortest period. -/
theorem PpRule.rests : Rests (ms 50) PpRule where
  pos _ _ h := h.pos
  past _ _ h := h.past
  busy last v h hdue hnone := by
    obtain ⟨snapshot, cursor, hv, hasked⟩ := h.planned
    rw [head_buildPpRefreshPlan, hnone] at hasked
    obtain ⟨query, hquery⟩ := List.exists_mem_of_ne_nil _ hdue
    rw [hv, List.mem_filter] at hquery
    have hmem := List.mem_filter.2
      ⟨mem_order { lastIssued := last, pressureCursor := cursor } v.info.pressure query, hquery.2⟩
    rw [List.head?_eq_none_iff.1 hasked.symm] at hmem
    exact List.not_mem_nil hmem
  asked last v h query hasked := by
    obtain ⟨snapshot, cursor, hv, hhead⟩ := h.planned
    rw [head_buildPpRefreshPlan, hasked] at hhead
    have hmem := List.mem_of_head? hhead.symm
    rw [List.mem_filter] at hmem
    rw [hv, List.mem_filter]
    exact ⟨mem_ppRefreshQueryOrder query, hmem.2⟩
  rested last v h query hmem hlast := by
    obtain ⟨snapshot, cursor, hv, _⟩ := h.planned
    rw [hv, mem_due] at hmem
    simp only [not_and, not_lt] at hmem
    exact (ppRefreshPeriod_ge query snapshot).trans (hmem hlast (h.past query))

/-- Without query pressure the position is the favourite, and the current comes last. -/
theorem PpRule.favours :
    Favours (ms 50) .position .current fun last v => PpRule last v ∧ v.info.pressure = false where
  favourite last v h hmem := by
    obtain ⟨snapshot, cursor, hv, hhead⟩ := h.1.planned
    rw [head_buildPpRefreshPlan, h.2] at hhead
    rw [hv, List.mem_filter] at hmem
    rw [hhead, PpAxisRefreshScheduleState.order, if_neg (by decide), ppRefreshQueryOrder,
      List.filter_cons_of_pos hmem.2, List.head?_cons]
  again last v h hmem := by
    obtain ⟨snapshot, cursor, hv, _⟩ := h.1.planned
    rw [hv, mem_due, not_not] at hmem
    exact hmem.2.2
  lastly last v h hasked query hmem := by
    obtain ⟨snapshot, cursor, hv, hhead⟩ := h.1.planned
    have horder : ppRefreshQueryOrder = [.position, .velocity, .mode, .enable, .fault] ++ [.current] :=
      rfl
    rw [head_buildPpRefreshPlan, h.2, hasked, PpAxisRefreshScheduleState.order,
      if_neg (by decide), horder, List.filter_append] at hhead
    rw [hv, horder, List.filter_append] at hmem
    cases hfirst : List.filter (PpAxisRefreshScheduleState.due
        { lastIssued := last, pressureCursor := cursor } v.time snapshot)
        [.position, .velocity, .mode, .enable, .fault] with
    | nil =>
        rw [hfirst, List.nil_append, List.mem_filter, List.mem_singleton] at hmem
        exact hmem.1
    | cons first rest =>
        rw [hfirst, List.cons_append, List.head?_cons, Option.some.injEq] at hhead
        have hmem' : first ∈ [PpRefreshQuery.position, .velocity, .mode, .enable, .fault] :=
          (List.mem_filter.1 (hfirst ▸ List.mem_cons_self)).1
        rw [← hhead] at hmem'
        exact absurd hmem' (by decide)

/-! ## issuing a query -/

/-- The object is in service, and no read of the motor waits in the queue. -/
structure EyouCan.Clear (motorId : UInt8) (eyou : EyouCan) : Prop where
  running : eyou.shuttingDown = false
  controller : eyou.canController = true
  sent : ∀ subCommand r, eyou.pendingReadRequests (motorId, subCommand) = some r → r.queued = false

/-- The operation leaves the schedule alone. -/
def LeavesRefresh : BusOp → Prop
  | .refresh f => f = id
  | _ => True

theorem wp_of_leavesRefresh {R : α → Prop} {p : BusProg α} {b : Bus}
    (hp : p.wp (only LeavesRefresh) (fun a _ => R a) ()) :
    p.wp busProtocol (fun a b' => R a ∧ b'.refresh = b.refresh ∧ b.time ≤ b'.time) b := by
  refine wp_of_only (I := fun b' : Bus => b'.refresh = b.refresh ∧ b.time ≤ b'.time) hp
    (fun g op hg hA => ⟨trivial, fun r hr => ?_⟩) ⟨rfl, le_rfl⟩
  cases op with
  | refresh f =>
      obtain rfl : f = id := hA
      exact hg
  | clock => exact ⟨hg.1, hg.2.trans hr⟩
  | _ => exact hg

/-- What a protocol object does leaves the schedule alone. -/
theorem onBus_leavesRefresh {P : Type} [BusObject P]
    (hown : ∀ f : P → P, (BusObject.own f).Stays LeavesRefresh) (p : Proto P α) :
    p.onBus.Stays LeavesRefresh := by
  have hall : p.Stays fun _ => True := wp_only_of_forall (fun _ => trivial) p
  refine wp_only_interp (fun op _ => ?_) hall
  cases op with
  | proto f => exact hown f
  | submit r =>
      refine DeviceRuntime.submit_stays trivial trivial fun c _ t => ?_
      cases c <;> exact ⟨trivial, fun _ _ => trivial⟩
  | _ => exact ⟨trivial, fun _ _ => trivial⟩

theorem eyou_leavesRefresh (p : Proto EyouCan α) : p.onBus.Stays LeavesRefresh :=
  onBus_leavesRefresh (fun f => show (Device.eyou f).Stays _ from .vis trivial fun _ => trivial) p

theorem mt_leavesRefresh (p : Proto MtCan α) : p.onBus.Stays LeavesRefresh :=
  onBus_leavesRefresh (fun f => show (Device.mt f).Stays _ from .vis trivial fun _ => trivial) p

theorem dm_leavesRefresh (p : Proto DamiaoCan α) : p.onBus.Stays LeavesRefresh :=
  onBus_leavesRefresh (fun f => show (Device.dm f).Stays _ from .vis trivial fun _ => trivial) p

/-- A read that is refused was queued already, and refusing it changes nothing for the
other motors. -/
theorem wp_tryIssueReadCommand {b : Bus} {motorId : UInt8} (h : b.eyou.Clear motorId)
    (node subCommand : UInt8) :
    (Proto.onBus (EyouCan.tryIssueReadCommand node subCommand)).wp busProtocol
      (fun issued b' => (issued = false → node ≠ motorId ∧ b'.eyou.Clear motorId) ∧
        b'.refresh = b.refresh ∧ b.time ≤ b'.time) b := by
  have hget : ∀ b : Bus, BusObject.get b = b.eyou := fun _ => rfl
  have hset : ∀ (b : Bus) (eyou : EyouCan), BusObject.set b eyou = { b with eyou := eyou } :=
    fun _ _ => rfl
  simp only [EyouCan.tryIssueReadCommand, Proto.onBus_bind, Proto.onBus_ite, wp_bind,
    Proto.wp_onBus_gets, hget, id, h.controller, h.running, Bool.not_true, Bool.or_false,
    Bool.false_eq_true, if_false, Proto.wp_onBus_access, hset]
  split
  · simp only [wp_bind, pure_eq, Proto.onBus_ret, wp_ret]
    exact wp_mono (wp_of_leavesRefresh (eyou_leavesRefresh _)) fun _ b' hb' =>
      ⟨fun h => Bool.noConfusion h, hb'.2⟩
  · rename_i hclaim
    have hqueued : ((b.eyou.pendingReadRequests (node, subCommand)).getD {}).queued = true := by
      simpa [EyouCan.claimRead] using hclaim
    have hne : node ≠ motorId := by
      rintro rfl
      cases hr : b.eyou.pendingReadRequests (node, subCommand) with
      | none => simp [hr] at hqueued
      | some r => simp [hr, h.sent _ _ hr] at hqueued
    refine ⟨fun _ => ⟨hne, h.running, h.controller, fun sub r hr => ?_⟩, rfl, le_rfl⟩
    refine h.sent sub r ?_
    simpa [EyouCan.claimRead, put_of_ne, hne.symm] using hr

theorem wp_eyouIssueRefreshQuery {b : Bus} {motorId : UInt8} (h : b.eyou.Clear motorId)
    (node : UInt8) (query : PpRefreshQuery) :
    (Proto.onBus (EyouCan.issueRefreshQuery (motorIdFromProtocolNodeId node) query)).wp busProtocol
      (fun issued b' => (issued = false → node ≠ motorId ∧ b'.eyou.Clear motorId) ∧
        b'.refresh = b.refresh ∧ b.time ≤ b'.time) b := by
  have hread : ∀ b' : Bus, b'.eyou.Clear motorId → ∀ sub,
      (Proto.onBus (EyouCan.tryIssueReadCommand node sub)).wp busProtocol
        (fun issued b'' => (issued = false → node ≠ motorId ∧ b''.eyou.Clear motorId) ∧
          b''.refresh = b'.refresh ∧ b'.time ≤ b''.time) b' :=
    fun b' hb' sub => wp_tryIssueReadCommand hb' node sub
  have hget : ∀ b : Bus, BusObject.get b = b.eyou := fun _ => rfl
  have hset : ∀ (b : Bus) (eyou : EyouCan), BusObject.set b eyou = { b with eyou := eyou } :=
    fun _ _ => rfl
  have hremember : (b.eyou.remember (motorIdFromProtocolNodeId node)).Clear motorId :=
    ⟨h.running, h.controller, h.sent⟩
  simp only [EyouCan.issueRefreshQuery, EyouCan.registerManagedMotorId, Proto.onBus_bind,
    wp_bind, Proto.wp_onBus_modify, Proto.wp_onBus_gets, hget, hset, Proto.onBus_ite]
  simp only [toProtocolNodeId_motorIdFromProtocolNodeId]
  split
  · simp only [Proto.wp_onBus_modifyShared]
    cases query <;> exact hread _ hremember _
  · cases query <;> exact hread _ hremember _

/-- A plan for the motor itself is followed by sending its first query; a plan for
another that is refused as a whole changes nothing for the motor. -/
theorem wp_issuePlan {b : Bus} {motorId : UInt8} (h : b.eyou.Clear motorId) (node : UInt8)
    (plan : List PpRefreshQuery) :
    (issueFirst (fun query => Proto.onBus
        (EyouCan.issueRefreshQuery (motorIdFromProtocolNodeId node) query)) plan).wp busProtocol
      (fun issued b' => (node = motorId → issued = plan.head?) ∧
        (issued = none → b'.eyou.Clear motorId) ∧
        b'.refresh = b.refresh ∧ b.time ≤ b'.time) b := by
  induction plan generalizing b with
  | nil => exact ⟨fun _ => rfl, fun _ => h, rfl, le_rfl⟩
  | cons query rest ih =>
      simp only [issueFirst, wp_bind]
      refine wp_mono (wp_eyouIssueRefreshQuery h node query) ?_
      rintro (_ | _) b' ⟨hrefused, hrefresh, htime⟩
      · obtain ⟨hne, hclear⟩ := hrefused rfl
        refine wp_mono (ih hclear) fun issued b'' hb'' => ?_
        exact ⟨fun he => absurd he hne, hb''.2.1, hb''.2.2.1.trans hrefresh,
          htime.trans hb''.2.2.2⟩
      · exact ⟨fun _ => rfl, nofun, hrefresh, htime⟩

/-! ## one tick -/

/-- When the motor was last asked what. -/
def Bus.ppLastIssued (b : Bus) (motorId : UInt8) : PpRefreshQuery → Time :=
  (b.refresh.ppScheduleState motorId).lastIssued

/-- The visits to a motor. -/
def visitsTo (motorId : UInt8) (visits : List PpVisit) : List PpVisit :=
  visits.filter fun v => v.info.motorId = motorId

/-- A part of a tick that began at `now`: it visits the motor by the rule, and leaves
its reads alone unless it issues something. -/
structure PpStep (motorId : UInt8) (now : Time) (b : Bus) (report : TickReport) (b' : Bus) :
    Prop where
  visits : Polls PpRule (b.ppLastIssued motorId) (visitsTo motorId report.ppVisits)
    (b'.ppLastIssued motorId)
  past : ∀ query, b'.ppLastIssued motorId query ≤ now
  time : b.time ≤ b'.time
  clear : report.issued = none → b'.eyou.Clear motorId

/-- Planning stamps nothing. -/
theorem planPp_lastIssued (now : Time) (pressure : Bool) (snapshot : PpAxisRefreshSnapshot)
    (node motorId : UInt8) (r : DeviceRefreshRuntime) :
    ((planPp now pressure snapshot node r).ppScheduleState motorId).lastIssued =
      (r.ppScheduleState motorId).lastIssued := by
  unfold planPp DeviceRefreshRuntime.ppScheduleState
  by_cases h : motorId = node
  · subst h
    simp only [put_self, Option.getD_some]
    exact buildPpRefreshPlan_lastIssued _ _ _ _
  · simp only [put_of_ne _ _ h]

/-- What `noteIssued` leaves of the schedule is up to `next`. -/
theorem wp_noteIssued {sleepFor answerTimeout : BusProg Time}
    (hs : sleepFor.Stays LeavesRefresh) (ha : answerTimeout.Stays LeavesRefresh)
    (deviceName : String) (protocol : CanType) (motorId : MotorID)
    (next : Time → DeviceRefreshRuntime → DeviceRefreshRuntime) (b : Bus) :
    (noteIssued deviceName protocol motorId sleepFor answerTimeout next).wp busProtocol
      (fun _ b' => b.time ≤ b'.time ∧ ∃ t r, b'.refresh = next t r ∧
        r.ppScheduleStates = b.refresh.ppScheduleStates) b := by
  simp only [noteIssued, wp_bind, Device.wp_clock, Device.wp_shared, Device.wp_refresh]
  intro t₁ ht₁
  refine wp_mono (wp_of_leavesRefresh hs) fun sleep b₁ h₁ => ?_
  intro t₂ ht₂ t₃ ht₃
  refine wp_mono (wp_of_leavesRefresh ha) fun timeout b₂ h₂ => ?_
  refine ⟨?_, _, _, rfl, ?_⟩
  · exact (ht₁.trans h₁.2.2).trans (ht₂.trans (ht₃.trans h₂.2.2))
  · simp only [h₂.2.1, h₁.2.1]

theorem ppRefreshSleep_leavesRefresh : ppRefreshSleep.Stays LeavesRefresh :=
  ⟨trivial, fun _ _ => trivial⟩

/-- A visit at the head of a list of visits. -/
theorem polls_visitsTo_cons {motorId : UInt8} {v : PpVisit} {vs : List PpVisit}
    {last mid last' : PpRefreshQuery → Time} (hrule : v.info.motorId = motorId → PpRule last v)
    (hmid : mid = if v.info.motorId = motorId then v.stamp last else last)
    (h : Polls PpRule mid (visitsTo motorId vs) last') :
    Polls PpRule last (visitsTo motorId (v :: vs)) last' := by
  unfold visitsTo at h ⊢
  by_cases hv : v.info.motorId = motorId
  · rw [List.filter_cons_of_pos (by simpa using hv)]
    rw [hmid, if_pos hv] at h
    exact .cons v _ last last' (hrule hv) h
  · rw [List.filter_cons_of_neg (by simpa using hv)]
    rwa [hmid, if_neg hv] at h

/-- What is noted after an issued query. -/
theorem noted_lastIssued {r r' : DeviceRefreshRuntime} {node : UInt8} {now : Time}
    {query : PpRefreshQuery}
    (h : r'.ppScheduleStates = put r.ppScheduleStates node
      (notePpRefreshQueryIssued now query (r.ppScheduleState node))) (motorId : UInt8) :
    (r'.ppScheduleState motorId).lastIssued =
      if node = motorId then Function.update (r.ppScheduleState motorId).lastIssued query now
      else (r.ppScheduleState motorId).lastIssued := by
  unfold DeviceRefreshRuntime.ppScheduleState
  rw [h]
  split
  · rename_i he
    subst he
    simp [notePpRefreshQueryIssued, DeviceRefreshRuntime.ppScheduleState]
  · rename_i hne
    rw [put_of_ne _ _ (Ne.symm hne)]

/-- The loop over the PP motors. -/
theorem tickPpMotors_step (deviceName : String) {now : Time} (hpos : 0 < now) (pressure : Bool)
    (motorIds : List UInt8) (visits : List Nat) {motorId : UInt8} {b : Bus}
    (hclear : b.eyou.Clear motorId) (hpast : ∀ query, b.ppLastIssued motorId query ≤ now) :
    (tickPpMotors deviceName now pressure motorIds visits).wp busProtocol
      (PpStep motorId now b) b := by
  induction visits generalizing b with
  | nil => exact ⟨.nil _, hpast, le_rfl, fun _ => hclear⟩
  | cons index visits ih =>
      simp only [tickPpMotors, wp_bind, Device.wp_shared, Device.wp_refresh]
      generalize motorIds.getD index 0 = node
      generalize buildPpAxisRefreshSnapshot b.shared deviceName node = snapshot
      have hclear₀ : Bus.eyou { b with refresh := planPp now pressure snapshot node b.refresh }
          |>.Clear motorId := hclear
      refine wp_mono (wp_issuePlan hclear₀ node _) ?_
      rintro issued b₁ ⟨hissued, hclear₁, hrefresh, htime⟩
      have hplanned : b₁.ppLastIssued motorId = b.ppLastIssued motorId := by
        rw [Bus.ppLastIssued, hrefresh]
        exact planPp_lastIssued _ _ _ _ _ _
      have hrule : node = motorId → PpRule (b.ppLastIssued motorId)
          { time := now
            info := { motorId := node, pressure }
            due := ppRefreshQueryOrder.filter ((b.refresh.ppScheduleState node).due now snapshot)
            asked := issued } := by
        rintro rfl
        exact ⟨hpos, hpast, snapshot, _, rfl, hissued rfl⟩
      cases issued with
      | none =>
          refine wp_bind.2 (wp_mono (ih (hclear₁ rfl) (hplanned ▸ hpast)) fun report b₂ h => ?_)
          refine ⟨polls_visitsTo_cons hrule ?_ h.visits, h.past, htime.trans h.time, h.clear⟩
          rw [hplanned]
          exact (ite_self _).symm
      | some query =>
          refine wp_bind.2 (wp_mono (wp_noteIssued ppRefreshSleep_leavesRefresh
            ppRefreshSleep_leavesRefresh _ _ _ _ _) ?_)
          intro _ b₂ hnoted
          obtain ⟨htime₂, t, r, hr, hstates⟩ := hnoted
          have hlast : b₂.ppLastIssued motorId =
              if node = motorId then Function.update (b.ppLastIssued motorId) query now
              else b.ppLastIssued motorId := by
            have hr' : ∀ m, r.ppScheduleState m = b₁.refresh.ppScheduleState m := fun m => by
              rw [DeviceRefreshRuntime.ppScheduleState, hstates,
                DeviceRefreshRuntime.ppScheduleState]
            rw [Bus.ppLastIssued, noted_lastIssued (r := r) (by rw [hr]), hr', ← hplanned]
            rfl
          refine ⟨polls_visitsTo_cons hrule hlast (.nil _), fun q => ?_, htime.trans htime₂,
            fun h => absurd h (Option.some_ne_none _)⟩
          rw [hlast]
          split
          · by_cases hq : q = query
            · simp [hq]
            · simpa [hq] using hpast q
          · exact hpast q

/-- The operation leaves the PP object and its schedule alone. -/
def LeavesPp : BusOp → Prop
  | .eyou f => f = id
  | .refresh f => ∀ r, (f r).ppScheduleStates = r.ppScheduleStates
  | _ => True

/-- A part of a tick that leaves the PP object and its schedule alone. -/
theorem step_of_leavesPp {p : BusProg TickReport} {motorId : UInt8} {now : Time} {b : Bus}
    (hp : p.wp (only LeavesPp) (fun report _ => report.ppVisits = []) ())
    (hclear : b.eyou.Clear motorId) (hpast : ∀ query, b.ppLastIssued motorId query ≤ now) :
    p.wp busProtocol (PpStep motorId now b) b := by
  refine wp_mono (wp_of_only (I := fun b' : Bus => b'.eyou = b.eyou ∧
    b'.refresh.ppScheduleStates = b.refresh.ppScheduleStates ∧ b.time ≤ b'.time) hp
    (fun g op hg hA => ⟨trivial, fun r hr => ?_⟩) ⟨rfl, rfl, le_rfl⟩) ?_
  · cases op with
    | eyou f =>
        obtain rfl : f = id := hA
        exact hg
    | refresh f => exact ⟨hg.1, (hA _).trans hg.2.1, hg.2.2⟩
    | clock => exact ⟨hg.1, hg.2.1, hg.2.2.trans hr⟩
    | _ => exact hg
  · rintro report b' ⟨hvisits, heyou, hstates, htime⟩
    have hlast : b'.ppLastIssued motorId = b.ppLastIssued motorId := by
      unfold Bus.ppLastIssued DeviceRefreshRuntime.ppScheduleState
      rw [hstates]
    refine ⟨?_, hlast ▸ hpast, htime, fun _ => heyou ▸ hclear⟩
    rw [hvisits, hlast]
    exact .nil _

/-- The operation submits no PP read. -/
def NoEyouRead {P : Type} : PortOp P → Prop
  | .submit r => ∀ node subCommand, r.completion ≠ some (.eyouRead node subCommand)
  | _ => True

theorem submit_leavesPp {r : Request}
    (hr : ∀ node subCommand, r.completion ≠ some (.eyouRead node subCommand)) :
    (DeviceRuntime.submit r).Stays LeavesPp := by
  refine DeviceRuntime.submit_stays trivial trivial fun c hc t => ?_
  cases c with
  | eyouRead node subCommand => exact absurd hc (hr node subCommand)
  | mtRead node command => exact ⟨trivial, fun _ _ => trivial⟩

/-- What an MT or DM program does leaves the PP object alone, if it submits no PP read. -/
theorem mt_leavesPp {p : Proto MtCan α} (hp : p.Stays NoEyouRead) :
    (Proto.onBus p).Stays LeavesPp := by
  refine wp_only_interp (fun op hop => ?_) hp
  cases op with
  | submit r => exact submit_leavesPp hop
  | _ => exact ⟨trivial, fun _ _ => trivial⟩

theorem dm_leavesPp {p : Proto DamiaoCan α} (hp : p.Stays NoEyouRead) :
    (Proto.onBus p).Stays LeavesPp := by
  refine wp_only_interp (fun op hop => ?_) hp
  cases op with
  | submit r => exact submit_leavesPp hop
  | _ => exact ⟨trivial, fun _ _ => trivial⟩

theorem mtRequestRead_noEyouRead (node : UInt8) (command : MtRmd.Command) (source : TxSource) :
    (MtCan.requestRead node command source).Stays NoEyouRead := by
  refine .vis trivial fun s => .ite (.bind (.vis trivial fun s' => .ite trivial ?_) ?_) trivial
  · refine .vis trivial fun t => .vis trivial fun s => .vis trivial fun s' => ?_
    dsimp only [Prog.bind]
    split
    · trivial
    · exact .bind (.vis trivial fun s => .ite (.vis trivial fun _ => trivial) trivial)
        fun _ => trivial
    · trivial
  · exact fun claimed => .ite (.ite (.vis (fun _ _ => by simp) fun _ => trivial)
      (.vis trivial fun _ => .vis trivial fun _ => trivial)) trivial

theorem mtIssueRefreshQuery_leavesPp (motorId : MotorID) (query : MtRefreshQuery) :
    (Proto.onBus (MtCan.issueRefreshQuery motorId query)).Stays LeavesPp := by
  refine mt_leavesPp (.bind ⟨trivial, fun _ _ => trivial⟩ fun _ => ?_)
  cases query <;> exact mtRequestRead_noEyouRead _ _ _

theorem dmIssueRefreshQuery_leavesPp (motorId : MotorID) (query : DmRefreshQuery) :
    (Proto.onBus (DamiaoCan.issueRefreshQuery motorId query)).Stays LeavesPp := by
  refine dm_leavesPp ?_
  simp [DamiaoCan.issueRefreshQuery, DamiaoCan.registerManagedMotorId, DamiaoCan.sendSpeedFrame,
    DamiaoCan.submitTx, wp_bind, wp_ite, NoEyouRead]

theorem mtRefreshSleep_leavesPp : mtRefreshSleep.Stays LeavesPp := ⟨trivial, fun _ _ => trivial⟩

theorem mtReadResponseTimeout_leavesPp : mtReadResponseTimeout.Stays LeavesPp :=
  ⟨trivial, fun _ _ => trivial⟩

theorem dmRefreshSleep_leavesPp : dmRefreshSleep.Stays LeavesPp := ⟨trivial, fun _ _ => trivial⟩

/-- The MT motors: no PP motor is visited, and the PP object is left alone. -/
theorem tickMtMotors_leavesPp (deviceName : String) (pressure : Bool) (cycle : Nat)
    (motorIds : List MotorID) (visits : List Nat) :
    (tickMtMotors deviceName pressure cycle motorIds visits).wp (only LeavesPp)
      (fun report _ => report.ppVisits = []) () := by
  induction visits with
  | nil => rfl
  | cons index visits ih =>
      refine wp_bind.2 (wp_mono (issueFirst_stays (mtIssueRefreshQuery_leavesPp _) _) ?_)
      rintro (_ | query) _ _
      · exact ih
      · exact wp_bind.2 (wp_mono (noteIssued_stays trivial trivial mtRefreshSleep_leavesPp
          mtReadResponseTimeout_leavesPp (fun _ _ _ _ => rfl) _ _ _) fun _ _ _ => rfl)

/-- Likewise the DM motors. -/
theorem tickDmMotors_leavesPp (deviceName : String) (now : Time) (motorIds : List UInt8)
    (visits : List Nat) :
    (tickDmMotors deviceName now motorIds visits).wp (only LeavesPp)
      (fun report _ => report.ppVisits = []) () := by
  induction visits with
  | nil => rfl
  | cons index visits ih =>
      simp only [tickDmMotors, Device.shared, Device.refresh, vis_bind, ret_bind, wp_only_vis]
      refine ⟨fun _ => rfl, fun r => ⟨trivial, fun shared => ?_⟩⟩
      refine wp_bind.2 (wp_mono (issueFirst_stays (dmIssueRefreshQuery_leavesPp _) _) ?_)
      rintro (_ | query) _ _
      · exact ih
      · exact wp_bind.2 (wp_mono (noteIssued_stays trivial trivial dmRefreshSleep_leavesPp
          dmRefreshSleep_leavesPp (fun _ _ _ _ => rfl) _ _ _) fun _ _ _ => rfl)

theorem tickMt_leavesPp (deviceName : String) (now : Time) (pressure : Bool) :
    (tickMt deviceName now pressure).wp (only LeavesPp) (fun report _ => report.ppVisits = []) () := by
  simp only [tickMt, Device.refresh, vis_bind, ret_bind, wp_only_vis, wp_ite, pure_eq, wp_ret]
  refine ⟨fun _ => rfl, fun active => ?_⟩
  split
  · refine ⟨fun r => ?_, fun r => ?_⟩
    · dsimp only
      split <;> rfl
    · split
      · exact tickMtMotors_leavesPp _ _ _ _ _
      · trivial
  · trivial

theorem tickDm_leavesPp (deviceName : String) (now : Time) :
    (tickDm deviceName now).wp (only LeavesPp) (fun report _ => report.ppVisits = []) () := by
  simp only [tickDm, Device.refresh, vis_bind, ret_bind, wp_only_vis, wp_ite, pure_eq, wp_ret]
  refine ⟨fun _ => rfl, fun active => ?_⟩
  split
  · refine ⟨fun _ => rfl, fun r => ?_⟩
    split
    · exact tickDmMotors_leavesPp _ _ _ _
    · trivial
  · trivial

theorem tickPp_step (deviceName : String) {now : Time} (hpos : 0 < now) (pressure : Bool)
    {motorId : UInt8} {b : Bus} (hclear : b.eyou.Clear motorId)
    (hpast : ∀ query, b.ppLastIssued motorId query ≤ now) :
    (tickPp deviceName now pressure).wp busProtocol (PpStep motorId now b) b := by
  have hidle : PpStep motorId now b {} b := ⟨.nil _, hpast, le_rfl, fun _ => hclear⟩
  simp only [tickPp, wp_bind, Device.wp_refresh, id]
  split
  · simp only [wp_bind, Device.wp_refresh, id]
    split
    · exact tickPpMotors_step deviceName hpos pressure _ _ hclear hpast
    · exact hidle
  · exact hidle

theorem tickProtocol_step (deviceName : String) {now : Time} (hpos : 0 < now) (pressure : Bool)
    (selected : Nat) {motorId : UInt8} {b : Bus} (hclear : b.eyou.Clear motorId)
    (hpast : ∀ query, b.ppLastIssued motorId query ≤ now) :
    (tickProtocol deviceName now pressure selected).wp busProtocol (PpStep motorId now b) b := by
  unfold tickProtocol
  split
  · exact step_of_leavesPp (tickMt_leavesPp _ _ _) hclear hpast
  · split
    · exact tickPp_step deviceName hpos pressure hclear hpast
    · exact step_of_leavesPp (tickDm_leavesPp _ _) hclear hpast

/-- One part of a tick after another. -/
theorem PpStep.trans {motorId : UInt8} {now : Time} {b b₁ b₂ : Bus} {report later : TickReport}
    (h : PpStep motorId now b report b₁) (h' : PpStep motorId now b₁ later b₂) :
    PpStep motorId now b { later with ppVisits := report.ppVisits ++ later.ppVisits } b₂ where
  visits := by
    unfold visitsTo
    rw [List.filter_append]
    exact h.visits.append h'.visits
  past := h'.past
  time := h.time.trans h'.time
  clear := h'.clear

theorem tickProtocols_step (deviceName : String) {now : Time} (hpos : 0 < now) (pressure : Bool)
    (order : List Nat) {motorId : UInt8} {b : Bus} (hclear : b.eyou.Clear motorId)
    (hpast : ∀ query, b.ppLastIssued motorId query ≤ now) :
    (tickProtocols deviceName now pressure order).wp busProtocol (PpStep motorId now b) b := by
  induction order generalizing b with
  | nil => exact ⟨.nil _, hpast, le_rfl, fun _ => hclear⟩
  | cons selected rest ih =>
      simp only [tickProtocols, wp_bind, wp_ite, pure_eq, wp_ret]
      refine wp_mono (tickProtocol_step deviceName hpos pressure selected hclear hpast) ?_
      intro report b₁ h₁
      split
      · exact h₁
      · rename_i hnone
        have hclear₁ := h₁.clear (by simpa using hnone)
        exact wp_mono (ih hclear₁ h₁.past) fun later b₂ h₂ => h₁.trans h₂

theorem beginTick_ppScheduleStates (deviceName : String) (now : Time)
    (feedback health : SharedDriverState) (r : DeviceRefreshRuntime) :
    (beginTick deviceName now feedback health r).2.ppScheduleStates = r.ppScheduleStates := by
  unfold beginTick
  dsimp only
  repeat' split
  all_goals rfl

/-- **Step**: a tick visits the motor by the rule. -/
theorem refreshTick_step (deviceName : String) {motorId : UInt8} {b : Bus} (hpos : 0 < b.time)
    (hclear : b.eyou.Clear motorId) (hpast : ∀ query, b.ppLastIssued motorId query ≤ b.time) :
    (refreshTick deviceName).wp busProtocol (fun report b' =>
      Polls PpRule (b.ppLastIssued motorId) (visitsTo motorId report.ppVisits)
        (b'.ppLastIssued motorId) ∧
      (∀ query, b'.ppLastIssued motorId query ≤ b'.time) ∧ b.time ≤ b'.time) b := by
  simp only [refreshTick, wp_bind, Device.wp_clock, Device.wp_shared, Device.wp_refresh, id]
  intro now hnow
  generalize hb₁ : ({ b with
    time := now
    refresh := (beginTick deviceName now b.shared b.shared b.refresh).2 } : Bus) = b₁
  have hlast : b₁.ppLastIssued motorId = b.ppLastIssued motorId := by
    unfold Bus.ppLastIssued DeviceRefreshRuntime.ppScheduleState
    rw [← hb₁, beginTick_ppScheduleStates]
  have htime : b₁.time = now := hb₁ ▸ rfl
  have hclear₁ : b₁.eyou.Clear motorId := hb₁ ▸ hclear
  have hpast₁ : ∀ query, b₁.ppLastIssued motorId query ≤ now := fun query =>
    hlast ▸ (hpast query).trans hnow
  split
  · exact ⟨hlast ▸ .nil _, fun query => htime ▸ hpast₁ query, htime ▸ hnow⟩
  · rename_i pressure _
    refine wp_bind.2 (wp_mono (tickProtocols_step deviceName (hpos.trans_le hnow) pressure _ hclear₁
      hpast₁) fun report b₂ h => ?_)
    simp only [wp_bind, Device.wp_refresh, pure_eq, wp_ret]
    have htime₂ : now ≤ b₂.time := htime ▸ h.time
    exact ⟨hlast ▸ h.visits, fun query => (h.past query).trans htime₂, hnow.trans htime₂⟩

/-! ## runs -/

/-- What may happen between two ticks: everything but to the stamps of the PP motors. -/
structure PpUndisturbed (b b' : Bus) : Prop where
  schedule : b'.refresh.ppScheduleStates = b.refresh.ppScheduleStates
  time : b.time ≤ b'.time

/-- A run of the refresh worker that never finds a read of the motor still queued, with
its visits to the motor. -/
inductive PpRun (deviceName : String) (motorId : UInt8) (b₀ : Bus) : List PpVisit → Bus → Prop
  | start : PpRun deviceName motorId b₀ [] b₀
  | tick (visits : List PpVisit) (b b₁ b₂ : Bus) (report : TickReport)
      (hrun : PpRun deviceName motorId b₀ visits b) (henv : PpUndisturbed b b₁)
      (hclear : b₁.eyou.Clear motorId)
      (htick : Runs busProtocol (refreshTick deviceName) b₁ report b₂) :
      PpRun deviceName motorId b₀ (visits ++ visitsTo motorId report.ppVisits) b₂

/-- **Run**: every visit obeys the rule. -/
theorem PpRun.polls {deviceName : String} {motorId : UInt8} {b₀ b : Bus} {visits : List PpVisit}
    (hpos : 0 < b₀.time) (hpast : ∀ query, b₀.ppLastIssued motorId query ≤ b₀.time)
    (hrun : PpRun deviceName motorId b₀ visits b) :
    Polls PpRule (b₀.ppLastIssued motorId) visits (b.ppLastIssued motorId) ∧
      (∀ query, b.ppLastIssued motorId query ≤ b.time) ∧ b₀.time ≤ b.time := by
  induction hrun with
  | start => exact ⟨.nil _, hpast, le_rfl⟩
  | tick visits b b₁ b₂ report _ henv hclear htick ih =>
      obtain ⟨hpolls, hpast, htime⟩ := ih
      have hlast : b₁.ppLastIssued motorId = b.ppLastIssued motorId := by
        unfold Bus.ppLastIssued DeviceRefreshRuntime.ppScheduleState
        rw [henv.schedule]
      have hstep := htick.of_wp <| refreshTick_step deviceName
        (hpos.trans_le (htime.trans henv.time)) hclear
        fun query => hlast ▸ (hpast query).trans henv.time
      rw [hlast] at hstep
      exact ⟨hpolls.append hstep.1, hstep.2.1, htime.trans (henv.time.trans hstep.2.2)⟩

/-- The operation leaves motors unasked that have not been asked. -/
def LeavesUnasked : BusOp → Prop
  | .refresh f => ∀ r : DeviceRefreshRuntime, (∀ motorId, r.ppScheduleStates motorId = none) →
      ∀ motorId, (f r).ppScheduleStates motorId = none
  | _ => True

theorem LeavesRefresh.leavesUnasked {op : BusOp} (h : LeavesRefresh op) : LeavesUnasked op := by
  cases op with
  | refresh f =>
      obtain rfl : f = id := h
      exact fun _ hr => hr
  | _ => trivial

theorem initDevice_leavesUnasked (cfg : DeviceManagerConfig) (deviceName : String)
    (motors : List (CanType × MotorID)) :
    (initDevice cfg deviceName motors).Stays LeavesUnasked := by
  have hsteps : AllowsInit LeavesUnasked :=
    { slot := fun _ => trivial, shared := fun _ => trivial, stop := trivial
      unschedule := fun _ _ _ => rfl
      openTransport := trivial, restart := trivial
      gap := fun _ _ hr => hr
      scheduleMt := fun _ _ hr => hr
      schedulePp := fun _ _ _ _ => rfl
      scheduleDm := fun _ _ hr => hr }
  have heyou : ∀ p : Proto EyouCan Unit, p.onBus.Stays LeavesUnasked := fun p =>
    (eyou_leavesRefresh p).mono fun _ => LeavesRefresh.leavesUnasked
  have hmt : ∀ p : Proto MtCan Unit, p.onBus.Stays LeavesUnasked := fun p =>
    (mt_leavesRefresh p).mono fun _ => LeavesRefresh.leavesUnasked
  have hdm : ∀ p : Proto DamiaoCan Unit, p.onBus.Stays LeavesUnasked := fun p =>
    (dm_leavesRefresh p).mono fun _ => LeavesRefresh.leavesUnasked
  exact hsteps.stays (.vis trivial fun _ => (hmt _).bind fun _ => hmt _)
    (.vis trivial fun _ => (heyou _).bind fun _ => (heyou _).bind fun _ => (heyou _).bind
      fun _ => heyou _)
    (.vis trivial fun _ => hdm _) (hmt _) (heyou _) (hdm _)

/-- Bringing a device up for the first time leaves every motor unasked. -/
theorem initDevice_unasked (cfg : DeviceManagerConfig) (deviceName : String)
    (motors : List (CanType × MotorID)) (shared : SharedDriverState) (options : RuntimeOptions)
    (time : Time) :
    (initDevice cfg deviceName motors).wp busProtocol (fun _ b =>
      (∀ motorId query, b.ppLastIssued motorId query = 0) ∧ time ≤ b.time)
      (Bus.powerOn deviceName shared options time) := by
  refine wp_mono (wp_of_only (I := fun b : Bus =>
    (∀ motorId, b.refresh.ppScheduleStates motorId = none) ∧ time ≤ b.time)
    (initDevice_leavesUnasked cfg deviceName motors)
    (fun g op hg hA => ⟨trivial, fun r hr => ?_⟩) ⟨fun _ => rfl, le_rfl⟩) fun _ b hb => ?_
  · cases op with
    | refresh f => exact ⟨hA _ hg.1, hg.2⟩
    | clock => exact ⟨hg.1, hg.2.trans hr⟩
    | _ => exact hg
  · refine ⟨fun motorId query => ?_, hb.2.2⟩
    unfold Bus.ppLastIssued DeviceRefreshRuntime.ppScheduleState
    rw [hb.2.1]
    rfl

/-- `EyouCan.Clear` as a test. -/
def EyouCan.isClear (motorId : UInt8) (eyou : EyouCan) : Bool :=
  !eyou.shuttingDown && eyou.canController &&
    (List.range 256).all fun n =>
      !((eyou.pendingReadRequests (motorId, n.toUInt8)).map fun r => r.queued).getD false

theorem EyouCan.clear_of_isClear {motorId : UInt8} {eyou : EyouCan}
    (h : eyou.isClear motorId = true) : eyou.Clear motorId := by
  simp only [isClear, Bool.and_eq_true, Bool.not_eq_true', List.all_eq_true, List.mem_range] at h
  obtain ⟨⟨hrunning, hcontroller⟩, hsent⟩ := h
  refine ⟨hrunning, hcontroller, fun subCommand r hr => ?_⟩
  have hsub := hsent subCommand.toNat subCommand.toNat_lt
  have hnat : subCommand.toNat.toUInt8 = subCommand := UInt8.ofNat_toNat
  simpa [hnat, hr] using hsub

/-- The worker sends what is queued, `gap` passes, and the device is ticked: the
visits to motor 5. -/
def ppRound (gap : Time) (b : Bus) : Option (List PpVisit × Bus) := do
  let (_, b₁) ← (DeviceRuntime.workerStep "can0").run busProtocol Bus.answer b
  let b₂ := { b₁ with time := b₁.time + gap }
  if b₂.eyou.isClear 5 then
    let (report, b₃) ← (refreshTick "can0").run busProtocol Bus.answer b₂
    some (visitsTo 5 report.ppVisits, b₃)
  else none

/-- That many rounds. -/
def ppRounds (gap : Time) : Nat → Bus → Option (List PpVisit × Bus)
  | 0, b => some ([], b)
  | n + 1, b => do
      let (visits, b₁) ← ppRounds gap n b
      let (more, b₂) ← ppRound gap b₁
      some (visits ++ more, b₂)

theorem workerStep_leavesRefresh (deviceName : String) :
    (DeviceRuntime.workerStep deviceName).Stays LeavesRefresh := by
  refine .vis trivial fun next => ?_
  cases next with
  | none => trivial
  | some r =>
      refine .vis trivial fun sendTime => .vis trivial fun result => ?_
      have hcompletion : ∀ c : Completion, (c.run true result sendTime).Stays LeavesRefresh :=
        fun c => by cases c <;> exact ⟨trivial, fun _ _ => trivial⟩
      have hnote : (DeviceRuntime.noteSharedSendResult deviceName result).Stays LeavesRefresh :=
        .ite trivial (.vis trivial fun _ => .vis trivial fun _ => trivial)
      have hrest := hnote.bind (f := fun _ => Device.account result) fun _ =>
        .vis trivial fun _ => trivial
      dsimp only [Prog.bind]
      cases hc : r.completion with
      | none => simpa [hc] using hrest
      | some c => simpa [hc] using (hcompletion c).bind fun _ => hrest

theorem ppRun_of_ppRounds {gap : Time} (hgap : 0 ≤ gap) {n : Nat} {b₀ b : Bus}
    {visits : List PpVisit} (h : ppRounds gap n b₀ = some (visits, b)) :
    PpRun "can0" 5 b₀ visits b := by
  induction n generalizing visits b with
  | zero =>
      simp only [ppRounds, Option.some.injEq, Prod.mk.injEq] at h
      obtain ⟨rfl, rfl⟩ := h
      exact .start
  | succ n ih =>
      simp only [ppRounds, ppRound, Option.bind_eq_bind, Option.bind_eq_some_iff,
        Option.ite_none_right_eq_some, Option.some.injEq, Prod.mk.injEq, Prod.exists] at h
      obtain ⟨before, b₁, hbefore, more, b₂, ⟨_, b₃, hworker, hclear, report, _, htick, rfl, rfl⟩,
        rfl, rfl⟩ := h
      have hsent := (runs_of_run (fun _ _ _ => admits_of_answer) hworker).of_wp
        (wp_of_leavesRefresh (workerStep_leavesRefresh _))
      refine .tick _ _ { b₃ with time := b₃.time + gap } _ report (ih hbefore) ⟨?_, ?_⟩
        (EyouCan.clear_of_isClear hclear) (runs_of_run (fun _ _ _ => admits_of_answer) htick)
      · exact congrArg _ hsent.2.1
      · exact hsent.2.2.trans (Int.le_add_of_nonneg_right hgap)

/-- Motor 5 is brought up and six rounds follow. -/
def sixRounds (gap : Time) : Option (Bus × List PpVisit × Bus) := do
  let (ok, b₀) ← (initDevice {} "can0" [(.PP, 5)]).run busProtocol Bus.answer
    (Bus.powerOn "can0" {} {} (ms 1000))
  let (visits, b) ← ppRounds gap 6 b₀
  if ok then some (b₀, visits, b) else none

theorem runs_of_sixRounds {gap : Time} (hgap : 0 ≤ gap) {b₀ b : Bus} {visits : List PpVisit}
    (h : sixRounds gap = some (b₀, visits, b)) :
    Runs busProtocol (initDevice {} "can0" [(.PP, 5)]) (Bus.powerOn "can0" {} {} (ms 1000)) true
      b₀ ∧ PpRun "can0" 5 b₀ visits b := by
  simp only [sixRounds, Option.bind_eq_bind, Option.bind_eq_some_iff,
    Option.ite_none_right_eq_some, Option.some.injEq, Prod.mk.injEq, Prod.exists] at h
  obtain ⟨ok, b₀', hinit, visits', b', hrounds, rfl, rfl, rfl, rfl⟩ := h
  exact ⟨runs_of_run (fun _ _ _ => admits_of_answer) hinit, ppRun_of_ppRounds hgap hrounds⟩

theorem staysDue_of_due {κ τ : Type} {k : κ} {window : List (Round κ τ)}
    (h : ∀ v ∈ window, k ∈ v.due) : StaysDue k window := by
  rintro before v after rfl _
  exact h v (by simp)

end CanDriver
