import CanDriver.Lib.RoundRobin
import CanDriver.Lib.Runs
import CanDriver.Refresh.PpPolling

/-!
# CanDriver.Refresh.PpPressure

Plans under query pressure, when all that is planned is sent and marked.

Under pressure a plan takes four of the six queries and the next one starts behind the last
query taken.  Two times four covers the six: a query that is due at two plans running under
pressure is in one of them.  Without pressure a plan is all that is due.
-/

namespace CanDriver

open Interact

/-- One planning for a motor, with the times at which the planned queries are marked. -/
structure PpPlanning where
  now : Time
  queryPressureActive : Bool
  snapshot : PpAxisRefreshSnapshot
  markedAt : PpRefreshQuery → Time

/-- The schedule, with when each query was last marked, if it ever was. -/
structure PpHistory where
  schedule : PpAxisRefreshScheduleState := {}
  lastMarked : PpRefreshQuery → Option Time := fun _ => none

namespace PpPlanning

/-- What `BuildPpRefreshPlan` plans. -/
def plan (v : PpPlanning) (h : PpHistory) : List PpRefreshQuery :=
  (buildPpRefreshPlan v.now v.queryPressureActive v.snapshot h.schedule).1

/-- The plan is made, and every query on it marked by `NotePpRefreshQueryIssued`. -/
def run (h : PpHistory) (v : PpPlanning) : PpHistory where
  schedule := (v.plan h).foldl
    (fun schedule query => notePpRefreshQueryIssued (v.markedAt query) query schedule)
    (buildPpRefreshPlan v.now v.queryPressureActive v.snapshot h.schedule).2
  lastMarked query := if query ∈ v.plan h then some (v.markedAt query) else h.lastMarked query

/-- A query is due: it was never marked, or its period has elapsed since. -/
def Due (v : PpPlanning) (h : PpHistory) (query : PpRefreshQuery) : Prop :=
  ∀ t, h.lastMarked query = some t → ppRefreshPeriod query v.snapshot ≤ v.now - t

end PpPlanning

/-- The times are positive and do not decrease. -/
def PlannedInOrder (vs : List PpPlanning) : Prop :=
  (∀ v ∈ vs, 0 < v.now ∧ ∀ query, v.now ≤ v.markedAt query) ∧
    vs.Pairwise fun v w => ∀ query, v.markedAt query ≤ w.now

/-- The history after some plannings, from a schedule with nothing marked and any cursor. -/
def ppHistory (pressureCursor : Nat) (vs : List PpPlanning) : PpHistory :=
  after PpPlanning.run { schedule := { pressureCursor } } vs

/-! ## the schedule follows the history -/

theorem lastIssued_marked (marks : PpRefreshQuery → Time) (plan : List PpRefreshQuery)
    (schedule : PpAxisRefreshScheduleState) (query : PpRefreshQuery) :
    (plan.foldl (fun schedule query => notePpRefreshQueryIssued (marks query) query schedule)
        schedule).lastIssued query =
      if query ∈ plan then marks query else schedule.lastIssued query := by
  induction plan generalizing schedule with
  | nil => simp
  | cons q plan ih =>
      rw [List.foldl_cons, ih, notePpRefreshQueryIssued]
      by_cases hq : query = q
      · subst hq
        simp
      · simp [hq]

theorem pressureCursor_marked (marks : PpRefreshQuery → Time) (plan : List PpRefreshQuery)
    (schedule : PpAxisRefreshScheduleState) :
    (plan.foldl (fun schedule query => notePpRefreshQueryIssued (marks query) query schedule)
        schedule).pressureCursor = schedule.pressureCursor := by
  induction plan generalizing schedule with
  | nil => rfl
  | cons q plan ih => rw [List.foldl_cons, ih, notePpRefreshQueryIssued]

/-- The schedule holds the last marks, none of them later than a time. -/
structure PpHistory.Follows (h : PpHistory) (t : Time) : Prop where
  issued : ∀ query, h.schedule.lastIssued query = (h.lastMarked query).getD 0
  marked : ∀ query mark, h.lastMarked query = some mark → 0 < mark ∧ mark ≤ t

/-- **Step**: marking at positive times keeps the schedule with the history. -/
theorem PpHistory.Follows.run {h : PpHistory} {v : PpPlanning} {t t' : Time} (hf : h.Follows t)
    (hpos : 0 < v.now) (hmarks : ∀ query, v.now ≤ v.markedAt query ∧ v.markedAt query ≤ t')
    (ht : t ≤ t') : (v.run h).Follows t' where
  issued query := by
    have hissued := hf.issued query
    simp only [PpPlanning.run]
    rw [lastIssued_marked, buildPpRefreshPlan_lastIssued]
    by_cases hmem : query ∈ v.plan h
    · rw [if_pos hmem, if_pos hmem, Option.getD_some]
    · rw [if_neg hmem, if_neg hmem, hissued]
  marked query mark hmark := by
    rw [PpPlanning.run] at hmark
    dsimp only at hmark
    split at hmark
    · obtain rfl := Option.some.inj hmark
      have := hmarks query
      exact ⟨hpos.trans_le this.1, this.2⟩
    · have := hf.marked query mark hmark
      exact ⟨this.1, this.2.trans ht⟩

/-- **Run**: the schedule follows the history up to each next planning. -/
theorem follows_ppHistory (pressureCursor : Nat) {vs : List PpPlanning} {v : PpPlanning}
    (htimed : PlannedInOrder (vs ++ [v])) : (ppHistory pressureCursor vs).Follows v.now := by
  induction vs using List.reverseRecOn generalizing v with
  | nil => exact ⟨fun _ => rfl, fun _ _ h => absurd h (by simp [ppHistory, after])⟩
  | append_singleton vs u ih =>
      obtain ⟨hpos, hpairs⟩ := htimed
      rw [List.pairwise_append] at hpairs
      have hu := hpos u (by simp)
      have hmarks := hpairs.2.2 u (by simp) v (by simp)
      have hfollows := ih ⟨fun w hw => hpos w (List.mem_append_left _ hw), hpairs.1⟩
      rw [ppHistory, after_concat]
      exact hfollows.run hu.1 (fun query => ⟨hu.2 query, hmarks query⟩)
        ((hu.2 .position).trans (hmarks .position))

/-- What the code takes for due is due. -/
theorem due_iff {h : PpHistory} {v : PpPlanning} (hf : h.Follows v.now) (query : PpRefreshQuery) :
    h.schedule.due v.now v.snapshot query = true ↔ v.Due h query := by
  have hdue := mem_due h.schedule v.now v.snapshot query
  simp only [List.mem_filter, mem_ppRefreshQueryOrder, true_and] at hdue
  rw [hdue, hf.issued query, PpPlanning.Due]
  cases hmark : h.lastMarked query with
  | none => simp
  | some mark =>
      have hbounds := hf.marked query mark hmark
      simp only [Option.getD_some, Option.some.injEq, forall_eq']
      constructor
      · intro hnot
        by_contra hlt
        exact hnot ⟨ne_of_gt hbounds.1, hbounds.2, not_le.1 hlt⟩
      · rintro hle ⟨-, -, hlt⟩
        exact absurd hlt (not_lt.2 hle)

/-! ## one plan -/

/-- How many queries a plan may take. -/
def ppBudget (queryPressureActive : Bool) : Nat :=
  if queryPressureActive then min kPpPressureBudgetPerCycle kPpRefreshQueryCount
  else kPpRefreshQueryCount

/-- A plan is one round over the queries. -/
theorem plan_eq_served (v : PpPlanning) (h : PpHistory) :
    v.plan h = served (ppBudget v.queryPressureActive) (h.schedule.due v.now v.snapshot)
      (h.schedule.order v.queryPressureActive) :=
  buildPpRefreshPlan_eq _ _ _ _

theorem nodup_order (schedule : PpAxisRefreshScheduleState) (pressure : Bool) :
    (schedule.order pressure).Nodup := by
  have hrotate : ∀ k < kPpRefreshQueryCount, (ppRefreshQueryOrder.rotateLeft k).Nodup := by
    decide
  unfold PpAxisRefreshScheduleState.order
  split
  · exact hrotate _ (Nat.mod_lt _ (by decide))
  · decide

theorem length_order (schedule : PpAxisRefreshScheduleState) (pressure : Bool) :
    (schedule.order pressure).length = kPpRefreshQueryCount := by
  have hrotate : ∀ k < kPpRefreshQueryCount,
      (ppRefreshQueryOrder.rotateLeft k).length = kPpRefreshQueryCount := by
    decide
  unfold PpAxisRefreshScheduleState.order
  split
  · exact hrotate _ (Nat.mod_lt _ (by decide))
  · decide

theorem mem_plan_due {v : PpPlanning} {h : PpHistory} (hf : h.Follows v.now)
    {query : PpRefreshQuery} (hmem : query ∈ v.plan h) : v.Due h query := by
  rw [plan_eq_served] at hmem
  exact (due_iff hf query).1 (mem_of_mem_served hmem).2

/-- Without pressure everything due is planned. -/
theorem mem_plan_iff {v : PpPlanning} {h : PpHistory} (hf : h.Follows v.now)
    (hcalm : v.queryPressureActive = false) (query : PpRefreshQuery) :
    query ∈ v.plan h ↔ v.Due h query := by
  have hfits : (h.schedule.order false).length ≤ ppBudget false :=
    (length_order h.schedule false).le
  rw [plan_eq_served, hcalm, mem_served_of_fits hfits, due_iff hf]
  exact and_iff_right (mem_order h.schedule false query)

/-! ## two plans under pressure -/

/-- The cursor stays where it is without pressure. -/
theorem pressureCursor_run_calm {h : PpHistory} {v : PpPlanning}
    (hcalm : v.queryPressureActive = false) :
    (v.run h).schedule.pressureCursor = h.schedule.pressureCursor := by
  rw [PpPlanning.run, pressureCursor_marked, hcalm]
  rfl

theorem pressureCursor_calm (pressureCursor : Nat) (vs between : List PpPlanning)
    (hcalm : ∀ v ∈ between, v.queryPressureActive = false) :
    (ppHistory pressureCursor (vs ++ between)).schedule.pressureCursor =
      (ppHistory pressureCursor vs).schedule.pressureCursor := by
  induction between using List.reverseRecOn with
  | nil => rw [List.append_nil]
  | append_singleton between v ih =>
      have hv := hcalm v (by simp)
      rw [← List.append_assoc, ppHistory, after_concat, pressureCursor_run_calm hv]
      exact ih fun u hu => hcalm u (List.mem_append_left _ hu)

/-- Under pressure it goes behind the last query planned. -/
theorem pressureCursor_run {h : PpHistory} {v : PpPlanning} {last : PpRefreshQuery}
    (hpressure : v.queryPressureActive = true) (hlast : (v.plan h).getLast? = some last) :
    (v.run h).schedule.pressureCursor =
      (ppRefreshQueryIndex last + 1) % kPpRefreshQueryCount := by
  have hplan := buildPpRefreshPlan_eq v.now v.queryPressureActive v.snapshot h.schedule
  rw [PpPlanning.plan, hplan, hpressure] at hlast
  rw [PpPlanning.run, pressureCursor_marked, hpressure]
  unfold buildPpRefreshPlan
  dsimp only
  rw [hlast]

/-- The order from the cursor on, and from behind one of its queries on. -/
theorem order_split (schedule : PpAxisRefreshScheduleState) (last : PpRefreshQuery) :
    ∃ before behind, schedule.order true = before ++ last :: behind ∧
      ∀ schedule' : PpAxisRefreshScheduleState,
        schedule'.pressureCursor = (ppRefreshQueryIndex last + 1) % kPpRefreshQueryCount →
        schedule'.order true = behind ++ (before ++ [last]) := by
  have hsplit : ∀ k < kPpRefreshQueryCount,
      ppRefreshQueryOrder.rotateLeft k =
        (ppRefreshQueryOrder.rotateLeft k).takeWhile (· != last) ++
          last :: ((ppRefreshQueryOrder.rotateLeft k).dropWhile (· != last)).tail ∧
      ppRefreshQueryOrder.rotateLeft
          ((ppRefreshQueryIndex last + 1) % kPpRefreshQueryCount % kPpRefreshQueryCount) =
        ((ppRefreshQueryOrder.rotateLeft k).dropWhile (· != last)).tail ++
          ((ppRefreshQueryOrder.rotateLeft k).takeWhile (· != last) ++ [last]) := by
    cases last <;> decide
  obtain ⟨hfirst, hnext⟩ := hsplit _ (Nat.mod_lt schedule.pressureCursor (by decide))
  refine ⟨_, _, hfirst, fun schedule' hcursor => ?_⟩
  rw [PpAxisRefreshScheduleState.order, if_pos rfl, hcursor]
  exact hnext

/-- **Coverage**: the cursor of the first plan leads the second to what the first left out. -/
theorem covered {h h' : PpHistory} {v w : PpPlanning} (hv : v.queryPressureActive = true)
    (hw : w.queryPressureActive = true) (hf : h.Follows v.now) (hf' : h'.Follows w.now)
    (hcursor : h'.schedule.pressureCursor = (v.run h).schedule.pressureCursor)
    {query : PpRefreshQuery} (hdue : v.Due h query) (hdue' : w.Due h' query) :
    query ∈ v.plan h ∨ query ∈ w.plan h' := by
  have hwanted := (due_iff hf query).2 hdue
  have hmem := mem_order h.schedule true query
  cases hlast : (v.plan h).getLast? with
  | none =>
      have hempty := List.getLast?_eq_none_iff.1 hlast
      rw [plan_eq_served, hv] at hempty
      exact absurd hempty (served_ne_nil (by decide) hmem hwanted)
  | some last =>
      obtain ⟨before, behind, horder, hnext⟩ := order_split h.schedule last
      have horder' := hnext h'.schedule (hcursor.trans (pressureCursor_run hv hlast))
      have hnodup := nodup_order h.schedule true
      have hbudget : (h.schedule.order true).length ≤ 2 * ppBudget true := by
        rw [length_order]
        decide
      rw [plan_eq_served, hv, horder] at hlast
      rw [horder] at hmem hnodup hbudget
      rw [plan_eq_served, plan_eq_served, hv, hw, horder, horder']
      exact served_within_two hnodup hbudget hlast hmem hwanted ((due_iff hf' query).2 hdue')

/-! ## any sequence of plans -/

/-- The plan made after some others. -/
def planAfter (pressureCursor : Nat) (earlier : List PpPlanning) (v : PpPlanning) :
    List PpRefreshQuery :=
  v.plan (ppHistory pressureCursor earlier)

/-- A query is due after some plans. -/
def dueAfter (pressureCursor : Nat) (earlier : List PpPlanning) (v : PpPlanning)
    (query : PpRefreshQuery) : Prop :=
  v.Due (ppHistory pressureCursor earlier) query

theorem PlannedInOrder.of_prefix {vs ws : List PpPlanning} (h : PlannedInOrder ws) (hvs : vs <+: ws) :
    PlannedInOrder vs :=
  ⟨fun v hv => h.1 v (hvs.subset hv), h.2.sublist hvs.sublist⟩

/-- **Plans**: each plan names what is due and nothing twice, under pressure at most four of
it and otherwise all of it; and of two plans running under pressure one has what is due at
both. -/
theorem pp_plans_cover_due (pressureCursor : Nat) (vs : List PpPlanning) (htimed : PlannedInOrder vs) :
    (∀ earlier v later, vs = earlier ++ v :: later →
      (planAfter pressureCursor earlier v).Nodup ∧
      (∀ query ∈ planAfter pressureCursor earlier v, dueAfter pressureCursor earlier v query) ∧
      (v.queryPressureActive = true → (planAfter pressureCursor earlier v).length ≤ 4) ∧
      (v.queryPressureActive = false → ∀ query,
        query ∈ planAfter pressureCursor earlier v ↔ dueAfter pressureCursor earlier v query)) ∧
    (∀ earlier v between w later, vs = earlier ++ v :: between ++ w :: later →
      v.queryPressureActive = true → (∀ u ∈ between, u.queryPressureActive = false) →
      w.queryPressureActive = true → ∀ query,
      dueAfter pressureCursor earlier v query →
      dueAfter pressureCursor (earlier ++ v :: between) w query →
      query ∈ planAfter pressureCursor earlier v ∨
        query ∈ planAfter pressureCursor (earlier ++ v :: between) w) := by
  have hfollows : ∀ earlier v later, vs = earlier ++ v :: later →
      (ppHistory pressureCursor earlier).Follows v.now := by
    rintro earlier v later rfl
    rw [List.append_cons] at htimed
    exact follows_ppHistory pressureCursor (htimed.of_prefix (List.prefix_append _ _))
  constructor
  · intro earlier v later hvs
    have hf := hfollows earlier v later hvs
    refine ⟨?_, fun query => mem_plan_due hf, fun hpressure => ?_, fun hcalm => mem_plan_iff hf hcalm⟩
    · rw [planAfter, plan_eq_served]
      exact nodup_served (nodup_order _ _)
    · rw [planAfter, plan_eq_served, hpressure]
      exact length_served_le
  · intro earlier v between w later hvs hv hcalm hw query hdue hdue'
    have hf' := hfollows _ w later hvs
    rw [List.append_assoc, List.cons_append] at hvs
    have hf := hfollows earlier v _ hvs
    refine covered hv hw hf hf' ?_ hdue hdue'
    rw [List.append_cons, pressureCursor_calm _ _ _ hcalm, ppHistory, after_concat]
    rfl

/-- A planning under pressure for a motor not heard from, marked at once. -/
def pressured (now : Time) : PpPlanning where
  now
  queryPressureActive := true
  snapshot := {}
  markedAt _ := now

/-- Two plans 50 ms apart: the fault, left out of the first, is due again and in the second. -/
theorem two_pressure_plans :
    .fault ∈ planAfter 0 [] (pressured (ms 1)) ∨
      .fault ∈ planAfter 0 [pressured (ms 1)] (pressured (ms 51)) := by
  have htimed : PlannedInOrder [pressured (ms 1), pressured (ms 51)] := by
    simp [PlannedInOrder, ms, pressured]
  have hdue : dueAfter 0 [] (pressured (ms 1)) .fault := by
    rintro t ht
    exact absurd ht (by simp [ppHistory, after])
  have hdue' : dueAfter 0 [pressured (ms 1)] (pressured (ms 51)) .fault := by
    have hunmarked : (ppHistory 0 [pressured (ms 1)]).lastMarked .fault = none := by decide
    intro t ht
    rw [hunmarked] at ht
    cases ht
  exact (pp_plans_cover_due 0 _ htimed).2 [] _ [] _ [] rfl rfl (by simp) rfl .fault hdue hdue'

end CanDriver
