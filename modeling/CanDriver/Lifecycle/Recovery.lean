import CanDriver.Lifecycle.Questions
import Mathlib.Data.List.Dedup
import Mathlib.Data.List.Perm.Subperm
import Mathlib.Data.List.Chain

/-!
# CanDriver.Lifecycle.Recovery

When `recoverAll` takes the axes for recovered.

After the faults are reset, the records of the targets are evaluated every 50 ms.  For each
axis a tracker counts the samples on which it is found ready, and an evaluation that finds it
unready discards the tracker.  The count is not begun anew when a call starts, and an axis
without a record is only asked for its fault: `recovered_on_samples` says what a success
shows of the axes where neither plays a part.
-/

namespace CanDriver

open Interact Prog LifecycleDriverOps AxisReadinessEvaluator

/-! ## one evaluation -/

/-- A sample that finds the axis ready is counted, unless it is the last one again. -/
def AxisRecoverTracker.count (tracker : AxisRecoverTracker) (cycles : Nat) (sampleNs : Time) :
    AxisRecoverTracker :=
  if sampleNs ≠ tracker.lastSampleNs then
    { lastSampleNs := sampleNs, healthyCycles := min (tracker.healthyCycles + 1) cycles }
  else
    { tracker with healthyCycles := max tracker.healthyCycles 1 }

namespace AxisReadinessTracking

/-- The samples it takes to confirm that an axis has recovered. -/
def cycles (s : AxisReadinessTracking) : Nat := max 1 s.evaluator.recoverConfirmCycles

/-- What a critical section looks at of an axis: not at it, at an unready axis, or at a ready
one and the sample of that time.  It is read off what the section makes of a count of none. -/
def look (f : AxisReadinessTracking → AxisReadinessTracking) (s : AxisReadinessTracking)
    (axis : AxisKey) : Option (Option Time) :=
  match (f { s with trackers := fun _ => some {} }).trackers (axisMapKey axis) with
  | none => some none
  | some tracker => if tracker = {} then none else some (some tracker.lastSampleNs)

variable {s : AxisReadinessTracking} {axis axis' : AxisKey} {feedback : AxisFeedbackState}
  {command : Option AxisCommandState} {deviceHealth : Option DeviceHealthState} {nowNs : Time}

/-- Whether the evaluator finds the axis ready. -/
def findsReady (s : AxisReadinessTracking) (feedback : AxisFeedbackState)
    (command : Option AxisCommandState) (deviceHealth : Option DeviceHealthState)
    (nowNs : Time) : Bool :=
  (s.evaluator.evaluate feedback command .recover deviceHealth nowNs).axisReadyForEnable

/-- An axis that is ready has a sample. -/
theorem sample_of_findsReady (h : s.findsReady feedback command deviceHealth nowNs = true) :
    0 < feedback.lastRxSteadyNs := by
  have hready : readyForEnable
      (s.evaluator.evaluate feedback command .recover deviceHealth nowNs) = true := h
  have hfresh := fresh_of_readyForEnable hready
  unfold feedbackFresh at hfresh
  split at hfresh
  · next hseen => exact of_decide_eq_true (Bool.and_eq_true_iff.1 hseen).2
  · cases hfresh

/-- An axis that is unready while it recovers loses its tracker. -/
theorem recover_unready (axis : AxisKey) (h : s.findsReady feedback command deviceHealth nowNs = false) :
    (s.evaluateAxisReadiness axis feedback command .recover deviceHealth nowNs).1.recoverConfirmed =
      false ∧
    (s.evaluateAxisReadiness axis feedback command .recover deviceHealth nowNs).2 =
      { s with trackers := Function.update s.trackers (axisMapKey axis) none } := by
  unfold findsReady at h
  simp [evaluateAxisReadiness, h]

/-- The tracker of an axis after one more sample on which it is ready. -/
def counted (s : AxisReadinessTracking) (axis : AxisKey) (sampleNs : Time) : AxisRecoverTracker :=
  ((s.trackers (axisMapKey axis)).getD {}).count s.cycles sampleNs

/-- The sample of an axis that is ready is counted. -/
theorem recover_ready (axis : AxisKey) (h : s.findsReady feedback command deviceHealth nowNs = true) :
    (s.evaluateAxisReadiness axis feedback command .recover deviceHealth nowNs).1.recoverConfirmed =
      decide (s.cycles ≤ (s.counted axis feedback.lastRxSteadyNs).healthyCycles) ∧
    (s.evaluateAxisReadiness axis feedback command .recover deviceHealth nowNs).2 =
      { s with
        trackers := put s.trackers (axisMapKey axis) (s.counted axis feedback.lastRxSteadyNs) } := by
  have hsample := sample_of_findsReady h
  unfold findsReady at h
  simp [evaluateAxisReadiness, h, hsample, counted, AxisRecoverTracker.count, cycles]

/-- **Look**: an evaluation looks at its axis, and finds it unready or takes its sample. -/
theorem look_self (s : AxisReadinessTracking) (axis : AxisKey) (feedback : AxisFeedbackState)
    (command : Option AxisCommandState) (deviceHealth : Option DeviceHealthState) (nowNs : Time) :
    look (fun s => (s.evaluateAxisReadiness axis feedback command .recover deviceHealth nowNs).2) s
      axis = some (if s.findsReady feedback command deviceHealth nowNs then
        some feedback.lastRxSteadyNs else none) := by
  cases hready : s.findsReady feedback command deviceHealth nowNs with
  | false =>
      rw [look, (recover_unready (s := { s with trackers := fun _ => some {} }) _ hready).2]
      simp
  | true =>
      have hsample := sample_of_findsReady hready
      rw [look, (recover_ready (s := { s with trackers := fun _ => some {} }) _ hready).2]
      have hne : feedback.lastRxSteadyNs ≠ 0 := Int.ne_of_gt hsample
      simp [counted, AxisRecoverTracker.count, hne]

/-- **Isolation**: an evaluation looks at no other axis, and leaves its tracker alone. -/
theorem look_of_ne (s : AxisReadinessTracking) (feedback : AxisFeedbackState)
    (command : Option AxisCommandState) (deviceHealth : Option DeviceHealthState) (nowNs : Time)
    (h : axis' ≠ axis) :
    look (fun s => (s.evaluateAxisReadiness axis feedback command .recover deviceHealth nowNs).2) s
      axis' = none ∧
    (s.evaluateAxisReadiness axis feedback command .recover deviceHealth nowNs).2.trackers
      (axisMapKey axis') = s.trackers (axisMapKey axis') := by
  have hkey : axisMapKey axis' ≠ axisMapKey axis := fun hkey => h (axisMapKey_injective hkey)
  cases hready : s.findsReady feedback command deviceHealth nowNs with
  | false =>
      rw [look, (recover_unready (s := { s with trackers := fun _ => some {} }) _ hready).2,
        (recover_unready _ hready).2]
      simp [hkey]
  | true =>
      rw [look, (recover_ready (s := { s with trackers := fun _ => some {} }) _ hready).2,
        (recover_ready _ hready).2]
      simp [put_of_ne _ _ hkey]

/-- An evaluation leaves the configuration alone. -/
theorem evaluateAxisReadiness_evaluator :
    (s.evaluateAxisReadiness axis feedback command .recover deviceHealth nowNs).2.evaluator =
      s.evaluator := by
  cases hready : s.findsReady feedback command deviceHealth nowNs with
  | false => rw [(recover_unready _ hready).2]
  | true => rw [(recover_ready _ hready).2]

end AxisReadinessTracking

/-! ## what a call sees -/

/-- What `recoverAll` works on and what it has seen: the tracking, and in order what each
evaluation looked at, the shared states and the answers about faults. -/
structure RecoverLog where
  tracking : AxisReadinessTracking := {}
  looks : List (AxisKey → Option (Option Time)) := []
  seen : List SharedDriverState := []
  faults : List (Target × Option Bool) := []

namespace RecoverLog

/-- The tracking is what was stored, and the target lists stay; everything else may be
answered at will. -/
def Admits (lists : LifecycleTargets) (g : RecoverLog) : (op : LifecycleOp) → op.Ans → Prop
  | .targets _, r => r = lists
  | .readiness _, r => r = g.tracking
  | _, _ => True

/-- What is kept of an operation and its answer. -/
def after (g : RecoverLog) : (op : LifecycleOp) → op.Ans → RecoverLog
  | .readiness f, _ => { g with
      tracking := f g.tracking
      looks := g.looks ++ [AxisReadinessTracking.look f g.tracking] }
  | .shared, shared => { g with seen := g.seen ++ [shared] }
  | .hasFault target, fault => { g with faults := g.faults ++ [(target, fault)] }
  | _, _ => g

end RecoverLog

/-- `recoverAll` meets its target lists and the readiness tracking. -/
def recoverRules (lists : LifecycleTargets) : Protocol lifecycleSig RecoverLog where
  allow _ _ := True
  accepts := RecoverLog.Admits lists
  next := RecoverLog.after

/-- The samples on which an axis was found ready. -/
def readySamples (looks : List (AxisKey → Option (Option Time))) (axis : AxisKey) : List Time :=
  looks.filterMap fun look => (look axis).join

/-- These samples were seen in order, the axis was ready on each of them, and was not found
unready since the first one. -/
def ShownReady (looks : List (AxisKey → Option (Option Time))) (axis : AxisKey)
    (samples : List Time) : Prop :=
  ∃ front back, looks = front ++ back ∧ (∀ look ∈ back, look axis ≠ some none) ∧
    samples.Sublist (readySamples back axis)

/-- The axis was ready on so many distinct samples, and not unready since the first one. -/
def RecoveryShown (cycles : Nat) (looks : List (AxisKey → Option (Option Time)))
    (axis : AxisKey) : Prop :=
  ∃ samples, ShownReady looks axis samples ∧ cycles ≤ samples.length ∧ samples.Nodup

/-- The same, where a sample need only differ from the one counted before it. -/
def RecoveryCounted (cycles : Nat) (looks : List (AxisKey → Option (Option Time)))
    (axis : AxisKey) : Prop :=
  ∃ samples, ShownReady looks axis samples ∧ cycles ≤ samples.length ∧
    samples.IsChain (· ≠ ·)

/-- The axis had no record, and a look at its fault, published or asked for, found none. -/
def Faultless (g : RecoverLog) (target : Target) : Prop :=
  (target, some false) ∈ g.faults ∨ ∃ shared ∈ g.seen, ∃ feedback,
    shared.getAxisFeedback target.axisKey = some feedback ∧
      (feedback.feedbackSeen && feedback.faultValid) = true ∧ feedback.fault = false

/-- The axis was found without a record and without a fault. -/
def FaultlessUnrecorded (g : RecoverLog) (target : Target) : Prop :=
  (∃ shared ∈ g.seen, shared.getAxisFeedback target.axisKey = none) ∧ Faultless g target

/-- Samples that are counted one by one, in the order of time, are distinct. -/
theorem RecoveryCounted.shown (h : RecoveryCounted cycles looks axis)
    (htime : (readySamples looks axis).Pairwise (· ≤ ·)) : RecoveryShown cycles looks axis := by
  obtain ⟨samples, ⟨front, back, rfl, hready, hsub⟩, hcycles, hchain⟩ := h
  refine ⟨samples, ⟨front, back, rfl, hready, hsub⟩, hcycles, ?_⟩
  have hle : samples.Pairwise (· ≤ ·) := by
    refine (htime.sublist ?_).sublist hsub
    rw [readySamples, readySamples, List.filterMap_append]
    exact List.sublist_append_right _ _
  have hlt : samples.IsChain (· < ·) := by
    refine List.isChain_iff_forall_rel_of_append_cons_cons.2 fun a b l l' hsplit => ?_
    have hne := List.isChain_iff_forall_rel_of_append_cons_cons.1 hchain hsplit
    have hle := List.isChain_iff_forall_rel_of_append_cons_cons.1
      (List.isChain_iff_pairwise.2 hle) hsplit
    exact Int.lt_iff_le_and_ne.2 ⟨hle, hne⟩
  exact (List.isChain_iff_pairwise.1 hlt).imp fun h => Int.ne_of_lt h

/-! ## counting -/

/-- The tracker of an axis counts samples that were shown. -/
def Counts (g : RecoverLog) (axis : AxisKey) : Prop :=
  ∀ tracker, g.tracking.trackers (axisMapKey axis) = some tracker →
    ∃ samples, ShownReady g.looks axis samples ∧ tracker.healthyCycles ≤ samples.length ∧
      samples.IsChain (· ≠ ·) ∧ samples.getLast? = some tracker.lastSampleNs

/-- What was shown stays shown after a look that does not find the axis unready. -/
theorem ShownReady.concat (h : ShownReady looks axis samples)
    (hlook : look axis ≠ some none) : ShownReady (looks ++ [look]) axis samples := by
  obtain ⟨front, back, rfl, hready, hsub⟩ := h
  refine ⟨front, back ++ [look], by simp, ?_, ?_⟩
  · intro l hl
    rcases List.mem_append.1 hl with hl | hl
    · exact hready l hl
    · rw [List.mem_singleton.1 hl]
      exact hlook
  · rw [readySamples, List.filterMap_append]
    exact hsub.trans (List.sublist_append_left _ _)

/-- A look that finds the axis ready shows one more sample. -/
theorem ShownReady.concat_sample (h : ShownReady looks axis samples)
    (hlook : look axis = some (some sampleNs)) :
    ShownReady (looks ++ [look]) axis (samples ++ [sampleNs]) := by
  obtain ⟨front, back, rfl, hready, hsub⟩ := h
  refine ⟨front, back ++ [look], by simp, ?_, ?_⟩
  · intro l hl
    rcases List.mem_append.1 hl with hl | hl
    · exact hready l hl
    · rw [List.mem_singleton.1 hl, hlook]
      exact fun h => by cases Option.some.inj h
  · rw [readySamples, List.filterMap_append]
    refine hsub.append ?_
    simp [hlook]

theorem ShownReady.single (hlook : look axis = some (some sampleNs)) :
    ShownReady (looks ++ [look]) axis [sampleNs] := by
  refine ⟨looks, [look], rfl, ?_, ?_⟩
  · intro l hl
    rw [List.mem_singleton.1 hl, hlook]
    exact fun h => by cases Option.some.inj h
  · simp [readySamples, hlook]

section

variable {lists : LifecycleTargets} {g : RecoverLog} {axis axis' : AxisKey}
  {feedback : AxisFeedbackState} {command : Option AxisCommandState}
  {deviceHealth : Option DeviceHealthState} {nowNs : Time}

/-- The log after an evaluation of an axis that recovers. -/
def RecoverLog.evaluated (g : RecoverLog) (axis : AxisKey) (feedback : AxisFeedbackState)
    (command : Option AxisCommandState) (deviceHealth : Option DeviceHealthState)
    (nowNs : Time) : RecoverLog :=
  g.after (.readiness fun s =>
    (s.evaluateAxisReadiness axis feedback command .recover deviceHealth nowNs).2) g.tracking

/-- **Step**: an evaluation keeps the counts. -/
theorem Counts.evaluated (h : Counts g axis') :
    Counts (g.evaluated axis feedback command deviceHealth nowNs) axis' := by
  intro tracker htracker
  by_cases haxis : axis' = axis
  · subst haxis
    have hlook := AxisReadinessTracking.look_self g.tracking axis' feedback command deviceHealth nowNs
    cases hready : g.tracking.findsReady feedback command deviceHealth nowNs with
    | false =>
        simp only [RecoverLog.evaluated, RecoverLog.after,
          (AxisReadinessTracking.recover_unready _ hready).2, Function.update_self] at htracker
        cases htracker
    | true =>
        rw [hready, if_pos rfl] at hlook
        simp only [RecoverLog.evaluated, RecoverLog.after,
          (AxisReadinessTracking.recover_ready _ hready).2, put_self, Option.some.injEq] at htracker
        subst htracker
        have hsample := AxisReadinessTracking.sample_of_findsReady hready
        rw [AxisReadinessTracking.counted]
        cases hold : g.tracking.trackers (axisMapKey axis') with
        | none =>
            have hne : feedback.lastRxSteadyNs ≠ 0 := Int.ne_of_gt hsample
            rw [Option.getD_none, AxisRecoverTracker.count, if_pos hne]
            exact ⟨[feedback.lastRxSteadyNs], .single hlook, Nat.min_le_left _ _, .singleton _, rfl⟩
        | some old =>
            obtain ⟨samples, hshown, hcount, hchain, hlast⟩ := h old hold
            rw [Option.getD_some, AxisRecoverTracker.count]
            split
            · next hnew =>
                refine ⟨samples ++ [feedback.lastRxSteadyNs], hshown.concat_sample hlook, ?_, ?_,
                  by simp⟩
                · simp only [List.length_append, List.length_singleton]
                  omega
                · refine List.isChain_append.2 ⟨hchain, .singleton _, fun a ha b hb => ?_⟩
                  rw [hlast, Option.mem_some_iff] at ha
                  rw [List.head?_singleton, Option.mem_some_iff] at hb
                  rw [← ha, ← hb]
                  exact hnew.symm
            · next hsame =>
                refine ⟨samples, hshown.concat (by rw [hlook]; simp), ?_, hchain, ?_⟩
                · have hpos : 0 < samples.length := by
                    cases samples with
                    | nil => cases hlast
                    | cons sample samples => simp
                  exact Nat.max_le.2 ⟨hcount, hpos⟩
                · exact hlast
  · have hother := AxisReadinessTracking.look_of_ne g.tracking feedback command deviceHealth nowNs haxis
    simp only [RecoverLog.evaluated, RecoverLog.after, hother.2] at htracker
    obtain ⟨samples, hshown, hrest⟩ := h tracker htracker
    exact ⟨samples, hshown.concat (by rw [hother.1]; simp), hrest⟩

end

/-! ## the checks of one call -/

/-- What was seen is kept. -/
structure RecoverLog.Grows (g g' : RecoverLog) : Prop where
  seen : g.seen ⊆ g'.seen
  faults : g.faults ⊆ g'.faults

theorem RecoverLog.Grows.refl (g : RecoverLog) : g.Grows g := ⟨fun _ h => h, fun _ h => h⟩

theorem RecoverLog.Grows.trans {g g' g'' : RecoverLog} (h : g.Grows g') (h' : g'.Grows g'') :
    g.Grows g'' :=
  ⟨fun _ hmem => h'.seen (h.seen hmem), fun _ hmem => h'.faults (h.faults hmem)⟩

/-- What was seen is kept, and nothing was evaluated. -/
structure RecoverLog.Asked (g g' : RecoverLog) : Prop extends g.Grows g' where
  tracking : g'.tracking = g.tracking
  looks : g'.looks = g.looks

theorem RecoverLog.Asked.refl (g : RecoverLog) : g.Asked g := ⟨.refl g, rfl, rfl⟩

theorem RecoverLog.Asked.trans {g g' g'' : RecoverLog} (h : g.Asked g') (h' : g'.Asked g'') :
    g.Asked g'' :=
  ⟨h.toGrows.trans h'.toGrows, h'.tracking.trans h.tracking, h'.looks.trans h.looks⟩

theorem RecoverLog.asked_shared (g : RecoverLog) (shared : SharedDriverState) :
    g.Asked (g.after .shared shared) :=
  ⟨⟨fun _ h => List.mem_append_left _ h, fun _ h => h⟩, rfl, rfl⟩

theorem RecoverLog.asked_hasFault (g : RecoverLog) (target : Target) (fault : Option Bool) :
    g.Asked (g.after (.hasFault target) fault) :=
  ⟨⟨fun _ h => h, fun _ h => List.mem_append_left _ h⟩, rfl, rfl⟩

theorem FaultlessUnrecorded.mono (h : FaultlessUnrecorded g target) (hgrows : g.Grows g') :
    FaultlessUnrecorded g' target := by
  obtain ⟨⟨shared, hmem, hnone⟩, hfault⟩ := h
  refine ⟨⟨shared, hgrows.seen hmem, hnone⟩, ?_⟩
  rcases hfault with hasked | ⟨shared, hmem, hpublished⟩
  · exact .inl (hgrows.faults hasked)
  · exact .inr ⟨shared, hgrows.seen hmem, hpublished⟩

/-- A protocol that says there is no fault is asked and its answer kept. -/
theorem askFault_spec (lists : LifecycleTargets) (target : Target) {g g' : RecoverLog}
    (h : g.Asked g') : (askOps (.hasFault target)).wp (recoverRules lists) (fun fault g' =>
      g.Asked g' ∧ (fault = some false → Faultless g' target)) g' := by
  refine ⟨trivial, fun fault _ => ⟨h.trans (g'.asked_hasFault target fault), fun hnone => ?_⟩⟩
  subst hnone
  exact .inl (List.mem_append_right _ (List.mem_singleton_self _))

/-- A fault is looked up, and what says that there is none is kept. -/
theorem queryMotorFault_spec (lists : LifecycleTargets) (target : Target) (g : RecoverLog) :
    (queryMotorFault target).wp (recoverRules lists) (fun fault g' =>
      g.Asked g' ∧ (fault = some false → Faultless g' target)) g := by
  rw [queryMotorFault, wp_bind]
  refine ⟨trivial, fun shared _ => ?_⟩
  rw [wp_ret]
  have hasked := g.asked_shared shared
  cases hfeedback : shared.getAxisFeedback target.axisKey with
  | none => exact askFault_spec lists target hasked
  | some feedback =>
      dsimp only
      rw [wp_ite]
      split
      · next hvalid =>
          refine ⟨hasked, fun hnone => .inr ⟨shared, ?_, feedback, hfeedback, hvalid, ?_⟩⟩
          · exact List.mem_append_right _ (List.mem_singleton_self _)
          · exact Option.some.inj hnone
      · exact askFault_spec lists target hasked

theorem withFault_spec (lists : LifecycleTargets) (target : Target) (feedback : AxisFeedbackState)
    (g : RecoverLog) :
    (withFault target feedback).wp (recoverRules lists) (fun _ g' => g.Asked g') g := by
  rw [withFault, wp_ite]
  split
  · exact .refl g
  · rw [wp_bind]
    refine wp_mono (queryMotorFault_spec lists target g) fun fault g' h => ?_
    cases fault with
    | none => exact h.1
    | some fault => exact h.1

/-- The log fits the tracking that the call began with: a count that was begun in the call
is one of samples that were shown. -/
structure RecoverLog.Fits (s : AxisReadinessTracking) (g : RecoverLog) : Prop where
  evaluator : g.tracking.evaluator = s.evaluator
  counts : ∀ axis, (s.trackers (axisMapKey axis) = none ∨ ∃ look ∈ g.looks, look axis = some none) →
    Counts g axis

/-- The tracker of the axis says that it has recovered. -/
def Full (g : RecoverLog) (axis : AxisKey) : Prop :=
  ∃ tracker, g.tracking.trackers (axisMapKey axis) = some tracker ∧
    g.tracking.cycles ≤ tracker.healthyCycles

section

variable {s : AxisReadinessTracking} {g g' : RecoverLog}

theorem RecoverLog.Fits.asked (h : g.Fits s) (hasked : g.Asked g') : g'.Fits s := by
  refine ⟨by rw [hasked.tracking, h.evaluator], fun axis hbegun => ?_⟩
  rw [hasked.looks] at hbegun
  have hcounts := h.counts axis hbegun
  rw [Counts, hasked.tracking, hasked.looks]
  exact hcounts

theorem Full.asked (h : Full g axis) (hasked : g.Asked g') : Full g' axis := by
  rw [Full, hasked.tracking]
  exact h

/-- An axis that is found unready has no tracker, so nothing is counted. -/
theorem counts_of_unready
    (hunready : AxisReadinessTracking.look (fun s =>
      (s.evaluateAxisReadiness axis feedback command .recover deviceHealth nowNs).2) g.tracking
      axis' = some none) :
    Counts (g.evaluated axis feedback command deviceHealth nowNs) axis' := by
  by_cases haxis : axis' = axis
  · subst haxis
    rw [AxisReadinessTracking.look_self, Option.some.injEq, ite_eq_right_iff] at hunready
    have hready : g.tracking.findsReady feedback command deviceHealth nowNs = false :=
      Bool.eq_false_iff.2 fun h => by cases hunready h
    intro tracker htracker
    simp only [RecoverLog.evaluated, RecoverLog.after,
      (AxisReadinessTracking.recover_unready _ hready).2, Function.update_self] at htracker
    cases htracker
  · rw [(AxisReadinessTracking.look_of_ne _ _ _ _ _ haxis).1] at hunready
    cases hunready

theorem RecoverLog.Fits.evaluated (h : g.Fits s) :
    (g.evaluated axis feedback command deviceHealth nowNs).Fits s := by
  refine ⟨AxisReadinessTracking.evaluateAxisReadiness_evaluator.trans h.evaluator,
    fun axis' hbegun => ?_⟩
  rcases hbegun with hnone | ⟨look, hmem, hunready⟩
  · exact (h.counts axis' (.inl hnone)).evaluated
  · rcases List.mem_append.1 hmem with hmem | hmem
    · exact (h.counts axis' (.inr ⟨look, hmem, hunready⟩)).evaluated
    · rw [List.mem_singleton.1 hmem] at hunready
      exact counts_of_unready hunready

/-- An evaluation that confirms its axis fills its tracker, and empties no other. -/
theorem full_of_confirmed
    (h : (g.tracking.evaluateAxisReadiness axis feedback command .recover deviceHealth
      nowNs).1.recoverConfirmed = true) :
    Full (g.evaluated axis feedback command deviceHealth nowNs) axis ∧
      ∀ axis', Full g axis' → Full (g.evaluated axis feedback command deviceHealth nowNs) axis' := by
  cases hready : g.tracking.findsReady feedback command deviceHealth nowNs with
  | false =>
      rw [(AxisReadinessTracking.recover_unready _ hready).1] at h
      cases h
  | true =>
      obtain ⟨hconfirmed, hafter⟩ := AxisReadinessTracking.recover_ready axis hready
      rw [h] at hconfirmed
      have hfull : Full (g.evaluated axis feedback command deviceHealth nowNs) axis := by
        refine ⟨g.tracking.counted axis feedback.lastRxSteadyNs, ?_, ?_⟩
        · simp only [RecoverLog.evaluated, RecoverLog.after, hafter, put_self]
        · simp only [RecoverLog.evaluated, RecoverLog.after, hafter]
          exact of_decide_eq_true hconfirmed.symm
      refine ⟨hfull, fun axis' hold => ?_⟩
      by_cases haxis : axis' = axis
      · rw [haxis]
        exact hfull
      · obtain ⟨tracker, htracker, hcycles⟩ := hold
        refine ⟨tracker, ?_, ?_⟩
        · exact (AxisReadinessTracking.look_of_ne _ _ _ _ _ haxis).2.trans htracker
        · simp only [RecoverLog.evaluated, RecoverLog.after, hafter]
          exact hcycles

/-- What a passed check of a target says of it. -/
def Passed (g : RecoverLog) (target : Target) : Prop :=
  FaultlessUnrecorded g target ∨ Full g target.axisKey

/-- What a check leaves behind: the log fits, what was seen is kept, and an axis that was
confirmed stays so unless the check objects. -/
structure Checked (s : AxisReadinessTracking) (g : RecoverLog) (objects : Bool)
    (g' : RecoverLog) : Prop where
  fits : g'.Fits s
  grows : g.Grows g'
  full : objects = false → ∀ axis, Full g axis → Full g' axis

theorem Checked.passed (h : Checked s g false g') (hpassed : Passed g target) :
    Passed g' target :=
  hpassed.imp (fun hbare => hbare.mono h.grows) (h.full rfl target.axisKey)

theorem Checked.asked (h : g.Fits s) (hasked : g.Asked g') : Checked s g objects g' :=
  ⟨h.asked hasked, hasked.toGrows, fun _ _ hfull => hfull.asked hasked⟩

theorem Checked.trans (h : Checked s g false g') (h' : Checked s g' objects g'') :
    Checked s g objects g'' :=
  ⟨h'.fits, h.grows.trans h'.grows, fun hno axis hfull => h'.full hno axis (h.full rfl axis hfull)⟩

/-- **Evaluation**: what is confirmed is counted. -/
theorem evaluateAxisReadiness_spec (lists : LifecycleTargets) (hfits : g.Fits s) :
    (evaluateAxisReadiness axis feedback command .recover deviceHealth).wp (recoverRules lists)
      (fun readiness g' => Checked s g (!readiness.recoverConfirmed) g' ∧
        (readiness.recoverConfirmed = true → Full g' axis)) g := by
  rw [evaluateAxisReadiness, wp_bind]
  refine ⟨trivial, fun nowNs _ => ?_⟩
  rw [wp_ret, wp_bind]
  refine ⟨trivial, fun found hfound => ?_⟩
  obtain rfl : found = g.tracking := hfound
  have hfits' : (g.evaluated axis feedback command deviceHealth nowNs).Fits s := hfits.evaluated
  have hgrows : g.Grows (g.evaluated axis feedback command deviceHealth nowNs) :=
    ⟨fun _ h => h, fun _ h => h⟩
  refine ⟨⟨hfits', hgrows, fun hconfirmed => ?_⟩, fun hconfirmed => ?_⟩
  · exact (full_of_confirmed (by simpa using hconfirmed)).2
  · exact (full_of_confirmed hconfirmed).1

/-- What is known when the check of a target has ended. -/
structure CheckedTarget (s : AxisReadinessTracking) (g : RecoverLog) (target : Target)
    (reason : Option (Option Result)) (g' : RecoverLog) : Prop extends
    Checked s g reason.isSome g' where
  passed : reason = none → Passed g' target
  failed : ∀ failure, reason = some (some failure) → failure.ok = false

/-- **Check of one axis**: it passes if its tracker says so, or without a record and a fault. -/
theorem unrecovered_spec (lists : LifecycleTargets) (target : Target) (hfits : g.Fits s) :
    (unrecovered target).wp (recoverRules lists) (CheckedTarget s g target) g := by
  rw [unrecovered, wp_bind]
  refine ⟨trivial, fun ready _ => ?_⟩
  rw [wp_ret, wp_ite]
  split
  · exact ⟨.asked hfits (.refl g), by simp, by simp⟩
  · rw [wp_bind]
    refine ⟨trivial, fun shared _ => ?_⟩
    rw [wp_ret]
    have hasked := g.asked_shared shared
    cases hfeedback : shared.getAxisFeedback target.axisKey with
    | none =>
        dsimp only
        rw [wp_bind]
        refine wp_mono (queryMotorFault_spec lists target _) fun fault g' ⟨hasked', hnone⟩ => ?_
        have hwhole := hasked.trans hasked'
        cases fault with
        | none => exact ⟨.asked hfits hwhole, by simp, by simp⟩
        | some fault =>
            cases fault with
            | true => exact ⟨.asked hfits hwhole, by simp, by simp⟩
            | false =>
                refine ⟨.asked hfits hwhole, fun _ => .inl ⟨⟨shared, ?_, hfeedback⟩, hnone rfl⟩,
                  by simp⟩
                exact hasked'.seen (List.mem_append_right _ (List.mem_singleton_self _))
    | some feedback =>
        dsimp only
        rw [wp_bind]
        refine ⟨trivial, fun shared' _ => ?_⟩
        rw [wp_ret, wp_bind]
        refine ⟨trivial, fun shared'' _ => ?_⟩
        rw [wp_ret, wp_bind]
        refine wp_mono (withFault_spec lists target feedback _) fun feedback' g₁ hasked' => ?_
        have hwhole : g.Asked g₁ := ((hasked.trans (RecoverLog.asked_shared _ shared')).trans
          (RecoverLog.asked_shared _ shared'')).trans hasked'
        rw [wp_bind]
        refine wp_mono (evaluateAxisReadiness_spec lists (hfits.asked hwhole)) ?_
        intro readiness g' ⟨hchecked, hfull⟩
        have hbefore : Checked s g false g₁ := .asked hfits hwhole
        rw [pure_eq, wp_ret]
        cases hconfirmed : readiness.recoverConfirmed with
        | true =>
            rw [hconfirmed] at hchecked
            exact ⟨hbefore.trans hchecked, fun _ => .inr (hfull hconfirmed), by simp⟩
        | false =>
            rw [hconfirmed] at hchecked
            exact ⟨hbefore.trans hchecked, by simp, by simp⟩

/-- What is known when a round over the targets has ended. -/
structure CheckedTargets (s : AxisReadinessTracking) (targets : List Target)
    (reason : Option (Option Result)) (g : RecoverLog) : Prop where
  fits : g.Fits s
  passed : reason = none → ∀ target ∈ targets, Passed g target
  failed : ∀ failure, reason = some (some failure) → failure.ok = false

/-- **Round**: it passes if every target does. -/
theorem firstBlock_unrecovered (lists : LifecycleTargets) (done targets : List Target)
    (hfits : g.Fits s) (hdone : ∀ target ∈ done, Passed g target) :
    (firstBlock unrecovered targets).wp (recoverRules lists)
      (CheckedTargets s (done ++ targets)) g := by
  induction targets generalizing done g with
  | nil => exact ⟨hfits, fun _ => by simpa using hdone, by simp⟩
  | cons target targets ih =>
      rw [firstBlock, wp_bind]
      refine wp_mono (unrecovered_spec lists target hfits) fun reason g' h => ?_
      cases reason with
      | some reason => exact ⟨h.fits, by simp, h.failed⟩
      | none =>
          have hrest := ih (done ++ [target]) h.fits fun other hother => by
            rcases List.mem_append.1 hother with hother | hother
            · exact h.toChecked.passed (hdone other hother)
            · rw [List.mem_singleton.1 hother]
              exact h.passed rfl
          rw [List.append_assoc] at hrest
          exact hrest

/-- What is known when the call has ended. -/
structure RecoverEnd (s : AxisReadinessTracking) (targets : List Target) (result : Result)
    (g : RecoverLog) : Prop where
  fits : g.Fits s
  passed : result.ok = true → ∀ target ∈ targets, Passed g target

/-- **Loop**: it ends with a success only after a round that passes. -/
theorem recoverUntil_spec (lists : LifecycleTargets) (targets : List Target) (deadline : Time)
    (polls : Nat) (hfits : g.Fits s) :
    (recoverUntil targets deadline polls).wp (recoverRules lists) (RecoverEnd s targets) g := by
  induction polls generalizing g with
  | zero => exact ⟨hfits, by simp⟩
  | succ polls ih =>
      rw [recoverUntil, wp_bind]
      refine ⟨trivial, fun t _ => ?_⟩
      rw [wp_ret, wp_ite]
      split
      · rw [wp_bind]
        refine wp_mono (firstBlock_unrecovered lists [] targets hfits (by simp)) ?_
        intro reason g' h
        cases reason with
        | none => exact ⟨h.fits, fun _ => h.passed rfl⟩
        | some reason =>
            cases reason with
            | none => exact ih h.fits
            | some failure =>
                refine ⟨h.fits, fun hok => ?_⟩
                rw [h.failed failure rfl] at hok
                cases hok
      · exact ⟨hfits, by simp⟩

/-- The batch leaves the log alone. -/
theorem executeFrom_log (lists : LifecycleTargets) (action : MotorAction) (result : BatchResult)
    (targets : List Target) (g : RecoverLog) :
    (executeFrom action result targets).wp (recoverRules lists) (fun _ g' => g' = g) g := by
  induction targets generalizing result with
  | nil => rfl
  | cons target targets ih => exact ⟨trivial, fun status _ => ih _⟩

/-- **Call**: `recoverAll` succeeds only if its targets have passed. -/
theorem recoverTargets_spec (lists : LifecycleTargets) (targets : List Target) (hfits : g.Fits s) :
    (recoverTargets targets).wp (recoverRules lists) (RecoverEnd s targets) g := by
  rw [recoverTargets, wp_ite]
  split
  · exact ⟨hfits, by simp⟩
  · rw [wp_bind]
    refine wp_mono (executeFrom_log lists .resetFault {} targets g) ?_
    rintro batch g' rfl
    rw [wp_ite]
    split
    · refine ⟨hfits, fun hok => ?_⟩
      rw [makeMotorActionFailureResult_ok] at hok
      cases hok
    · rw [wp_ite]
      split
      · exact ⟨hfits, by simp⟩
      · rw [wp_bind]
        refine ⟨trivial, fun t _ => ?_⟩
        exact recoverUntil_spec lists targets _ 41 hfits

/-- A log that is empty fits the tracking it begins with. -/
theorem RecoverLog.fits_start (s : AxisReadinessTracking) :
    RecoverLog.Fits s { tracking := s } := by
  refine ⟨rfl, fun axis hbegun tracker htracker => ?_⟩
  rcases hbegun with hnone | ⟨look, hmem, -⟩
  · rw [hnone] at htracker
    cases htracker
  · cases hmem

/-- An axis with a full tracker was ready often enough, if the count was begun in the call. -/
theorem recoveryCounted_of_full (hfits : g.Fits s) (hfull : Full g axis)
    (hbegun : s.trackers (axisMapKey axis) = none ∨ ∃ look ∈ g.looks, look axis = some none) :
    RecoveryCounted s.cycles g.looks axis := by
  obtain ⟨tracker, htracker, hcycles⟩ := hfull
  obtain ⟨samples, hshown, hcount, hchain, -⟩ := hfits.counts axis hbegun tracker htracker
  have hsame : g.tracking.cycles = s.cycles := by
    rw [AxisReadinessTracking.cycles, AxisReadinessTracking.cycles, hfits.evaluator]
  rw [hsame] at hcycles
  exact ⟨samples, hshown, hcycles.trans hcount, hchain⟩

end

/-- **Recovery**: whatever the targets are, whatever the feedback shows and whatever is left
from earlier calls, `recoverAll` succeeds only if each target whose count was not begun before
the call either was found without a record and without a fault, or was ready on as many
samples as are asked for, each other than the one counted before, and not unready since. -/
theorem recovered_on_samples (lists : LifecycleTargets) {s : AxisReadinessTracking}
    {result : Result} {g : RecoverLog}
    (hrun : Prog.Runs (recoverRules lists) recoverAll { tracking := s } result g)
    (hok : result.ok = true) {target : Target} (htarget : target ∈ lists.lifecycleTargets)
    (hbegun : s.trackers (axisMapKey target.axisKey) = none ∨
      ∃ look ∈ g.looks, look target.axisKey = some none) :
    FaultlessUnrecorded g target ∨ (RecoveryCounted s.cycles g.looks target.axisKey ∧
      ((readySamples g.looks target.axisKey).Pairwise (· ≤ ·) →
        RecoveryShown s.cycles g.looks target.axisKey)) := by
  have hwp : recoverAll.wp (recoverRules lists) (RecoverEnd s lists.lifecycleTargets)
      { tracking := s } := by
    rw [recoverAll, lifecycleTargetsSnapshot, bind_assoc, wp_bind]
    refine ⟨trivial, fun found hfound => ?_⟩
    obtain rfl : found = lists := hfound
    exact recoverTargets_spec found found.lifecycleTargets (RecoverLog.fits_start s)
  have hend := hrun.of_wp hwp
  refine (hend.passed hok target htarget).imp_right fun hfull => ?_
  have hcounted := recoveryCounted_of_full hend.fits hfull hbegun
  exact ⟨hcounted, hcounted.shown⟩

/-! ## axes that are taken for recovered -/

/-- Samples that show a recovery are so many different ones. -/
theorem RecoveryShown.le_dedup (h : RecoveryShown cycles looks axis) :
    cycles ≤ (readySamples looks axis).dedup.length := by
  obtain ⟨samples, ⟨front, back, rfl, -, hsub⟩, hcycles, hnodup⟩ := h
  refine hcycles.trans (hnodup.subperm fun sample hmem => ?_).length_le
  rw [List.mem_dedup, readySamples, List.filterMap_append]
  exact List.mem_append_right _ (hsub.subset hmem)

/-- A DM motor. -/
def wheel : Target := ⟨"wheel", "can0", .DM, 1⟩

/-- Answers for a run on this motor, in which records and clock depend on the evaluations
there were. -/
def answerRecover (shared : Nat → SharedDriverState) (clock : Nat → Time) (g : RecoverLog) :
    (op : LifecycleOp) → Option op.Ans
  | .targets _ => some { targets := [wheel] }
  | .readiness _ => some g.tracking
  | .execute _ _ => some .ok
  | .isDeviceReady _ => some true
  | .hasFault _ => some (some false)
  | .shared => some (shared g.looks.length)
  | .clock => some (clock g.looks.length)
  | _ => none

theorem admits_of_answerRecover {op : LifecycleOp} {r : op.Ans}
    (h : answerRecover shared clock g op = some r) :
    (recoverRules { targets := [wheel] }).accepts g op r := by
  cases op with
  | targets f => exact (Option.some.inj h).symm
  | readiness f => exact (Option.some.inj h).symm
  | _ => trivial

/-- A run of `recoverAll` on this motor. -/
def recoverWheel (s : AxisReadinessTracking) (shared : Nat → SharedDriverState)
    (clock : Nat → Time) : Option (Result × RecoverLog) :=
  recoverAll.run (recoverRules { targets := [wheel] }) (answerRecover shared clock)
    { tracking := s }

theorem runs_of_recoverWheel (h : recoverWheel s shared clock = some (result, g)) :
    Prog.Runs (recoverRules { targets := [wheel] }) recoverAll { tracking := s } result g :=
  Prog.runs_of_run (fun _ _ _ => admits_of_answerRecover) h

/-- The motor is found without a fault, as of this sample. -/
def healthyAt (sampleNs : Time) : SharedDriverState :=
  { axisFeedback := put (fun _ => none) (axisMapKey wheel.axisKey)
      { key := wheel.axisKey, feedbackSeen := true, faultValid := true
        lastRxSteadyNs := sampleNs } }

/-- Two samples on which the motor is ready confirm that it has recovered. -/
theorem recovered_after_two : ∃ result g,
    Prog.Runs (recoverRules { targets := [wheel] }) recoverAll {} result g ∧ result.ok = true ∧
      RecoveryShown 2 g.looks wheel.axisKey := by
  have hrun : (recoverWheel {} (fun n => healthyAt (n + 1)) fun _ => 0).any (fun w => w.1.ok &&
      (w.2.seen.all (fun shared => (shared.getAxisFeedback wheel.axisKey).isSome) &&
        decide ((readySamples w.2.looks wheel.axisKey).Pairwise (· ≤ ·)))) = true := by
    decide +kernel
  obtain ⟨⟨result, g⟩, hrun, htest⟩ := (Option.any_eq_true _ _).1 hrun
  rw [Bool.and_eq_true, Bool.and_eq_true, List.all_eq_true, decide_eq_true_eq] at htest
  obtain ⟨hok, hseen, htime⟩ := htest
  have hruns := runs_of_recoverWheel hrun
  refine ⟨result, g, hruns, hok, ?_⟩
  have hmember : wheel ∈ LifecycleTargets.lifecycleTargets { targets := [wheel] } :=
    List.mem_singleton_self _
  have hrecovered := recovered_on_samples { targets := [wheel] } hruns hok hmember (.inl rfl)
  refine (hrecovered.resolve_left ?_).2 htime
  rintro ⟨⟨shared, hmem, hnone⟩, -⟩
  have hsome := hseen shared hmem
  rw [hnone] at hsome
  cases hsome

/-- `recoverAll` succeeds without what should confirm it: for an axis without a record; on one
sample, after an earlier call that failed has counted another; and on two samples of which the
first comes again, where three are asked for. -/
theorem unconfirmed_recoveries :
    (∃ result g, Prog.Runs (recoverRules { targets := [wheel] }) recoverAll {} result g ∧
      result.ok = true ∧ ¬ RecoveryShown 2 g.looks wheel.axisKey) ∧
    (∃ result₁ g₁, Prog.Runs (recoverRules { targets := [wheel] }) recoverAll {} result₁ g₁ ∧
      result₁.ok = false ∧ ∃ result g, Prog.Runs (recoverRules { targets := [wheel] }) recoverAll
        { tracking := g₁.tracking } result g ∧
      result.ok = true ∧ ¬ RecoveryShown 2 g.looks wheel.axisKey) ∧
    ∃ result g, Prog.Runs (recoverRules { targets := [wheel] }) recoverAll
        { tracking := { evaluator := { recoverConfirmCycles := 3 } } } result g ∧
      result.ok = true ∧ ¬ RecoveryShown 3 g.looks wheel.axisKey := by
  refine ⟨?_, ?_, ?_⟩
  · have hrun : (recoverWheel {} (fun _ => {}) fun _ => 0).any (fun w => w.1.ok &&
        decide ((readySamples w.2.looks wheel.axisKey).dedup.length < 2)) = true := by
      decide +kernel
    obtain ⟨⟨result, g⟩, hrun, htest⟩ := (Option.any_eq_true _ _).1 hrun
    rw [Bool.and_eq_true, decide_eq_true_eq] at htest
    exact ⟨result, g, runs_of_recoverWheel hrun, htest.1, fun h =>
      Nat.not_lt.2 h.le_dedup htest.2⟩
  · have hrun : (recoverWheel {} (fun _ => healthyAt 1) fun n => ms (2000 * n)).any (fun w₁ =>
        !w₁.1.ok && (recoverWheel w₁.2.tracking (fun _ => healthyAt 2) fun _ => 0).any (fun w =>
          w.1.ok && decide ((readySamples w.2.looks wheel.axisKey).dedup.length < 2))) = true := by
      decide +kernel
    obtain ⟨⟨result₁, g₁⟩, hrun₁, htest⟩ := (Option.any_eq_true _ _).1 hrun
    rw [Bool.and_eq_true, Bool.not_eq_true'] at htest
    obtain ⟨hfailed, htest⟩ := htest
    obtain ⟨⟨result, g⟩, hrun, htest⟩ := (Option.any_eq_true _ _).1 htest
    rw [Bool.and_eq_true, decide_eq_true_eq] at htest
    exact ⟨result₁, g₁, runs_of_recoverWheel hrun₁, hfailed, result, g, runs_of_recoverWheel hrun,
      htest.1, fun h => Nat.not_lt.2 h.le_dedup htest.2⟩
  · have hrun : (recoverWheel { evaluator := { recoverConfirmCycles := 3 } }
        (fun n => healthyAt (n % 2 + 1)) fun _ => 0).any (fun w => w.1.ok &&
        decide ((readySamples w.2.looks wheel.axisKey).dedup.length < 3)) = true := by
      decide +kernel
    obtain ⟨⟨result, g⟩, hrun, htest⟩ := (Option.any_eq_true _ _).1 hrun
    rw [Bool.and_eq_true, decide_eq_true_eq] at htest
    exact ⟨result, g, runs_of_recoverWheel hrun, htest.1, fun h =>
      Nat.not_lt.2 h.le_dedup htest.2⟩

end CanDriver
