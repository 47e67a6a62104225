import Mathlib.Data.List.Nodup

/-!
# CanDriver.Lib.RoundRobin

Rounds over a fixed order that stop at a budget and go on behind the last one served.

* `mem_served_of_fits` — a round whose budget covers the order serves all that is wanted;
* `served_within_two` — if the budget covers half of the order, what two rounds running want
  is served by one of them.
-/

namespace Interact

variable {α : Type} {wanted wanted' : α → Bool} {order : List α} {budget : Nat}

/-- One round: the first of those wanted, up to the budget. -/
def served (budget : Nat) (wanted : α → Bool) (order : List α) : List α :=
  (order.filter wanted).take budget

theorem length_served_le : (served budget wanted order).length ≤ budget := by
  rw [served, List.length_take]
  exact Nat.min_le_left _ _

theorem nodup_served (hnodup : order.Nodup) : (served budget wanted order).Nodup := by
  have hfilter := hnodup.filter (fun x => wanted x)
  exact hfilter.sublist (List.take_sublist _ _)

theorem mem_of_mem_served {x : α} (h : x ∈ served budget wanted order) :
    x ∈ order ∧ wanted x = true := by
  have hfilter := List.mem_of_mem_take h
  rw [List.mem_filter] at hfilter
  exact hfilter

theorem mem_served_of_fits (hfits : order.length ≤ budget) {x : α} :
    x ∈ served budget wanted order ↔ x ∈ order ∧ wanted x = true := by
  have hlength := List.length_filter_le wanted order
  rw [served, List.take_of_length_le (by omega), List.mem_filter]

theorem served_ne_nil {x : α} (hpos : 0 < budget) (hmem : x ∈ order) (hwanted : wanted x = true) :
    served budget wanted order ≠ [] := by
  have hlength := List.length_pos_of_mem (List.mem_filter.2 ⟨hmem, hwanted⟩)
  rw [← List.length_pos_iff, served, List.length_take]
  omega

/-- What is wanted and not served comes behind the last one served. -/
theorem behind_of_unserved {before behind : List α} {last x : α}
    (hnodup : (before ++ last :: behind).Nodup)
    (hlast : (served budget wanted (before ++ last :: behind)).getLast? = some last)
    (hmem : x ∈ before ++ last :: behind) (hwanted : wanted x = true)
    (hunserved : x ∉ served budget wanted (before ++ last :: behind)) :
    x ∈ behind ∧ budget ≤ before.length + 1 := by
  have hfilter : x ∈ (before ++ last :: behind).filter wanted := List.mem_filter.2 ⟨hmem, hwanted⟩
  have hcut := List.take_append_drop budget ((before ++ last :: behind).filter wanted)
  have hrest : x ∈ ((before ++ last :: behind).filter wanted).drop budget := by
    rw [← hcut, List.mem_append] at hfilter
    exact hfilter.resolve_left hunserved
  have hfull : (served budget wanted (before ++ last :: behind)).length = budget := by
    have hlong := List.length_pos_of_mem hrest
    rw [List.length_drop] at hlong
    rw [served, List.length_take]
    omega
  obtain ⟨taken, htaken⟩ := List.getLast?_eq_some_iff.1 hlast
  have hlastWanted : wanted last = true := by
    have hmem : last ∈ served budget wanted (before ++ last :: behind) := by
      rw [htaken]
      exact List.mem_append_right _ (List.mem_singleton_self last)
    exact (mem_of_mem_served hmem).2
  have hsplit : taken ++ last :: ((before ++ last :: behind).filter wanted).drop budget =
      before.filter wanted ++ last :: behind.filter wanted := by
    rw [← List.filter_cons_of_pos hlastWanted, ← List.filter_append, List.append_cons, ← htaken]
    exact hcut
  have hfresh := hnodup.filter (fun x => wanted x)
  rw [List.filter_append, List.filter_cons_of_pos hlastWanted, ← hsplit] at hfresh
  simp only [List.nodup_append, List.nodup_cons] at hfresh
  obtain ⟨hbefore, -, hbehind⟩ := (List.append_cons_inj_of_notMem
    (fun h => hfresh.2.2 _ h _ List.mem_cons_self rfl) hfresh.2.1.1).1 hsplit
  have hcount := List.length_filter_le wanted before
  rw [htaken, List.length_append, List.length_singleton, hbefore] at hfull
  rw [hbehind, List.mem_filter] at hrest
  exact ⟨hrest.1, by omega⟩

/-- **Coverage**: the next round starts behind the last one served, so what two rounds running
want is served by one of them, if the budget covers half of the order. -/
theorem served_within_two {before behind : List α} {last x : α}
    (hnodup : (before ++ last :: behind).Nodup)
    (hbudget : (before ++ last :: behind).length ≤ 2 * budget)
    (hlast : (served budget wanted (before ++ last :: behind)).getLast? = some last)
    (hmem : x ∈ before ++ last :: behind) (hwanted : wanted x = true)
    (hwanted' : wanted' x = true) :
    x ∈ served budget wanted (before ++ last :: behind) ∨
      x ∈ served budget wanted' (behind ++ (before ++ [last])) := by
  by_cases hserved : x ∈ served budget wanted (before ++ last :: behind)
  · exact Or.inl hserved
  obtain ⟨hbehind, hfull⟩ := behind_of_unserved hnodup hlast hmem hwanted hserved
  have hlength : behind.length ≤ budget := by
    simp only [List.length_append, List.length_cons] at hbudget
    omega
  have hfilter := List.length_filter_le wanted' behind
  right
  rw [served, List.filter_append, List.take_append, List.mem_append,
    List.take_of_length_le (by omega), List.mem_filter]
  exact Or.inl ⟨hbehind, hwanted'⟩

end Interact
