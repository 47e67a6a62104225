import Mathlib.Data.List.Basic

/-!
# CanDriver.Lib.Split

Splitting a list at the first or the last place where an element stands.
-/

namespace Interact

variable {α : Type} [DecidableEq α]

/-- The parts before and after the first place of an element. -/
def splitFirst (c : α) (xs : List α) : Option (List α × List α) :=
  if c ∈ xs then some (xs.takeWhile (· ≠ c), (xs.dropWhile (· ≠ c)).tail) else none

/-- The parts before and after the last place of an element. -/
def splitLast (c : α) (xs : List α) : Option (List α × List α) :=
  (splitFirst c xs.reverse).map fun parts => (parts.2.reverse, parts.1.reverse)

variable {c : α} {xs before after : List α}

theorem splitFirst_append (hbefore : c ∉ before) :
    splitFirst c (before ++ c :: after) = some (before, after) := by
  have hall : ∀ x ∈ before, (decide (x ≠ c)) = true := by
    intro x hx
    exact decide_eq_true fun h => hbefore (h ▸ hx)
  rw [splitFirst, if_pos (by simp), List.takeWhile_append_of_pos hall,
    List.dropWhile_append_of_pos hall]
  simp

/-- A list is split where the element first stands. -/
theorem splitFirst_eq_some :
    splitFirst c xs = some (before, after) ↔ xs = before ++ c :: after ∧ c ∉ before := by
  constructor
  · intro h
    by_cases hmem : c ∈ xs
    · obtain ⟨front, back, rfl, hfront⟩ := List.eq_append_cons_of_mem hmem
      rw [splitFirst_append hfront] at h
      obtain ⟨rfl, rfl⟩ := Prod.mk.inj (Option.some.inj h)
      exact ⟨rfl, hfront⟩
    · rw [splitFirst, if_neg hmem] at h
      cases h
  · rintro ⟨rfl, hbefore⟩
    exact splitFirst_append hbefore

theorem splitFirst_eq_none : splitFirst c xs = none ↔ c ∉ xs := by
  simp [splitFirst]

/-- A list is split where the element last stands. -/
theorem splitLast_eq_some :
    splitLast c xs = some (before, after) ↔ xs = before ++ c :: after ∧ c ∉ after := by
  rw [splitLast, Option.map_eq_some_iff]
  constructor
  · rintro ⟨⟨front, back⟩, hsplit, hparts⟩
    obtain ⟨rfl, rfl⟩ := Prod.mk.inj hparts
    obtain ⟨hreverse, hfront⟩ := splitFirst_eq_some.1 hsplit
    refine ⟨?_, by simpa using hfront⟩
    rw [← xs.reverse_reverse, hreverse]
    simp
  · rintro ⟨rfl, hafter⟩
    refine ⟨(after.reverse, before.reverse), ?_, by simp⟩
    rw [splitFirst_eq_some]
    exact ⟨by simp, by simpa using hafter⟩

theorem splitLast_eq_none : splitLast c xs = none ↔ c ∉ xs := by
  rw [splitLast, Option.map_eq_none_iff, splitFirst_eq_none, List.mem_reverse]

end Interact
