import Mathlib.Data.List.Induction

/-!
# CanDriver.Lib.History

What can be read off a log that only grows.

An observer looks at events one by one and notices something, or nothing.  `latest` is the
last thing it noticed; a log is `Audited` if each of its events was proper, seen what had been
logged before it.

* `latest_append_of_silent` — what an observer does not notice changes nothing for it;
* `audited_concat` — a log is audited event by event.
-/

namespace Interact

variable {ε α : Type} {f : ε → Option α} {log events : List ε}

/-- The last thing an observer noticed. -/
def latest (f : ε → Option α) (log : List ε) : Option α := log.reverse.findSome? f

@[simp] theorem latest_nil : latest f [] = none := rfl

theorem latest_append : latest f (log ++ events) = (latest f events).or (latest f log) := by
  simp [latest, List.findSome?_append]

theorem latest_singleton (e : ε) : latest f [e] = f e := by
  cases h : f e <;> simp [latest, h]

@[simp] theorem latest_concat (e : ε) : latest f (log ++ [e]) = (f e).or (latest f log) := by
  rw [latest_append, latest_singleton]

theorem latest_eq_none : latest f log = none ↔ ∀ e ∈ log, f e = none := by
  simp [latest]

/-- What the observer does not notice changes nothing for it. -/
theorem latest_append_of_silent (h : ∀ e ∈ events, f e = none) :
    latest f (log ++ events) = latest f log := by
  rw [latest_append, latest_eq_none.2 h, Option.none_or]

/-- Each event was proper when it happened. -/
def Audited (P : List ε → ε → Prop) (log : List ε) : Prop :=
  ∀ pre e post, log = pre ++ e :: post → P pre e

variable {P : List ε → ε → Prop}

theorem audited_nil : Audited P [] := by
  intro pre e post h
  simp at h

/-- **Step**: one more event is proper. -/
theorem audited_concat {e : ε} : Audited P (log ++ [e]) ↔ Audited P log ∧ P log e := by
  constructor
  · intro h
    refine ⟨fun pre e' post hlog => h pre e' (post ++ [e]) (by simp [hlog]), h log e [] rfl⟩
  · intro h pre e' post hlog
    cases post using List.reverseRecOn with
    | nil =>
        obtain ⟨rfl, he⟩ := List.append_inj' hlog rfl
        obtain rfl : e = e' := by simpa using he
        exact h.2
    | append_singleton post e'' =>
        rw [← List.cons_append, ← List.append_assoc] at hlog
        exact h.1 pre e' post (List.append_inj' hlog rfl).1

/-- Events that are proper after any log keep it audited. -/
theorem Audited.append (h : Audited P log) (hP : ∀ e ∈ events, ∀ pre, P pre e) :
    Audited P (log ++ events) := by
  induction events using List.reverseRecOn with
  | nil => simpa using h
  | append_singleton events e ih =>
      rw [← List.append_assoc, audited_concat]
      exact ⟨ih fun e' he' => hP e' (by simp [he']), hP e (by simp) _⟩

end Interact
