import CanDriver.Lib.Pool

/-!
# CanDriver.Lib.Record

Runs with a record kept beside the state.

What a property says of the past (who was heard, what was sent) is often not in the
state.  `Recording` pairs every state with a record that each step may add to; the
runs are those of the state, and invariants may speak of both.
-/

namespace Interact

/-- A step, and what is noted of it. -/
def Recording (step : σ → ℓ → σ → Prop) (note : σ → ℓ → σ → ω → ω) (w : σ × ω) (l : ℓ)
    (w' : σ × ω) : Prop :=
  step w.1 l w'.1 ∧ w'.2 = note w.1 l w'.1 w.2

namespace Pool

variable {S : Sig} {ι κ α σ γ ω : Type} [DecidableEq ι]

/-- Follow a script and keep the record. -/
def followNoting (code : κ → Prog S α) (f : σ → ι → (op : S.Op) → Option (S.Ans op × σ))
    (note : Pool S ι κ α σ → Event S ι κ α → Pool S ι κ α σ → ω → ω) :
    Pool S ι κ α σ × ω → List (Move ι κ) → Option (Pool S ι κ α σ × ω)
  | w, [] => some w
  | w, m :: ms =>
      match move code f w.1 m with
      | none => none
      | some (e, p') => followNoting code f note (p', note w.1 e p' w.2) ms

/-- A script whose moves meet the condition leads to a recorded run. -/
theorem reach_of_followNoting {code : κ → Prog S α}
    {f : σ → ι → (op : S.Op) → Option (S.Ans op × σ)}
    {h : σ → ι → (op : S.Op) → S.Ans op → σ → Prop}
    {note : Pool S ι κ α σ → Event S ι κ α → Pool S ι κ α σ → ω → ω}
    {C : Pool S ι κ α σ × ω → Event S ι κ α → Prop}
    (hf : ∀ s i op r s', f s i op = some (r, s') → h s i op r s')
    (hC : ∀ m ∈ ms, ∀ w e p', move code f w.1 m = some (e, p') → C w e)
    (hr : Reach (Recording (Step code h) note) C w₀ w)
    (hms : followNoting code f note w ms = some w') :
    Reach (Recording (Step code h) note) C w₀ w' := by
  induction ms generalizing w with
  | nil =>
      obtain rfl : w = w' := by simpa [followNoting] using hms
      exact hr
  | cons m ms ih =>
      rw [List.forall_mem_cons] at hC
      match hm : move code f w.1 m with
      | none => simp [followNoting, hm] at hms
      | some (e, p₁) =>
          simp only [followNoting, hm] at hms
          exact ih hC.2 (hr.step (hC.1 _ _ _ hm) ⟨step_of_move hf hm, rfl⟩) hms

/-- A script that passes a test in the end is a recorded run to such a state. -/
theorem exists_of_followNoting {code : κ → Prog S α}
    {f : σ → ι → (op : S.Op) → Option (S.Ans op × σ)}
    {h : σ → ι → (op : S.Op) → S.Ans op → σ → Prop}
    {note : Pool S ι κ α σ → Event S ι κ α → Pool S ι κ α σ → ω → ω}
    {C : Pool S ι κ α σ × ω → Event S ι κ α → Prop}
    (hf : ∀ s i op r s', f s i op = some (r, s') → h s i op r s')
    (hC : ∀ m ∈ ms, ∀ w e p', move code f w.1 m = some (e, p') → C w e)
    {test : Pool S ι κ α σ × ω → Bool} (ht : (followNoting code f note w₀ ms).any test = true) :
    ∃ w, Reach (Recording (Step code h) note) C w₀ w ∧ test w = true := by
  obtain ⟨w, hms, htest⟩ := (Option.any_eq_true _ _).1 ht
  exact ⟨w, reach_of_followNoting hf hC .refl hms, htest⟩

/-- Follow a script as long as its steps pass a check. -/
def followWhile (code : κ → Prog S α) (f : σ → ι → (op : S.Op) → Option (S.Ans op × σ))
    (note : Pool S ι κ α σ → Event S ι κ α → Pool S ι κ α σ → ω → ω)
    (check : Pool S ι κ α σ × ω → Event S ι κ α → Bool) :
    Pool S ι κ α σ × ω → List (Move ι κ) → Option (Pool S ι κ α σ × ω)
  | w, [] => some w
  | w, m :: ms =>
      match move code f w.1 m with
      | none => none
      | some (e, p') =>
          if check w e then followWhile code f note check (p', note w.1 e p' w.2) ms else none

/-- A script that passes all its checks, and a test in the end, is a recorded run to such a
state. -/
theorem exists_of_followWhile {code : κ → Prog S α}
    {f : σ → ι → (op : S.Op) → Option (S.Ans op × σ)}
    {h : σ → ι → (op : S.Op) → S.Ans op → σ → Prop}
    {note : Pool S ι κ α σ → Event S ι κ α → Pool S ι κ α σ → ω → ω}
    {check : Pool S ι κ α σ × ω → Event S ι κ α → Bool}
    {C : Pool S ι κ α σ × ω → Event S ι κ α → Prop}
    (hf : ∀ s i op r s', f s i op = some (r, s') → h s i op r s')
    (hC : ∀ w e, check w e = true → C w e) {test : Pool S ι κ α σ × ω → Bool}
    (ht : (followWhile code f note check w₀ ms).any test = true) :
    ∃ w, Reach (Recording (Step code h) note) C w₀ w ∧ test w = true := by
  obtain ⟨w, hms, htest⟩ := (Option.any_eq_true _ _).1 ht
  refine ⟨w, ?_, htest⟩
  have hfollow : ∀ (ms : List (Move ι κ)) w₁, Reach (Recording (Step code h) note) C w₀ w₁ →
      followWhile code f note check w₁ ms = some w →
      Reach (Recording (Step code h) note) C w₀ w := by
    intro ms
    induction ms with
    | nil =>
        intro w₁ hr hms
        obtain rfl : w₁ = w := by simpa [followWhile] using hms
        exact hr
    | cons m ms ih =>
        intro w₁ hr hms
        match hm : move code f w₁.1 m with
        | none => simp [followWhile, hm] at hms
        | some (e, p₁) =>
            simp only [followWhile, hm, Option.ite_none_right_eq_some] at hms
            exact ih _ (hr.step (hC _ _ hms.1) ⟨step_of_move hf hm, rfl⟩) hms.2
  exact hfollow ms w₀ .refl hms

end Pool

end Interact
